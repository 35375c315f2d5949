import AgentWorkshop.Shell.Stream
import AgentWorkshop.Shell.Reader
import AgentWorkshop.Shell.Signal

/-!
# Processes and their ends

Processes run one after the other, each with a clock of its own, and what they
print is put in the order of time afterwards. A process in the background is run
when its end is waited for, or once the clock of its parent has passed its end.
-/

namespace AgentWorkshop

namespace Shell

/-- What is known of a command before it is run. -/
structure Setting where
  /-- The process ends with it. -/
  isLast : Bool := false
  /-- The script looks at its status. -/
  isTested : Bool := false

/-- How scripts are run. -/
abbrev Runs := Setting → Script → Exec Unit

/-- How a process ended. -/
inductive Ending where
  | status (n : Nat)
  | signal (n : Nat)
  /-- It goes on forever. -/
  | endless
  deriving DecidableEq, Repr

namespace Ending

/-- The exit status that a shell sees. -/
def code : Ending → Nat
  | status n => n
  | signal n => Signal.status n
  | endless => 0

end Ending

/-! ## Running texts -/

/-- The first lines of a text, and the others. -/
def firstLines : Nat → Text → Text × Text
  | 0, t => ([], t)
  | _, [] => ([], [])
  | n + 1, c :: rest =>
    let (lines, others) := firstLines (if c = '\n' then n else n + 1) rest
    (c :: lines, others)

/-- The lines that are read between two places of a text. A line is read as a whole. -/
def linesBetween (before after : Source) : Text :=
  let (lines, others) := firstLines (after.line - before.line) before.rest
  if after.rest.isEmpty then before.rest
  else if after.rest = others then lines
  else lines ++ (firstLines 1 others).1

/-- Runs what is left of a text line by line; the lines may be shown as they are read.
The answer is the status of its last command, which is 0 if there is none. -/
def runSource (runs : Runs) (isTested isShown : Bool) :
    (fuel : Nat) → (status : Nat) → Source → Exec Nat
  | 0, status, _ => return status
  | fuel + 1, status, source => do
    let m ← get
    let source := { source with
      aliases := m.process.aliases
      documents := m.documents
      nextDocument := m.nextDocument }
    let repeatLines (after : Source) : Exec Unit := do
      if isShown && m.process.options.contains ('v' : CodePoint) then
        let _ ← Exec.write? 2 (linesBetween source after).toBytes
    match Read.line source with
    | .error fault after => do
      repeatLines after
      Exec.update fun p => { p with line := fault.line }
      let message := fault.message
      let start := text "Syntax error: "
      Exec.fail (if start.isPrefixOf message then message else start ++ message)
    | .ok none after => do
      repeatLines after
      return status
    | .ok (some script) after => do
      repeatLines after
      let source := after
      modify fun m => { m with
        documents := source.documents, nextDocument := source.nextDocument }
      Exec.update fun p => { p with readTo := source.line }
      runs { isTested } script
      match script with
      | .nothing => runSource runs isTested isShown fuel status source
      | _ => runSource runs isTested isShown fuel (← Exec.process).status source

/-- Runs a text; that of a file may be shown as it is read. -/
def runText (runs : Runs) (isTested : Bool) (t : Text) (isFile : Bool := false) : Exec Nat := do
  let before := (← Exec.process).readTo
  Exec.andThen
    (runSource runs isTested isFile (t.length + 2) 0
      { rest := t, line := 1, aliases := [], documents := [], nextDocument := 0 })
    (Exec.update fun p => { p with readTo := before })

/-! ## Signals -/

namespace Exec

/-- What is done about the signals that were sent to the process at work. Those
with a trap are left for it. -/
def heedSignals : Exec Unit := do
  let m ← get
  let p := m.process
  let (mine, others) := m.sent.partition fun s => s.1 = p.number
  if mine.isEmpty then return
  let trapped := mine.filter fun s => match p.traps.lookup s.2 with
    | some [] => false
    | some _ => s.2 ≠ 9 && s.2 ≠ 19
    | none => false
  let isDeadly (s : Nat × Nat) : Bool :=
    s.2 = 9 || s.2 = 19 || ((p.traps.lookup s.2).isNone && !Signal.isHarmless s.2)
  set { m with sent := others ++ trapped }
  match mine.find? isDeadly with
  | some (_, n) => if Signal.isStop n then throw .endless else throw (.killed n)
  | none => pure ()

/-- Runs the traps of the signals that were sent. -/
def runTraps (runs : Runs) : (fuel : Nat) → Exec Unit
  | 0 => pure ()
  | fuel + 1 => do
    if (← get).sent.isEmpty then return
    heedSignals
    let m ← get
    let mine := (m.sent.filter fun s => s.1 = m.process.number).map (·.2)
    match mine.mergeSort (· ≤ ·) with
    | [] => pure ()
    | n :: _ =>
      set { m with sent := m.sent.filter fun s => s ≠ (m.process.number, n) }
      match m.process.traps.lookup n with
      | some trap =>
        let p := m.process
        update fun p => { p with trapStatus := some p.status }
        let _ ← runText runs false trap
        update fun q => { q with status := p.status, trapStatus := p.trapStatus }
      | none => pure ()
      runTraps runs fuel

end Exec

/-! ## The end of a process -/

/-- Runs a step and tells how it ended the process. -/
def settle (act : Exec Unit) : Exec Ending := do
  try
    act
    return .status (← Exec.process).status
  catch
    | .killed n => return .signal n
    | .endless => return .endless
    | _ => return .status (← Exec.process).status

/-- Runs a process to its end, with the trap that stands there. -/
def toEnd (runs : Runs) (act : Exec Unit) : Exec Ending := do
  let ending ← settle do
    act
    Exec.runTraps runs 100
  match ending, (← Exec.process).traps.lookup 0 with
  | .status n, some (c :: trap) =>
    Exec.update fun p => { p with
      status := n
      trapStatus := some n
      traps := p.traps.filter fun t => t.1 ≠ 0 }
    settle do
      try
        let _ ← runText runs false (c :: trap)
        Exec.setStatus n
      catch
        | .leaveFunction => Exec.setStatus n
        | stop => throw stop
  | ending, _ => return ending

/-- The process that a process starts; it keeps only the traps that ignore, and reads
none of the script itself. -/
def Process.child (p : Process) (number : Nat) : Process :=
  { p with
    number
    ancestors := p.number :: p.ancestors
    traps := p.traps.filter fun t => t.2.isEmpty
    trapStatus := none
    readTo := 1 }

/-- Notices the ends of jobs. -/
def reap : Exec Unit :=
  modify fun m =>
    if m.jobs.isEmpty then m
    else
      let isOver (job : Job) : Bool := match job.state with
        | .ended _ _ time => time ≤ m.process.clock
        | .waiting => false
      { m with jobs := m.jobs.map fun job => { job with isReaped := job.isReaped || isOver job } }

/-- The jobs that the process at work lists, the latest first. -/
def listedJobs : Exec (List Job) := do
  let m ← get
  return (m.jobs.filter fun j => j.owner = m.process.number && j.isListed).reverse

/-- Changes a job. -/
def changeJob (number : Nat) (f : Job → Job) : Exec Unit :=
  modify fun m => { m with jobs := m.jobs.map fun j => if j.number = number then f j else j }

/-- Takes the first place in the list of jobs that is free or whose job was waited
for, which is then forgotten. -/
def takeSlot : Exec Nat := do
  let listed ← listedJobs
  if listed.isEmpty then return 1
  let isTaken (slot : Nat) : Bool :=
    listed.any fun j => j.slot = slot && !(j.isAwaited && j.isReaped)
  let slots := (List.range (listed.length + 1)).map (· + 1)
  let slot := (slots.find? fun slot => !isTaken slot).getD (listed.length + 1)
  listed.forM fun j =>
    if j.slot = slot then changeJob j.number fun j => { j with isListed := false } else pure ()
  return slot

/-- How long it takes until another process begins. -/
def startingTime : Nat := 100000

/-- Runs a step as another process, which is waited for. -/
def child (runs : Runs) (act : Exec Unit) : Exec Ending := do
  let _ ← takeSlot
  let m ← get
  let before := m.process
  set { m with nextProcess := m.nextProcess + 1, process := before.child m.nextProcess }
  let ending ← toEnd runs do
    Exec.spend startingTime
    act
  let clock := (← Exec.process).clock
  Exec.update fun _ => { before with clock }
  match ending, before.deadline with
  | .signal n, some (time, signal) =>
    if n = signal && time ≤ clock then throw (.killed n)
  | _, _ => pure ()
  reap
  Exec.heedSignals
  return ending

/-- Says what signal ended a process. -/
def sayWhy : Ending → Exec Unit
  | .signal n =>
    if Signal.isQuiet n then pure () else Exec.complain (Signal.wordsOf n)
  | _ => pure ()

/-- Runs a step as another process; the answer is its exit status. -/
def childStatus (runs : Runs) (act : Exec Unit) : Exec Nat := do
  let ending ← child runs act
  if ending = .endless then throw .endless
  sayWhy ending
  return ending.code

/-! ## The background -/

/-- Begins to run a script in the background. -/
def startJob (body : Script) : Exec Unit := do
  let slot ← takeSlot
  let parts := match body with
    | .pipeline stages => stages.length
    | _ => 1
  let input ← Exec.register (.device .nothing true false)
  modify fun m =>
    let process := m.process.child m.nextProcess
    { m with
      nextProcess := m.nextProcess + 1
      jobs := m.jobs ++ [{
        owner := m.process.number
        number := m.nextProcess
        slot, parts, body
        process := { process with
          streams := (0, input) :: process.streams.filter fun s => s.1 ≠ 0
          traps := process.traps ++ [(2, []), (3, [])] }
        state := .waiting }]
      process := { m.process with latestJob := some m.nextProcess } }

/-- How a job has ended, if it has. -/
def JobState.ending? : JobState → Option Ending
  | .waiting => none
  | .ended n none _ => some (.status n)
  | .ended _ (some n) _ => some (.signal n)

/-- Runs a job, unless it was run before, to its end or to a time at which a signal
ends it. -/
def runJob (runs : Runs) (job : Job) (deadline : Option (Nat × Nat)) : Exec Ending := do
  let known := (← get).jobs.find? fun j => j.number = job.number
  if let some ending := known.bind (·.state.ending?) then return ending
  let become (state : JobState) : Exec Unit := changeJob job.number fun j => { j with state }
  let before ← Exec.process
  become (.ended 0 none 0)
  Exec.update fun _ => { job.process with deadline := deadline <|> job.process.deadline }
  let ending ← toEnd runs do
    Exec.spend startingTime
    runs { isLast := true } job.body
  let clock := (← Exec.process).clock
  Exec.update fun _ => before
  match ending, deadline with
  | .endless, none => throw .endless
  | .endless, some (time, signal) =>
    become (.ended (Signal.status signal) (some signal) time)
    return .signal signal
  | .signal n, _ => become (.ended ending.code (some n) clock); return ending
  | .status n, _ => become (.ended n none clock); return ending

/-- The signal of a job that has not ended in time. -/
def unfinished : Nat := 0

/-- Runs the jobs that have ended by now. -/
def catchUp (runs : Runs) : Exec Unit := do
  let now := (← Exec.process).clock
  (← get).jobs.forM fun job =>
    if job.state = .waiting && job.process.clock < now then do
      let before ← get
      if (← runJob runs job (some (now, unfinished))) = .signal unfinished then set before
    else pure ()

/-- The process writes to a collection. -/
def holds (m : Machine) (n : Nat) (p : Process) : Bool :=
  p.streams.any fun s => m.channels[s.2]? = some (.collected n)

/-- Runs the jobs that write to a collection, and waits for their ends. -/
def drain (runs : Runs) (n : Nat) : (fuel : Nat) → (time : Nat) → Exec Nat
  | 0, time => return time
  | fuel + 1, time => do
    let m ← get
    match m.jobs.find? fun job => job.state = .waiting && holds m n job.process with
    | none =>
      let ends := m.jobs.filterMap fun job => match job.state with
        | .ended _ _ ends => if holds m n job.process then some ends else none
        | .waiting => none
      return ends.foldl max time
    | some job =>
      let _ ← runJob runs job none
      drain runs n fuel time

/-- How many jobs are run at most to see the end of a collection. -/
def jobLimit : Nat := 1000

/-- What a script prints as another process. Its status is kept. -/
def outputOf (runs : Runs) (script : Script) : Exec Text := do
  match script with
  | .nothing => return []
  | _ =>
    let (n, id) ← Exec.collection
    let ending ← child runs do
      Exec.attach 1 id
      runs { isLast := true } script
    if ending = .endless then throw .endless
    Exec.waitUntil (← drain runs n jobLimit (← Exec.process).clock)
    let pieces ← Exec.collected n
    sayWhy ending
    Exec.update fun p => { p with outputStatus := ending.code }
    return (Text.ofBytes (pieces.flatMap (·.2))).filter fun c : CodePoint => c ≠ 0

end Shell

end AgentWorkshop
