import AgentWorkshop.Shell.BuiltIn

/-!
# Running commands

`step` runs one command, given how to run the commands inside of it; `run` ties
the knot with a bound on how deep commands are nested, and loops have a bound of
their own.
-/

namespace AgentWorkshop

namespace Shell

/-- How often a loop may run. -/
def loopLimit : Nat := 100000

/-- How many functions may be at work, one within the other. -/
def callLimit : Nat := 1000

/-- How deep commands may be nested. -/
def depthLimit : Nat := 20000

/-- The signal for a process that is nested too deep. -/
def overflowSignal : Nat := 11

/-! ## Functions and files -/

/-- Runs a function with its arguments. -/
def callFunction (runs : Runs) (s : Setting) (body : Script) (arguments : List Text) :
    Exec Unit := do
  let p ← Exec.process
  if callLimit ≤ p.calls then
    Exec.fail (text "Maximum function recursion depth (" ++ Text.ofNat callLimit ++
      text ") reached")
  Exec.update fun q => { q with
    parameters := arguments, optionPlace := (1, 0), loops := 0, calls := p.calls + 1 }
  Exec.andThen
    (try
      runs { isTested := s.isTested } body
    catch
      | .leaveFunction => pure ()
      | stop => throw stop)
    (Exec.update fun q => { q with
      parameters := p.parameters, optionPlace := p.optionPlace, loops := p.loops
      calls := p.calls })

/-- Runs the script of a file in this shell. -/
def source (runs : Runs) : BuiltIn := fun words => do
  match (← BuiltIn.read "" words).2 with
  | [] => return 0
  | name :: _ =>
    let path ← if name.contains ('/' : CodePoint) then pure name
      else
        let m ← get
        match m.filesAmong .noEntry (candidates (← Exec.lookup (text "PATH")) name) with
        | .ok (path :: _) => pure path
        | _ => Exec.fail (name ++ text ": not found")
    match ← Exec.openFile .read path with
    | .error e => Exec.fail (text "cannot open " ++ path ++ text ": " ++ openReason false e)
    | .ok id =>
      Exec.attach Utility.spareDescriptor id
      let found ← Exec.readAll Utility.spareDescriptor
      Exec.close Utility.spareDescriptor
      match found with
      | .error _ => return 0
      | .ok bs =>
        Exec.update fun p => { p with command := some path }
        try
          runText runs false (Text.ofBytes bs) true
        catch
          | .leaveFunction => return (← Exec.process).status
          | stop => throw stop

/-! ## Looking for commands -/

/-- What a command name stands for. -/
inductive Target where
  | function (body : Script)
  | builtIn
  | program
  | nothing (reason : Errno)

/-- The paths that a name may stand for. -/
def pathsOf (usesStandard : Bool) (name : Text) : Exec (List Text) := do
  let directories ← if usesStandard then pure standardPath else Exec.lookup (text "PATH")
  return candidates directories name

/-- Looks for a program and keeps its name in mind. -/
def findProgram (usesStandard : Bool) (name : Text) : Exec (Except Errno (List Text)) := do
  let paths ← pathsOf usesStandard name
  if name.contains ('/' : CodePoint) then return .ok paths
  let found := (← get).filesAmong .noEntry paths
  if found.isOk && !usesStandard then
    Exec.update fun p => { p with tracked := name :: p.tracked.filter (· ≠ name) }
  return found

/-- Looks for a command. -/
def findCommand (name : Text) : Exec Target := do
  match (← Exec.process).functions.lookup name with
  | some body => return .function body
  | none =>
    if BuiltIn.isName name then return .builtIn
    else
      match ← findProgram false name with
      | .ok _ => return .program
      | .error e => return .nothing e

/-- The words that belong to the language. -/
def keywords : List Text :=
  ["!", "case", "do", "done", "elif", "else", "esac", "fi", "for", "if", "in", "then", "until",
    "while", "\x7b", "\x7d"].map text

/-- Tells what a command name stands for, in a sentence or a word. -/
def describe (inSentence usesStandard : Bool) (name : Text) : Exec Nat := do
  let answer (word sentence : Text) : Exec Nat := do
    Exec.print (if inSentence then name ++ sentence ++ text "\n" else word ++ text "\n")
    return 0
  let p ← Exec.process
  let program : Exec Nat := do
    let isTracked := p.tracked.contains name && !usesStandard
    let path : Option Text ← if name.contains ('/' : CodePoint) then
        pure <| match ← Exec.resolve name with
          | .ok (.taken _ _) => some name
          | _ => none
      else
        pure <| match ← findProgram usesStandard name with
          | .ok (path :: _) => some path
          | _ => none
    match path with
    | some path =>
      answer path (text (if isTracked then " is a tracked alias for " else " is ") ++ path)
    | none =>
      if inSentence then Exec.print (name ++ text ": not found\n")
      return 127
  if keywords.contains name then answer name (text " is a shell keyword")
  else
    match p.aliases.lookup name, p.functions.lookup name with
    | some value, _ =>
      answer (text "alias " ++ name ++ text "=" ++ BuiltIn.inQuotes value)
        (text " is an alias for " ++ value)
    | none, some _ => answer name (text " is a shell function")
    | none, none =>
      if BuiltIn.special.contains name then answer name (text " is a special shell builtin")
      else if BuiltIn.isName name then answer name (text " is a shell builtin")
      else program

/-- Tells what command names stand for. -/
def type : BuiltIn := fun names => do
  let statuses ← names.mapM (describe true false)
  return statuses.foldl (· ||| ·) 0

/-- Tells what a command name stands for. -/
def aboutCommand : BuiltIn := fun words => do
  let (flags, names) ← BuiltIn.read "pvV" words
  let has (letter : Char) : Bool := flags.any fun f => f.1 = (letter : CodePoint)
  match names with
  | name :: _ =>
    if has 'v' || has 'V' then describe (has 'V') (has 'p') name else return 0
  | [] => return 0

/-- Shows which programs were looked for, or looks for some. -/
def hash : BuiltIn := fun words => do
  let (flags, names) ← BuiltIn.read "r" words
  if !flags.isEmpty then
    Exec.update fun p => { p with tracked := [] }
    return 0
  if names.isEmpty then
    let place (name : Text) : Nat :=
      ((name.headD 0).val * 16 + (name.map (·.val)).foldl (· + ·) 0) % 31
    let sorted := (← Exec.process).tracked.reverse.mergeSort fun a b => place a ≤ place b
    for name in sorted do
      match ← findProgram false name with
      | .ok (path :: _) => Exec.print (path ++ text "\n")
      | _ => pure ()
    return 0
  Utility.forEach names fun name => do
    match ← findCommand name with
    | .nothing e =>
      Exec.complainHere (name ++ text ": " ++ refusalReason e)
      return false
    | _ => return true

/-! ## Signals and jobs -/

/-- The process gets a signal from itself. -/
def signalSelf (n : Nat) : Exec Unit := do
  if n = 0 then return
  let p ← Exec.process
  match if n = 9 || n = 19 then none else p.traps.lookup n with
  | some [] => pure ()
  | some _ => modify fun m => { m with sent := m.sent ++ [(p.number, n)] }
  | none =>
    if Signal.isHarmless n then pure ()
    else if Signal.isStop n then throw .endless
    else throw (.killed n)

/-- Sends a signal to a process, if there is one. -/
def signal? (runs : Runs) (n number : Nat) : Exec Bool := do
  let m ← get
  if number = m.process.number then
    signalSelf n
    return true
  else if m.process.ancestors.contains number then
    if n ≠ 0 then modify fun m => { m with sent := m.sent ++ [(number, n)] }
    return true
  else
    match m.jobs.find? fun job => job.number = number with
    | none => return n = 0 && number = 1
    | some job =>
      if job.state = .waiting then
        let isIgnored := (job.process.traps.lookup n) = some []
        if !Signal.isHarmless n && !Signal.isStop n && !isIgnored then
          let _ ← runJob runs job (some ((← Exec.process).clock, n))
        return true
      else return !job.isReaped

/-- Sends signals to processes. -/
def kill (runs : Runs) : BuiltIn := fun words => do
  let misused : Exec Nat :=
    Exec.fail (text "Usage: kill [-s sigspec | -signum | -sigspec] [pid | job]... or\n" ++
      text "kill -l [exitstatus]")
  let direct : Option Nat := match words with
    | (c :: name) :: _ => if c = '-' then Signal.number? 1 name else none
    | _ => none
  let startsWithSign : Bool := match words with
    | (c :: _) :: _ => c = '-'
    | _ => false
  let (flags, operands) ← match direct with
    | some _ => pure ([], words.drop 1)
    | none => if startsWithSign then BuiltIn.read "ls:" words else pure ([], words)
  let lists := flags.any fun f => f.1 = ('l' : CodePoint)
  let mut chosen := direct
  for (letter, name) in flags do
    if letter = 's' then
      match Signal.number? 1 name with
      | some n => chosen := some n
      | none => Exec.fail (text "invalid signal number or name: " ++ name)
  if lists then
    if chosen.isSome then return ← misused
    match operands with
    | [] =>
      Exec.print (text "0\n")
      (List.range Signal.greatest).forM fun n => Exec.print (Signal.nameOf (n + 1) ++ text "\n")
      return 0
    | t :: _ =>
      let n ← BuiltIn.number t
      let n := if 128 < n then n - 128 else n
      if 0 < n && n ≤ Signal.greatest then
        Exec.print (Signal.nameOf n ++ text "\n")
        return 0
      else Exec.fail (text "invalid signal number or exit status: " ++ t)
  if operands.isEmpty then return ← misused
  let mut status := 0
  for t in operands do
    let isThere ← match t with
      | c :: rest =>
        if c = '%' then do
          let _ ← BuiltIn.jobNamed t
          pure false
        else if c = '-' then do
          let _ ← BuiltIn.number rest
          pure false
        else do signal? runs (chosen.getD 15) (← BuiltIn.number t)
      | [] => do signal? runs (chosen.getD 15) (← BuiltIn.number t)
    if !isThere then
      Exec.complainHere (text "No such process\n")
      status := 1
  return status

/-- Waits for the end of a job, which may have been there before. -/
def waitFor (runs : Runs) (job : Job) : Exec Ending := do
  let ending ← runJob runs job none
  match (← get).jobs.find? fun j => j.number = job.number with
  | some { state := .ended _ _ time, .. } => Exec.waitUntil time
  | _ => pure ()
  changeJob job.number fun j => { j with isAwaited := true }
  return ending

/-- Waits for processes in the background. -/
def wait (runs : Runs) : BuiltIn := fun words => do
  let (_, operands) ← BuiltIn.read "" words
  let own := (← Exec.process).number
  if operands.isEmpty then
    (← get).jobs.forM fun job => do
      if job.owner = own then
        let _ ← waitFor runs job
    reap
    return 0
  let mut status := 127
  for t in operands do
    let number ← if t.head? = some ('%' : CodePoint) then do
        let job ← BuiltIn.jobNamed t
        pure job.number
      else BuiltIn.number t
    match (← listedJobs).find? fun job => job.number = number with
    | some job =>
      let ending ← waitFor runs job
      if !job.isReaped then sayWhy ending
      reap
      status := ending.code
    | none => status := 127
  return status

/-! ## Simple commands -/

/-- What is found out about a command from its first words. -/
structure Lead where
  target : Target
  /-- The words before the name of the command. -/
  before : List Text := []
  /-- The words that are expanded; the first one names the command. -/
  fields : List Text
  rest : List Word
  isSpecial : Bool
  /-- Its assignments are taken back. -/
  hidesVariables : Bool
  usesStandard : Bool

/-- Expands words until there is a field. -/
def nextFields (runs : Runs) : List Word → Exec (List Text × List Word)
  | [] => return ([], [])
  | w :: rest => do
    match ← Exec.fields (outputOf runs) w with
    | [] => nextFields runs rest
    | found => return (found, rest)

/-- What follows the options of `command`, unless it is asked about another
command. -/
structure Onward where
  /-- All fields that were read. -/
  read : List Text
  rest : List Word
  /-- The fields that are a command of their own. -/
  command : Option (List Text)
  usesStandard : Bool

/-- Reads the options of `command`. -/
def commandOptions (runs : Runs) : (fuel : Nat) → Onward → (here : List Text) → Exec Onward
  | 0, o, _ => return o
  | fuel + 1, o, [] => do
    let (found, rest) ← nextFields runs o.rest
    if found.isEmpty then return { o with rest }
    else commandOptions runs fuel { o with read := o.read ++ found, rest } found
  | fuel + 1, o, word :: more => do
    match word with
    | sign :: letters =>
      if sign ≠ '-' || letters.isEmpty then return { o with command := some (word :: more) }
      else if letters = text "-" then
        if !more.isEmpty then return { o with command := some more }
        let (found, rest) ← nextFields runs o.rest
        return { o with
          read := o.read ++ found, rest, command := if found.isEmpty then none else some found }
      else if letters.all fun c : CodePoint => c = 'p' then
        commandOptions runs fuel { o with usesStandard := true } more
      else return o
    | [] => return { o with command := some (word :: more) }

/-- Finds out what command the first words name. -/
def leadOf (runs : Runs) : (fuel : Nat) → (isDirect usesStandard : Bool) → List Text →
    List Word → Exec Lead
  | 0, _, _, _, _ => throw .endless
  | fuel + 1, isDirect, usesStandard, fields, rest => do
    let name := fields.headD []
    let p ← Exec.process
    let function := if isDirect then p.functions.lookup name else none
    let found (target : Target) (isSpecial hides : Bool) : Lead :=
      { target, fields, rest, isSpecial, hidesVariables := hides, usesStandard }
    match function with
    | some body => return found (.function body) false true
    | none =>
      if !BuiltIn.isName name then return found .program false true
      else if name ≠ text "command" then
        let isSpecial := isDirect && BuiltIn.special.contains name
        return found .builtIn isSpecial (!isSpecial)
      else
        let o ← commandOptions runs (fields.length + rest.length + 2)
          { read := fields, rest, command := none, usesStandard } (fields.drop 1)
        match o.command with
        | some command => do
          let lead ← leadOf runs fuel false o.usesStandard command o.rest
          return { lead with before := o.read.take (o.read.length - command.length) ++ lead.before }
        | none => return { found .builtIn false true with fields := o.read, rest := o.rest }

/-- What stands before a command that is shown. Commands in it are not shown. -/
def traceMark (runs : Runs) : Exec Text := do
  let t ← Exec.lookup (text "PS4")
  if !t.any fun c => (text "$`\\").contains c then return t
  let source : Source := { rest := [], line := 1, aliases := [], documents := [], nextDocument := 0 }
  match Read.documentOf t source with
  | .error _ _ => return t
  | .ok w _ =>
    let options := (← Exec.process).options
    Exec.update fun p => { p with options := options.filter fun c : CodePoint => c ≠ 'x' }
    let shown ← Exec.textOf (outputOf runs) w
    Exec.update fun p => { p with options }
    return shown

/-- Shows a command before it is run, if that is wanted. -/
def trace (runs : Runs) (errors : Option Nat) (words : List Text) : Exec Unit := do
  if ← Exec.hasOption 'x' then
    match errors with
    | some id =>
      let mark ← traceMark runs
      let p ← Exec.process
      Exec.attach Utility.spareDescriptor id
      let _ ← Exec.write? Utility.spareDescriptor
        (mark ++ List.intercalate (text " ") words ++ text "\n").toBytes
      Exec.update fun q => { q with streams := p.streams }
    | none => pure ()

/-- Traps are set. -/
def hasTraps (p : Process) : Bool :=
  p.traps.any fun t => !t.2.isEmpty

/-- Runs a built-in command. -/
def callBuiltIn (runs : Runs) (s : Setting) (isSpecial : Bool) (name : Text)
    (arguments : List Text) : Exec Unit := do
  let before := (← Exec.process).command
  let act : Exec Nat :=
    if name = text "eval" then
      runText runs s.isTested (List.intercalate (text " ") arguments)
    else if name = text "." then source runs arguments
    else if name = text "exec" then
      if arguments.isEmpty then pure 0
      else do
        let paths ← pathsOf false (arguments.headD [])
        becomeAmong runs arguments paths
        pure 0
    else if name = text "command" then aboutCommand arguments
    else if name = text "type" then type arguments
    else if name = text "hash" then hash arguments
    else if name = text "kill" then kill runs arguments
    else if name = text "wait" then wait runs arguments
    else
      match BuiltIn.all.lookup name with
      | some builtIn => builtIn arguments
      | none => pure 0
  Exec.update fun p => { p with command := some name, writeFault := none }
  let body : Exec Unit := do
    let status ← act
    match (← Exec.process).writeFault with
    | some _ =>
      Exec.complainHere (name ++ text ": I/O error")
      Exec.setStatus (status ||| 1)
    | none => Exec.setStatus status
  Exec.andThen
    (try
      body
    catch
      | .failed => if isSpecial then throw .failed else pure ()
      | stop => throw stop)
    (Exec.update fun p => { p with command := before, writeFault := none })

/-- Runs a program. -/
def callProgram (runs : Runs) (s : Setting) (usesStandard : Bool) (words : List Text) :
    Exec Unit := do
  let name := words.headD []
  match ← findProgram usesStandard name with
  | .error e =>
    Exec.complainHere (name ++ text ": " ++ refusalReason e)
    Exec.setStatus 127
  | .ok paths =>
    let act := becomeAmong runs words paths
    if s.isLast && !hasTraps (← Exec.process) then act
    else Exec.setStatus (← childStatus runs act)

/-- A word may be a setting. -/
def isSetting (w : Word) : Bool :=
  match w with
  | .literal t false :: _ =>
    let isName (c : CodePoint) : Bool := c ≠ '='
    t.contains ('=' : CodePoint) && Exec.isVariableName (t.takeWhile isName)
  | _ => false

/-- Runs a simple command. -/
def runSimple (runs : Runs) (s : Setting) (line : Nat) (assignments words : List Word)
    (redirects : List Redirect) : Exec Unit := do
  Exec.update fun p => { p with line, outputStatus := 0 }
  let out := outputOf runs
  let (first, rest) ← nextFields runs words
  let lead? ← if first.isEmpty then pure none
    else pure (some (← leadOf runs 100 true false first rest))
  let isAssigning := lead?.any fun lead => match lead.target with
    | .builtIn => BuiltIn.setting.contains (lead.fields.headD [])
    | _ => false
  let others ← ((lead?.map (·.rest)).getD []).mapM fun w =>
    if isAssigning && isSetting w then do
      return [← Exec.textOf out w { isSetting := true }]
    else Exec.fields out w
  let fields := (lead?.map (·.fields)).getD [] ++ others.flatten
  let name := fields.headD []
  let isSpecial := lead?.any (·.isSpecial)
  let hides := lead?.any (·.hidesVariables)
  let isExec := name = text "exec" && lead?.any fun lead => match lead.target with
    | .builtIn => true
    | _ => false
  let act : Exec Unit := do
    let errors := (← Exec.process).streams.lookup 2
    let prepared ← redirects.mapM (Exec.prepare out)
    let (saved, isDone) ← Exec.redirectAll out true prepared
    let body : Exec Unit := do
      if !isDone then
        Exec.setStatus 2
        if isSpecial then throw .failed
      else
        let settings ← assignments.mapM fun w => do
          let t ← Exec.textOf out w { isSetting := true }
          let (name, value) := BuiltIn.settingIn t
          let value := value.getD []
          if hides then Exec.hide name (some value) true
          else Exec.assign name value (isExec && 1 < fields.length)
          return t
        let shown := settings ++ (lead?.map (·.before)).getD [] ++ fields
        if !shown.isEmpty then trace runs errors shown
        match lead? with
        | none => Exec.update fun p => { p with status := p.outputStatus }
        | some lead =>
          match lead.target with
          | .function body => callFunction runs s body (fields.drop 1)
          | .builtIn => callBuiltIn runs s isSpecial name (fields.drop 1)
          | _ => callProgram runs s lead.usesStandard fields
    Exec.andThen body (if isExec then pure () else Exec.restore saved)
  let start := (← Exec.process).clock
  if hides then Exec.inScope act else act
  if start < (← Exec.process).clock then catchUp runs

/-! ## Commands put together -/

/-- Ends a strict shell after a failing command that the script does not look at. -/
def checkStatus (s : Setting) : Exec Unit := do
  let p ← Exec.process
  if p.status ≠ 0 && !s.isTested && p.options.contains ('e' : CodePoint) then
    throw .exit

/-- Runs the stages of a pipeline, all from a time on. Answers how they ended and when. -/
def runStages (runs : Runs) (s : Setting) (start : Nat) :
    (input : Option Nat) → List Script → Exec (List Ending × Nat)
  | _, [] => return ([], start)
  | input, stage :: rest => do
    let attachInput : Exec Unit := match input with
      | some id => Exec.attach 0 id
      | none => pure ()
    let toStart : Exec Unit := Exec.update fun p => { p with clock := start }
    let stageSetting := { s with isLast := true }
    if rest.isEmpty then
      let ending ← child runs do
        attachInput
        runs stageSetting stage
      let time := (← Exec.process).clock
      toStart
      return ([ending], time)
    else
      let (n, id) ← Exec.collection
      let ending ← child runs do
        attachInput
        Exec.attach 1 id
        runs stageSetting stage
      let time := (← Exec.process).clock
      toStart
      let ends ← drain runs n jobLimit time
      let pieces ← Exec.collected n
      /- A stage that goes on forever is ended only when it writes. -/
      if ending = .endless && pieces.isEmpty then throw .endless
      let next ← Exec.register (.supply pieces ends (ending = .endless))
      let (endings, last) ← runStages runs s start (some next) rest
      return (ending :: endings, if ending = .endless then last else max time last)

/-- The first word of a command, if it is written as a plain name. -/
def plainName? : Script → Option Text
  | .simple _ _ ([.literal name false] :: _) _ =>
    if Exec.isVariableName name then some name else none
  | _ => none

/-- Looks for the programs of a pipeline before it starts. -/
def seekPrograms (stages : List Script) : Exec Unit :=
  (stages.filterMap plainName?).forM fun name => do
    let _ ← findCommand name

/-- Runs a pipeline. -/
def runPipeline (runs : Runs) (s : Setting) (stages : List Script) : Exec Unit := do
  seekPrograms stages
  let start := (← Exec.process).clock
  let (endings, time) ← runStages runs s start none stages
  match endings.getLast? with
  | some .endless => throw .endless
  | last =>
    Exec.waitUntil time
    endings.forM sayWhy
    Exec.setStatus ((last.map Ending.code).getD 0)
    if start < (← Exec.process).clock then catchUp runs

/-- What became of a round of a loop. -/
inductive Round where
  | whole
  /-- The next round begins. -/
  | cut
  /-- The loop is left. -/
  | last
  deriving DecidableEq

/-- Runs one round of a loop. -/
def runRound (act : Exec Unit) : Exec Round := do
  try
    act
    return .whole
  catch
    | .leaveLoop n => if n ≤ 1 then return .last else throw (.leaveLoop (n - 1))
    | .nextRound n => if n ≤ 1 then return .cut else throw (.nextRound (n - 1))
    | stop => throw stop

/-- Runs a step inside of one more loop. -/
def inLoop (act : Exec Unit) : Exec Unit := do
  Exec.update fun p => { p with loops := p.loops + 1 }
  Exec.andThen act (Exec.update fun p => { p with loops := p.loops - 1 })

/-- Runs a loop with a test. Its status is that of the last round. -/
def runLoop (runs : Runs) (s : Setting) (wanted : Bool) (test body : Script) :
    (fuel : Nat) → (status : Nat) → Exec Unit
  | 0, _ => throw .endless
  | fuel + 1, status => do
    match ← runRound (runs { isTested := true } test) with
    | .last => Exec.setStatus status
    | .cut => runLoop runs s wanted test body fuel status
    | .whole =>
      if decide ((← Exec.process).status = 0) = wanted then
        let round ← runRound (runs { isTested := s.isTested } body)
        if round ≠ .last then runLoop runs s wanted test body fuel (← Exec.process).status
      else Exec.setStatus status

/-- Runs a loop over fields. -/
def runEach (runs : Runs) (s : Setting) (name : Text) (body : Script) : List Text → Exec Unit
  | [] => pure ()
  | t :: rest => do
    Exec.assign name t
    if (← runRound (runs { isTested := s.isTested } body)) ≠ .last then
      runEach runs s name body rest

/-- Runs the first case that matches. -/
def runCases (runs : Runs) (s : Setting) (subject : Text) : List (List Word × Script) → Exec Unit
  | [] => Exec.setStatus 0
  | (patterns, body) :: rest => do
    if ← patterns.anyM fun w => do
        return (← Exec.patternOf (outputOf runs) w).accepts subject then
      match body with
      | .nothing => Exec.setStatus 0
      | body => runs s body
    else runCases runs s subject rest

/-- Runs one command, given how to run those inside of it. -/
def runCommand (runs : Runs) (s : Setting) : Script → Exec Unit
  | .nothing => pure ()
  | .simple line assignments words redirects => do
    try
      runSimple runs s line assignments words redirects
    catch
      | .leaveFunction => do
        checkStatus s
        throw .leaveFunction
      | stop => throw stop
    checkStatus s
  | .pipeline stages => do
    runPipeline runs s stages
    checkStatus s
  | .negate body => do
    runs { isTested := true } body
    Exec.update fun p => { p with status := if p.status = 0 then 1 else 0 }
  | .both first second => do
    runs { isTested := true } first
    if (← Exec.process).status = 0 then runs s second
  | .either first second => do
    runs { isTested := true } first
    if (← Exec.process).status ≠ 0 then runs s second
  | .sequence first second => do
    runs { isTested := s.isTested } first
    runs s second
  | .background body => do
    if let .pipeline stages := body then seekPrograms stages
    startJob body
    Exec.setStatus 0
  | .branch test yes no => do
    runs { isTested := true } test
    if (← Exec.process).status = 0 then runs s yes
    else
      match no with
      | .nothing => Exec.setStatus 0
      | no => runs s no
  | .loop wanted test body => inLoop (runLoop runs s wanted test body loopLimit 0)
  | .each line name words body => do
    Exec.update fun p => { p with line }
    let values ← words.mapM (Exec.fields (outputOf runs))
    match values.flatten with
    | [] => Exec.setStatus 0
    | values => inLoop (runEach runs s name body values)
  | .choose line subject cases => do
    Exec.update fun p => { p with line }
    let subject ← Exec.textOf (outputOf runs) subject
    runCases runs s subject cases
  | .subshell line body redirects => do
    Exec.update fun p => { p with line }
    let prepared ← redirects.mapM (Exec.prepare (outputOf runs))
    let act : Exec Unit := do
      let (_, isDone) ← Exec.redirectAll (outputOf runs) false prepared
      if !isDone then throw .failed
      runs { s with isLast := true } body
    if s.isLast && !hasTraps (← Exec.process) then act
    else
      let start := (← Exec.process).clock
      Exec.setStatus (← childStatus runs act)
      if start < (← Exec.process).clock then catchUp runs
    checkStatus s
  | .redirected line body redirects => do
    Exec.update fun p => { p with line }
    let prepared ← redirects.mapM (Exec.prepare (outputOf runs))
    let (saved, isDone) ← Exec.redirectAll (outputOf runs) true prepared
    Exec.andThen
      (if isDone then runs { isTested := s.isTested } body else Exec.setStatus 2)
      (Exec.restore saved)
  | .define _ name body => do
    Exec.update fun p => { p with
      functions := (name, body) :: p.functions.filter fun f => f.1 ≠ name }
    Exec.setStatus 0

/-- Runs one command with the traps before and after it. -/
def step (runs : Runs) : Runs := fun s script => do
  if !(← Exec.hasOption 'n') then
    Exec.runTraps runs 100
    runCommand runs s script
    Exec.runTraps runs 100
  if s.isLast then throw .exit

/-- Runs a command nested at most so deep. -/
def run : (depth : Nat) → Runs
  | 0 => fun _ _ => throw (.killed overflowSignal)
  | depth + 1 => step (run depth)

end Shell

end AgentWorkshop
