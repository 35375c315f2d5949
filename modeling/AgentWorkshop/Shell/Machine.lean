import AgentWorkshop.Shell.Script
import AgentWorkshop.Text.Octets
import AgentWorkshop.Files.Access

/-!
# The state of a shell

A `Machine` is a system with one process at work: the files, what is open, what
was written when, and the processes that are still to run. A step of the process
is an `Exec`, which may stop it.
-/

namespace AgentWorkshop

namespace Shell

/-! ## Open files -/

/-- A device that is no file. -/
inductive Device where
  /-- Gives nothing and takes everything. -/
  | nothing
  /-- Gives bytes of zero and takes everything. -/
  | zeros
  /-- Gives bytes of zero and takes nothing. -/
  | full
  deriving DecidableEq, Repr, Inhabited

/-- Something that is open for reading or writing. -/
inductive Channel where
  | device (d : Device) (reads writes : Bool)
  /-- Collects what is written to it. -/
  | collected (number : Nat)
  /-- Gives pieces, each from a time on, and ends at a time unless it is endless. -/
  | supply (pieces : List (Nat × Bytes)) (ends : Nat) (isEndless : Bool)
  | file (address : Address) (offset : Nat) (reads writes appends : Bool)
  /-- A file that has been removed. -/
  | detached (contents : Bytes) (offset : Nat)
  | folder (address : Address)
  deriving DecidableEq, Repr, Inhabited

/-! ## Processes -/

/-- A variable of the shell. -/
structure Variable where
  name : Text
  /-- It may be known without having a value. -/
  value : Option Text
  /-- Whether processes that are started see it. -/
  exported : Bool
  isReadOnly : Bool
  deriving DecidableEq, Repr

/-- What a process knows of itself. -/
structure Process where
  number : Nat
  /-- The processes that wait for this one, its parent first. -/
  ancestors : List Nat
  /-- What the script takes for the number of the process. -/
  shellNumber : Nat
  directory : Address
  /-- The path of the directory as the script sees it. -/
  path : Text
  bindings : List Variable
  functions : List (Text × Script)
  aliases : List (Text × Text)
  /-- The letters of the options that are on. -/
  options : Text
  /-- The exit status of the last command. -/
  status : Nat
  /-- The exit status of the last script whose output was taken. -/
  outputStatus : Nat
  /-- What is run on signals, by their numbers; 0 is the end of the shell. -/
  traps : List (Nat × Text)
  /-- What the shell calls itself. -/
  name : Text
  /-- The positional parameters. -/
  parameters : List Text
  /-- The process that was last started in the background. -/
  latestJob : Option Nat
  /-- The line of the script. -/
  line : Nat
  /-- The line up to which the script was read. -/
  readTo : Nat
  /-- The built-in command that is at work. -/
  command : Option Text
  /-- How many loops are at work. -/
  loops : Nat
  /-- How many functions are at work, one within the other. -/
  calls : Nat
  /-- The exit status from before the trap that is at work. -/
  trapStatus : Option Nat
  /-- The variables that functions and commands hide, as they were. -/
  scopes : List (List (Text × Option Variable))
  /-- The permissions that new files lack. -/
  mask : Nat
  /-- How many nanoseconds have passed. -/
  clock : Nat
  /-- What the descriptors stand for. -/
  streams : List (Nat × Nat)
  /-- Where the options of the parameters are being read: a parameter, and a sign in it. -/
  optionPlace : Nat × Nat
  /-- The time at which the process is to be ended by a signal. -/
  deadline : Option (Nat × Nat)
  /-- The last failure to write to an output. -/
  writeFault : Option Errno
  /-- The programs that were looked up before. -/
  tracked : List Text

/-- What became of a process in the background. -/
inductive JobState where
  /-- It is still to run. -/
  | waiting
  /-- It has ended by a status or a signal, at a time. -/
  | ended (status : Nat) (signal : Option Nat) (time : Nat)
  deriving DecidableEq, Repr

/-- A process in the background. -/
structure Job where
  owner : Nat
  number : Nat
  body : Script
  /-- The process at its start. -/
  process : Process
  state : JobState
  /-- Its place in the list of jobs. -/
  slot : Nat
  isListed : Bool := true
  /-- How many processes it is made of. -/
  parts : Nat := 1
  /-- Its end was noticed. -/
  isReaped : Bool := false
  /-- Its end was waited for. -/
  isAwaited : Bool := false

/-- A system with one process at work. -/
structure Machine where
  files : FileTree
  /-- The links and the paths they stand for. -/
  links : List (Address × Text)
  /-- The permissions of files where they are not the usual ones. -/
  modes : List (Address × Nat)
  channels : Array Channel
  /-- What was collected, and when, the latest first. -/
  collections : Array (List (Nat × Bytes))
  /-- The documents of scripts. -/
  documents : List (Nat × Word)
  nextDocument : Nat
  nextProcess : Nat
  /-- The signals that were sent to processes. -/
  sent : List (Nat × Nat)
  jobs : List Job
  process : Process

/-- Why a process stops before its script ends. -/
inductive Stop where
  /-- With the status that it has. -/
  | exit
  /-- An error of the script. -/
  | failed
  | killed (signal : Nat)
  /-- It would go on forever. -/
  | endless
  /-- So many loops are left. -/
  | leaveLoop (count : Nat)
  /-- So many loops, less one, are left, and the next one is continued. -/
  | nextRound (count : Nat)
  /-- A function is left. -/
  | leaveFunction
  deriving DecidableEq, Repr

/-- A step of a process. -/
abbrev Exec := EStateM Stop Machine

namespace Exec

/-- The process at work. -/
def process : Exec Process := do
  return (← get).process

/-- Changes the process at work. -/
def update (f : Process → Process) : Exec Unit :=
  modify fun m => { m with process := f m.process }

/-- Runs a step and then another one, even if the first one stops the process. -/
def andThen {α : Type} (act : Exec α) (last : Exec Unit) : Exec α := fun m =>
  match act m with
  | .ok a m =>
    match last m with
    | .ok _ m => .ok a m
    | .error stop m => .error stop m
  | .error stop m =>
    match last m with
    | .ok _ m => .error stop m
    | .error later m => .error later m

/-- Sets the exit status. -/
def setStatus (status : Nat) : Exec Unit :=
  update fun p => { p with status }

/-- An option is on. -/
def hasOption (letter : CodePoint) : Exec Bool := do
  return (← process).options.contains letter

/-! ## Time -/

/-- Lets time pass. -/
def spend (nanoseconds : Nat) : Exec Unit := do
  let p ← process
  let clock := p.clock + nanoseconds
  match p.deadline with
  | some (time, signal) =>
    if time < clock then
      update fun p => { p with clock := max p.clock time }
      throw (.killed signal)
    else update fun p => { p with clock }
  | none => update fun p => { p with clock }

/-- Waits for a time. -/
def waitUntil (time : Nat) : Exec Unit := do
  spend (time - (← process).clock)

/-! ## Output -/

/-- What a descriptor stands for. -/
def channel? (descriptor : Nat) : Exec (Option (Nat × Channel)) := do
  let m ← get
  return do
    let id ← m.process.streams.lookup descriptor
    let c ← m.channels[id]?
    some (id, c)

/-- Opens something. -/
def register (c : Channel) : Exec Nat := do
  let m ← get
  set { m with channels := m.channels.push c }
  return m.channels.size

/-- Puts bytes over others, from an offset on. -/
def overlay (contents : Bytes) (offset : Nat) (bs : Bytes) : Bytes :=
  contents.take offset ++ List.replicate (offset - contents.length) 0 ++ bs ++
    contents.drop (offset + bs.length)

/-- Writes bytes to a descriptor. Answers why it failed, if it did. -/
def write? (descriptor : Nat) (bs : Bytes) : Exec (Option Errno) := do
  match ← channel? descriptor with
  | none => return some .badDescriptor
  | some (id, c) =>
    match c with
    | .device d _ writes =>
      return if !writes then some .badDescriptor
        else if d = .full && !bs.isEmpty then some .noSpace
        else none
    | .collected n =>
      if !bs.isEmpty then
        modify fun m => { m with
          collections := m.collections.modify n ((m.process.clock, bs) :: ·) }
      return none
    | .supply _ _ _ | .folder _ => return some .badDescriptor
    | .detached contents offset =>
      let after := Channel.detached (overlay contents offset bs) (offset + bs.length)
      modify fun m => { m with channels := m.channels.setIfInBounds id after }
      return none
    | .file address offset reads writes appends =>
      if !writes then return some .badDescriptor
      modify fun m =>
        let contents := match m.files.get? address with
          | some (.file contents) => contents
          | _ => []
        let place := if appends then contents.length else offset
        { m with
          files := m.files.fill address (overlay contents place bs)
          channels := m.channels.setIfInBounds id
            (.file address (place + bs.length) reads writes appends) }
      return none

/-- Prints a text of bytes. A failure is remembered. -/
def print (t : Text) : Exec Unit := do
  if t.isEmpty then return
  match ← write? 1 t.toBytes with
  | some e => update fun p => { p with writeFault := some e }
  | none => pure ()

/-- Prints a line to the error stream. -/
def complain (t : Text) : Exec Unit := do
  let _ ← write? 2 (t ++ text "\n").toBytes

/-- Prints a line to the error stream, after the name of the shell, the line of
the script and the built-in command at work. -/
def complainHere (t : Text) : Exec Unit := do
  let p ← process
  let command := match p.command with
    | some c => c ++ text ": "
    | none => []
  complain (p.name ++ text ": " ++ Text.ofNat p.line ++ text ": " ++ command ++ t)

/-- Stops at an error of the script. -/
def fail {α : Type} (t : Text) (status : Nat := 2) : Exec α := do
  complainHere t
  setStatus status
  throw .failed

/-! ## Variables -/

/-- A variable. -/
def binding? (name : Text) : Exec (Option Variable) := do
  return (← process).bindings.find? fun v => v.name = name

/-- The value of a variable. -/
def lookup? (name : Text) : Exec (Option Text) := do
  return (← binding? name).bind (·.value)

/-- The value of a variable, or nothing. -/
def lookup (name : Text) : Exec Text := do
  return (← lookup? name).getD []

/-- A text is the name of a variable. -/
def isVariableName : Text → Bool
  | [] => false
  | c :: rest => (c.isAsciiLetter || c = '_') &&
      rest.all fun c => c.isAsciiLetter || c = '_' || c.isAsciiDigit

/-- Puts a variable into the place of the one with its name. -/
def store (v : Variable) : Exec Unit :=
  update fun p =>
    if p.bindings.any fun w => w.name = v.name then
      { p with bindings := p.bindings.map fun w => if w.name = v.name then v else w }
    else { p with bindings := p.bindings ++ [v] }

/-- Takes note of a new value that the shell itself hangs on. -/
def heed (name value : Text) : Exec Unit := do
  if name = text "OPTIND" then
    let n := value.takeWhile CodePoint.isAsciiDigit
    let place := n.foldl (fun n c => 10 * n + (c.val - 0x30)) 0
    update fun p => { p with optionPlace := (max place 1, 0) }
  else if name = text "PATH" then update fun p => { p with tracked := [] }

/-- Changes a variable, which may not be a protected one. -/
def change (name : Text) (value : Option Text) (exports protects : Bool) : Exec Unit := do
  let exports := exports || (← hasOption 'a')
  match ← binding? name with
  | some v =>
    if v.isReadOnly then fail (name ++ text ": is read only")
    store { v with
      value := value <|> v.value
      exported := v.exported || exports
      isReadOnly := v.isReadOnly || protects }
  | none =>
    store { name, value, exported := exports, isReadOnly := protects }
  match value with
  | some value => heed name value
  | none => pure ()

/-- Gives a variable a value. -/
def assign (name value : Text) (exports : Bool := false) : Exec Unit := do
  if !isVariableName name then fail (name ++ text ": bad variable name")
  change name (some value) exports false

/-- Forgets a variable. One that a function hides stays known, without a value. -/
def unset (name : Text) : Exec Unit := do
  match ← binding? name with
  | none => pure ()
  | some v =>
    if v.isReadOnly then fail (name ++ text ": is read only")
    heed name []
    let isHiding := (← process).scopes.any fun s => s.any fun (n, _) => n = name
    if isHiding then store { v with value := none }
    else update fun p => { p with bindings := p.bindings.filter fun w => w.name ≠ name }

/-- The number of places in the shell's table of variables. -/
def tableSize : Nat := 39

/-- The place of a variable in the table, which hangs on the bytes of its name,
the first of which counts another 16 times. -/
def tablePlace (name : Text) : Nat :=
  match name with
  | [] => 0
  | b :: rest => (b.val * 17 + (rest.map (·.val)).foldl (· + ·) 0) % tableSize

/-- The variables that the shell itself knows stand first in their places. -/
def isKnown (name : Text) : Bool :=
  (["IFS", "MAIL", "MAILPATH", "PATH", "PS1", "PS2", "PS4", "OPTIND"].map text).contains name

/-- Variables in the order of the table. -/
def inTable (vs : List Variable) : List Variable :=
  let (known, others) := vs.partition fun v => isKnown v.name
  (known ++ others).mergeSort fun v w => tablePlace v.name ≤ tablePlace w.name

/-- The variables that programs see. -/
def exportedVariables : Exec (List (Text × Text)) := do
  return ((← process).bindings.filter (·.exported)).filterMap fun v => v.value.map (v.name, ·)

/-- Begins to hide a variable, with a new value if one is given. -/
def hide (name : Text) (value : Option Text) (exports : Bool) : Exec Unit := do
  let before ← binding? name
  update fun p =>
    match p.scopes with
    | scope :: outer => { p with scopes := ((name, before) :: scope) :: outer }
    | [] => p
  match value, before with
  | some value, _ =>
    change name (some value) exports false
  | none, some _ => pure ()
  | none, none => store { name, value := none, exported := false, isReadOnly := false }

/-- Runs a step whose hidden variables come back afterwards. -/
def inScope {α : Type} (act : Exec α) : Exec α := do
  update fun p => { p with scopes := [] :: p.scopes }
  andThen act do
    let scope := (← process).scopes.headD []
    update fun p => { p with scopes := p.scopes.drop 1 }
    scope.forM fun (name, before) => do
      match before with
      | some v => store v; heed name (v.value.getD [])
      | none =>
        update fun p => { p with bindings := p.bindings.filter fun w => w.name ≠ name }
        heed name []

end Exec

end Shell

end AgentWorkshop
