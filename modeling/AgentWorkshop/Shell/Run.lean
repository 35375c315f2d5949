import AgentWorkshop.Process.Basic
import AgentWorkshop.Settings.Basic
import AgentWorkshop.Shell.Interpreter

/-!
# Processes on a tree of files

`Shell.runner` answers requests to start a process: it checks the request,
finds the program, and lets a shell that stands on the given files run it. Time
passes only in programs that wait for it, so a limit is exceeded by these or by
a script without an end.
-/

namespace AgentWorkshop

namespace Shell

/-! ## Requests that start nothing -/

/-- The number of bytes from which on one argument is too long. -/
def argumentLimit : Nat := 131072

/-- The failure of a text that cannot be handed to a process. -/
def unfit? (t : Text) : Option Failure :=
  match Utf8.unencodableEscaped? 0 t with
  | some run => some (.unencodable run)
  | none => if t.contains (0 : CodePoint) then some .nullByte else none

/-- The failure of a variable that cannot be handed to a process. -/
def unfitVariable? (name value : Text) : Option Failure :=
  match Utf8.unencodableEscaped? 0 name with
  | some run => some (.unencodable run)
  | none =>
    if name.contains ('=' : CodePoint) then some .badVariable
    else (Utf8.unencodableEscaped? 0 value).map .unencodable

/-- The words that a command consists of for the operating system. -/
def wordsOf : Command → List Text
  | .shell line => [text "/bin/sh", text "-c", line]
  | .program words => words

/-- The failure of a request whose texts cannot be handed to a process. -/
def unfitRequest? (i : Invocation) : Option Failure :=
  let words := wordsOf i.command
  let values := words ++ i.bindings.flatMap (fun (name, value) => [name, value]) ++
    i.directory.toList
  if words.isEmpty then some .emptyCommand
  else i.bindings.findSome? (fun (name, value) => unfitVariable? name value) <|>
    values.findSome? unfit?

/-- An error of the operating system about a file. -/
def systemFailure (e : Errno) (file : Text) : Failure :=
  .system (.ofErrno e file)

/-- The directory that a process starts in. -/
def startDirectory (files : FileTree) (home : Address) : Option Text → Except Failure Address
  | none => .ok home
  | some [] => .ok home
  | some t =>
    match Files.locate files home (.ofText t) with
    | .ok (.taken address .directory) => .ok address
    | .ok (.taken _ (.file _)) => .error (systemFailure .notDirectory t)
    | .ok (.free _) => .error (systemFailure .noEntry t)
    | .error e => .error (systemFailure e t)

/-! ## What a process leaves behind -/

/-- So much time is over before so many nanoseconds have passed. -/
def isOver (limit : Seconds) (elapsed : Nat) : Bool :=
  match limit with
  | .whole n => n * 1000000000 ≤ elapsed
  | .real .nan => false
  | .real (.infinite negative) => negative
  | .real (.finite negative m q) =>
    negative || Binary64.numerator m q * 1000000000 ≤ elapsed * Binary64.denominator q

/-- The nanoseconds after which so much time is over, if it ends at all. -/
def nanoseconds? : Seconds → Option Nat
  | .whole n => some (n * 1000000000)
  | .real (.finite negative m q) =>
    if negative then some 0
    else some (Binary64.numerator m q * 1000000000 / Binary64.denominator q + 1)
  | .real (.infinite negative) => if negative then some 0 else none
  | .real .nan => none

/-- The outcome of a command whose time was up. -/
def timedOut (command : Command) (limit : Seconds) : Outcome :=
  .exited (-1) [] (text "Command timed out after " ++ limit.toText ++ text "s: " ++ command.toText)

/-- What a process left behind. -/
structure Traces where
  ending : Ending
  stdout : Bytes
  stderr : Bytes
  /-- When everything that it printed to was closed. -/
  elapsed : Nat

/-- The outcome of a request. -/
def outcome (i : Invocation) (t : Traces) : Outcome :=
  let exited : Outcome :=
    let code : Int := match t.ending with
      | .signal n => -n
      | ending => ending.code
    .exited code (Utf8.decodeLossy t.stdout) (Utf8.decodeLossy t.stderr)
  match t.ending, i.limit with
  | .endless, some limit => timedOut i.command limit
  | .endless, none => .failed (.crashed (text "the process does not end"))
  | _, some limit => if isOver limit t.elapsed then timedOut i.command limit else exited
  | _, none => exited

/-! ## Running a request -/

/-- The number of the process that a request starts. -/
def firstProcess : Nat := 1000

/-- The machine on which a request is run; what is printed goes to two collections. -/
def Machine.initial (files : FileTree) (directory : Address) (bindings : Environment)
    (limit : Option Seconds) : Machine where
  files
  links := []
  modes := []
  channels := #[.device .nothing true true, .collected 0, .collected 1]
  collections := #[[], []]
  documents := []
  nextDocument := 0
  nextProcess := firstProcess + 1
  sent := []
  jobs := []
  process := {
    number := firstProcess, ancestors := [firstProcess - 1], shellNumber := firstProcess, directory
    path := Utility.pathOf directory
    bindings := bindings.map fun (name, value) =>
      { name := name.narrow, value := some value.narrow, exported := true, isReadOnly := false }
    functions := [], aliases := [], options := [], status := 0, outputStatus := 0, traps := []
    name := text "/bin/sh", parameters := [], latestJob := none, line := 0, readTo := 0, command := none
    loops := 0, calls := 0, trapStatus := none, scopes := [], mask := 0o022, clock := 0
    streams := [(0, 0), (1, 1), (2, 2)], optionPlace := (1, 0)
    deadline := (limit.bind nanoseconds?).map (·, 9), writeFault := none, tracked := [] }

/-- Adds variables to an environment, where they win over those of the same name. -/
def extend (env : Environment) (bindings : List (Text × Text)) : Environment :=
  bindings.foldl (fun env (name, value) =>
    if env.any fun v => v.1 = name then
      env.map fun v => if v.1 = name then (name, value) else v
    else env ++ [(name, value)]) env

/-- The plan for a program that is started without a shell: the first of its paths
that leads to one. -/
def Machine.directPlan (m : Machine) (words : List Text) : Except Errno Plan :=
  let name := words.headD []
  let directories := (m.exported? (text "PATH")).getD barePath
  let paths := if name.contains ('/' : CodePoint) then [name]
    else (directories.splitOn (':' : CodePoint)).map fun d =>
      if d.isEmpty || d.getLast? = some ('/' : CodePoint) then d ++ name else d ++ text "/" ++ name
  first .noEntry paths
where
  /-- The first failure that is more than an absence counts, or else the last one. -/
  first (before : Errno) : List Text → Except Errno Plan
    | [] => .error before
    | path :: rest =>
      match m.planAt scriptLimit path words with
      | .ok plan => .ok plan
      | .error e => first (if isAbsence before then e else before) rest

/-- Runs the jobs that are left: those that a collection hangs on to their ends,
and the others as long as that takes. -/
def settleJobs (runs : Runs) : Exec Nat := do
  let now := (← Exec.process).clock
  let ends ← drain runs 1 jobLimit (← drain runs 0 jobLimit now)
  Exec.update fun p => { p with deadline := none, clock := ends + 1 }
  catchUp runs
  return ends

/-- Runs a program to its end. -/
def runPlan (runs : Runs) (plan : Plan) (m : Machine) : Traces × FileTree :=
  let act : Exec Traces := do
    let ending ← toEnd runs (perform runs programLimit plan)
    let (ending, elapsed) ← try
        pure (ending, ← settleJobs runs)
      catch
        | _ => pure (.endless, 0)
    let printed (n : Nat) : Exec Bytes := do
      return (← Exec.collected n).flatMap (·.2)
    return { ending, elapsed, stdout := ← printed 0, stderr := ← printed 1 }
  match act m with
  | .ok traces m => (traces, m.files)
  | .error _ m => ({ ending := .endless, elapsed := 0, stdout := [], stderr := [] }, m.files)

/-- Processes that run on the files, in a home directory and with an
environment. -/
def runner (env : Environment) (home : Address) : Runner := fun i files =>
  let words := wordsOf i.command
  match unfitRequest? i, startDirectory files home i.directory with
  | some f, _ => (files, .failed f)
  | none, .error f => (files, .failed f)
  | none, .ok directory =>
    match words.find? fun t => argumentLimit ≤ Files.byteCount t with
    | some _ =>
      (files, .failed (.system {
        code := 7
        reason := text "Argument list too long"
        file := words.head? }))
    | none =>
      let m := Machine.initial files directory (extend env i.bindings) i.limit
      match m.directPlan (words.map Text.narrow) with
      | .error e => (files, .failed (systemFailure e (words.headD [])))
      | .ok plan =>
        let (traces, files) := runPlan (run depthLimit) plan m
        (files, outcome i traces)

end Shell

end AgentWorkshop
