import AgentWorkshop.Shell.Expansion
import AgentWorkshop.Shell.Option
import AgentWorkshop.Shell.Utility.Checksum
import AgentWorkshop.Shell.Utility.Compare
import AgentWorkshop.Shell.Utility.Count
import AgentWorkshop.Shell.Utility.Edit
import AgentWorkshop.Shell.Utility.Expr
import AgentWorkshop.Shell.Utility.Files
import AgentWorkshop.Shell.Utility.Find
import AgentWorkshop.Shell.Utility.Identity
import AgentWorkshop.Shell.Utility.Order
import AgentWorkshop.Shell.Utility.Search
import AgentWorkshop.Shell.Utility.Verdict

/-!
# Programs

A path leads to one of the programs that are installed, to a script, which names
the program that reads it, or to nothing that can be run. A `Plan` says which
installed program is to run with which words, and `perform` turns the process
into it.
-/

namespace AgentWorkshop

namespace Shell

/-! ## Looking for programs -/

/-- What can be run. -/
inductive Executable where
  | installed (name : Text)
  | script (contents : Bytes)

/-- What a path leads to. -/
def Machine.executable (m : Machine) (path : Text) : Except Errno Executable :=
  match m.resolveFrom m.process.directory true path with
  | .error e => .error e
  | .ok (.free _ _) => .error .noEntry
  | .ok (.taken _ (.link _)) => .error .manyLinks
  | .ok (.taken _ .directory) => .error .denied
  | .ok (.taken address .file) =>
    if isProgram address then .ok (.installed (address.getLast?.getD []))
    else if m.isRunnable address then .ok (.script (m.contentsAt address))
    else .error .denied

/-- The longest first line of a script that is looked at. -/
def firstLineLimit : Nat := 255

/-- The program and its argument that the first line of a script asks for. -/
def readerOf? (contents : Bytes) : Option (Text × Option Text) :=
  match (text "#!").isPrefixOf? (Text.ofBytes (contents.take firstLineLimit)) with
  | none => none
  | some rest =>
    let isInLine (c : CodePoint) : Bool := c ≠ '\n'
    let line := Text.trimBy isGap (rest.takeWhile isInLine)
    let isWord (c : CodePoint) : Bool := !isGap c
    let argument := (line.dropWhile isWord).dropWhile isGap
    if line.isEmpty then none
    else some (line.takeWhile isWord, if argument.isEmpty then none else some argument)

/-- The paths that a name stands for. -/
def candidates (directories name : Text) : List Text :=
  if name.contains ('/' : CodePoint) then [name]
  else (directories.splitOn (':' : CodePoint)).map fun d =>
    if d.isEmpty then name else d ++ text "/" ++ name

namespace Utility

/-- Prints where programs stand. -/
def which : Utility := fun words => do
  let table : OptionTable := { letters := "as", isStrict := true }
  match table.read words with
  | .error _ =>
    let letter := (words.head?.bind fun w =>
      w.find? fun c => !(text "-as").contains c).getD '-'
    Exec.complain (text "Illegal option -" ++ [letter])
    Exec.complain (text "Usage: /usr/bin/which [-as] args")
    return 2
  | .ok a =>
    if a.operands.isEmpty then return 1
    forEach a.operands fun name => do
      let path := (← Exec.lookup? (text "PATH")).getD []
      let m ← get
      let found := (candidates path name).filter fun p => match m.executable p with
        | .ok _ => !name.isEmpty
        | .error _ => false
      let shown := if a.has 'a' then found else found.take 1
      if !a.has 's' then shown.forM fun p => Exec.print (p ++ text "\n")
      return !found.isEmpty

/-- The programs that work alone. -/
def all : List (Text × Utility) :=
  [("cat", cat), ("echo", echo), ("printf", printf), ("true", fun _ => pure 0),
    ("false", fun _ => pure 1), ("sleep", sleep), ("seq", seq), ("yes", yes),
    ("test", test false), ("[", test true), ("ls", ls), ("pwd", pwd), ("mkdir", mkdir), ("rm", rm),
    ("rmdir", rmdir), ("touch", touch), ("cp", cp), ("mv", mv), ("ln", ln), ("tee", tee),
    ("basename", basename), ("dirname", dirname), ("chmod", chmod), ("printenv", printenv),
    ("stat", stat), ("readlink", readlink), ("realpath", realpath), ("truncate", truncate),
    ("mktemp", mktemp), ("unlink", unlink), ("head", head), ("tail", tail), ("tac", tac),
    ("rev", rev), ("cut", cut), ("paste", paste), ("nl", nl), ("fold", fold), ("expand", expand),
    ("sort", sort), ("uniq", uniq), ("comm", comm), ("wc", wc), ("tr", tr), ("cmp", cmp),
    ("od", od), ("base64", base64), ("grep", grep .basic false),
    ("egrep", grepFor .extended false), ("fgrep", grepFor .words false),
    ("rgrep", grepFor .basic true), ("sed", sed), ("expr", expr),
    ("md5sum", digestSum "MD5" 16 Digest.md5), ("sha1sum", digestSum "SHA1" 20 Digest.sha1),
    ("sha224sum", digestSum "SHA224" 28 Digest.sha224.run),
    ("sha256sum", digestSum "SHA256" 32 Digest.sha256.run),
    ("sha384sum", digestSum "SHA384" 48 Digest.sha384.run),
    ("sha512sum", digestSum "SHA512" 64 Digest.sha512.run), ("cksum", cksum), ("diff", diff),
    ("whoami", whoami), ("id", identity), ("uname", uname), ("tty", tty), ("factor", factor),
    ("sync", sync), ("which", which)].map fun (name, u) => (text name, u)

/-- The programs that start others. -/
def launchers : List (Text × Launcher) :=
  [("env", env), ("nohup", nohup), ("nice", nice), ("timeout", timeout),
    ("xargs", xargs), ("find", find)].map fun (name, u) => (text name, u)

end Utility

/-- Where a shell that is told no `PATH` looks for programs. -/
def standardPath : Text := text "/usr/local/sbin:/usr/local/bin:/usr/sbin:/usr/bin:/sbin:/bin"

/-- Where other programs look without a `PATH`. -/
def barePath : Text := text "/bin:/usr/bin"

/-- There is nothing at a path, as opposed to something that cannot be run. -/
def isAbsence (e : Errno) : Bool :=
  e = .noEntry || e = .notDirectory

/-- The candidates from the first one on that is a file. -/
def Machine.filesAmong (m : Machine) (before : Errno) : List Text → Except Errno (List Text)
  | [] => .error before
  | path :: rest =>
    match m.resolveFrom m.process.directory true path with
    | .ok (.taken _ .file) => .ok (path :: rest)
    | .ok (.taken _ _) => m.filesAmong .denied rest
    | .ok (.free _ _) => m.filesAmong before rest
    | .error e => m.filesAmong (if isAbsence e then before else e) rest

/-- An installed program and the words it gets. -/
structure Plan where
  program : Text
  words : List Text
  deriving DecidableEq, Repr

namespace Machine

/-- The plan for what a path leads to. A script is read by another program. -/
def planAt (m : Machine) : (fuel : Nat) → (path : Text) → (words : List Text) → Except Errno Plan
  | 0, _, _ => .error .manyLinks
  | fuel + 1, path, words =>
    match m.executable path with
    | .error e => .error e
    | .ok (.installed program) => .ok ⟨program, words⟩
    | .ok (.script contents) =>
      match readerOf? contents with
      | none => .error .noFormat
      | some (reader, argument) =>
        m.planAt fuel reader (reader :: argument.toList ++ path :: words.drop 1)

/-- How many scripts may read each other. -/
def scriptLimit : Nat := 5

/-- The plan for the first of some paths that leads to a program. What has no
format is a script of the shell. -/
def planAmong (m : Machine) (words : List Text) (before : Errno) : List Text → Except Errno Plan
  | [] => .error before
  | path :: rest =>
    match m.planAt scriptLimit path words with
    | .ok plan => .ok plan
    | .error .noFormat =>
      m.planAt scriptLimit (text "/bin/sh") (text "/bin/sh" :: path :: words.drop 1)
    | .error e => m.planAmong words (if isAbsence e then before else e) rest

/-- The value of a variable that programs see. -/
def exported? (m : Machine) (name : Text) : Option Text :=
  (m.process.bindings.find? fun v => v.name = name && v.exported).bind (·.value)

/-- The plan for words whose first one names the program. -/
def plan (m : Machine) (words : List Text) : Except Errno Plan :=
  let name := words.headD []
  if name.isEmpty then .error .noEntry
  else
    let directories := (m.exported? (text "PATH")).getD barePath
    m.planAmong words .noEntry (candidates directories name)

end Machine

/-! ## Shells -/

namespace Exec

/-- Enters a directory by a path. -/
def enter (address : Address) (path : Text) : Exec Unit := do
  update fun p => { p with directory := address, path }
  change (text "PWD") (some path) true false

/-- Gives a variable of the shell itself a value. -/
def define (name value : Text) : Exec Unit := do
  store {
    name, value := some value
    exported := (← binding? name).any (·.exported)
    isReadOnly := false }

/-- The process becomes a shell. -/
def beginShell (name : Text) : Exec Unit := do
  update fun p => { p with
    shellNumber := p.number
    bindings := p.bindings.filter fun v => v.exported && isVariableName v.name
    functions := [], aliases := [], options := [], status := 0, outputStatus := 0
    traps := p.traps.filter fun t => t.2.isEmpty
    name, parameters := [], latestJob := none, line := 0, readTo := 0, command := none, loops := 0
    calls := 0, trapStatus := none, scopes := [], optionPlace := (1, 0)
    writeFault := none, tracked := [] }
  define (text "IFS") standardSeparators
  define (text "OPTIND") (text "1")
  define (text "PPID") (Text.ofNat ((← process).ancestors.headD 0))
  for (name, value) in [(text "PATH", standardPath), (text "PS1", text "# "),
      (text "PS2", text "> "), (text "PS4", text "+ ")] do
    if (← lookup? name).isNone then define name value
  let p ← process
  let m ← get
  let known ← lookup (text "PWD")
  let leadsHere : Bool := match known, m.resolveFrom p.directory true known with
    | c :: _, .ok (.taken address _) => c = '/' && address = p.directory
    | _, _ => false
  enter p.directory (if leadsHere then known else Utility.pathOf p.directory)

end Exec

/-- Runs what a shell is told by its arguments. -/
def runArguments (runs : Runs) (arguments : List Text) : Exec Unit := do
  let start ← Exec.readOptions true (arguments.length + 1) arguments
  if (← Exec.hasOption 'i') then
    Exec.complainHere (text "can't access tty; job control turned off")
  let take (parameters : List Text) : Exec Unit :=
    Exec.update fun p => { p with parameters }
  let run (t : Text) (isFile : Bool) : Exec Unit := do
    let _ ← runText runs false t isFile
  match start.hasScript, start.rest with
  | true, [] => Exec.fail (text "-c requires an argument")
  | true, script :: rest =>
    match rest with
    | name :: parameters =>
      Exec.update fun p => { p with name }
      take parameters
    | [] => pure ()
    run script false
  | false, rest =>
    if rest.isEmpty || (← Exec.hasOption 's') then
      Exec.update fun p => { p with
        options := 's' :: p.options.filter fun c : CodePoint => c ≠ 's' }
      take rest
      match ← Exec.readAll 0 with
      | .ok bs => run (Text.ofBytes bs) true
      | .error _ => pure ()
    else
      let path := rest.headD []
      match ← Exec.openFile .read path with
      | .error e =>
        let reason := if isAbsence e then text "No such file" else e.reason
        Exec.fail (text "cannot open " ++ path ++ text ": " ++ reason)
      | .ok id =>
        Exec.update fun p => { p with name := path }
        take (rest.drop 1)
        Exec.attach Utility.spareDescriptor id
        let found ← Exec.readAll Utility.spareDescriptor
        Exec.close Utility.spareDescriptor
        match found with
        | .ok bs => run (Text.ofBytes bs) true
        | .error _ => pure ()

/-- Runs a shell to its end. -/
def shell (runs : Runs) (words : List Text) : Exec Unit := do
  Exec.beginShell (words.headD [])
  match ← toEnd runs (runArguments runs (words.drop 1)) with
  | .status n =>
    Exec.update fun p => { p with traps := p.traps.filter fun t => t.1 ≠ 0 }
    Exec.setStatus n
  | .signal n => throw (.killed n)
  | .endless => throw .endless

/-! ## Running programs -/

/-- How long it takes to load a program. -/
def loadingTime : Nat := 500000

/-- The process becomes a program, until its end. -/
def perform (runs : Runs) : (fuel : Nat) → Plan → Exec Unit
  | 0, _ => throw .endless
  | fuel + 1, ⟨name, words⟩ => do
    Exec.update fun p => { p with
      traps := p.traps.filter fun t => t.2.isEmpty, command := words.head? }
    Exec.spend loadingTime
    if name = text "sh" || name = text "dash" then shell runs words
    else
      let starter : Starter := {
        become := fun words => do
          match (← get).plan words with
          | .error e => return .error e
          | .ok plan => perform runs fuel plan; return .ok ()
        spawn := fun words => do
          match (← get).plan words with
          | .error e => return .error e
          | .ok plan => return .ok (← child runs (perform runs fuel plan)) }
      let act : Exec Nat := match Utility.launchers.lookup name with
        | some u => u starter (words.drop 1)
        | none => match Utility.all.lookup name with
          | some u => u (words.drop 1)
          | none => pure 0
      Exec.setStatus (← Utility.guarded name act)

/-- How many programs may become another one. -/
def programLimit : Nat := 100

/-- The status after a shell could not start a program. -/
def refusalStatus (e : Errno) : Nat :=
  if isAbsence e || e = .manyLinks || e = .nameTooLong then 127 else 126

/-- The words of a shell for a program that cannot be started. -/
def refusalReason (e : Errno) : Text :=
  if isAbsence e then text "not found" else e.reason

/-- The process of a shell becomes the first program among some paths, or ends
with a complaint. -/
def becomeAmong (runs : Runs) (words paths : List Text) : Exec Unit := do
  Exec.update fun p => { p with bindings := Exec.inTable p.bindings }
  match (← get).planAmong words .noEntry paths with
  | .ok plan => perform runs programLimit plan
  | .error e =>
    Exec.complainHere (words.headD [] ++ text ": " ++ refusalReason e)
    Exec.setStatus (refusalStatus e)
  throw .exit

end Shell

end AgentWorkshop
