import AgentWorkshop.Shell.Machine

/-!
# Paths of a process

A path is a text of bytes, followed name by name from the top or from the
directory of the process. Links lead on; `Exec.resolve` says where that ends. The
steps that change the tree keep what is open up to date.
-/

namespace AgentWorkshop

namespace Shell

/-- What stands at the end of a path. -/
inductive Kind where
  | directory
  | file
  | link (target : Text)
  deriving DecidableEq, Repr

/-- Where a path leads. -/
inductive Spot where
  | taken (address : Address) (kind : Kind)
  /-- To a free name; a path may ask for a directory there. -/
  | free (address : Address) (asDirectory : Bool)
  deriving DecidableEq, Repr

/-- The programs that are installed. -/
def programNames : List Text :=
  ["[", "base64", "basename", "cat", "chmod", "cksum", "cmp", "comm", "cp", "cut", "dash",
    "diff", "dirname", "echo", "egrep", "env", "expand", "expr", "factor", "false", "fgrep",
    "find", "fold", "grep", "head", "id", "ln", "ls", "md5sum", "mkdir", "mktemp", "mv", "nice",
    "nl", "nohup", "od", "paste", "printenv", "printf", "pwd", "readlink", "realpath", "rev",
    "rgrep", "rm", "rmdir", "sed", "seq", "sh", "sha1sum", "sha224sum", "sha256sum", "sha384sum",
    "sha512sum", "sleep", "sort", "stat", "sync", "tac", "tail", "tee", "test", "timeout",
    "touch", "tr", "true", "truncate", "tty", "uname", "uniq", "unlink", "wc", "which", "whoami",
    "xargs", "yes"].map text

/-- The directories in which programs stand. -/
def programDirectories : List Address :=
  [[text "usr", text "bin"], [text "bin"]]

/-- A program stands at the address. -/
def isProgram (address : Address) : Bool :=
  programDirectories.contains address.dropLast &&
    address.getLast?.any fun name => programNames.contains name

/-- The devices. -/
def devices : List Address :=
  (["null", "zero", "full", "tty", "random", "urandom", "stdin", "stdout", "stderr"].map fun name =>
    [text "dev", text name])

namespace Machine

/-- What stands at an address. -/
def kind? (m : Machine) (address : Address) : Option Kind :=
  match m.links.lookup address with
  | some target => some (.link target)
  | none =>
    match m.files.get? address with
    | some .directory => some .directory
    | some (.file _) => some .file
    | none => if isProgram address || devices.contains address then some .file else none

/-- The names of a path. -/
def namesOf (path : Text) : List Text :=
  (path.splitOn ('/' : CodePoint)).filter fun name => !name.isEmpty

/-- The greatest number of links on a path. -/
def linkLimit : Nat := 40

/-- Follows names from a directory. With `follows`, a link at the end leads on. -/
def walk (m : Machine) (follows : Bool) :
    (fuel links : Nat) → (directory : Address) → List Text → Except Errno Spot
  | 0, _, _, _ => .error .manyLinks
  | _, _, directory, [] => .ok (.taken directory .directory)
  | fuel + 1, links, directory, name :: rest =>
    if name = text "." then walk m follows fuel links directory rest
    else if name = text ".." then walk m follows fuel links directory.dropLast rest
    else if Files.nameLimit < name.length then .error .nameTooLong
    else
      let address := directory ++ [name.widen]
      match m.kind? address with
      | some .directory => walk m follows fuel links address rest
      | some .file => if rest.isEmpty then .ok (.taken address .file) else .error .notDirectory
      | some (.link target) =>
        if rest.isEmpty && !follows then .ok (.taken address (.link target))
        else
          match links, target with
          | 0, _ => .error .manyLinks
          | _, [] => .error .noEntry
          | links + 1, c :: _ =>
            walk m follows fuel links (if c = '/' then [] else directory) (namesOf target ++ rest)
      | none => if rest.isEmpty then .ok (.free address false) else .error .noEntry

/-- Where a path leads from a directory. -/
def resolveFrom (m : Machine) (directory : Address) (follows : Bool) (path : Text) :
    Except Errno Spot :=
  match path with
  | [] => .error .noEntry
  | c :: _ =>
    if Files.pathLimit ≤ path.length then .error .nameTooLong
    else
      let wantsDirectory := path.getLast? = some ('/' : CodePoint)
      let start := if c = '/' then [] else directory
      match walk m (follows || wantsDirectory) 100000 linkLimit start (namesOf path) with
      | .ok (.taken address .file) =>
        if wantsDirectory then .error .notDirectory else .ok (.taken address .file)
      | .ok (.free address _) => .ok (.free address wantsDirectory)
      | found => found

/-- The permissions of what stands at an address. -/
def modeOf (m : Machine) (address : Address) : Nat :=
  match m.modes.lookup address with
  | some mode => mode
  | none =>
    match m.kind? address with
    | some .directory => if address = [text "tmp"] then 0o1777 else 0o755
    | some (.link _) => 0o777
    | _ => if isProgram address then 0o755 else if devices.contains address then 0o666 else 0o644

/-- The file at an address may be run. -/
def isRunnable (m : Machine) (address : Address) : Bool :=
  m.modeOf address &&& 0o111 ≠ 0

/-- The contents of the file at an address. -/
def contentsAt (m : Machine) (address : Address) : Bytes :=
  match m.files.get? address with
  | some (.file contents) => contents
  | _ => []

/-- The names in a directory, in the order of their bytes. -/
def namesIn (m : Machine) (directory : Address) : List Text :=
  let linked := m.links.filterMap fun (address, _) =>
    if address.dropLast = directory then address.getLast? else none
  ((m.files.names directory ++ linked).map Text.narrow).mergeSort Text.precedes

end Machine

namespace Exec

/-- Where a path leads. -/
def resolve (path : Text) (follows : Bool := true) : Exec (Except Errno Spot) := do
  let m ← get
  return m.resolveFrom m.process.directory follows path

/-- What a path leads to. -/
def kindOf? (path : Text) (follows : Bool := true) : Exec (Option Kind) := do
  match ← resolve path follows with
  | .ok (.taken _ kind) => return some kind
  | _ => return none

/-- A path leads to a directory. -/
def isDirectory (path : Text) : Exec Bool := do
  return (← kindOf? path) = some .directory

/-! ## Changing the tree -/

/-- Gives the permissions of a new entry, of which the mask takes some away. -/
def setNewMode (address : Address) (mode : Nat) : Exec Unit :=
  modify fun m =>
    let others := m.modes.filter fun (a, _) => a ≠ address
    let m := { m with modes := others }
    let mode := mode - (mode &&& m.process.mask)
    if m.modeOf address = mode then m else { m with modes := (address, mode) :: others }

/-- Sets permissions. -/
def setMode (address : Address) (mode : Nat) : Exec Unit :=
  modify fun m => { m with modes := (address, mode) :: m.modes.filter fun (a, _) => a ≠ address }

/-- Fills a file, which may be a new one. -/
def putFile (address : Address) (contents : Bytes) : Exec Unit := do
  let isNew := ((← get).kind? address).isNone
  if isNew || !devices.contains address then
    modify fun m => { m with files := m.files.fill address contents }
  if isNew then setNewMode address 0o666

/-- Makes a directory. -/
def putDirectory (address : Address) (mode : Nat := 0o777) : Exec Unit := do
  modify fun m => { m with files := m.files.set address .directory }
  setNewMode address mode

/-- Makes a link. -/
def putLink (address : Address) (target : Text) : Exec Unit :=
  modify fun m => { m with links := m.links ++ [(address, target)] }

/-- Removes an entry and all below it. What is open stays open. -/
def remove (address : Address) : Exec Unit :=
  modify fun m =>
    let isGone (a : Address) : Bool := address.isPrefixOf a
    { m with
      channels := m.channels.map fun c => match c with
        | .file a offset _ _ _ => if isGone a then .detached (m.contentsAt a) offset else c
        | _ => c
      files := m.files.eraseAll address
      links := m.links.filter fun (a, _) => !isGone a
      modes := m.modes.filter fun (a, _) => !isGone a }

/-- Moves an entry and all below it to another address, which is free. -/
def move (source goal : Address) : Exec Unit :=
  modify fun m =>
    let moved (a : Address) : Address := match source.isPrefixOf? a with
      | some below => goal ++ below
      | none => a
    { m with
      channels := m.channels.map fun c => match c with
        | .file a offset reads writes appends => .file (moved a) offset reads writes appends
        | _ => c
      files := ⟨m.files.entries.map fun (a, e) => (moved a, e)⟩
      links := m.links.map fun (a, target) => (moved a, target)
      modes := m.modes.map fun (a, mode) => (moved a, mode) }

/-- Where a file is that a path leads to, which is made if it is missing. -/
def fileToWrite (path : Text) : Exec (Except Errno Address) := do
  match ← resolve path with
  | .error e => return .error e
  | .ok (.taken address .file) => return .ok address
  | .ok (.taken _ .directory) => return .error .isDirectory
  | .ok (.taken _ (.link _)) => return .error .manyLinks
  | .ok (.free address asDirectory) =>
    if asDirectory then return .error .isDirectory
    else if address.dropLast = [text "proc"] then return .error .noEntry
    else
      putFile address []
      return .ok address

end Exec

end Shell

end AgentWorkshop
