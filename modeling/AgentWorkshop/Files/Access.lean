import AgentWorkshop.Failure
import AgentWorkshop.Files.Tree

/-!
# Access to files by path

A path is followed name by name from the top or from a working directory:
every name but the last has to lead to a directory, and `..` leads back up.
`Files.locate` says where that ends. Actions on a tree are `FileAction`s; one
that fails keeps what it did before.
-/

namespace AgentWorkshop

/-- An action on a tree of files. -/
abbrev FileAction := EStateM Failure FileTree

namespace Files

/-- The greatest number of bytes in a name. -/
def nameLimit : Nat := 255

/-- The number of bytes from which on a path is too long. -/
def pathLimit : Nat := 4096

/-- The number of bytes of a text. -/
def byteCount (t : Text) : Nat :=
  (t.flatMap Utf8.encodePoint).length

/-- The name that leads to the directory above. -/
def up : Text := text ".."

/-- Where a path leads. -/
inductive Place where
  /-- To an entry. -/
  | taken (address : Address) (entry : Entry)
  /-- To a free name in a directory. -/
  | free (address : Address)

/-- Follows names from a directory. -/
def follow (t : FileTree) (directory : Address) : List Text → Except Errno Place
  | [] => .ok (.taken directory .directory)
  | name :: rest =>
    if name = up then follow t directory.dropLast rest
    else if nameLimit < byteCount name then .error .nameTooLong
    else
      let address := directory ++ [name]
      match t.get? address, rest with
      | some entry, [] => .ok (.taken address entry)
      | none, [] => .ok (.free address)
      | some .directory, rest => follow t address rest
      | some (.file _), _ => .error .notDirectory
      | none, _ => .error .noEntry

/-- Where a path leads from a working directory. -/
def locate (t : FileTree) (directory : Address) (p : Path) : Except Errno Place :=
  if pathLimit ≤ byteCount p.toText then .error .nameTooLong
  else
    match p.anchor with
    | .here => follow t directory p.parts
    | _ => follow t [] p.parts

/-- The failure of an access to a path. -/
def failure (e : Errno) (p : Path) : Failure :=
  .system (.ofErrno e p.toText)

/-- Where a path leads; failures name the path. -/
def find (directory : Address) (p : Path) : FileAction Place := do
  if p.hasNull then throw .nullByte
  match locate (← get) directory p with
  | .ok place => pure place
  | .error e => throw (failure e p)

/-- The path leads to a directory. A name that is too long is still a failure. -/
def isDirectory (directory : Address) (p : Path) : FileAction Bool := do
  if p.hasNull then return false
  match locate (← get) directory p with
  | .ok (.taken _ .directory) => pure true
  | .ok _ => pure false
  | .error .nameTooLong => throw (failure .nameTooLong p)
  | .error _ => pure false

/-- The contents of a file. -/
def read (directory : Address) (p : Path) : FileAction Bytes := do
  match ← find directory p with
  | .taken _ (.file contents) => pure contents
  | .taken _ .directory => throw (failure .isDirectory p)
  | .free _ => throw (failure .noEntry p)

/-- The address of the file that writing to a path would fill. -/
def target (directory : Address) (p : Path) : FileAction Address := do
  match ← find directory p with
  | .taken _ .directory => throw (failure .isDirectory p)
  | .taken address (.file _) => pure address
  | .free address => pure address

/-- Writes a file, over an earlier one. -/
def write (directory : Address) (p : Path) (contents : Bytes) : FileAction Unit := do
  let address ← target directory p
  modify (·.fill address contents)

/-- Writes a text as UTF-8. The file is emptied first, so a text with
surrogates leaves it empty. -/
def writeText (directory : Address) (p : Path) (t : Text) : FileAction Unit := do
  let address ← target directory p
  modify (·.fill address [])
  match Utf8.encode t with
  | .ok contents => modify (·.fill address contents)
  | .error run => throw (.unencodable run)

/-- Reads UTF-8 as text, with a line feed for each kind of line ending. -/
def readText (directory : Address) (p : Path) : FileAction Text := do
  match Utf8.decode (← read directory p) with
  | .ok t => pure t.normalizeNewlines
  | .error piece => throw (.undecodable piece)

/-! ## Directories -/

/-- Makes one directory. -/
def makeDirectory (directory : Address) (p : Path) : FileAction Unit := do
  match ← find directory p with
  | .taken _ _ => throw (failure .exists p)
  | .free address => modify (·.set address .directory)

/-- Passes over a failure of the operating system if `existing` directories
are allowed and the path leads to one. -/
def allowExisting (existing : Bool) (directory : Address) (p : Path) (f : Failure) :
    FileAction Unit := do
  match f with
  | .system _ => if existing && (← isDirectory directory p) then pure () else throw f
  | _ => throw f

/-- How many levels of directories are made at most. -/
def madeLimit : Nat := 988

/-- Makes the directory of a path whose names are given from the last to the
first, and those above it, so many levels at most. -/
def makeDirectoriesUp (existing : Bool) (directory : Address) (anchor : Anchor) (levels : Nat) :
    List Text → FileAction Unit
  | [] =>
    let p : Path := ⟨anchor, []⟩
    tryCatch (makeDirectory directory p) (allowExisting existing directory p)
  | name :: above =>
    let p : Path := ⟨anchor, (name :: above).reverse⟩
    tryCatch (makeDirectory directory p) fun f => do
      if f.isMissingEntry then
        if levels ≤ 1 then throw .deepPath
        makeDirectoriesUp true directory anchor (levels - 1) above
        tryCatch (makeDirectory directory p) (allowExisting existing directory p)
      else allowExisting existing directory p f

/-- Makes a directory and those above it. If `existing` is set, the directory
may be there already; those above it always may. -/
def makeDirectories (existing : Bool) (directory : Address) (p : Path) : FileAction Unit :=
  makeDirectoriesUp existing directory p.anchor madeLimit p.parts.reverse

end Files

end AgentWorkshop
