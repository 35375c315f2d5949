import AgentWorkshop.Text.Utf8

/-!
# Trees of files

A tree gives each address, the list of names from the top directory down, at
most one entry. `FileTree.get?` is its only observer; the top directory is
always there, and links do not exist.
-/

namespace AgentWorkshop

/-- The names from the top directory down to an entry. -/
abbrev Address := List Text

/-- What stands at an address. -/
inductive Entry where
  | directory
  | file (contents : Bytes)
  deriving DecidableEq, Repr

/-- The entries below the top directory. -/
structure FileTree where
  /-- The entries with their addresses, each address once. -/
  entries : List (Address × Entry)

namespace FileTree

/-- The tree of the top directory alone. -/
def empty : FileTree := ⟨[]⟩

/-- The entry at an address. -/
def get? (t : FileTree) : Address → Option Entry
  | [] => some .directory
  | address => t.entries.lookup address

/-- The address of the file that is always empty, whatever is written to it. -/
def nullDevice : Address := [text "dev", text "null"]

/-- The tree without the entry at an address. -/
def erase (t : FileTree) (address : Address) : FileTree :=
  ⟨t.entries.filter fun e => e.1 ≠ address⟩

/-- The tree with an entry put at an address, in the place of an earlier one. -/
def set (t : FileTree) (address : Address) (entry : Entry) : FileTree :=
  ⟨(address, entry) :: (t.erase address).entries⟩

/-- The tree with contents written to the file at an address. -/
def fill (t : FileTree) (address : Address) (contents : Bytes) : FileTree :=
  if address = nullDevice then t else t.set address (.file contents)

/-- The entries below an address, with their addresses from there. -/
def under (t : FileTree) (top : Address) : List (Address × Entry) :=
  t.entries.filterMap fun (address, entry) =>
    match top.isPrefixOf? address with
    | some (name :: rest) => some (name :: rest, entry)
    | _ => none

/-- The tree without an address and all below it. -/
def eraseAll (t : FileTree) (top : Address) : FileTree :=
  ⟨t.entries.filter fun e => !top.isPrefixOf e.1⟩

/-- The names in a directory. -/
def names (t : FileTree) (directory : Address) : List Text :=
  (t.under directory).filterMap fun
    | ([name], _) => some name
    | _ => none

/-- The tree with the directories from below `top` down to `rest` made where
nothing stands. -/
def withDirectories (t : FileTree) (top : Address) : (rest : List Text) → FileTree
  | [] => t
  | name :: rest =>
    let address := top ++ [name]
    let t := match t.get? address with
      | some _ => t
      | none => t.set address .directory
    t.withDirectories address rest

/-- The tree with an entry put at an address and the directories above it. -/
def place (t : FileTree) (address : Address) (entry : Entry) : FileTree :=
  (t.withDirectories [] address.dropLast).set address entry

/-- The directories that are always there. -/
def standardDirectories : List Address :=
  [["dev"], ["tmp"], ["etc"], ["home"], ["root"], ["proc"], ["var"], ["var", "tmp"], ["bin"],
    ["sbin"], ["lib"], ["opt"], ["usr"], ["usr", "bin"], ["usr", "sbin"], ["usr", "lib"],
    ["usr", "share"], ["usr", "local"], ["usr", "local", "bin"]].map (·.map text)

/-- The tree that there is before anything is put into it. -/
def bare : FileTree :=
  (standardDirectories.foldl (·.set · .directory) empty).set nullDevice (.file [])

end FileTree

end AgentWorkshop
