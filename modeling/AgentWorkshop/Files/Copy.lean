import AgentWorkshop.Files.Access

/-!
# Copying files

`Files.copyTree` puts everything below one directory below another, level by
level, except entries with an ignored name; it lists those whose paths get too
long. `Files.copyFile` copies one file onto a path.
-/

namespace AgentWorkshop

namespace Files

/-- How many levels of directories are copied at most. -/
def levelLimit : Nat := 494

/-- The path that is too long to copy from one to the other. -/
def overlong? (source goal : Path) : Option Path :=
  [source, goal].find? fun p => decide (pathLimit ≤ byteCount p.toText)

/-- The path of a name in a directory. -/
def entryPath (directory : Path) (name : Text) : Path :=
  { directory with parts := directory.parts ++ [name] }

/-- The names in a directory that are copied. -/
def copiedNames (ignored : Text → Bool) (t : FileTree) (directory : Address) : List Text :=
  (t.names directory).reverse.filter fun name => !ignored name

/-- Copies what is below one directory to below another, which is made where it
is missing. A directory is listed before its copy is made, so a copy within it
goes down into itself. The answer lists what was not copied. -/
def copyTree (ignored : Text → Bool) : (levels : Nat) → (source goal : Path) →
    (sourceAddress goalAddress : Address) → FileAction (List EntryFault)
  | 0, _, _, _, _ => throw .deepTree
  | levels + 1, source, goal, sourceAddress, goalAddress => do
    let listed ← get
    if (listed.get? goalAddress).isNone then modify (·.set goalAddress .directory)
    let faults ← (copiedNames ignored listed sourceAddress).mapM fun name => do
      let below := entryPath source name
      let target := entryPath goal name
      match overlong? below target with
      | some p => return [⟨below, target, .ofErrno .nameTooLong p.toText⟩]
      | none =>
        match listed.get? (sourceAddress ++ [name]) with
        | some (.file contents) =>
          modify (·.set (goalAddress ++ [name]) (.file contents))
          return []
        | _ => copyTree ignored levels below target (sourceAddress ++ [name]) (goalAddress ++ [name])
    return faults.flatten

/-- Both paths lead to one entry. -/
def sameEntry (directory : Address) (p q : Path) (t : FileTree) : Bool :=
  match locate t directory p, locate t directory q with
  | .ok (.taken a _), .ok (.taken b _) => a = b
  | _, _ => false

/-- Copies a file. Its own path is refused as a goal. -/
def copyFile (directory : Address) (source goal : Path) : FileAction (Except CopyFault Unit) := do
  if source.hasNull then throw .nullByte
  if sameEntry directory source goal (← get) then return .error (.same source goal)
  tryCatch
    (do
      let contents ← read directory source
      write directory goal contents
      pure (.ok ()))
    fun
      | .system e => pure (.error (.system e))
      | f => throw f

end Files

end AgentWorkshop
