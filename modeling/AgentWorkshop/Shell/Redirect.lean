import AgentWorkshop.Shell.Expansion

/-!
# Redirections

The words of all redirections of a command are expanded before the first one is
made. A redirection that cannot be made is an error of the script.
-/

namespace AgentWorkshop

namespace Shell

/-- A redirection whose words are expanded. -/
inductive Redirection where
  | file (descriptor : Nat) (opening : Opening) (path : Text)
  /-- The stream of another descriptor, or none at all. -/
  | duplicate (descriptor : Nat) (source : Option Nat)
  | document (descriptor : Nat) (contents : Word)

namespace Redirection

/-- The descriptor that is redirected. -/
def descriptor : Redirection → Nat
  | file d _ _ | duplicate d _ | document d _ => d

/-- A descriptor becomes a duplicate of itself. -/
def isIdle : Redirection → Bool
  | duplicate d (some source) => d = source
  | _ => false

end Redirection

/-- The words for a failure to open or to make a file. -/
def openReason (makes : Bool) (e : Errno) : Text :=
  match e with
  | .noEntry | .notDirectory => text (if makes then "Directory nonexistent" else "No such file")
  | e => e.reason

namespace Exec

/-- Expands the words of a redirection. -/
def prepare (outputOf : Script → Exec Text) : Redirect → Exec Redirection
  | .file descriptor opening path => return .file descriptor opening (← textOf outputOf path)
  | .duplicate descriptor target => do
    let refuse : Exec Redirection := do
      update fun p => { p with line := p.readTo }
      fail (text "Syntax error: Bad fd number")
    match ← textOf outputOf target with
    | [c] =>
      if c.isAsciiDigit then return .duplicate descriptor (some (c.val - 0x30))
      else if c = '-' then return .duplicate descriptor none
      else refuse
    | _ => refuse
  | .document descriptor number => do
    return .document descriptor (((← get).documents.lookup number).getD [])

/-- A present file is protected from being written anew. -/
def isProtected (path : Text) : Exec Bool := do
  if !(← hasOption 'C') then return false
  match ← resolve path with
  | .ok (.taken address .file) => return !devices.contains address
  | _ => return false

/-- Makes a redirection. A descriptor that has been set aside is closed by the time it
becomes a duplicate, so that complaints about that cannot go there. -/
def redirect (outputOf : Script → Exec Text) (isAside : Bool) : Redirection → Exec Unit
  | .file descriptor opening path => do
    let refuse (e : Errno) : Exec Unit :=
      let verb := if opening = .read then "cannot open " else "cannot create "
      fail (text verb ++ path ++ text ": " ++ openReason (opening ≠ .read) e)
    if opening = .write && (← isProtected path) then refuse .exists
    match ← openFile opening path with
    | .ok id => attach descriptor id
    | .error e => refuse e
  | .duplicate descriptor none => close descriptor
  | .duplicate descriptor (some source) => do
    if source = descriptor then return
    match (← process).streams.lookup source with
    | some id => attach descriptor id
    | none =>
      if isAside then close descriptor
      fail (Text.ofNat source ++ text ": " ++ Errno.reason .badDescriptor)
  | .document descriptor contents => do
    let t ← textOf outputOf contents { hasTilde := false }
    let pieces := if t.isEmpty then [] else [(0, t.toBytes)]
    attach descriptor (← register (.supply pieces 0 false))

/-- Makes redirections, which set the descriptors aside if they are to be taken back.
Answers how the descriptors were before, and whether all could be made. -/
def redirectAll (outputOf : Script → Exec Text) (setsAside : Bool) (rs : List Redirection) :
    Exec (List (Nat × Option Nat) × Bool) := do
  let before := (← process).streams
  let saved := (rs.filter fun r => !r.isIdle).map fun r =>
    (r.descriptor, before.lookup r.descriptor)
  try
    rs.zipIdx.forM fun (r, i) =>
      let isFirst := (rs.take i).all fun earlier =>
        earlier.descriptor ≠ r.descriptor || earlier.isIdle
      redirect outputOf (setsAside && isFirst) r
    return (saved, true)
  catch
    | .failed => return (saved, false)
    | stop => throw stop

/-- Takes redirections back. -/
def restore (saved : List (Nat × Option Nat)) : Exec Unit :=
  saved.forM fun (descriptor, id) =>
    match id with
    | some id => attach descriptor id
    | none => close descriptor

end Exec

end Shell

end AgentWorkshop
