import AgentWorkshop.Workshop

/-!
# Newer releases

`Release.latest` asks the package index for the published version of the
tools. A broken network, an answer other than 200 and a document that does not
name a version all count as no answer; `Release.check` tells the user about any
version but the present one.
-/

namespace AgentWorkshop

/-- How a request over the network fails. -/
inductive NetworkFault where
  /-- On the way to the server or back. -/
  | transport
  /-- For a value that is not acceptable. -/
  | value
  /-- For another cause. -/
  | other (failure : Failure)

/-- What comes back for a request over the network. -/
inductive Reply where
  | document (status : Int) (body : Bytes)
  | fault (f : NetworkFault)

namespace Release

/-- The version of these tools. -/
def present : Text := text "1.0.0"

/-- How long to wait for the index. -/
def patience : Patience := { connect := 3, transfer := 5 }

/-- The address of what the index knows about a distribution. -/
def address (distribution : Text) : Text :=
  text "https://pypi.org/pypi/" ++ distribution ++ text "/json"

/-- The greatest length of an address. -/
def addressLimit : Nat := 65536

/-- The code point is an ASCII control, which no address may contain. -/
def isControl (c : CodePoint) : Bool :=
  decide (c.val < 0x20) || c.val = 0x7F

/-- Why an address is refused. -/
def addressFault? (url : Text) : Option Failure :=
  if addressLimit < url.length then some .longAddress
  else
    match url.dropWhile fun c => !isControl c with
    | c :: _ => some (.badAddress c (url.takeWhile fun c => !isControl c).length)
    | [] => none

/-- The version that a document of the index names. -/
def versionOf (document : Json) : Option Text :=
  ((document.member (text "info")).member (text "version")).text?

/-- The version that a reply tells, if it tells one. -/
def versionIn : Reply → Except Failure (Option Text)
  | .fault (.other f) => .error f
  | .fault _ => .ok none
  | .document status body =>
    if status ≠ 200 then .ok none
    else
      match Json.readDocument body with
      | .ok v => .ok (versionOf v)
      | .error .malformed => .ok none
      | .error (.tooDeep container) => .error (.tooDeep container)

/-- Asks for the latest version, given what comes back. -/
def latest (reply : Reply) (distribution : Text) : Action (Option Text) := do
  let url := address distribution
  Action.display (.client patience)
  Action.display (.fetch url)
  match addressFault? url with
  | some f => throw f
  | none =>
    match versionIn reply with
    | .ok version => pure version
    | .error f => throw f

/-- Tells the user if another version is out; the answer is whether it did. -/
def check (reply : Reply) (current distribution : Text) : Action Bool := do
  match ← latest reply distribution with
  | none => pure false
  | some version =>
    if version = current then pure false
    else
      Action.print (text "\n[yellow]New version available! " ++ current ++ text " -> " ++
        version ++ text "[/yellow]")
      Action.print (text "[cyan]Run: pip install --upgrade " ++ distribution ++
        text " to update[/cyan]\n")
      pure true

end Release

end AgentWorkshop
