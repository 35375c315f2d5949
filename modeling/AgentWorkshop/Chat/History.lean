import AgentWorkshop.Failure
import AgentWorkshop.Json.Printer

/-!
# The history of a conversation

A `History` is the list of its messages, oldest first. `History.append?` adds
one and refuses contents that are no text and roles that nobody has; nothing
but `History.empty` takes messages away. An answer that is an object with a
text under `response` is kept as that text.
-/

namespace AgentWorkshop

/-- Who said something. -/
inductive Role where
  | user
  | assistant
  deriving DecidableEq, Repr

namespace Role

/-- The name of a role. -/
def toText : Role → Text
  | user => text "user"
  | assistant => text "assistant"

/-- The role of a name. -/
def ofText? (t : Text) : Option Role :=
  if t = text "user" then some user
  else if t = text "assistant" then some assistant
  else none

end Role

/-- One message of a conversation. -/
structure Message where
  role : Role
  content : Text
  deriving DecidableEq, Repr

namespace Message

/-- What is wrong with a value as a role. -/
def roleOf : Option Json → Except FieldFault Role
  | none => .error .missing
  | some (.string t) =>
    match Role.ofText? t with
    | some role => .ok role
    | none => .error .unknownRole
  | some _ => .error .unknownRole

/-- What is wrong with a value as a content. -/
def contentOf : Option Json → Except FieldFault Text
  | none => .error .missing
  | some (.string t) => .ok t
  | some _ => .error .notText

/-- The message of two fields. -/
def ofValues (role content : Option Json) : Except Failure Message :=
  match roleOf role, contentOf content with
  | .ok role, .ok content => .ok ⟨role, content⟩
  | .error r, .ok _ => .error (.badFields [(text "role", r)])
  | .ok _, .error c => .error (.badFields [(text "content", c)])
  | .error r, .error c => .error (.badFields [(text "role", r), (text "content", c)])

/-- The message of an object with the members `role` and `content`. -/
def ofFields (fields : Json) : Except Failure Message :=
  ofValues (fields.member? (text "role")) (fields.member? (text "content"))

/-- The message as JSON. -/
def toJson (m : Message) : Json :=
  .object [(text "role", .string m.role.toText), (text "content", .string m.content)]

end Message

/-- The messages of a conversation, oldest first. -/
abbrev History := List Message

namespace History

/-- The history before anything is said. -/
def empty : History := []

/-- The text to keep of a read value, if the value wraps one. -/
def wrapped? (v : Json) : Option Text :=
  match v.member? (text "response") with
  | some (.string []) => none
  | some (.string t) => some t
  | _ => none

/-- The text to keep of a content. -/
def unwrap (content : Text) : Except Failure Text :=
  match Json.read content with
  | .ok v => .ok ((wrapped? v).getD content)
  | .error .malformed => .ok content
  | .error (.tooDeep container) => .error (.tooDeep container)

/-- The message that appending a role and a content would add. -/
def newMessage (role content : Json) : Except Failure Message :=
  match content with
  | .string t => do
    let kept ← unwrap t
    Message.ofValues (some role) (some (.string kept))
  | v => .error (.notText v.kindName)

/-- The history with one message more. -/
def append? (h : History) (role content : Json) : Except Failure (Message × History) :=
  (newMessage role content).map fun m => (m, h ++ [m])

/-- The history after somebody said something. -/
def say (h : History) (role : Role) (content : Text) : Except Failure History :=
  (unwrap content).map fun kept => h ++ [⟨role, kept⟩]

/-- The lines of the messages, numbered from `n`. -/
def renderFrom (n : Nat) : History → Text
  | [] => []
  | m :: rest =>
    Text.ofNat n ++ text ". " ++ m.role.toText ++ text ": " ++ m.content ++ text "\n" ++
      renderFrom (n + 1) rest

/-- The numbered messages, each ended by a line feed. -/
def render (h : History) : Text :=
  renderFrom 1 h

/-- The history as it is sent to the agent. -/
def payload (h : History) : Json :=
  .array (h.map Message.toJson)

end History

end AgentWorkshop
