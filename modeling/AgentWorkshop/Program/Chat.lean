import AgentWorkshop.Chat.Session

/-!
# The program `wasp-chat`

With arguments, which together are one message, the program takes one turn and
says by its exit status whether the agent answered. Without, it holds a
conversation.
-/

namespace AgentWorkshop

namespace ChatProgram

/-- Takes the turn or holds the conversation; the answer is the exit status. -/
def run (settings : ChatSettings) (arguments : List Text) (inputs : List Input) : Action Nat := do
  let session : Session := { settings, directory := none }
  match arguments with
  | [] => do
    let _ ← session.converse inputs
    pure 0
  | words =>
    match ← session.turn (List.intercalate (text " ") words) with
    | some _ => pure 0
    | none => pure 1

/-- The whole program; the answer is the exit status. -/
def start (env : Environment) (arguments : List Text) (inputs : List Input) : Action Nat := do
  let settings := Settings.ofEnvironment env
  match ← Action.attempt (run settings.chat arguments inputs) with
  | .ok status => pure status
  | .error f =>
    if f.isInterruption then pure 0
    else
      Action.displayAll (Notice.unhandled f settings.debug)
      pure 1

end ChatProgram

end AgentWorkshop
