import AgentWorkshop.Failure

/-!
# What a run lets be seen

An `Event` is one visible act of a tool: something printed or asked at the
console, or a request sent over the network. Lines are markup.
-/

namespace AgentWorkshop

/-- How long, in seconds, a network client waits. -/
structure Patience where
  /-- For a connection. -/
  connect : Nat
  /-- For data to arrive, to be sent, or for a free connection. -/
  transfer : Nat
  deriving DecidableEq, Repr

/-- One visible act. -/
inductive Event where
  /-- A line of markup is printed. -/
  | line (markup : Text)
  /-- Markup is printed in a box of this style. -/
  | panel (body style : Text)
  /-- The spinner starts or changes its words. -/
  | status (words : Text)
  /-- A line is read after a prompt. -/
  | input (prompt : Text)
  /-- A question is asked, with an answer taken for granted and perhaps a choice. -/
  | ask (question usual : Text) (choices : Option (List Text))
  /-- The origin of a failure is printed. -/
  | trace (failure : Failure)
  /-- A network client is set up. -/
  | client (patience : Patience)
  /-- A document is requested. -/
  | fetch (address : Text)

end AgentWorkshop
