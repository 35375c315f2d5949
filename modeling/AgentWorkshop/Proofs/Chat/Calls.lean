import AgentWorkshop.Proofs.Chat.Turn

/-!
# Handling lines

A line is a message, which takes a turn, or it is something that at most forgets
the history and shows an event or two (`handle_cases`). A session lives through
`Call`s: between two of them the files may change and processes may come to
behave otherwise, and a call that fails is followed by the next one all the
same. `Session.calls` is where a list of calls leads.
-/

namespace AgentWorkshop

namespace Session

variable {s : Session} {w : Workshop} {line : Text}

/-! ## One line -/

/-- A message takes a turn, and the session goes on unless the turn breaks off. -/
theorem handle_message (h : requestOf line = .message) : s.handle line w =
    match s.turn line w with
    | .ok _ w => .ok true w
    | .error f w => .error f w := by
  rw [handle, h]
  simp only [Step.bind_apply]
  cases s.turn line w <;> rfl

/-- So it leaves what its turn leaves. -/
theorem after_handle_message (h : requestOf line = .message) :
    (s.handle line).after w = (s.turn line).after w := by
  rw [Action.after, Action.after, handle_message h]
  cases s.turn line w <;> rfl

/-- **What a line does.** It takes a turn; or it clears the history; or it shows
something at most. -/
theorem handle_cases (s : Session) (line : Text) (w : Workshop) :
    requestOf line = .message ∨
    (requestOf line = .clear ∧ ∃ events, s.handle line w =
      .ok true { w with history := [], shown := w.shown ++ events }) ∨
    (requestOf line ≠ .message ∧ requestOf line ≠ .clear ∧ ∃ b events, s.handle line w =
      .ok b { w with shown := w.shown ++ events }) := by
  cases h : requestOf line with
  | message => exact .inl rfl
  | clear =>
    refine .inr (.inl ⟨rfl, [Notice.warning (text "Conversation history cleared")], ?_⟩)
    rw [handle, h]
    rfl
  | exit =>
    refine .inr (.inr ⟨by simp, by simp, false, [], ?_⟩)
    rw [handle, h]
    simp
  | nothing =>
    refine .inr (.inr ⟨by simp, by simp, true, [], ?_⟩)
    rw [handle, h]
    simp
  | showHistory =>
    refine .inr (.inr ⟨by simp, by simp, true, [.line (text "[blue]Conversation History:[/blue]"),
      .line (Markup.escape w.history.render)], ?_⟩)
    rw [handle, h]
    simp only [Step.bind_ok (Action.print_apply _ _), Step.bind_ok (Step.get_apply _)]
    simp [Step.pure_apply]

/-! ## Many calls -/

/-- One call in the life of a session. -/
structure Call where
  line : Text
  /-- What became of the files since the call before. -/
  meanwhile : FileTree → FileTree
  /-- What processes do by now. -/
  runner : Nat → Runner

/-- The workshop in which a call is made. -/
def Call.enter (c : Call) (w : Workshop) : Workshop :=
  { w with files := c.meanwhile w.files, runner := c.runner }

/-- The workshop after a call, whether it failed or not. -/
def call (s : Session) (w : Workshop) (c : Call) : Workshop :=
  (s.handle c.line).after (c.enter w)

/-- A call with a message leads where its turn leads. -/
theorem call_message {c : Call} (h : requestOf c.line = .message) :
    s.call w c = (s.turn c.line).after (c.enter w) := by
  rw [call, after_handle_message h]

/-- The workshop after many calls. -/
def calls (s : Session) (w : Workshop) (cs : List Call) : Workshop :=
  cs.foldl s.call w

theorem calls_append (cs ds : List Call) : s.calls w (cs ++ ds) = s.calls (s.calls w cs) ds :=
  List.foldl_append

theorem calls_concat (cs : List Call) (c : Call) :
    s.calls w (cs ++ [c]) = s.call (s.calls w cs) c := by
  rw [calls_append]
  rfl

end Session

end AgentWorkshop
