import AgentWorkshop.Proofs.Chat.Calls
import AgentWorkshop.Proofs.Chat.Contract

/-!
# Conversations that break off

A conversation goes on to the next line unless a turn breaks off. `Session.turns`
collects the turns that a conversation begins, and it breaks off exactly if one of
them is stuck (`handleAll_raises_iff`). A history that was once kept with a
surrogate stays so, and every later turn that could write its request is stuck
(`Orderly.raises_iff_of_not_writable`); as long as nothing is kept with one, only
a path deeper than directories are made is in the way (`handleAll_ok`).
-/

namespace AgentWorkshop

namespace Session

variable {s : Session} {w : Workshop} {m : Text} {inputs : List Input}

/-! ## Stuck turns -/

/-- A turn whose path is no deeper than directories are made is not stuck while its
history can be written down. -/
theorem not_stuck_of_writable (hp : s.settings.inputPath.hasNull = false)
    (hdepth : s.settings.inputPath.parts.length ≤ Files.madeLimit)
    (hwritable : (asked w m).Writable) : ¬ s.Stuck w m := by
  rintro (⟨t, hdeep⟩ | ⟨-, hbad⟩)
  · rcases Files.prepare_error hp hdeep with ⟨e, he⟩ | ⟨-, hlong⟩
    · cases he
    · omega
  · exact hbad hwritable

/-- **A history with a surrogate breaks off every turn** whose request the operating system
does not refuse. -/
theorem Orderly.raises_iff_of_not_writable (o : s.Orderly w m)
    (hbad : ¬ (asked w m).Writable) :
    (∃ f w', s.turn m w = .error f w') ↔ ¬ s.CannotWrite w m := by
  rw [o.raises_iff]
  have hscalar := History.isScalar_print_payload (asked w m)
  rcases request_cases (s := s) (w := w) (m := m) o.inputPath with
    ⟨t, h, -⟩ | ⟨e, t, h, hstuck⟩ | ⟨f, t, h, hends, hstuck⟩
  · obtain ⟨bytes, hencode, -⟩ := Files.contents_of_saveJson h
    exact absurd (hscalar.1 (Utf8.encode_eq_ok_iff.1 hencode).1) hbad
  · exact iff_of_false hstuck fun hcan => hcan ⟨e, t, h⟩
  · refine iff_of_true hstuck ?_
    rintro ⟨e, t', h'⟩
    rw [h] at h'
    cases h'
    cases hends

/-! ## One line after the other -/

/-- The workshop once the user was told how to go about it. -/
def greeted (w : Workshop) : Workshop :=
  { w with shown := w.shown ++ [.line help] }

/-- The workshop when a line is read. -/
def prompted (w : Workshop) : Workshop :=
  { w with shown := w.shown ++ [.input prompt] }

/-- The turns that a list of inputs begins, each with the workshop it begins in. -/
def turnsFrom (s : Session) : List Input → Workshop → List (Workshop × Text)
  | .line t :: rest, w =>
    (if requestOf t = .message then [(prompted w, t)] else []) ++
      match s.handle t (prompted w) with
      | .ok true w => s.turnsFrom rest w
      | .ok false _ => []
      | .error _ _ => []
  | .interruption :: _, _ => []
  | [], _ => []

/-- The turns that a conversation begins, likewise. -/
def turns (s : Session) (inputs : List Input) (w : Workshop) : List (Workshop × Text) :=
  s.turnsFrom inputs (greeted w)

variable {t : Text} {rest : List Input}

theorem converse_apply : s.converse inputs w = s.handleAll inputs (greeted w) := by
  rw [converse, Step.bind_ok (Action.print_apply _ _), greeted]

theorem handleAll_line : s.handleAll (.line t :: rest) w =
    match s.handle t (prompted w) with
    | .ok true w => s.handleAll rest w
    | .ok false w => .ok rest w
    | .error f w => .error f w := by
  rw [handleAll, Step.bind_ok (Action.display_apply _ _), Step.bind_apply, prompted]
  rcases s.handle t { w with shown := w.shown ++ [.input prompt] } with ⟨_ | _, w'⟩ | _ <;> rfl

section
variable {answer : Option Answer} {f : Failure} {w' : Workshop} (hm : requestOf t = .message)
include hm

/-- After a turn that does not break off the next inputs are worked through. -/
theorem handleAll_of_turn_ok (h : s.turn t (prompted w) = .ok answer w') :
    s.handleAll (.line t :: rest) w = s.handleAll rest w' := by
  rw [handleAll_line, handle_message hm, h]

theorem turnsFrom_of_turn_ok (h : s.turn t (prompted w) = .ok answer w') :
    s.turnsFrom (.line t :: rest) w = (prompted w, t) :: s.turnsFrom rest w' := by
  rw [turnsFrom, if_pos hm, handle_message hm, h]
  rfl

/-- A turn that breaks off is the last one. -/
theorem handleAll_of_turn_error (h : s.turn t (prompted w) = .error f w') :
    s.handleAll (.line t :: rest) w = .error f w' := by
  rw [handleAll_line, handle_message hm, h]

theorem turnsFrom_of_turn_error (h : s.turn t (prompted w) = .error f w') :
    s.turnsFrom (.line t :: rest) w = [(prompted w, t)] := by
  rw [turnsFrom, if_pos hm, handle_message hm, h]
  rfl

end

/-- Any other line is no turn, and either ends the conversation or goes on with what is
kept as it was or forgotten. -/
theorem handleAll_aside (s : Session) (w : Workshop) (rest : List Input)
    (hm : requestOf t ≠ .message) :
    ((∃ w', s.handleAll (.line t :: rest) w = .ok rest w') ∧
      s.turnsFrom (.line t :: rest) w = []) ∨
    ∃ w', s.handleAll (.line t :: rest) w = s.handleAll rest w' ∧
      s.turnsFrom (.line t :: rest) w = s.turnsFrom rest w' ∧
      (w'.history = w.history ∨ w'.history = []) := by
  rw [handleAll_line, turnsFrom, if_neg hm]
  rcases handle_cases s t (prompted w) with h | ⟨-, events, h⟩ | ⟨-, -, b, events, h⟩
  · exact absurd h hm
  · rw [h]
    exact .inr ⟨_, rfl, rfl, .inr rfl⟩
  · rw [h]
    cases b with
    | true => exact .inr ⟨_, rfl, rfl, .inl rfl⟩
    | false => exact .inl ⟨⟨_, rfl⟩, rfl⟩

/-- **A list of inputs breaks off exactly if one of the turns that it begins is stuck.** -/
theorem handleAll_raises_iff (o : ∀ p ∈ s.turnsFrom inputs w, s.Orderly p.1 p.2) :
    (∃ f w', s.handleAll inputs w = .error f w') ↔
      ∃ p ∈ s.turnsFrom inputs w, s.Stuck p.1 p.2 := by
  -- The workshop has to vary: each line is handled where the one before it led.
  induction inputs generalizing w with
  | nil =>
    refine iff_of_false ?_ (by simp [turnsFrom])
    rintro ⟨f, w', h⟩
    cases h
  | cons input rest ih =>
    cases input with
    | interruption =>
      refine iff_of_false ?_ (by simp [turnsFrom])
      rintro ⟨f, w', h⟩
      cases h
    | line t =>
      by_cases hm : requestOf t = .message
      · cases hturn : s.turn t (prompted w) with
        | error f w' =>
          rw [turnsFrom_of_turn_error hm hturn] at o ⊢
          have hstuck := (o _ List.mem_cons_self).raises_iff.1 ⟨f, w', hturn⟩
          refine iff_of_true ⟨f, w', ?_⟩ ⟨_, List.mem_cons_self, hstuck⟩
          exact handleAll_of_turn_error hm hturn
        | ok answer w' =>
          rw [turnsFrom_of_turn_ok hm hturn] at o ⊢
          have hstuck : ¬ s.Stuck (prompted w) t := by
            rw [← (o _ List.mem_cons_self).raises_iff]
            rintro ⟨f, w'', h⟩
            rw [hturn] at h
            cases h
          rw [handleAll_of_turn_ok hm hturn, ih fun p hp => o p (List.mem_cons_of_mem _ hp)]
          simp [hstuck]
      · rcases handleAll_aside s w rest hm with
          ⟨⟨w', h⟩, hturns⟩ | ⟨w', h, hturns, -⟩
        · rw [h, hturns]
          refine iff_of_false ?_ (by simp)
          rintro ⟨f, w'', h'⟩
          cases h'
        · rw [hturns] at o ⊢
          rw [h]
          exact ih o

/-- What a turn keeps is writable if the history, the message and the answer are. -/
theorem Orderly.writable (o : s.Orderly w m) (hhistory : w.history.Writable)
    (hmessage : (History.kept m).IsScalar) {answer : Option Answer} {w' : Workshop}
    (hturn : s.turn m w = .ok answer w')
    (hanswer : ∀ a ∈ answer, (History.kept a.content).IsScalar) : w'.history.Writable := by
  have hasked : (asked w m).Writable :=
    History.writable_append.2 ⟨hhistory, History.writable_singleton.2 hmessage⟩
  cases answer with
  | none =>
    rw [o.history_of_failed hturn]
    exact hasked
  | some a =>
    rw [(o.answer_of_answered hturn).2]
    exact History.writable_append.2 ⟨hasked, History.writable_singleton.2 (hanswer a rfl)⟩

/-- **Inputs are worked through to the end** if everything that is kept can be written. -/
theorem handleAll_ok (hdepth : s.settings.inputPath.parts.length ≤ Files.madeLimit)
    (o : ∀ p ∈ s.turnsFrom inputs w, s.Orderly p.1 p.2) (hhistory : w.history.Writable)
    (hmessages : ∀ p ∈ s.turnsFrom inputs w, (History.kept p.2).IsScalar)
    (hanswers : ∀ p ∈ s.turnsFrom inputs w, ∀ a w', s.turn p.2 p.1 = .ok (some a) w' →
      (History.kept a.content).IsScalar) :
    ∃ rest w', s.handleAll inputs w = .ok rest w' := by
  induction inputs generalizing w with
  | nil => exact ⟨_, _, rfl⟩
  | cons input rest ih =>
    cases input with
    | interruption => exact ⟨_, _, rfl⟩
    | line t =>
      by_cases hm : requestOf t = .message
      · cases hturn : s.turn t (prompted w) with
        | error f w' =>
          rw [turnsFrom_of_turn_error hm hturn] at o hmessages
          have ho := o _ List.mem_cons_self
          have hmessage := hmessages _ List.mem_cons_self
          have hasked : (asked (prompted w) t).Writable :=
            History.writable_append.2 ⟨hhistory, History.writable_singleton.2 hmessage⟩
          exact absurd (ho.raises_iff.1 ⟨f, w', hturn⟩)
            (not_stuck_of_writable ho.inputPath hdepth hasked)
        | ok answer w' =>
          rw [turnsFrom_of_turn_ok hm hturn] at o hmessages hanswers
          have hwritable : w'.history.Writable := by
            refine (o _ List.mem_cons_self).writable hhistory (hmessages _ List.mem_cons_self)
              hturn ?_
            rintro a rfl
            exact hanswers _ List.mem_cons_self a w' hturn
          rw [handleAll_of_turn_ok hm hturn]
          exact ih (fun p hp => o p (List.mem_cons_of_mem _ hp)) hwritable
            (fun p hp => hmessages p (List.mem_cons_of_mem _ hp))
            (fun p hp => hanswers p (List.mem_cons_of_mem _ hp))
      · rcases handleAll_aside s w rest hm with
          ⟨⟨w', h⟩, -⟩ | ⟨w', h, hturns, hkept⟩
        · exact ⟨rest, w', h⟩
        · rw [hturns] at o hmessages hanswers
          rw [h]
          refine ih o ?_ hmessages hanswers
          rcases hkept with hkept | hkept
          · rw [hkept]
            exact hhistory
          · simp [hkept, History.Writable]

end Session

end AgentWorkshop
