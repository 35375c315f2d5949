import AgentWorkshop.Proofs.Chat.Aftermath
import AgentWorkshop.Proofs.Chat.Survival
import AgentWorkshop.Proofs.Text.Word

/-!
# A conversation handles its lines in order

The inputs of a conversation begin with lines that do not ask to exit, and an `Ending` comes
after them. A conversation in which no turn breaks off is those lines handled one after the
other, each after a prompt, and a last prompt for what ends it (`converse_eq`). Which lines are
commands is decided by what they spell (`requestOf_eq_exit_iff` and the like), commands and
blank lines touch neither files nor processes (`handle_aside`), and any other line takes a turn.
-/

namespace AgentWorkshop

namespace Session

variable {s : Session} {w w' : Workshop} {line : Text} {lines : List Text}

/-! ## What a line asks for -/

theorem isWord_exit : (text "/exit").IsWord :=
  ⟨by decide, by decide, by decide⟩

theorem isWord_clear : (text "/clear").IsWord :=
  ⟨by decide, by decide, by decide⟩

theorem isWord_history : (text "/history").IsWord :=
  ⟨by decide, by decide, by decide⟩

theorem requestOf_eq_exit_iff : requestOf line = .exit ↔ line.Spells (text "/exit") := by
  rw [← Text.lower_strip_eq_iff isWord_exit, requestOf]
  split_ifs <;> simp_all

theorem requestOf_eq_clear_iff : requestOf line = .clear ↔ line.Spells (text "/clear") := by
  rw [← Text.lower_strip_eq_iff isWord_clear, requestOf]
  have hexit : text "/exit" ≠ text "/clear" := by decide
  split_ifs <;> simp_all

theorem requestOf_eq_showHistory_iff :
    requestOf line = .showHistory ↔ line.Spells (text "/history") := by
  rw [← Text.lower_strip_eq_iff isWord_history, requestOf]
  have hexit : text "/exit" ≠ text "/history" := by decide
  have hclear : text "/clear" ≠ text "/history" := by decide
  split_ifs <;> simp_all

theorem requestOf_eq_nothing_iff : requestOf line = .nothing ↔ line.isBlank = true := by
  rw [← Text.strip_eq_nil_iff, ← Text.lower_eq_nil_iff, requestOf]
  have hexit : text "/exit" ≠ [] := by decide
  have hclear : text "/clear" ≠ [] := by decide
  have hhistory : text "/history" ≠ [] := by decide
  split_ifs <;> simp_all

/-! ## What a line does -/

/-- A line that asks to exit does nothing else. -/
theorem handle_exit (h : requestOf line = .exit) : s.handle line w = .ok false w := by
  rw [handle, h]
  rfl

/-- After any other line the session goes on, unless a turn breaks off. -/
theorem handle_ok (hexit : requestOf line ≠ .exit)
    (hturn : requestOf line = .message → ∃ answer w', s.turn line w = .ok answer w') :
    ∃ w', s.handle line w = .ok true w' := by
  cases h : requestOf line with
  | exit => exact absurd h hexit
  | clear | showHistory | nothing =>
    rw [handle, h]
    exact ⟨_, rfl⟩
  | message =>
    obtain ⟨answer, w', hok⟩ := hturn h
    exact ⟨w', by rw [handle_message h, hok]⟩

/-- **Commands and blank lines touch neither files nor processes**, and say nothing: at most
the history is cleared. -/
theorem handle_aside (s : Session) (w : Workshop) (h : requestOf line ≠ .message) :
    ∃ b w', s.handle line w = .ok b w' ∧ w'.files = w.files ∧ w'.launches = w.launches ∧
      (w'.history = w.history ∨ (requestOf line = .clear ∧ w'.history = [])) := by
  rcases handle_cases s line w with hm | ⟨hclear, events, hok⟩ | ⟨-, -, b, events, hok⟩
  · exact absurd hm h
  · exact ⟨_, _, hok, rfl, rfl, .inr ⟨hclear, rfl⟩⟩
  · exact ⟨_, _, hok, rfl, rfl, .inl rfl⟩

/-! ## Lines in order -/

/-- The workshop once lines are handled one after the other. -/
def handled (s : Session) (w : Workshop) (lines : List Text) : Workshop :=
  lines.foldl (fun w line => (s.handle line).after w) w

/-- What each of these lines shows. -/
def showsEach (s : Session) : Workshop → List Text → List (List Event)
  | _, [] => []
  | w, line :: rest =>
    (s.handle line).shows w :: s.showsEach ((s.handle line).after w) rest

/-- Nothing else is shown when lines are handled in order. -/
theorem shown_handled (s : Session) (w : Workshop) (lines : List Text) :
    (s.handled w lines).shown = w.shown ++ (s.showsEach w lines).flatten := by
  induction lines generalizing w with
  | nil => simp [handled, showsEach]
  | cons line rest ih =>
    have hfirst := (oblivious_handle s line).shown_after w
    calc (s.handled w (line :: rest)).shown
        = ((s.handle line).after w).shown ++
            (s.showsEach ((s.handle line).after w) rest).flatten := ih _
      _ = w.shown ++ (s.showsEach w (line :: rest)).flatten := by
        rw [hfirst, List.append_assoc]
        rfl

/-- No turn of these lines breaks off. -/
def Unbroken (s : Session) (w : Workshop) (lines : List Text) : Prop :=
  ∀ before line, before ++ [line] <+: lines → requestOf line = .message →
    ∃ answer w', s.turn line (s.handled w before) = .ok answer w'

theorem Unbroken.head (h : s.Unbroken w (line :: lines)) :
    requestOf line = .message → ∃ answer w', s.turn line w = .ok answer w' :=
  h [] line (List.prefix_append _ _)

theorem Unbroken.tail (h : s.Unbroken w (line :: lines)) :
    s.Unbroken ((s.handle line).after w) lines := by
  intro before line' hprefix
  exact h (line :: before) line' (List.cons_prefix_cons.2 ⟨rfl, hprefix⟩)

/-! ## The whole conversation -/

/-- How inputs end a conversation: with what is left of them, and what is shown of the end. -/
inductive Ending : List Input → List Input → List Event → Prop
  | exit {line : Text} {rest : List Input} (h : requestOf line = .exit) :
    Ending (.line line :: rest) rest []
  | interruption {rest : List Input} : Ending (.interruption :: rest) rest [.line []]
  /-- There are no more inputs. -/
  | exhausted : Ending [] [] [.line []]

/-- The inputs are these lines, none of which asks to exit, and an ending. -/
def EndsAfter (inputs : List Input) (lines : List Text) (rest : List Input)
    (closing : List Event) : Prop :=
  ∃ tail, inputs = lines.map .line ++ tail ∧ (∀ line ∈ lines, requestOf line ≠ .exit) ∧
    Ending tail rest closing

/-- All inputs come to an end. -/
theorem exists_endsAfter (inputs : List Input) :
    ∃ lines rest closing, EndsAfter inputs lines rest closing := by
  induction inputs with
  | nil => exact ⟨[], [], _, [], rfl, by simp, .exhausted⟩
  | cons input inputs ih =>
    cases input with
    | interruption => exact ⟨[], inputs, _, .interruption :: inputs, rfl, by simp, .interruption⟩
    | line line =>
      by_cases hexit : requestOf line = .exit
      · exact ⟨[], inputs, _, .line line :: inputs, rfl, by simp, .exit hexit⟩
      · obtain ⟨lines, rest, closing, tail, rfl, hlines, hending⟩ := ih
        exact ⟨line :: lines, rest, closing, tail, rfl, by simpa [hexit] using hlines,
          hending⟩

/-- What is shown of answers, each after a prompt, and of what ends them, after one more. -/
def dialogue (answers : List (List Event)) (closing : List Event) : List Event :=
  answers.flatMap (.input prompt :: ·) ++ .input prompt :: closing

/-- At an ending a conversation prompts once more and is over. -/
theorem handleAll_of_ending {tail rest : List Input} {closing : List Event}
    (h : Ending tail rest closing) (s : Session) (w : Workshop) :
    s.handleAll tail w = .ok rest { w with shown := w.shown ++ .input prompt :: closing } := by
  cases h with
  | exit h =>
    rw [handleAll_line, handle_exit h]
    rfl
  | interruption | exhausted =>
    rw [handleAll, Step.bind_ok (Action.display_apply _ _), Step.bind_ok (Action.print_apply _ _)]
    simp

/-- **Working through inputs is handling their lines in order**, whatever was shown before. -/
theorem handleAll_eq {inputs rest : List Input} {closing : List Event}
    (hends : EndsAfter inputs lines rest closing) (hunbroken : s.Unbroken w lines)
    (shown : List Event) : s.handleAll inputs { w with shown } =
      .ok rest { s.handled w lines with
        shown := shown ++ dialogue (s.showsEach w lines) closing } := by
  obtain ⟨tail, rfl, hlines, hending⟩ := hends
  -- Each line is handled where the one before it led, with one prompt more on the record.
  induction lines generalizing w shown with
  | nil => exact handleAll_of_ending hending s { w with shown }
  | cons line lines ih =>
    obtain ⟨w', hok⟩ := handle_ok (hlines line List.mem_cons_self) hunbroken.head
    have hafter := Action.after_ok hok
    have hsame := (oblivious_handle s line).of_shown w (shown ++ [Event.input prompt])
    have hprompted : s.handle line (prompted { w with shown }) = .ok true
        { w' with shown := shown ++ [.input prompt] ++ (s.handle line).shows w } := by
      rw [hok] at hsame
      exact hsame
    have htail := hunbroken.tail
    rw [hafter] at htail
    rw [List.map_cons, List.cons_append, handleAll_line, hprompted]
    refine (ih htail _ fun l hl => hlines l (List.mem_cons_of_mem _ hl)).trans ?_
    have hhandled : s.handled w (line :: lines) = s.handled w' lines := by
      rw [handled, List.foldl_cons, hafter]
      rfl
    rw [hhandled, showsEach, hafter]
    simp [dialogue]

/-- So a conversation is the help, and then its lines handled in order. -/
theorem converse_eq {inputs rest : List Input} {closing : List Event}
    (hends : EndsAfter inputs lines rest closing) (hunbroken : s.Unbroken w lines) :
    s.converse inputs w = .ok rest { s.handled w lines with
      shown := w.shown ++ .line help :: dialogue (s.showsEach w lines) closing } := by
  rw [converse_apply, greeted, handleAll_eq hends hunbroken]
  simp

/-- **A conversation handles its lines in order.** All inputs are lines that do not ask to exit
and an ending, and unless a turn of these lines breaks off:

* the conversation is over, with the inputs after the ending left and everything but what is
  shown as it is once the lines are handled in order;
* the help is shown, then for each line a prompt and what handling it shows, then a prompt for
  the ending, and an empty line unless that asks to exit.

A line is a command if it spells its word between blanks, in capitals or small letters. Commands
and blank lines touch neither files nor processes and say nothing, and any other line takes
exactly a turn, with the whole line. -/
theorem conversation_in_order (s : Session) (w : Workshop) (inputs : List Input) :
    (∃ lines rest closing, EndsAfter inputs lines rest closing) ∧
    (∀ lines rest closing, EndsAfter inputs lines rest closing → s.Unbroken w lines →
      s.converse inputs w = .ok rest { s.handled w lines with
        shown := w.shown ++ .line help :: dialogue (s.showsEach w lines) closing } ∧
      (s.handled w lines).shown = w.shown ++ (s.showsEach w lines).flatten) ∧
    (∀ line, (requestOf line = .exit ↔ line.Spells (text "/exit")) ∧
      (requestOf line = .clear ↔ line.Spells (text "/clear")) ∧
      (requestOf line = .showHistory ↔ line.Spells (text "/history")) ∧
      (requestOf line = .nothing ↔ line.isBlank = true)) ∧
    (∀ line v, requestOf line ≠ .message → ∃ b v', s.handle line v = .ok b v' ∧
      v'.files = v.files ∧ v'.launches = v.launches ∧
      (v'.history = v.history ∨ (requestOf line = .clear ∧ v'.history = []))) ∧
    ∀ line v, requestOf line = .message → s.handle line v =
      match s.turn line v with
      | .ok _ v' => .ok true v'
      | .error f v' => .error f v' := by
  refine ⟨exists_endsAfter inputs, fun lines rest closing hends hunbroken => ?_, fun line => ?_,
    fun line v h => handle_aside s v h, fun line v h => handle_message h⟩
  · exact ⟨converse_eq hends hunbroken, shown_handled s w lines⟩
  · exact ⟨requestOf_eq_exit_iff, requestOf_eq_clear_iff, requestOf_eq_showHistory_iff,
      requestOf_eq_nothing_iff⟩

set_option maxRecDepth 4000 in
/-- A question is answered, the conversation exits, and what comes after is left. -/
theorem conversation_in_order_small : ∃ w',
    small.converse [.line (text "hi"), .line (text " /Exit"), .line (text "hi")]
      (answering [text "ok"]) = .ok [.line (text "hi")] w' ∧
    w'.history = [⟨.user, text "hi"⟩, ⟨.assistant, text "ok"⟩] := by
  have hm : requestOf (text "hi") = .message := by decide
  have hends : EndsAfter [.line (text "hi"), .line (text " /Exit"), .line (text "hi")] [text "hi"]
      [.line (text "hi")] [] := by
    refine ⟨_, rfl, ?_, .exit (by decide)⟩
    rintro line (_ | ⟨_, ⟨⟩⟩)
    rw [hm]
    decide
  obtain ⟨w', hturn⟩ := turn_small
  have hunbroken : small.Unbroken (answering [text "ok"]) [text "hi"] := by
    rintro (_ | ⟨_, _⟩) line ⟨after, heq⟩ -
    · cases heq
      exact ⟨_, w', hturn⟩
    · simp at heq
  have hhandled : small.handled (answering [text "ok"]) [text "hi"] = w' := by
    rw [handled, List.foldl_cons, List.foldl_nil, after_handle_message hm, Action.after_ok hturn]
  have hhistory : w'.history = asked (answering [text "ok"]) (text "hi") ++
      [⟨.assistant, History.kept (text "ok")⟩] := by
    cases course_of_answered hturn with
    | answered => rfl
  obtain ⟨-, horder, -⟩ := conversation_in_order small (answering [text "ok"])
    [.line (text "hi"), .line (text " /Exit"), .line (text "hi")]
  refine ⟨_, (horder _ _ _ hends hunbroken).1, ?_⟩
  rw [hhandled, hhistory]
  cbv

end Session

end AgentWorkshop
