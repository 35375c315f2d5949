import AgentWorkshop.Program.Chat
import AgentWorkshop.Proofs.Chat.Turn
import AgentWorkshop.Proofs.Files.Effects
import Mathlib

/-!
# The exit status of a single turn

With arguments, `ChatProgram.start` takes one turn and exits with 0 or 1. It is 0 exactly if the
turn was answered or the user's interruption broke off its build (`one_shot_status`): of all that
can end a turn only a build lets an interruption through (`turn_interrupted_iff`), because work
on files fails in other ways (`Files.Uninterrupted`).
-/

namespace AgentWorkshop

theorem Failure.isInterruption_iff {f : Failure} : f.isInterruption = true ↔ f = interrupted := by
  cases f <;> simp [isInterruption]

/-! ## Work on files -/

namespace Files

variable {α : Type} {act : FileAction α}

/-- Whatever it fails with, it is no interruption. -/
def Uninterrupted (act : FileAction α) : Prop :=
  ∀ t f t', act t = .error f t' → f.isInterruption = false

/-- **Work on files is never interrupted.** -/
theorem Keeps.uninterrupted {R : FileTree → FileTree → Prop} (h : Keeps R act) :
    Uninterrupted act := by
  intro t f t' hact
  cases (h.error hact).2 <;> rfl

theorem uninterrupted_saveJson {directory : Address} {p : Path} (v : Json) :
    Uninterrupted (saveJson directory p v) :=
  (keeps_saveJson v).uninterrupted

end Files

/-! ## Turns -/

namespace Session

variable {s : Session} {w : Workshop} {m : Text}

/-- The build of a turn with this message is reached and the user interrupts it. -/
def BuildInterrupted (s : Session) (w : Workshop) (m : Text) : Prop :=
  Json.WithinReach m ∧ ∃ t, s.request w m = .ok () t ∧ (s.built w t).2 = .failed .interrupted

theorem isInterruption_of_outputOf {o : Outcome} {f : Failure}
    (h : outputOf s.settings o = .error f) (hf : f.isInterruption = true) :
    o = .failed .interrupted := by
  cases Failure.isInterruption_iff.1 hf
  cases o with
  | exited code stdout stderr =>
    rw [outputOf] at h
    split at h <;> cases h
  | failed failure =>
    cases failure <;> cases h
    rfl

theorem isInterruption_unreadable {t : FileTree} {f : Failure} (h : s.reply w t = .error f) :
    (s.unreadable f).isInterruption = false := by
  rw [reply, Files.contents] at h
  split at h
  · cases h
    rfl
  split at h <;> cases h <;> rfl

theorem isInterruption_ofText {raw : Text} {f : Failure} (h : Answer.ofText raw = .error f) :
    f.isInterruption = false := by
  rw [Answer.ofText] at h
  split at h <;> cases h
  rfl

/-- **A turn is interrupted exactly if its build is.** -/
theorem turn_interrupted_iff :
    (∃ f w', s.turn m w = .error f w' ∧ f.isInterruption = true) ↔ s.BuildInterrupted w m := by
  constructor
  · rintro ⟨f, w', hturn, hf⟩
    obtain ⟨outcome, w₁, course, hconclude⟩ := turn_course s w m
    rw [hturn] at hconclude
    have hcourse : Course s w m (.error f) w₁ := by
      cases outcome with
      | ok a => cases hconclude
      | error f₁ =>
        rw [conclude] at hconclude
        split at hconclude <;> cases hconclude
        exact course
    generalize houtcome : (Except.error f : Except Failure Answer) = o at hcourse
    cases hcourse with
    | unsaid | unkept =>
      cases houtcome
      cases hf
    | unwritten said written =>
      cases houtcome
      have hnot := Files.uninterrupted_saveJson _ _ _ _ written
      rw [hf] at hnot
      cases hnot
    | unbuilt said written output =>
      cases houtcome
      exact ⟨said, _, written, isInterruption_of_outputOf output hf⟩
    | unread said written output replied =>
      cases houtcome
      rw [isInterruption_unreadable replied] at hf
      cases hf
    | unparsed said written output replied parsed =>
      cases houtcome
      rw [isInterruption_ofText parsed] at hf
      cases hf
    | answered => cases houtcome
  · rintro ⟨said, t, written, hbuilt⟩
    have output : outputOf s.settings (s.built w t).2 = .error .interrupted := by
      rw [hbuilt]
      rfl
    exact ⟨.interrupted, _, turn_of_course (.unbuilt said written output), rfl⟩

end Session

/-! ## The program -/

namespace ChatProgram

open Session

/-- The session of the program. -/
def session (env : Environment) : Session :=
  ⟨(Settings.ofEnvironment env).chat, none⟩

/-- Arguments as one message. -/
def message (arguments : List Text) : Text :=
  List.intercalate (text " ") arguments

/-- With arguments the program takes one turn, and its status says how that went. -/
theorem start_apply (env : Environment) {arguments : List Text} (inputs : List Input)
    (w : Workshop) (h : arguments ≠ []) : start env arguments inputs w =
    match (session env).turn (message arguments) w with
    | .ok (some _) w' => .ok 0 w'
    | .ok none w' => .ok 1 w'
    | .error f w' =>
      if f.isInterruption then .ok 0 w'
      else .ok 1 { w' with
        shown := w'.shown ++ Notice.unhandled f (Settings.ofEnvironment env).debug } := by
  obtain ⟨word, more, rfl⟩ := List.exists_cons_of_ne_nil h
  have hrun : run (Settings.ofEnvironment env).chat (word :: more) inputs w =
      match (session env).turn (message (word :: more)) w with
      | .ok (some _) w' => .ok 0 w'
      | .ok none w' => .ok 1 w'
      | .error f w' => .error f w' := by
    refine (Step.bind_apply _ _ w).trans ?_
    rw [session, message]
    rcases Session.turn _ _ w with ⟨_ | a, w'⟩ | ⟨f, w'⟩ <;> rfl
  rw [start, Step.bind_apply, Action.attempt, hrun]
  rcases Session.turn _ _ w with ⟨_ | a, w'⟩ | ⟨f, w'⟩
  · rfl
  · rfl
  · dsimp only
    split
    · rfl
    · rw [Step.bind_ok (Action.displayAll_apply _ _)]
      rfl

/-- **The exit status of a single turn.** Whatever the arguments, the settings and the state of
the workshop are and however the build ends, the program exits and leaves what the turn left,
but for what it shows. Its status is 0 if the turn was answered or its build interrupted, and
1 in every other case. -/
theorem one_shot_status (env : Environment) (word : Text) (more : List Text)
    (inputs : List Input) (w : Workshop) :
    ∃ status shown, start env (word :: more) inputs w = .ok status
        { ((session env).turn (message (word :: more))).after w with shown := shown } ∧
      (status = 0 ↔ (∃ a w', (session env).turn (message (word :: more)) w = .ok (some a) w') ∨
        (session env).BuildInterrupted w (message (word :: more))) ∧
      (status ≠ 0 → status = 1) := by
  have hstart := start_apply env inputs w (List.cons_ne_nil word more)
  rw [← turn_interrupted_iff, Action.after]
  cases hturn : (session env).turn (message (word :: more)) w with
  | ok answer w' =>
    rw [hturn] at hstart
    cases answer with
    | some a => exact ⟨0, w'.shown, hstart, by simp, by simp⟩
    | none => exact ⟨1, w'.shown, hstart, by simp, by simp⟩
  | error f w' =>
    rw [hturn] at hstart
    dsimp only at hstart
    split at hstart
    case isTrue hf => exact ⟨0, w'.shown, hstart, by simp [hf], by simp⟩
    case isFalse hf => exact ⟨1, _, hstart, by simp [hf], by simp⟩

/-- An empty directory in which the user interrupts every build. -/
def interrupting : Workshop :=
  .initial .empty [] fun _ _ t => (t, .failed .interrupted)

set_option maxRecDepth 4000 in
/-- **A turn that is interrupted has no answer, and yet its status is 0.** -/
theorem interrupted_exits_zero :
    (∃ w', start [] [text "hi"] [] interrupting = .ok 0 w') ∧
    ¬ ∃ a w', (session []).turn (message [text "hi"]) interrupting = .ok (some a) w' := by
  have hturn : ∃ w', (session []).turn (message [text "hi"]) interrupting =
      .error .interrupted w' := ⟨_, by cbv⟩
  obtain ⟨w', hturn⟩ := hturn
  refine ⟨⟨w', ?_⟩, ?_⟩
  · rw [start_apply _ _ _ (by simp), hturn]
    rfl
  · rintro ⟨a, w'', hanswered⟩
    rw [hturn] at hanswered
    cases hanswered

end ChatProgram

end AgentWorkshop
