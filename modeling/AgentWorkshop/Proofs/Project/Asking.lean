import AgentWorkshop.Proofs.Project.Causes
import AgentWorkshop.Proofs.Project.Choice
import Mathlib.Data.List.TakeWhile

/-!
# Asking for a name until one is accepted

The question for a name is asked again after every response that is refused, with one error for
each, and no more once one is accepted (`askName_apply`). The name that comes of it is not refused
again, neither where the choice is read nor where the project is made; and if no response is
accepted, the template is not asked for (`prompt_loop`).
-/

namespace AgentWorkshop

open AgentWorkshop.Action

namespace CreateProgram

variable {responses refused rest later : List Response} {r answer : Response} {w : Workshop}
variable {name : Text} {tpl : Template}

/-! ## The question for a name -/

/-- What the response says is accepted as a name. -/
def Accepted (r : Response) : Prop :=
  ∃ name, r.said? ProjectName.usual = some name ∧ ProjectName.accepts name = true

/-- It says something else. An interruption says nothing. -/
def isRefused (r : Response) : Bool :=
  match r.said? ProjectName.usual with
  | some words => !ProjectName.accepts words
  | none => false

/-- The question for a name is shown. -/
def nameAsked : Event :=
  .ask nameQuestion ProjectName.usual none

/-- The question for a template is shown. -/
def templateAsked : Event :=
  .ask templateQuestion Template.llmChat.label (some (Template.all.map Template.label))

/-- What a response that is refused leaves: the question, and one error. -/
def refusal (r : Response) : List Event :=
  [nameAsked, Notice.error (Failure.badName ((r.said? ProjectName.usual).getD [])).message]

theorem said?_eq_none_iff {usual : Text} : r.said? usual = none ↔ r = .interruption := by
  cases r <;> simp [Response.said?]

/-- What is refused or accepted is no interruption, and everything else is one of both. -/
theorem isRefused_iff (h : r ≠ .interruption) : isRefused r = true ↔ ¬ Accepted r := by
  rw [isRefused, Accepted]
  cases hsaid : r.said? ProjectName.usual with
  | none => exact absurd (said?_eq_none_iff.1 hsaid) h
  | some words => simp

/-- **The question is asked again after each response that is refused.** The first one that is not
is a name or breaks off. -/
theorem askName_apply (responses : List Response) (w : Workshop) : askName responses w =
    let asked := { w with
      shown := w.shown ++ (responses.takeWhile isRefused).flatMap refusal ++ [nameAsked] }
    match responses.dropWhile isRefused with
    | [] => .error .endOfInput asked
    | r :: rest =>
      match r.said? ProjectName.usual with
      | some name => .ok (name, rest) asked
      | none => .error .interrupted asked := by
  -- A refused response adds its two events to what is shown before the next question.
  induction responses generalizing w with
  | nil =>
    rw [List.takeWhile_nil, List.flatMap_nil, List.append_nil]
    rfl
  | cons r rest ih =>
    rw [askName, Step.bind_apply, ask_cons]
    by_cases hrefused : isRefused r = true
    · rw [List.takeWhile_cons_of_pos hrefused, List.dropWhile_cons_of_pos hrefused]
      rw [isRefused] at hrefused
      cases hsaid : r.said? ProjectName.usual with
      | none =>
        rw [hsaid] at hrefused
        cases hrefused
      | some words =>
        rw [hsaid, Bool.not_eq_true'] at hrefused
        have hrefusal : refusal r = [nameAsked, Notice.error (Failure.badName words).message] := by
          rw [refusal, hsaid, Option.getD_some]
        dsimp only
        rw [ProjectName.check, hrefused, if_neg Bool.false_ne_true]
        dsimp only
        rw [Step.bind_ok (display_apply _ _), ih, List.flatMap_cons, hrefusal]
        simp only [List.append_assoc, List.cons_append, List.nil_append, nameAsked]
    · rw [List.takeWhile_cons_of_neg hrefused, List.dropWhile_cons_of_neg hrefused,
        List.flatMap_nil, List.append_nil]
      rw [isRefused] at hrefused
      cases hsaid : r.said? ProjectName.usual with
      | none =>
        simp only [hsaid]
        rfl
      | some name =>
        rw [hsaid] at hrefused
        have haccepts : ProjectName.accepts name = true := by simpa using hrefused
        simp only [hsaid, ProjectName.check, if_pos haccepts]
        rfl

/-- So a name that is accepted is taken as it is, after those that are not. -/
theorem askName_of_accepted (hrefused : ∀ b ∈ refused, isRefused b = true)
    (hsaid : r.said? ProjectName.usual = some name) (haccepts : ProjectName.accepts name = true)
    (rest : List Response) (w : Workshop) :
    askName (refused ++ r :: rest) w = .ok (name, rest)
      { w with shown := w.shown ++ refused.flatMap refusal ++ [nameAsked] } := by
  have hr : ¬ isRefused r = true := by simp [isRefused, hsaid, haccepts]
  rw [askName_apply, List.takeWhile_append_of_pos hrefused, List.dropWhile_append_of_pos hrefused,
    List.takeWhile_cons_of_neg hr, List.dropWhile_cons_of_neg hr, List.append_nil]
  simp only [hsaid]

theorem ofLabel?_label (tpl : Template) : Template.ofLabel? tpl.label = some tpl := by
  cases tpl
  rfl

/-- The template is asked for once. -/
theorem askTemplate_of_label (hsaid : answer.said? Template.llmChat.label = some tpl.label)
    (later : List Response) (w : Workshop) :
    askTemplate (answer :: later) w =
      .ok tpl { w with shown := w.shown ++ [templateAsked] } := by
  rw [askTemplate, Step.bind_apply, ask_cons, hsaid]
  dsimp only
  rw [ofLabel?_label]
  rfl

/-- And the choice is what was said. -/
theorem askChoice_of_accepted (hrefused : ∀ b ∈ refused, isRefused b = true)
    (hsaid : r.said? ProjectName.usual = some name) (haccepts : ProjectName.accepts name = true)
    (htemplate : answer.said? Template.llmChat.label = some tpl.label) (later : List Response)
    (w : Workshop) : askChoice (refused ++ r :: answer :: later) w = .ok ⟨name, tpl⟩
      { w with shown := w.shown ++ refused.flatMap refusal ++ [nameAsked, templateAsked] } := by
  rw [askChoice, Step.bind_ok (askName_of_accepted hrefused hsaid haccepts _ w)]
  dsimp only
  rw [Step.bind_ok (askTemplate_of_label htemplate later _)]
  simp only [List.append_assoc, List.cons_append, List.nil_append]
  rfl

/-- If every response is refused, nothing is left to answer the next question for a name. -/
theorem askChoice_of_refused (hrefused : ∀ b ∈ responses, isRefused b = true) (w : Workshop) :
    askChoice responses w = .error .endOfInput
      { w with shown := w.shown ++ responses.flatMap refusal ++ [nameAsked] } := by
  refine Step.bind_error ?_
  rw [askName_apply, List.takeWhile_eq_self_iff.2 hrefused, List.dropWhile_eq_nil_iff.2 hrefused]

/-- The template is asked for by no question about the name. -/
theorem templateAsked_not_mem (responses : List Response) :
    templateAsked ∉ responses.flatMap refusal ++ [nameAsked] := by
  have hne : templateAsked ≠ nameAsked := by
    intro heq
    exact absurd (Event.ask.inj heq).1 (by decide)
  intro hmem
  rcases List.mem_append.1 hmem with hmem | hmem
  · obtain ⟨r, -, hr⟩ := List.mem_flatMap.1 hmem
    rcases List.mem_cons.1 hr with heq | hr
    · exact hne heq
    · cases List.mem_singleton.1 hr
  · exact hne (List.mem_singleton.1 hmem)

/-! ## The name afterwards -/

/-- The fields of a choice. -/
def fieldsOf (name : Text) (tpl : Template) : Json :=
  .object [(text "project_name", .string name), (text "template", .string tpl.label)]

/-- **A name that was accepted is read.** -/
theorem ofFields_of_accepts (haccepts : ProjectName.accepts name = true) (tpl : Template) :
    ProjectChoice.ofFields (fieldsOf name tpl) = .ok ⟨name, tpl⟩ := by
  have hname : (fieldsOf name tpl).member? (text "project_name") = some (.string name) := rfl
  have htemplate : (fieldsOf name tpl).member? (text "template") = some (.string tpl.label) := by
    rfl
  rw [ProjectChoice.ofFields, Field.read, Field.read, hname, htemplate]
  simp only [ProjectChoice.readName, ProjectChoice.readTemplate, if_pos haccepts, ofLabel?_label]

/-- The responses up to the first that is accepted. -/
theorem exists_accepted (hreplies : ∀ r ∈ responses, r ≠ .interruption)
    (haccepted : ∃ r ∈ responses, Accepted r) :
    ∃ refused r rest, responses = refused ++ r :: rest ∧ Accepted r ∧
      ∀ b ∈ refused, isRefused b = true ∧ ¬ Accepted b := by
  have hsplit := List.takeWhile_append_dropWhile (p := isRefused) (l := responses)
  obtain ⟨r₀, hmem₀, hr₀⟩ := haccepted
  have hrest : responses.dropWhile isRefused ≠ [] := by
    rw [Ne, List.dropWhile_eq_nil_iff]
    exact fun hall => (isRefused_iff (hreplies r₀ hmem₀)).1 (hall r₀ hmem₀) hr₀
  obtain ⟨r, rest, hr⟩ := List.exists_cons_of_ne_nil hrest
  have hmem : r ∈ responses := by
    rw [← hsplit, hr]
    simp
  have hnot : ¬ isRefused r = true := by
    have hhead := List.head_dropWhile_not isRefused hrest
    simp only [hr, List.head_cons] at hhead
    simp [hhead]
  refine ⟨_, r, rest, by rw [← hr, hsplit], ?_, fun b hb => ?_⟩
  · by_contra hr'
    exact hnot ((isRefused_iff (hreplies r hmem)).2 hr')
  · have hb' : isRefused b = true := List.mem_takeWhile_imp hb
    have hmem' : b ∈ responses := (List.takeWhile_prefix isRefused).subset hb
    exact ⟨hb', (isRefused_iff (hreplies b hmem')).1 hb'⟩

/-- **The loop of the questions.** Of responses none of which is an interruption, the first that is
accepted as a name is taken: it was asked for once more often than responses were refused before it,
each of these left one error and it none, and no other question follows but the one for a template.
What is chosen has that name, which is read as it is, and which making a project never refuses but
for what a process is answered. If none is accepted, nothing is chosen and no template asked for. -/
theorem prompt_loop (responses : List Response) (w : Workshop)
    (hreplies : ∀ r ∈ responses, r ≠ .interruption) :
    ((∃ r ∈ responses, Accepted r) → ∃ refused r rest name,
      responses = refused ++ r :: rest ∧ (∀ b ∈ refused, ¬ Accepted b) ∧
      r.said? ProjectName.usual = some name ∧ ProjectName.accepts name = true ∧
      askName responses w = .ok (name, rest)
        { w with shown := w.shown ++ refused.flatMap refusal ++ [nameAsked] } ∧
      ∀ tpl : Template,
        (∀ answer later, rest = answer :: later →
          answer.said? Template.llmChat.label = some tpl.label →
          askChoice responses w = .ok ⟨name, tpl⟩
            { w with shown := w.shown ++ refused.flatMap refusal ++ [nameAsked, templateAsked] }) ∧
        ProjectChoice.ofFields (fieldsOf name tpl) = .ok ⟨name, tpl⟩ ∧
        ∀ settings directory (v v' : Workshop) bad,
          Project.create settings directory tpl name v = .error (.badName bad) v' →
          ∃ k i t, (v.runner k i t).2 = .failed (.badName bad)) ∧
    ((∀ r ∈ responses, ¬ Accepted r) →
      askChoice responses w = .error .endOfInput
        { w with shown := w.shown ++ responses.flatMap refusal ++ [nameAsked] } ∧
      templateAsked ∉ responses.flatMap refusal ++ [nameAsked]) := by
  constructor
  · intro haccepted
    obtain ⟨refused, r, rest, rfl, ⟨name, hsaid, haccepts⟩, hbefore⟩ :=
      exists_accepted hreplies haccepted
    have hrefused : ∀ b ∈ refused, isRefused b = true := fun b hb => (hbefore b hb).1
    refine ⟨refused, r, rest, name, rfl, fun b hb => (hbefore b hb).2, hsaid, haccepts,
      askName_of_accepted hrefused hsaid haccepts rest w, fun tpl => ⟨?_, ?_, ?_⟩⟩
    · rintro answer later rfl htemplate
      exact askChoice_of_accepted hrefused hsaid haccepts htemplate later w
    · exact ofFields_of_accepts haccepts tpl
    · exact fun settings directory v v' bad hcreate => Project.process_of_badName haccepts hcreate
  · intro hnone
    have hrefused : ∀ b ∈ responses, isRefused b = true :=
      fun b hb => (isRefused_iff (hreplies b hb)).2 (hnone b hb)
    exact ⟨askChoice_of_refused hrefused w, templateAsked_not_mem responses⟩

/-- One response that is refused, the name that is taken, and the usual template. -/
def retried : List Response :=
  [.words (text "bad name!"), .words (text "good-name"), .usual]

/-- The second of the responses is taken. -/
theorem second_name_taken : (∃ r ∈ retried, Accepted r) ∧ ∃ refused r rest name w',
    retried = refused ++ r :: rest ∧ ProjectName.accepts name = true ∧
    askName retried (.initial .empty [] fun _ => .idle) = .ok (name, rest) w' ∧
    w'.shown = refused.flatMap refusal ++ [nameAsked] := by
  have haccepted : ∃ r ∈ retried, Accepted r :=
    ⟨.words (text "good-name"), by simp [retried], _, rfl, by decide⟩
  obtain ⟨refused, r, rest, name, hsplit, -, -, haccepts, hasked, -⟩ :=
    (prompt_loop retried (.initial .empty [] fun _ => .idle) (by decide)).1 haccepted
  exact ⟨haccepted, refused, r, rest, name, _, hsplit, haccepts, hasked, rfl⟩

end CreateProgram

end AgentWorkshop
