import AgentWorkshop.Program.Create
import AgentWorkshop.Proofs.Action
import Mathlib.Data.List.Basic

/-!
# What the user chooses

The responses to the questions make a choice or they make none: `Names` says which name they
give, `Chooses` which name and template. Asking gives that choice and nothing else than shows
the questions, and breaks off if there is none (`askChoice_cases`).
-/

namespace AgentWorkshop

open AgentWorkshop.Action

/-- What a response says to a question that proposes something. -/
def Response.said? (usual : Text) : Response → Option Text
  | .words t => some t
  | .usual => some usual
  | .interruption => none

namespace CreateProgram

variable {responses : List Response}

/-- The responses give a name: some that are refused, then one that is accepted. What is left
comes after it. -/
inductive Names : List Response → Text → List Response → Prop
  | accepted {response : Response} {rest : List Response} {name : Text}
    (hsaid : response.said? ProjectName.usual = some name)
    (haccepts : ProjectName.accepts name = true) : Names (response :: rest) name rest
  | refused {response : Response} {rest later : List Response} {words name : Text}
    (hsaid : response.said? ProjectName.usual = some words)
    (hrefuses : ProjectName.accepts words = false) (hnames : Names rest name later) :
    Names (response :: rest) name later

/-- **The responses make a choice**: they give a name, and next the label of a template. -/
def Chooses (responses : List Response) (choice : ProjectChoice) : Prop :=
  ∃ response later label, Names responses choice.name (response :: later) ∧
    response.said? Template.llmChat.label = some label ∧
    Template.ofLabel? label = some choice.template

theorem ask_cons (question usual : Text) (choices : Option (List Text)) (response : Response)
    (rest : List Response) (w : Workshop) :
    ask question usual choices (response :: rest) w =
      match response.said? usual with
      | some words =>
        .ok (words, rest) { w with shown := w.shown ++ [.ask question usual choices] }
      | none =>
        .error .interrupted { w with shown := w.shown ++ [.ask question usual choices] } := by
  cases response <;> rfl

/-- They give one name at most. -/
theorem Names.unique {name name' : Text} {later later' : List Response}
    (h : Names responses name later) (h' : Names responses name' later') :
    name = name' ∧ later = later' := by
  induction h with
  | accepted hsaid haccepts =>
    cases h' with
    | accepted hsaid' _ =>
      rw [hsaid] at hsaid'
      cases hsaid'
      exact ⟨rfl, rfl⟩
    | refused hsaid' hrefuses _ =>
      rw [hsaid] at hsaid'
      cases hsaid'
      exact absurd haccepts (by simp [hrefuses])
  | refused hsaid hrefuses _ ih =>
    cases h' with
    | accepted hsaid' haccepts =>
      rw [hsaid] at hsaid'
      cases hsaid'
      exact absurd haccepts (by simp [hrefuses])
    | refused _ _ hnames => exact ih hnames

theorem Names.accepts {name : Text} {later : List Response} (h : Names responses name later) :
    ProjectName.accepts name = true := by
  induction h with
  | accepted _ haccepts => exact haccepts
  | refused _ _ _ ih => exact ih

/-- **What was chosen is determined by the responses.** -/
theorem Chooses.unique {choice choice' : ProjectChoice} (h : Chooses responses choice)
    (h' : Chooses responses choice') : choice = choice' := by
  obtain ⟨response, later, label, hnames, hsaid, hlabel⟩ := h
  obtain ⟨response', later', label', hnames', hsaid', hlabel'⟩ := h'
  obtain ⟨hname, hrest⟩ := hnames.unique hnames'
  cases hrest
  rw [hsaid] at hsaid'
  cases hsaid'
  rw [hlabel] at hlabel'
  cases choice
  cases choice'
  cases hname
  cases hlabel'
  rfl

/-- Asking for a name gives the one that the responses give, or breaks off. -/
theorem askName_cases (responses : List Response) (w : Workshop) :
    (∃ name rest shown, Names responses name rest ∧
      askName responses w = .ok (name, rest) { w with shown := shown }) ∨
    (∀ name rest, ¬ Names responses name rest) ∧
      ∃ f shown, askName responses w = .error f { w with shown := shown } := by
  induction responses generalizing w with
  | nil =>
    refine .inr ⟨?_, .endOfInput, _, rfl⟩
    rintro name rest ⟨⟩
  | cons response rest ih =>
    rw [askName, Step.bind_apply, ask_cons]
    cases hsaid : response.said? ProjectName.usual with
    | none =>
      refine .inr ⟨?_, .interrupted, _, rfl⟩
      rintro name later (⟨hsaid', -⟩ | ⟨hsaid', -, -⟩)
      · rw [hsaid] at hsaid'
        cases hsaid'
      · rw [hsaid] at hsaid'
        cases hsaid'
    | some words =>
      dsimp only
      cases haccepts : ProjectName.accepts words with
      | true =>
        rw [ProjectName.check, if_pos haccepts]
        exact .inl ⟨words, rest, _, .accepted hsaid haccepts, rfl⟩
      | false =>
        rw [ProjectName.check, haccepts, if_neg Bool.false_ne_true]
        dsimp only
        rw [Step.bind_ok (display_apply _ _)]
        rcases ih { w with shown := w.shown ++ _ ++ _ } with
          ⟨name, later, shown, hnames, hask⟩ | ⟨hnone, f, shown, hask⟩
        · exact .inl ⟨name, later, shown, .refused hsaid haccepts hnames, hask⟩
        · refine .inr ⟨?_, f, shown, hask⟩
          rintro name later (⟨hsaid', haccepts'⟩ | ⟨-, -, hnames⟩)
          · rw [hsaid] at hsaid'
            cases hsaid'
            rw [haccepts] at haccepts'
            cases haccepts'
          · exact hnone name later hnames

/-- Asking for a template takes the label in the next response, or breaks off. -/
theorem askTemplate_cases (responses : List Response) (w : Workshop) :
    (∃ response later label tpl shown, responses = response :: later ∧
      response.said? Template.llmChat.label = some label ∧ Template.ofLabel? label = some tpl ∧
      askTemplate responses w = .ok tpl { w with shown := shown }) ∨
    (∀ response later label tpl, responses = response :: later →
      response.said? Template.llmChat.label = some label → Template.ofLabel? label ≠ some tpl) ∧
      ∃ f shown, askTemplate responses w = .error f { w with shown := shown } := by
  cases responses with
  | nil =>
    refine .inr ⟨?_, .endOfInput, _, rfl⟩
    rintro response later label tpl ⟨⟩
  | cons response later =>
    rw [askTemplate, Step.bind_apply, ask_cons]
    cases hsaid : response.said? Template.llmChat.label with
    | none =>
      refine .inr ⟨?_, .interrupted, _, rfl⟩
      rintro _ _ label tpl ⟨⟩ hsaid'
      rw [hsaid] at hsaid'
      cases hsaid'
    | some label =>
      dsimp only
      cases hlabel : Template.ofLabel? label with
      | none =>
        refine .inr ⟨?_, .unknownTemplate label, _, rfl⟩
        rintro _ _ _ tpl ⟨⟩ hsaid' hlabel'
        rw [hsaid] at hsaid'
        cases hsaid'
        rw [hlabel] at hlabel'
        cases hlabel'
      | some tpl => exact .inl ⟨response, later, label, tpl, _, rfl, hsaid, hlabel, rfl⟩

/-- **Asking gives the choice that the responses make, or breaks off** if they make none, and
only shows something. -/
theorem askChoice_cases (responses : List Response) (w : Workshop) :
    (∃ choice shown, Chooses responses choice ∧
      askChoice responses w = .ok choice { w with shown := shown }) ∨
    (∀ choice, ¬ Chooses responses choice) ∧
      ∃ f shown, askChoice responses w = .error f { w with shown := shown } := by
  rw [askChoice]
  rcases askName_cases responses w with
    ⟨name, rest, shown, hnames, hask⟩ | ⟨hnone, f, shown, hask⟩
  swap
  · rw [Step.bind_error hask]
    refine .inr ⟨?_, f, shown, rfl⟩
    rintro choice ⟨response, later, label, hnames, -⟩
    exact hnone _ _ hnames
  rw [Step.bind_ok hask]
  dsimp only
  rcases askTemplate_cases rest { w with shown := shown } with
    ⟨response, later, label, tpl, shown', rfl, hsaid, hlabel, htemplate⟩ |
      ⟨hnone, f, shown', htemplate⟩
  · rw [Step.bind_ok htemplate]
    exact .inl ⟨⟨name, tpl⟩, shown', ⟨response, later, label, hnames, hsaid, hlabel⟩, rfl⟩
  · rw [Step.bind_error htemplate]
    refine .inr ⟨?_, f, shown', rfl⟩
    rintro choice ⟨response, later, label, hnames', hsaid, hlabel⟩
    exact hnone _ _ _ _ (hnames.unique hnames').2 hsaid hlabel

end CreateProgram

end AgentWorkshop
