import AgentWorkshop.Program.Create
import AgentWorkshop.Proofs.Action

/-!
# The parts of `wasp create`

A property of actions is `Compositional` if the building blocks have it, as long as what they
show is of some kind, and a sequence has it whose parts do. The parts of the program have every
such property; of those that show something it is asked that this is of the kind.
-/

namespace AgentWorkshop

namespace Action

/-- **A property that actions have because their parts do**: the building blocks have it, those
that show something if it is of this kind, and so do sequences and attempts. -/
structure Compositional (P : Event → Prop) (Q : (α : Type) → Action α → Prop) : Prop where
  pure {α : Type} (a : α) : Q α (pure a)
  throw {α : Type} (f : Failure) : Q α (throw f)
  display {e : Event} (h : P e) : Q Unit (display e)
  onFiles {α : Type} (act : Address → FileAction α) : Q α (onFiles act)
  launch (invocation : Invocation) : Q Outcome (launch invocation)
  bind {α β : Type} {act : Action α} {next : α → Action β} (h : Q α act)
    (hnext : ∀ a, Q β (next a)) : Q β (act >>= next)
  attempt {α : Type} {act : Action α} (h : Q α act) : Q (Except Failure α) (attempt act)

namespace Compositional

variable {P : Event → Prop} {Q : (α : Type) → Action α → Prop} (hQ : Compositional P Q)
include hQ

omit hQ in
theorem ite {α : Type} {act act' : Action α} (c : Prop) [Decidable c] (h : Q α act)
    (h' : Q α act') : Q α (if c then act else act') := by
  split
  · exact h
  · exact h'

/-! ## The tools -/

theorem version (tool : String) : Q Text (Toolchain.version tool) := by
  refine hQ.bind (hQ.launch _) fun outcome => ?_
  cases outcome with
  | exited code stdout stderr => exact ite _ (hQ.pure stdout) (hQ.throw _)
  | failed f => cases f <;> exact hQ.throw _

theorem check (minNodeMajor : Int) : Q Unit (Toolchain.check minNodeMajor) := by
  have hrest : Q Unit (do
      let _ ← Toolchain.version "rustc"
      let _ ← Toolchain.version "cargo") :=
    hQ.bind (hQ.version _) fun _ => hQ.bind (hQ.version _) fun _ => hQ.pure ()
  refine hQ.bind (hQ.version "node") fun output => ?_
  cases Toolchain.nodeMajor? output with
  | error f => exact hQ.bind (hQ.throw f) fun _ => hrest
  | ok major => exact ite _ (hQ.bind (hQ.throw _) fun _ => hrest) hrest

/-! ## The project -/

theorem makeDirectory (project : Path) : Q Unit (Project.makeDirectory project) := by
  refine hQ.bind (hQ.attempt (hQ.onFiles _)) fun made => ?_
  cases made with
  | ok _ => exact hQ.pure ()
  | error f =>
    cases f with
    | system e => exact ite _ (hQ.throw _) (hQ.throw _)
    | _ => exact hQ.throw _

theorem copyTemplate (settings : ScaffoldSettings) (template project : Path) :
    Q Unit (Project.copyTemplate settings template project) := by
  refine hQ.bind (hQ.onFiles _) fun found => ?_
  refine ite _ (hQ.bind (hQ.throw _) fun _ => ?_) ?_
  all_goals
    refine hQ.bind (hQ.attempt (hQ.onFiles _)) fun copied => ?_
    rcases copied with f | _ | _
    · cases f <;> exact hQ.throw _
    · exact hQ.throw _
    · exact hQ.pure ()

theorem customize (hsuccess : ∀ words, P (Notice.success words)) (settings : ScaffoldSettings)
    (project : Path) (name : Text) : Q Unit (Project.customize settings project name) := by
  refine hQ.bind (hQ.attempt (hQ.onFiles _)) fun written => ?_
  cases written with
  | ok _ => exact hQ.display (hsuccess _)
  | error f => cases f <;> exact hQ.throw _

theorem runStep (words : List Text) (directory : Path) :
    Q Unit (Project.runStep words directory) := by
  refine hQ.bind (hQ.launch _) fun outcome => ?_
  cases outcome with
  | exited code stdout stderr => exact ite _ (hQ.pure ()) (hQ.throw _)
  | failed f => cases f <;> exact hQ.throw _

/-- **Making a project** shows the words of the spinner and successes. -/
theorem create (hstatus : ∀ words, P (.status words)) (hsuccess : ∀ words, P (Notice.success words))
    (settings : ScaffoldSettings) (directory : Path) (template : Template) (name : Text) :
    Q Path (Project.create settings directory template name) := by
  rw [Project.create]
  -- A refused name is followed by the same steps as an accepted one, which are then not reached.
  cases ProjectName.check name
  case' error f => refine hQ.bind (hQ.throw f) fun name => ?_
  case' ok name => refine hQ.bind (hQ.pure name) fun name => ?_
  all_goals
    refine hQ.bind (hQ.display (hstatus _)) fun _ => hQ.bind (hQ.makeDirectory _) fun _ => ?_
    refine hQ.bind (hQ.copyTemplate _ _ _) fun _ => hQ.bind (hQ.display (hstatus _)) fun _ => ?_
    refine hQ.bind (hQ.customize hsuccess _ _ _) fun _ => ?_
    refine hQ.bind (hQ.display (hstatus _)) fun _ => hQ.bind (hQ.runStep _ _) fun _ => ?_
    refine hQ.bind (hQ.display (hstatus _)) fun _ => hQ.bind (hQ.runStep _ _) fun _ => ?_
    refine hQ.bind (hQ.display (hstatus _)) fun _ => hQ.bind (hQ.runStep _ _) fun _ => ?_
    exact hQ.bind (hQ.display (hsuccess _)) fun _ => hQ.pure _

/-! ## The questions -/

section
variable (hask : ∀ question usual choices, P (.ask question usual choices))
include hask

theorem ask (question usual : Text) (choices : Option (List Text))
    (responses : List Response) : Q _ (CreateProgram.ask question usual choices responses) := by
  refine hQ.bind (hQ.display (hask _ _ _)) fun _ => ?_
  cases responses with
  | nil => exact hQ.throw _
  | cons response rest =>
    cases response with
    | words t => exact hQ.pure _
    | usual => exact hQ.pure _
    | interruption => exact hQ.throw _

/-- However often it asks. -/
theorem askName (herror : ∀ words, P (Notice.error words)) (responses : List Response) :
    Q _ (CreateProgram.askName responses) := by
  induction responses with
  | nil => exact hQ.ask hask _ _ _ _
  | cons response rest ih =>
    refine hQ.bind (hQ.ask hask _ _ _ _) ?_
    rintro ⟨name, _⟩
    dsimp only
    cases ProjectName.check name with
    | ok name => exact hQ.pure _
    | error f => exact hQ.bind (hQ.display (herror _)) fun _ => ih

theorem askTemplate (responses : List Response) :
    Q Template (CreateProgram.askTemplate responses) := by
  refine hQ.bind (hQ.ask hask _ _ _ _) ?_
  rintro ⟨label, _⟩
  dsimp only
  cases Template.ofLabel? label with
  | some template => exact hQ.pure template
  | none => exact hQ.throw _

theorem askChoice (herror : ∀ words, P (Notice.error words)) (responses : List Response) :
    Q ProjectChoice (CreateProgram.askChoice responses) :=
  hQ.bind (hQ.askName hask herror _) fun _ => hQ.bind (hQ.askTemplate hask _) fun _ => hQ.pure _

end

end Compositional

end Action

end AgentWorkshop
