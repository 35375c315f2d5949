import AgentWorkshop.Project.Create
import AgentWorkshop.Proofs.Action
import Mathlib.Data.List.Basic

/-!
# The set-up of a project

The commands of the set-up are run one after the other, up to the first that does not exit
with zero (`perform_apply`). So what is run is a beginning of the steps
(`performed_beginning`), each after a success of the one before (`performed_step`), and nothing
fails exactly if all are run and succeed (`performed_ok_iff`).
-/

namespace AgentWorkshop

namespace Workshop

/-- What came of a launch that so many others of the same run came before. -/
def outcome (w : Workshop) (k : Nat) (l : Launch) : Outcome :=
  (w.runner (w.launches.length + k) l.invocation l.files).2

/-- No process that is started touches a file. -/
def Untouching (w : Workshop) : Prop :=
  ∀ n i t, (w.runner n i t).1 = t

end Workshop

/-- The process ended with zero. -/
def Outcome.Succeeded (o : Outcome) : Prop :=
  ∃ stdout stderr, o = .exited 0 stdout stderr

namespace Project

variable {settings : ScaffoldSettings} {directory : Path} {w : Workshop}

/-! ## One command -/


/-- The request to run a command of the set-up. -/
def setUpInvocation (words : List Text) (directory : Path) : Invocation :=
  { command := .program words, directory := some directory.toText, bindings := [], limit := none }

/-- The failure that a command of the set-up ends it with, if it does. -/
def stepFailure? (words : List Text) : Outcome → Option Failure
  | .exited code _ stderr =>
    if code = 0 then none else some (.command (Command.program words).toText code stderr)
  | .failed (.system e) => some (.command (Command.program words).toText (-1) e.message)
  | .failed f => some f

/-- The set-up goes on exactly after a success. -/
theorem stepFailure?_eq_none_iff {words : List Text} {o : Outcome} :
    stepFailure? words o = none ↔ o.Succeeded := by
  cases o with
  | exited code stdout stderr =>
    rw [stepFailure?]
    split <;> simp_all [Outcome.Succeeded]
  | failed f => cases f <;> simp [stepFailure?, Outcome.Succeeded]

/-- A workshop after a process that touches no file. -/
def launched (w : Workshop) (i : Invocation) : Workshop :=
  { w with launches := w.launches ++ [⟨i, w.files, w.phase, w.history⟩] }

/-- **A command of the set-up** is recorded, and ends the set-up unless it succeeds. -/
theorem runStep_apply (huntouching : w.Untouching) (words : List Text) (directory : Path) :
    runStep words directory w =
      match stepFailure? words (w.runner w.launches.length (setUpInvocation words directory)
        w.files).2 with
      | none => .ok () (launched w (setUpInvocation words directory))
      | some f => .error f (launched w (setUpInvocation words directory)) := by
  have hfiles := huntouching w.launches.length (setUpInvocation words directory) w.files
  have hlaunch : Action.launch (setUpInvocation words directory) w =
      .ok (w.runner w.launches.length (setUpInvocation words directory) w.files).2
        (launched w (setUpInvocation words directory)) := by
    rw [Action.launch, launched]
    simp only [hfiles]
  rw [setUpInvocation] at hlaunch
  rw [runStep, Step.bind_ok hlaunch, setUpInvocation]
  rcases (w.runner w.launches.length _ w.files).2 with ⟨code, out, err⟩ | f
  · by_cases hcode : code = 0
    · simp only [if_pos hcode, stepFailure?]
      rfl
    · simp only [if_neg hcode, stepFailure?]
      rfl
  · cases f <;> rfl

/-! ## One command after the other -/

/-- A command of the set-up, with what is shown while it runs. -/
structure SetUpStep where
  status : Text
  words : List Text
  directory : Path

/-- The commands of the set-up, in order. -/
def setUpSteps (settings : ScaffoldSettings) (directory project : Path) : List SetUpStep :=
  [⟨text "Initializing git repository...", [text "git", text "init"], project⟩,
    ⟨text "Installing dependencies...", [text "npm", text "install"], project⟩,
    ⟨text "Setting up Rust environment...",
      [text "rustup", text "target", text "add", settings.wasmTarget], directory⟩]

/-- The request of a step. -/
def SetUpStep.invocation (s : SetUpStep) : Invocation :=
  setUpInvocation s.words s.directory

/-- The record of a step that is run in a workshop. -/
def SetUpStep.launch (s : SetUpStep) (w : Workshop) : Launch :=
  ⟨s.invocation, w.files, w.phase, w.history⟩

/-- Runs steps one after the other. -/
def perform : List SetUpStep → Action Unit
  | [] => pure ()
  | s :: rest => do
    Action.display (.status s.status)
    runStep s.words s.directory
    perform rest

/-- The steps that are run when so many were run before, and the failure that ends them. -/
def performed (w : Workshop) : Nat → List SetUpStep → List SetUpStep × Option Failure
  | _, [] => ([], none)
  | k, s :: rest =>
    match stepFailure? s.words (w.outcome k (s.launch w)) with
    | some f => ([s], some f)
    | none => (s :: (performed w (k + 1) rest).1, (performed w (k + 1) rest).2)

/-- How an action ends that fails with a failure if there is one, and else gives a value. -/
def ended {α : Type} (a : α) : Option Failure → Workshop → EStateM.Result Failure Workshop α
  | none, w => .ok a w
  | some f, w => .error f w

variable {steps : List SetUpStep} {k i : Nat} {s : SetUpStep}

/-- **The steps are run in order up to the first that fails.** -/
theorem perform_apply (huntouching : w.Untouching) (steps : List SetUpStep)
    (before : List Launch) (shown : List Event) :
    ∃ shown', perform steps { w with launches := w.launches ++ before, shown := shown } =
      ended () (performed w before.length steps).2
        { w with
          launches := w.launches ++ before ++ (performed w before.length steps).1.map (·.launch w)
          shown := shown' } := by
  -- Each step is one launch more for the steps after it.
  induction steps generalizing before shown with
  | nil => exact ⟨shown, by simp [perform, performed, ended]⟩
  | cons s rest ih =>
    have hstep := runStep_apply
      (w := { w with launches := w.launches ++ before, shown := shown ++ [.status s.status] })
      huntouching s.words s.directory
    have houtcome : (w.runner (w.launches ++ before).length (setUpInvocation s.words s.directory)
        w.files).2 = w.outcome before.length (s.launch w) := by
      rw [List.length_append]
      rfl
    rw [houtcome] at hstep
    rw [perform, Step.bind_ok (Action.display_apply _ _), performed]
    cases hfailure : stepFailure? s.words (w.outcome before.length (s.launch w)) with
    | some f =>
      rw [hfailure] at hstep
      rw [Step.bind_error hstep]
      exact ⟨_, rfl⟩
    | none =>
      rw [hfailure] at hstep
      rw [Step.bind_ok hstep]
      obtain ⟨shown', hrest⟩ := ih (before ++ [s.launch w]) (shown ++ [.status s.status])
      rw [List.length_append, List.length_singleton] at hrest
      refine ⟨shown', ?_⟩
      rw [launched]
      simp only [List.append_assoc] at hrest ⊢
      exact hrest

/-- What is run is a beginning of the steps. -/
theorem performed_beginning (w : Workshop) (k : Nat) (steps : List SetUpStep) :
    (performed w k steps).1 <+: steps := by
  induction steps generalizing k with
  | nil => exact List.prefix_rfl
  | cons s rest ih =>
    rw [performed]
    cases stepFailure? s.words (w.outcome k (s.launch w)) with
    | some f => exact List.prefix_append [s] rest
    | none => exact (List.prefix_cons_inj s).2 (ih (k + 1))

/-- **A step goes on or ends it all**: it succeeds, or it is the last one and its failure is
what the steps end with. -/
theorem performed_step (h : (performed w k steps).1[i]? = some s) :
    (w.outcome (k + i) (s.launch w)).Succeeded ∨
      (performed w k steps).1.length = i + 1 ∧
        (performed w k steps).2 = stepFailure? s.words (w.outcome (k + i) (s.launch w)) := by
  induction steps generalizing k i with
  | nil => simp [performed] at h
  | cons first rest ih =>
    rw [performed] at h ⊢
    cases hfailure : stepFailure? first.words (w.outcome k (first.launch w)) with
    | some f =>
      rw [hfailure] at h
      cases i with
      | zero =>
        cases h
        exact .inr ⟨rfl, hfailure.symm⟩
      | succ i => simp at h
    | none =>
      rw [hfailure] at h
      cases i with
      | zero =>
        cases h
        exact .inl (stepFailure?_eq_none_iff.1 hfailure)
      | succ i =>
        rw [List.getElem?_cons_succ] at h
        have hnext := ih h
        rw [Nat.add_assoc, Nat.add_comm 1 i] at hnext
        simpa using hnext

/-- If nothing fails, all steps are run. -/
theorem performed_all (h : (performed w k steps).2 = none) : (performed w k steps).1 = steps := by
  induction steps generalizing k with
  | nil => rfl
  | cons s rest ih =>
    rw [performed] at h ⊢
    cases hfailure : stepFailure? s.words (w.outcome k (s.launch w)) with
    | some f =>
      rw [hfailure] at h
      cases h
    | none =>
      rw [hfailure] at h
      exact congrArg (s :: ·) (ih h)

/-- If every step succeeds, nothing fails. -/
theorem performed_ok
    (h : ∀ i s, steps[i]? = some s → (w.outcome (k + i) (s.launch w)).Succeeded) :
    (performed w k steps).2 = none := by
  induction steps generalizing k with
  | nil => rfl
  | cons s rest ih =>
    have hfirst : stepFailure? s.words (w.outcome k (s.launch w)) = none :=
      stepFailure?_eq_none_iff.2 (h 0 s rfl)
    rw [performed, hfirst]
    refine ih fun i s' hs' => ?_
    have hnext := h (i + 1) s' hs'
    rwa [Nat.add_comm i 1, ← Nat.add_assoc] at hnext

/-- Nothing fails exactly if all steps are run and succeed. -/
theorem performed_ok_iff : (performed w k steps).2 = none ↔
    (performed w k steps).1 = steps ∧
      ∀ i s, steps[i]? = some s → (w.outcome (k + i) (s.launch w)).Succeeded := by
  refine ⟨fun h => ⟨performed_all h, fun i s hs => ?_⟩, fun h => performed_ok h.2⟩
  rw [← performed_all h] at hs
  rcases performed_step hs with hsucceeded | ⟨-, hfailure⟩
  · exact hsucceeded
  · rw [h] at hfailure
    exact stepFailure?_eq_none_iff.1 hfailure.symm

end Project

end AgentWorkshop
