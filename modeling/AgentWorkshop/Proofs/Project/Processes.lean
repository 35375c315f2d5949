import AgentWorkshop.Proofs.Project.SetUp

/-!
# Processes that touch files

A process may leave the files as it likes. `Workshop.ran` is a workshop once processes for some
requests were started one after the other and have ended, whatever they did, and
`Workshop.Succeeds` says that each of them ended with zero. Where what comes of a process may be
objected to, the first objection ends the run (`Workshop.pursued`): only the last task may be the
one that was objected to (`Workshop.pursued_step`). The set-up is such a run
(`Project.perform_pursuit`), and either is run to its end and succeeds or breaks off with a
failure (`Project.perform_cases`).
-/

namespace AgentWorkshop

@[simp] theorem Outcome.exited_succeeded_iff {code : Int} {stdout stderr : Text} :
    (Outcome.exited code stdout stderr).Succeeded ↔ code = 0 := by
  constructor
  · rintro ⟨_, _, h⟩
    cases h
    rfl
  · rintro rfl
    exact ⟨stdout, stderr, rfl⟩

@[simp] theorem Outcome.not_failed_succeeded (f : Failure) : ¬ (Outcome.failed f).Succeeded := by
  rintro ⟨_, _, h⟩
  cases h

/-! ## One after the other -/

namespace Workshop

/-- What comes of a process that is started now. -/
def answer (w : Workshop) (i : Invocation) : Outcome :=
  (w.runner w.launches.length i w.files).2

/-- The workshop once it has ended. -/
def once (w : Workshop) (i : Invocation) : Workshop :=
  { w with
    files := (w.runner w.launches.length i w.files).1
    launches := w.launches ++ [⟨i, w.files, w.phase, w.history⟩] }

/-- The workshop once a process for each request has ended, each started after the one before. -/
def ran (w : Workshop) (requests : List Invocation) : Workshop :=
  requests.foldl once w

/-- Each of these processes ends with zero. -/
def Succeeds (w : Workshop) : List Invocation → Prop
  | [] => True
  | i :: later => (w.answer i).Succeeded ∧ (w.once i).Succeeds later

variable {requests later : List Invocation}

@[simp] theorem ran_directory (w : Workshop) (requests : List Invocation) :
    (w.ran requests).directory = w.directory := by
  induction requests generalizing w with
  | nil => rfl
  | cons i later ih => exact ih (w.once i)

@[simp] theorem ran_runner (w : Workshop) (requests : List Invocation) :
    (w.ran requests).runner = w.runner := by
  induction requests generalizing w with
  | nil => rfl
  | cons i later ih => exact ih (w.once i)

/-- What was shown stays, and has no part in what processes do. -/
@[simp] theorem ran_shown (w : Workshop) (shown : List Event) (requests : List Invocation) :
    ran { w with shown := shown } requests = { w.ran requests with shown := shown } := by
  induction requests generalizing w with
  | nil => rfl
  | cons i later ih => exact ih (w.once i)

@[simp] theorem succeeds_shown {w : Workshop} {shown : List Event} :
    Succeeds { w with shown := shown } requests ↔ w.Succeeds requests := by
  induction requests generalizing w with
  | nil => exact Iff.rfl
  | cons i later ih => exact and_congr_right fun _ => ih (w := w.once i)

/-- Processes that touch no file leave them all. -/
theorem Untouching.ran_files {w : Workshop} (h : w.Untouching) (requests : List Invocation) :
    (w.ran requests).files = w.files := by
  induction requests generalizing w with
  | nil => rfl
  | cons i later ih => exact (ih (w := w.once i) h).trans (h _ _ _)

/-- Every request is recorded once. -/
theorem ran_launches_length (w : Workshop) (requests : List Invocation) :
    (w.ran requests).launches.length = w.launches.length + requests.length := by
  induction requests generalizing w with
  | nil => rfl
  | cons i later ih =>
    have hlater := ih (w.once i)
    rw [once, List.length_append, List.length_singleton] at hlater
    rw [List.length_cons, Nat.add_comm later.length 1, ← Nat.add_assoc]
    exact hlater

/-- And no record is taken back. -/
theorem launches_prefix_ran (w : Workshop) (requests : List Invocation) :
    w.launches <+: (w.ran requests).launches := by
  induction requests generalizing w with
  | nil => exact List.prefix_rfl
  | cons i later ih => exact (List.prefix_append _ _).trans (ih (w.once i))

end Workshop

/-- What a start comes to. -/
theorem Action.launch_apply (i : Invocation) (w : Workshop) :
    Action.launch i w = .ok (w.answer i) (w.once i) := rfl

/-- The process ended, or the system says why there is none. -/
def Outcome.Regular : Outcome → Prop
  | .exited _ _ _ => True
  | .failed f => ∃ e, f = .system e

/-- Every process that is started ends, or the system says why there is none. -/
def Workshop.Regular (w : Workshop) : Prop :=
  ∀ n i t, (w.runner n i t).2.Regular

/-- Processes that ran before do not change that. -/
theorem Workshop.Regular.answer_ran {w : Workshop} (h : w.Regular) (requests : List Invocation)
    (i : Invocation) : ((w.ran requests).answer i).Regular := by
  rw [Workshop.answer, Workshop.ran_runner]
  exact h _ _ _

/-! ## Up to the first that is objected to -/

namespace Workshop

variable {α : Type} (request : α → Invocation) (objection? : α → Outcome → Option Failure)

/-- Those of the tasks that are taken on one after the other, up to the first whose outcome is
objected to, and that objection. -/
def pursued (w : Workshop) : List α → List α × Option Failure
  | [] => ([], none)
  | a :: later =>
    match objection? a (w.answer (request a)) with
    | some f => ([a], some f)
    | none =>
      (a :: (pursued (w.once (request a)) later).1, (pursued (w.once (request a)) later).2)

variable {request objection?} {tasks before later : List α} {a : α} {w : Workshop}

/-- What was shown has no part in it. -/
@[simp] theorem pursued_shown (w : Workshop) (shown : List Event) (tasks : List α) :
    pursued request objection? { w with shown := shown } tasks =
      w.pursued request objection? tasks := by
  induction tasks generalizing w with
  | nil => rfl
  | cons a later ih =>
    have hanswer : answer { w with shown := shown } (request a) = w.answer (request a) := rfl
    have hlater := ih (w.once (request a))
    rw [pursued, pursued, hanswer]
    rw [← hlater]
    rfl

/-- What is taken on is a beginning of the tasks. -/
theorem pursued_beginning (w : Workshop) (tasks : List α) :
    (w.pursued request objection? tasks).1 <+: tasks := by
  induction tasks generalizing w with
  | nil => exact List.prefix_rfl
  | cons a later ih =>
    rw [pursued]
    cases objection? a (w.answer (request a)) with
    | some f => exact List.prefix_append [a] later
    | none => exact (List.prefix_cons_inj a).2 (ih (w.once (request a)))

/-- The first task is taken on. -/
theorem pursued_eq_nil_iff : (w.pursued request objection? tasks).1 = [] ↔ tasks = [] := by
  cases tasks with
  | nil => exact Iff.rfl
  | cons a later =>
    rw [pursued]
    cases objection? a (w.answer (request a)) <;> simp

/-- **A task is done without objection** exactly if it is not the last one that is taken on, or
nothing is objected to at all. -/
theorem pursued_step (h : (w.pursued request objection? tasks).1 = before ++ a :: later) :
    objection? a ((w.ran (before.map request)).answer (request a)) = none ↔
      later ≠ [] ∨ (w.pursued request objection? tasks).2 = none := by
  -- Each task before the one in question is one process more in the workshop it starts in.
  induction tasks generalizing w before with
  | nil => simp [pursued] at h
  | cons first rest ih =>
    rw [pursued] at h ⊢
    cases hfirst : objection? first (w.answer (request first)) with
    | some f =>
      rw [hfirst] at h
      obtain ⟨rfl, h⟩ : before = [] ∧ [first] = a :: later := by
        cases before with
        | nil => exact ⟨rfl, h⟩
        | cons b before => simp at h
      cases h
      change objection? a (w.answer (request a)) = none ↔ _
      simp [hfirst]
    | none =>
      rw [hfirst] at h
      cases before with
      | nil =>
        cases h
        change objection? a (w.answer (request a)) = none ↔ _
        rw [hfirst, ne_eq, pursued_eq_nil_iff]
        simp only [true_iff]
        by_cases hrest : rest = []
        · rw [hrest]
          exact .inr rfl
        · exact .inl hrest
      | cons b before =>
        rw [List.cons_append, List.cons.injEq] at h
        obtain ⟨rfl, h⟩ := h
        exact ih h

/-- Nothing is objected to if the first task is done without objection and the others after it. -/
theorem pursued_cons_ok_iff : (w.pursued request objection? (a :: later)).2 = none ↔
    objection? a (w.answer (request a)) = none ∧
      ((w.once (request a)).pursued request objection? later).2 = none := by
  rw [pursued]
  cases objection? a (w.answer (request a)) <;> simp

/-- Where nothing but a success is done without objection, all of them have to succeed. -/
theorem pursued_ok_iff (hobjection : ∀ a o, objection? a o = none ↔ o.Succeeded) :
    (w.pursued request objection? tasks).2 = none ↔ w.Succeeds (tasks.map request) := by
  induction tasks generalizing w with
  | nil => exact ⟨fun _ => trivial, fun _ => rfl⟩
  | cons a later ih =>
    rw [pursued_cons_ok_iff, hobjection, ih]
    rfl

/-- If nothing is objected to, every task is taken on. -/
theorem pursued_all (h : (w.pursued request objection? tasks).2 = none) :
    (w.pursued request objection? tasks).1 = tasks := by
  induction tasks generalizing w with
  | nil => rfl
  | cons a later ih =>
    rw [pursued] at h ⊢
    cases hfirst : objection? a (w.answer (request a)) with
    | some f =>
      rw [hfirst] at h
      cases h
    | none =>
      rw [hfirst] at h
      exact congrArg (a :: ·) (ih h)

/-- **An objection is made to the last task that is taken on.** -/
theorem pursued_objection {f : Failure} (h : (w.pursued request objection? tasks).2 = some f) :
    ∃ before a, (w.pursued request objection? tasks).1 = before ++ [a] ∧
      objection? a ((w.ran (before.map request)).answer (request a)) = some f := by
  induction tasks generalizing w with
  | nil => cases h
  | cons first rest ih =>
    rw [pursued] at h ⊢
    cases hfirst : objection? first (w.answer (request first)) with
    | some g =>
      rw [hfirst] at h
      exact ⟨[], first, rfl, hfirst.trans h⟩
    | none =>
      rw [hfirst] at h
      obtain ⟨before, a, hlast, hobjection⟩ := ih h
      exact ⟨first :: before, a, congrArg (first :: ·) hlast, hobjection⟩

end Workshop

/-! ## The set-up -/

namespace Project

/-- The requests of the set-up, in order. -/
def commands (settings : ScaffoldSettings) (directory project : Path) : List Invocation :=
  (setUpSteps settings directory project).map (·.invocation)

/-- **A command of the set-up** is run once, and ends the set-up unless it succeeds. -/
theorem runStep_once (s : SetUpStep) (w : Workshop) : runStep s.words s.directory w =
    ended () (stepFailure? s.words (w.answer s.invocation)) (w.once s.invocation) := by
  have hlaunch := Action.launch_apply s.invocation w
  rw [SetUpStep.invocation, setUpInvocation] at hlaunch
  rw [runStep, Step.bind_ok hlaunch, SetUpStep.invocation, setUpInvocation]
  rcases w.answer _ with ⟨code, output, stderr⟩ | f
  · by_cases hcode : code = 0
    · simp only [if_pos hcode, stepFailure?]
      rfl
    · simp only [if_neg hcode, stepFailure?]
      rfl
  · cases f <;> rfl

/-- The steps that are run in a workshop, and the failure that ends them. -/
def pursuit (w : Workshop) (steps : List SetUpStep) : List SetUpStep × Option Failure :=
  w.pursued SetUpStep.invocation (fun s => stepFailure? s.words) steps

/-- **The steps are run one after the other**, up to the first that fails. -/
theorem perform_pursuit (steps : List SetUpStep) (w : Workshop) :
    ∃ shown, perform steps w = ended () (pursuit w steps).2
      { w.ran ((pursuit w steps).1.map (·.invocation)) with shown := shown } := by
  induction steps generalizing w with
  | nil => exact ⟨w.shown, rfl⟩
  | cons s rest ih =>
    rw [perform, Step.bind_ok (Action.display_apply _ _), pursuit, Workshop.pursued]
    have hrun := runStep_once s { w with shown := w.shown ++ [.status s.status] }
    have hanswer : Workshop.answer { w with shown := w.shown ++ [.status s.status] }
      s.invocation = w.answer s.invocation := rfl
    rw [hanswer] at hrun
    cases hfailure : stepFailure? s.words (w.answer s.invocation) with
    | some f =>
      rw [hfailure] at hrun
      rw [Step.bind_error hrun]
      exact ⟨_, rfl⟩
    | none =>
      rw [hfailure] at hrun
      rw [Step.bind_ok hrun]
      obtain ⟨shown, hrest⟩ :=
        ih { w.once s.invocation with shown := w.shown ++ [.status s.status] }
      rw [pursuit, Workshop.pursued_shown, Workshop.ran_shown] at hrest
      exact ⟨shown, hrest⟩

/-- **The steps are run to their end and succeed, or break off.** -/
theorem perform_cases (steps : List SetUpStep) (w : Workshop) :
    (w.Succeeds (steps.map (·.invocation)) ∧ ∃ shown,
      perform steps w = .ok () { w.ran (steps.map (·.invocation)) with shown := shown }) ∨
    (¬ w.Succeeds (steps.map (·.invocation)) ∧ ∃ f requests shown,
      requests <+: steps.map (·.invocation) ∧
        perform steps w = .error f { w.ran requests with shown := shown }) := by
  obtain ⟨shown, hperform⟩ := perform_pursuit steps w
  have hobjection (s : SetUpStep) (o : Outcome) : stepFailure? s.words o = none ↔ o.Succeeded :=
    stepFailure?_eq_none_iff
  rw [← Workshop.pursued_ok_iff hobjection, hperform]
  cases hfailure : (pursuit w steps).2 with
  | none =>
    have hall : (pursuit w steps).1 = steps := Workshop.pursued_all hfailure
    rw [hall]
    exact .inl ⟨hfailure, shown, rfl⟩
  | some f =>
    refine .inr ⟨?_, f, _, shown, ?_, rfl⟩
    · intro hnone
      rw [pursuit, hnone] at hfailure
      cases hfailure
    · exact (Workshop.pursued_beginning w steps).map _

end Project

end AgentWorkshop
