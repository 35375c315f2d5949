import AgentWorkshop.Proofs.Action

/-!
# Actions do not look back

A workshop records the processes started and the events shown so far, and both records only
grow. Nothing that the tools do depends on them: an action is `Oblivious` if, with some `Past`
put before all that a workshop records, it does the same and leaves the same with that past
before it. The building blocks are oblivious and so is every sequence of oblivious actions
(`Oblivious.bind`); so a workshop goes on as one in which nothing has happened yet
(`Oblivious.eq_anew`), and had something else been shown before, all else would be the same
(`Oblivious.of_shown`).
-/

namespace AgentWorkshop

/-- What happened before a moment. -/
structure Past where
  launches : List Launch
  shown : List Event
  /-- What processes did by then. -/
  runner : Nat → Runner

namespace Workshop

/-- A workshop with a past before all that it records. -/
def upon (w : Workshop) (p : Past) : Workshop :=
  { w with
    launches := p.launches ++ w.launches
    shown := p.shown ++ w.shown
    runner := fun n =>
      if n < p.launches.length then p.runner n else w.runner (n - p.launches.length) }

/-- What happened in a workshop so far. -/
def past (w : Workshop) : Past :=
  { launches := w.launches, shown := w.shown, runner := w.runner }

/-- The workshop as it would be if nothing had happened yet. -/
def anew (w : Workshop) : Workshop :=
  { w with
    launches := []
    shown := []
    runner := fun n => w.runner (w.launches.length + n) }

/-- A workshop is what it would be without its past, upon that past. -/
@[simp] theorem anew_upon_past (w : Workshop) : w.anew.upon w.past = w := by
  have hrunner : (w.anew.upon w.past).runner = w.runner := by
    funext n
    by_cases hn : n < w.launches.length
    · exact if_pos hn
    · have hsum := Nat.add_sub_of_le (Nat.le_of_not_lt hn)
      exact (if_neg hn).trans (congrArg w.runner hsum)
  simp only [upon, anew, past, List.append_nil] at hrunner ⊢
  rw [hrunner]

/-- The next process does what it would do without the past. -/
theorem runner_upon (w : Workshop) (p : Past) :
    (w.upon p).runner (w.upon p).launches.length = w.runner w.launches.length := by
  have hlast : ¬ p.launches.length + w.launches.length < p.launches.length := by omega
  simp only [upon, List.length_append, if_neg hlast, Nat.add_sub_cancel_left]

end Workshop

namespace Action

variable {α β : Type} {act : Action α} {w : Workshop}

/-- What an action comes to, with a change made to the workshop that it leaves. -/
def leaving (g : Workshop → Workshop) :
    EStateM.Result Failure Workshop α → EStateM.Result Failure Workshop α
  | .ok a w => .ok a (g w)
  | .error f w => .error f (g w)

/-- The action does the same whatever happened before. -/
def Oblivious (act : Action α) : Prop :=
  ∀ (w : Workshop) (p : Past), act (w.upon p) = leaving (·.upon p) (act w)

/-! ## Sequences -/

theorem oblivious_pure (a : α) : Oblivious (pure a) :=
  fun _ _ => rfl

theorem oblivious_throw (f : Failure) : Oblivious (throw f : Action α) :=
  fun _ _ => rfl

/-- **A sequence of oblivious actions is oblivious.** -/
theorem Oblivious.bind {next : α → Action β} (h : act.Oblivious)
    (hnext : ∀ a, (next a).Oblivious) : Oblivious (act >>= next) := by
  intro w p
  rw [Step.bind_apply, h w p, Step.bind_apply]
  cases act w with
  | ok a w' => exact hnext a w' p
  | error f w' => rfl

/-- What depends on a workshop but not on its past may be read from it. -/
theorem oblivious_get {next : Workshop → Action α} (hsame : ∀ w p, next (w.upon p) = next w)
    (hnext : ∀ w, (next w).Oblivious) : Oblivious (get >>= next) := by
  intro w p
  rw [Step.bind_ok (Step.get_apply _), Step.bind_ok (Step.get_apply _), hsame]
  exact hnext w w p

theorem oblivious_modify {g : Workshop → Workshop} (h : ∀ w p, g (w.upon p) = (g w).upon p) :
    Oblivious (modify g) := by
  intro w p
  rw [Step.modify_apply, Step.modify_apply, h]
  rfl

theorem Oblivious.ite {act' : Action α} (c : Prop) [Decidable c] (h : act.Oblivious)
    (h' : act'.Oblivious) : Oblivious (if c then act else act') := by
  split
  · exact h
  · exact h'

/-! ## Building blocks -/

theorem oblivious_display (e : Event) : (display e).Oblivious := by
  intro w p
  rw [display_apply, display_apply]
  simp only [leaving, Workshop.upon, List.append_assoc]

theorem oblivious_print (markup : Text) : (print markup).Oblivious :=
  oblivious_display _

theorem oblivious_onFiles (act : Address → FileAction α) : (onFiles act).Oblivious := by
  intro w p
  simp only [onFiles, Workshop.upon]
  cases act w.directory w.files <;> rfl

theorem Oblivious.attempt (h : act.Oblivious) : (attempt act).Oblivious := by
  intro w p
  rw [Action.attempt, h w p, Action.attempt]
  cases act w <;> rfl

/-- A process is answered by the same runner: as many others were started since. -/
theorem oblivious_launch (invocation : Invocation) : (launch invocation).Oblivious := by
  intro w p
  simp only [launch, Workshop.runner_upon]
  simp only [leaving, Workshop.upon, List.append_assoc]

/-! ## What follows -/

/-- **An action does what it would do if nothing had happened yet.** -/
theorem Oblivious.eq_anew (h : act.Oblivious) (w : Workshop) :
    act w = leaving (·.upon w.past) (act w.anew) := by
  rw [← h, Workshop.anew_upon_past]

/-- What an action shows. -/
def shows (act : Action α) (w : Workshop) : List Event :=
  (act.after w.anew).shown

/-- It is shown after all that was shown before. -/
theorem Oblivious.shown_after (h : act.Oblivious) (w : Workshop) :
    (act.after w).shown = w.shown ++ act.shows w := by
  rw [shows, after, after, h.eq_anew w]
  cases act w.anew <;> rfl

/-- **Had something else been shown before, it would stand there instead**, and all else would
be the same. -/
theorem Oblivious.of_shown (h : act.Oblivious) (w : Workshop) (shown : List Event) :
    act { w with shown } =
      leaving (fun w' => { w' with shown := shown ++ act.shows w }) (act w) := by
  rw [h.eq_anew { w with shown }, shows, after, h.eq_anew w]
  -- What was shown is no part of a workshop in which nothing has happened yet.
  change leaving _ (act w.anew) = _
  cases act w.anew <;> rfl

/-! ## What is started first -/

/-- No launch is taken back. -/
theorem Oblivious.keeps_launches (h : act.Oblivious) (w : Workshop) :
    w.launches <+: (act.after w).launches := by
  rw [after, h.eq_anew w]
  cases act w.anew with
  | ok a w' => exact List.prefix_append _ _
  | error f w' => exact List.prefix_append _ _

/-- The action does the same whatever happened before, and starts this process first. -/
structure Begins (invocation : Invocation) (act : Action α) : Prop where
  oblivious : act.Oblivious
  launches : ∀ w, ∃ l, w.launches ++ [l] <+: (act.after w).launches ∧ l.invocation = invocation

section
variable {invocation : Invocation}

theorem begins_launch (invocation : Invocation) : Begins invocation (launch invocation) :=
  ⟨oblivious_launch invocation, fun _ => ⟨_, List.prefix_rfl, rfl⟩⟩

/-- What follows does not matter. -/
theorem Begins.bind {next : α → Action β} (h : Begins invocation act)
    (hnext : ∀ a, (next a).Oblivious) : Begins invocation (act >>= next) := by
  refine ⟨h.oblivious.bind hnext, fun w => ?_⟩
  obtain ⟨l, hfirst, hl⟩ := h.launches w
  refine ⟨l, hfirst.trans ?_, hl⟩
  cases hact : act w with
  | ok a w' =>
    rw [after_bind_ok hact, after_ok hact]
    exact (hnext a).keeps_launches w'
  | error f w' =>
    have hsame : (act >>= next).after w = act.after w := by
      rw [after_error hact, after_error (Step.bind_error hact)]
    exact hsame ▸ List.prefix_rfl

/-- Neither does what is shown before. -/
theorem Begins.display_bind (h : Begins invocation act) (e : Event) :
    Begins invocation (display e >>= fun _ => act) := by
  refine ⟨(oblivious_display e).bind fun _ => h.oblivious, fun w => ?_⟩
  rw [after_bind_ok (display_apply e w)]
  exact h.launches { w with shown := w.shown ++ [e] }

end

end Action

end AgentWorkshop
