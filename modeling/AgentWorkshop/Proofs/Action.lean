import AgentWorkshop.Workshop

/-!
# Actions, step by step

What each building block of an action does to the workshop it starts in. An
action on files works in the same monad as one on the workshop, so the
equations for sequences are stated for both at once.
-/

namespace AgentWorkshop

namespace Step

variable {σ α β : Type}

@[simp] theorem pure_apply (a : α) (x : σ) :
    (pure a : EStateM Failure σ α) x = .ok a x := rfl

@[simp] theorem get_apply (x : σ) : (get : EStateM Failure σ σ) x = .ok x x := rfl

@[simp] theorem modify_apply (g : σ → σ) (x : σ) :
    (modify g : EStateM Failure σ Unit) x = .ok () (g x) := rfl

/-- A sequence goes on with what its first part leaves, or fails with it. -/
theorem bind_apply (act : EStateM Failure σ α) (next : α → EStateM Failure σ β) (x : σ) :
    (act >>= next) x = match act x with
      | .ok a x => next a x
      | .error f x => .error f x := by
  change EStateM.bind act next x = _
  rw [EStateM.bind]
  cases act x <;> rfl

theorem bind_ok {act : EStateM Failure σ α} {next : α → EStateM Failure σ β} {x y : σ} {a : α}
    (h : act x = .ok a y) : (act >>= next) x = next a y := by
  rw [bind_apply, h]

theorem bind_error {act : EStateM Failure σ α} {next : α → EStateM Failure σ β} {x y : σ}
    {f : Failure} (h : act x = .error f y) : (act >>= next) x = .error f y := by
  rw [bind_apply, h]

/-- An action that is done for each of some things is done for the first and then for the
others. -/
theorem mapM_cons_ok {f : α → EStateM Failure σ β} {a : α} {as : List α} {bs : List β} {x y : σ}
    (h : (a :: as).mapM f x = .ok bs y) :
    ∃ b x' bs', f a x = .ok b x' ∧ as.mapM f x' = .ok bs' y ∧ bs = b :: bs' := by
  rw [List.mapM_cons, bind_apply] at h
  cases hfirst : f a x with
  | error g x' =>
    rw [hfirst] at h
    cases h
  | ok b x' =>
    rw [hfirst] at h
    dsimp only at h
    rw [bind_apply] at h
    cases hrest : as.mapM f x' with
    | error g x'' =>
      rw [hrest] at h
      cases h
    | ok bs' x'' =>
      rw [hrest] at h
      cases h
      exact ⟨b, x', bs', rfl, hrest, rfl⟩

/-- It fails for one of them, after it was done for those before. -/
theorem mapM_error {f : α → EStateM Failure σ β} {as : List α} {g : Failure} {x y : σ}
    (h : as.mapM f x = .error g y) :
    ∃ before a after bs x', as = before ++ a :: after ∧ before.mapM f x = .ok bs x' ∧
      f a x' = .error g y := by
  induction as generalizing x with
  | nil =>
    rw [List.mapM_nil] at h
    cases h
  | cons a as ih =>
    rw [List.mapM_cons, bind_apply] at h
    cases hfirst : f a x with
    | error g' x' =>
      rw [hfirst] at h
      cases h
      exact ⟨[], a, as, [], x, rfl, rfl, hfirst⟩
    | ok b x' =>
      rw [hfirst] at h
      dsimp only at h
      rw [bind_apply] at h
      cases hrest : as.mapM f x' with
      | ok bs x'' =>
        rw [hrest] at h
        cases h
      | error g' x'' =>
        rw [hrest] at h
        cases h
        obtain ⟨before, c, after, bs, x₁, rfl, hbefore, hc⟩ := ih hrest
        refine ⟨a :: before, c, after, b :: bs, x₁, rfl, ?_, hc⟩
        rw [List.mapM_cons, bind_ok hfirst, bind_ok hbefore]
        rfl

/-- What each of them keeps, all of them keep. -/
theorem mapM_ok {R : σ → σ → Prop} (hrefl : ∀ x, R x x)
    (htrans : ∀ {x y z}, R x y → R y z → R x z) {f : α → EStateM Failure σ β} {as : List α}
    (hstep : ∀ a ∈ as, ∀ {x y b}, f a x = .ok b y → R x y) {x y : σ} {bs : List β}
    (h : as.mapM f x = .ok bs y) : R x y := by
  induction as generalizing x bs with
  | nil =>
    rw [List.mapM_nil] at h
    cases h
    exact hrefl _
  | cons a as ih =>
    obtain ⟨b, x', bs', hfirst, hrest, -⟩ := mapM_cons_ok h
    refine htrans (hstep a List.mem_cons_self hfirst) (ih (fun c hc => ?_) hrest)
    exact hstep c (List.mem_cons_of_mem _ hc)

end Step

namespace Action

variable {α : Type}

/-- The workshop that an action leaves, whether it fails or not. -/
def after (act : Action α) (w : Workshop) : Workshop :=
  match act w with
  | .ok _ w => w
  | .error _ w => w

theorem after_ok {act : Action α} {w w' : Workshop} {a : α} (h : act w = .ok a w') :
    act.after w = w' := by
  rw [after, h]

theorem after_error {act : Action α} {w w' : Workshop} {f : Failure} (h : act w = .error f w') :
    act.after w = w' := by
  rw [after, h]

/-- A sequence leaves what its second part leaves, once the first is done. -/
theorem after_bind_ok {β : Type} {act : Action α} {next : α → Action β} {w w' : Workshop} {a : α}
    (h : act w = .ok a w') : (act >>= next).after w = (next a).after w' := by
  rw [after, after, Step.bind_ok h]

@[simp] theorem display_apply (e : Event) (w : Workshop) :
    display e w = .ok () { w with shown := w.shown ++ [e] } := rfl

@[simp] theorem print_apply (markup : Text) (w : Workshop) :
    print markup w = .ok () { w with shown := w.shown ++ [.line markup] } := rfl

theorem displayAll_apply (es : List Event) (w : Workshop) :
    displayAll es w = .ok () { w with shown := w.shown ++ es } := by
  induction es generalizing w with
  | nil =>
    rw [List.append_nil]
    rfl
  | cons e es ih =>
    refine (ih { w with shown := w.shown ++ [e] }).trans ?_
    rw [List.append_assoc]
    rfl

theorem attempt_ok {act : Action α} {w w' : Workshop} {a : α} (h : act w = .ok a w') :
    attempt act w = .ok (.ok a) w' := by
  rw [attempt, h]

theorem attempt_error {act : Action α} {w w' : Workshop} {f : Failure}
    (h : act w = .error f w') : attempt act w = .ok (.error f) w' := by
  rw [attempt, h]

end Action

end AgentWorkshop
