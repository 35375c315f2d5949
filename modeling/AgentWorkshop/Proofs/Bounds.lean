import AgentWorkshop.Proofs.Action

/-!
# Bounds on what actions do

`Step.Within R E` bounds an action from both sides: the state that it leaves is related by `R` to
the state that it found, whether it fails or not, and what it fails with is one of the failures
that `E` allows there. A sequence is within the bounds of its parts (`Within.bind`), as long as
the bounds compose.
-/

namespace AgentWorkshop

namespace Step

variable {σ α β : Type} {R R' : σ → σ → Prop} {E E' : σ → Failure → Prop}
variable {act : EStateM Failure σ α} {x y : σ} {f : Failure}

/-- A result is within bounds. -/
def Bounded (R : σ → σ → Prop) (E : σ → Failure → Prop) (x : σ) :
    EStateM.Result Failure σ α → Prop
  | .ok _ y => R x y
  | .error f y => R x y ∧ E x f

/-- **Every result of the action is within bounds.** -/
def Within (R : σ → σ → Prop) (E : σ → Failure → Prop) (act : EStateM Failure σ α) : Prop :=
  ∀ x, Bounded R E x (act x)

/-- The bounds of one step after another are those of both: what a later state allows, an earlier
one does. -/
structure Composes (R : σ → σ → Prop) (E : σ → Failure → Prop) : Prop where
  refl : ∀ x, R x x
  trans : ∀ {x y z}, R x y → R y z → R x z
  earlier : ∀ {x y f}, R x y → E y f → E x f

theorem Within.ok (h : Within R E act) {a : α} (hact : act x = .ok a y) : R x y := by
  have hx := h x
  rwa [hact] at hx

theorem Within.error (h : Within R E act) (hact : act x = .error f y) : R x y ∧ E x f := by
  have hx := h x
  rwa [hact] at hx

theorem Within.mono (h : Within R E act) (hR : ∀ x y, R x y → R' x y)
    (hE : ∀ x f, E x f → E' x f) : Within R' E' act := by
  intro x
  cases hact : act x with
  | ok a y => exact hR x y (h.ok hact)
  | error f y => exact ⟨hR x y (h.error hact).1, hE x f (h.error hact).2⟩

theorem within_modify {g : σ → σ} (h : ∀ x, R x (g x)) :
    Within R E (modify g : EStateM Failure σ Unit) :=
  h

namespace Composes

variable (hc : Composes R E)
include hc

theorem pure (a : α) : Within R E (pure a : EStateM Failure σ α) :=
  hc.refl

theorem get : Within R E (get : EStateM Failure σ σ) :=
  hc.refl

theorem throw (h : ∀ x, E x f) : Within R E (throw f : EStateM Failure σ α) :=
  fun x => ⟨hc.refl x, h x⟩

/-- What comes later is bounded from the start. -/
theorem after {r : EStateM.Result Failure σ α} (hxy : R x y) (h : Bounded R E y r) :
    Bounded R E x r := by
  cases r with
  | ok a z => exact hc.trans hxy h
  | error f z => exact ⟨hc.trans hxy h.1, hc.earlier hxy h.2⟩

/-- **A sequence is within the bounds of its parts.** -/
theorem bind {next : α → EStateM Failure σ β} (hact : Within R E act)
    (hnext : ∀ a, Within R E (next a)) : Within R E (act >>= next) := by
  intro x
  rw [bind_apply]
  cases hfirst : act x with
  | error f y => exact hact.error hfirst
  | ok a y => exact hc.after (hact.ok hfirst) (hnext a y)

/-- And an action that may be refused before it starts. -/
theorem guarded {c : Prop} [Decidable c] {refusal : EStateM Failure σ Unit}
    {next : Unit → EStateM Failure σ β} (hrefusal : Within R E refusal)
    (hnext : Within R E (next ())) : Within R E (if c then refusal >>= next else next ()) := by
  split
  · exact hc.bind hrefusal fun _ => hnext
  · exact hnext

/-- So is an action that falls back on another one for what it may fail with. -/
theorem rescue {handler : Failure → EStateM Failure σ α} (hact : Within R E act)
    (hhandler : ∀ f x, E x f → Within R E (handler f)) : Within R E (tryCatch act handler) := by
  intro x
  change Bounded R E x (EStateM.tryCatch act handler x)
  delta EStateM.tryCatch
  cases hfirst : act x with
  | ok a y => exact hact.ok hfirst
  | error f y =>
    obtain ⟨hbefore, hf⟩ := hact.error hfirst
    exact hc.after hbefore (hhandler f x hf y)

end Composes

end Step

end AgentWorkshop
