import AgentWorkshop.Proofs.Action

/-!
# Two runs side by side

Two actions go `Abreast` if from related states they come to the same and leave related states
again. What is made of such actions goes abreast too (`Abreast.bind`, `Abreast.mapM`), so two
runs of one program are compared building block by building block. Actions on workshops are
compared by what they do to files (`Side`), whatever else has happened in either.
-/

namespace AgentWorkshop

namespace Step

variable {σ α β : Type} {R : σ → σ → Prop}

/-- Two ends with the same value or the same failure, in related states. -/
inductive Alike (R : σ → σ → Prop) :
    EStateM.Result Failure σ α → EStateM.Result Failure σ α → Prop
  | ok {a : α} {x y : σ} (h : R x y) : Alike R (.ok a x) (.ok a y)
  | error {f : Failure} {x y : σ} (h : R x y) : Alike R (.error f x) (.error f y)

/-- From related states the actions end alike. -/
def Abreast (R : σ → σ → Prop) (act act' : EStateM Failure σ α) : Prop :=
  ∀ x y, R x y → Alike R (act x) (act' y)

theorem abreast_pure (a : α) : Abreast R (pure a) (pure a) :=
  fun _ _ h => .ok h

theorem abreast_throw (f : Failure) : Abreast R (throw f : EStateM Failure σ α) (throw f) :=
  fun _ _ h => .error h

theorem abreast_modify {g g' : σ → σ} (h : ∀ x y, R x y → R (g x) (g' y)) :
    Abreast R (modify g : EStateM Failure σ Unit) (modify g') :=
  fun x y hxy => .ok (h x y hxy)

variable {act act' : EStateM Failure σ α} {next next' : α → EStateM Failure σ β}

/-- **Sequences go abreast** if their first parts do, and what follows does for each value that
the first part can come to. -/
theorem Abreast.bind_of_ok (h : Abreast R act act')
    (hnext : ∀ a, (∃ x y z, R x y ∧ act x = .ok a z) → Abreast R (next a) (next' a)) :
    Abreast R (act >>= next) (act' >>= next') := by
  intro x y hxy
  have hends := h x y hxy
  have hvalue (a : α) (z : σ) (ha : act x = .ok a z) : ∃ x y z, R x y ∧ act x = .ok a z :=
    ⟨x, y, z, hxy, ha⟩
  rw [bind_apply, bind_apply]
  generalize act x = r, act' y = r' at hends hvalue
  cases hends with
  | ok hxy => exact hnext _ (hvalue _ _ rfl) _ _ hxy
  | error hxy => exact .error hxy

theorem Abreast.bind (h : Abreast R act act') (hnext : ∀ a, Abreast R (next a) (next' a)) :
    Abreast R (act >>= next) (act' >>= next') :=
  h.bind_of_ok fun a _ => hnext a

/-- And so do walks through a list. -/
theorem Abreast.mapM {visit visit' : β → EStateM Failure σ α}
    (h : ∀ b, Abreast R (visit b) (visit' b)) (bs : List β) :
    Abreast R (bs.mapM visit) (bs.mapM visit') := by
  induction bs with
  | nil => exact abreast_pure _
  | cons b bs ih =>
    rw [List.mapM_cons, List.mapM_cons]
    exact (h b).bind fun _ => ih.bind fun _ => abreast_pure _

end Step

namespace Action

open Step

variable {α : Type} {R : FileTree → FileTree → Prop} {here : Address}

/-- The files of two workshops with the same directory are related. -/
structure Side (R : FileTree → FileTree → Prop) (here : Address) (w w' : Workshop) : Prop where
  left : w.directory = here
  right : w'.directory = here
  files : R w.files w'.files

theorem abreast_display (e : Event) : Abreast (Side R here) (display e) (display e) :=
  fun _ _ h => .ok ⟨h.left, h.right, h.files⟩

theorem abreast_onFiles {act : Address → FileAction α} (h : Abreast R (act here) (act here)) :
    Abreast (Side R here) (onFiles act) (onFiles act) := by
  intro w w' hside
  have hends := h _ _ hside.files
  rw [onFiles, onFiles, hside.left, hside.right]
  generalize act here w.files = r, act here w'.files = r' at hends
  cases hends with
  | ok hfiles => exact .ok ⟨rfl, rfl, hfiles⟩
  | error hfiles => exact .error ⟨rfl, rfl, hfiles⟩

theorem abreast_attempt {S : Workshop → Workshop → Prop} {act : Action α}
    (h : Abreast S act act) : Abreast S (attempt act) (attempt act) := by
  intro w w' hside
  have hends := h _ _ hside
  rw [attempt, attempt]
  generalize act w = r, act w' = r' at hends
  cases hends with
  | ok hside => exact .ok hside
  | error hside => exact .ok hside

/-- What is left of both is related again. -/
theorem related_after {S : Workshop → Workshop → Prop} {act : Action α} {w w' : Workshop}
    (h : Abreast S act act) (hw : S w w') : S (act.after w) (act.after w') := by
  have hends := h _ _ hw
  rw [after, after]
  generalize act w = r, act w' = r' at hends
  cases hends with
  | ok hw => exact hw
  | error hw => exact hw

end Action

end AgentWorkshop
