import AgentWorkshop.Chat.History
import AgentWorkshop.Proofs.Text.Scalar

/-!
# What a history keeps

`History.kept` is the text that stays of what somebody said, and
`unwrap_of_withinReach` says that nothing else is added. The one thing that
cannot be kept is a text nested beyond the reader's reach. A history is
`Writable` if all it keeps consists of scalar values, and exactly such a history
can be written down (`isScalar_print_payload`).
-/

namespace AgentWorkshop

namespace Json

/-- No container of the text is nested beyond the reader's limit. -/
def WithinReach (t : Text) : Prop :=
  ∀ container, read t ≠ .error (.tooDeep container)

theorem withinReach_of_read {t : Text} {v : Json} (h : read t = .ok v) : WithinReach t := by
  intro container
  rw [h]
  simp

theorem withinReach_of_malformed {t : Text} (h : read t = .error .malformed) :
    WithinReach t := by
  intro container
  rw [h]
  simp

/-- A text is within the reader's reach, or some container of it is not. -/
theorem withinReach_or_tooDeep (t : Text) :
    WithinReach t ∨ ∃ container, read t = .error (.tooDeep container) := by
  rcases h : read t with (_ | container) | v
  · exact .inl (withinReach_of_malformed h)
  · exact .inr ⟨container, rfl⟩
  · exact .inl (withinReach_of_read h)

end Json

namespace History

open Text

/-- What stays of a text within the reader's reach: the response that it wraps, or
the text itself. -/
def kept (content : Text) : Text :=
  match Json.read content with
  | .ok v => (wrapped? v).getD content
  | .error _ => content

theorem unwrap_of_withinReach {t : Text} (h : Json.WithinReach t) : unwrap t = .ok (kept t) := by
  rw [unwrap, kept]
  rcases hr : Json.read t with (_ | container) | v
  · rfl
  · exact absurd hr (h container)
  · rfl

theorem unwrap_of_tooDeep {t : Text} {container : Json.Container}
    (h : Json.read t = .error (.tooDeep container)) : unwrap t = .error (.tooDeep container) := by
  rw [unwrap, h]

/-- Nothing that was kept holds a surrogate. -/
def Writable (h : History) : Prop :=
  ∀ x ∈ h, IsScalar x.content

theorem writable_append {h k : History} : Writable (h ++ k) ↔ Writable h ∧ Writable k :=
  List.forall_mem_append

theorem writable_singleton {role : Role} {content : Text} :
    Writable [⟨role, content⟩] ↔ IsScalar content := by
  simp [Writable]

/-- **A history can be written down exactly if every content of it can.** -/
theorem isScalar_print_payload (h : History) : IsScalar h.payload.print ↔ h.Writable := by
  have hrole (r : Role) : IsScalar r.toText := by
    cases r <;> exact isScalar_text _
  simp [Writable, payload, Message.toJson, Json.print, Json.printMembers,
    Json.isScalar_printElements, hrole]

end History

end AgentWorkshop
