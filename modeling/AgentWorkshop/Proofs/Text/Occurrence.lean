import AgentWorkshop.Text.Basic
import Mathlib.Data.List.Infix

/-!
# Occurrences

Looking for a text from the left finds exactly the runs of adjacent code points
that lists call infixes. What follows the leftmost of them ends with whatever follows
any other (`exists_afterFirst?`).
-/

namespace AgentWorkshop

namespace Text

/-- **A text occurs in another exactly as an infix of it.** -/
theorem occursIn_iff {part whole : Text} : part.occursIn whole = true ↔ part <:+: whole := by
  induction whole with
  | nil => simp [occursIn]
  | cons c whole ih =>
    rw [occursIn, Bool.or_eq_true, ih, List.isPrefixOf_iff_prefix, List.infix_cons_iff]

variable {part whole after : Text}

theorem isPrefixOf?_append (part after : Text) : part.isPrefixOf? (part ++ after) = some after :=
  List.isPrefixOf?_eq_some_iff_append_eq.2 rfl

/-- What follows an occurrence is the end of the text. -/
theorem eq_of_afterFirst? (h : part.afterFirst? whole = some after) :
    ∃ before, whole = before ++ part ++ after := by
  induction whole with
  | nil =>
    rw [afterFirst?] at h
    split at h
    · rename_i hpart
      cases h
      exact ⟨[], by rw [List.isEmpty_iff.1 hpart]; rfl⟩
    · cases h
  | cons c whole ih =>
    rw [afterFirst?] at h
    split at h
    · rename_i found hfound
      cases h
      exact ⟨[], (List.isPrefixOf?_eq_some_iff_append_eq.1 hfound).symm⟩
    · obtain ⟨before, rfl⟩ := ih h
      exact ⟨c :: before, rfl⟩

/-- **No occurrence lies before the leftmost one.** -/
theorem exists_afterFirst? (before part rest : Text) :
    ∃ after, part.afterFirst? (before ++ part ++ rest) = some after ∧ rest <:+ after := by
  induction before with
  | nil =>
    refine ⟨rest, ?_, List.suffix_rfl⟩
    rw [List.nil_append]
    cases hwhole : part ++ rest with
    | nil =>
      obtain ⟨rfl, rfl⟩ := List.append_eq_nil_iff.1 hwhole
      rfl
    | cons c whole => rw [afterFirst?, ← hwhole, isPrefixOf?_append]
  | cons c before ih =>
    rw [List.cons_append, List.cons_append, afterFirst?]
    cases hfound : part.isPrefixOf? (c :: (before ++ part ++ rest)) with
    | none => exact ih
    | some after =>
      -- An occurrence at the start leaves more behind it than the given one.
      have hwhole := List.isPrefixOf?_eq_some_iff_append_eq.1 hfound
      have hrest : rest <:+ c :: (before ++ part ++ rest) := ⟨c :: (before ++ part), rfl⟩
      have hafter : after <:+ c :: (before ++ part ++ rest) := ⟨part, hwhole⟩
      have hlength := congrArg List.length hwhole
      simp only [List.length_append, List.length_cons] at hlength
      exact ⟨after, rfl, List.suffix_of_suffix_length_le hrest hafter (by omega)⟩

end Text

end AgentWorkshop
