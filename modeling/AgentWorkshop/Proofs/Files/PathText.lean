import AgentWorkshop.Files.Path

/-!
# Paths as texts

The text of a path is read as the same path (`ofText_toText`), as long as its names are such as a
text can give: every path that was read from a text is (`isWritten_ofText`).
-/

namespace AgentWorkshop

namespace Path

variable {p : Path} {parts : List Text} {part t : Text}

/-- The text can stand between two slashes and count. -/
structure IsPart (part : Text) : Prop where
  ne_nil : part ≠ []
  ne_dot : part ≠ AgentWorkshop.text "."
  no_slash : ('/' : CodePoint) ∉ part

/-- Every name of the path can. -/
def IsWritten (p : Path) : Prop :=
  ∀ part ∈ p.parts, IsPart part

/-- What stands between the slashes of a text holds none. -/
theorem no_slash_of_mem_splitOn (h : part ∈ t.splitOn ('/' : CodePoint)) :
    ('/' : CodePoint) ∉ part := by
  induction t generalizing part with
  | nil =>
    rw [List.splitOn_nil, List.mem_singleton] at h
    rw [h]
    exact List.not_mem_nil
  | cons c rest ih =>
    rw [List.splitOn_cons_eq_if_modifyHead] at h
    obtain ⟨first, others, hsplit⟩ := List.exists_cons_of_ne_nil
      (List.splitOn_ne_nil ('/' : CodePoint) rest)
    rw [hsplit] at h ih
    split at h
    · rcases List.mem_cons.1 h with rfl | h
      · exact List.not_mem_nil
      · exact ih h
    · rename_i hc
      rw [List.modifyHead_cons] at h
      rcases List.mem_cons.1 h with rfl | h
      · have hne : ('/' : CodePoint) ≠ c := fun heq => hc (by simp [heq])
        exact List.not_mem_cons_of_ne_of_not_mem hne (ih List.mem_cons_self)
      · exact ih (List.mem_cons_of_mem _ h)

/-- **A path that was read from a text** has such names. -/
theorem isWritten_ofText (t : Text) : (ofText t).IsWritten := by
  intro part hpart
  obtain ⟨hmem, hcounts⟩ := List.mem_filter.1 hpart
  rw [Bool.and_eq_true, decide_eq_true_eq, Bool.not_eq_true', List.isEmpty_eq_false_iff] at hcounts
  exact ⟨hcounts.1, hcounts.2, no_slash_of_mem_splitOn hmem⟩

/-! ## Reading a text of names -/

/-- A slash at the start adds no name. -/
theorem partsOf_slash (t : Text) : partsOf (('/' : CodePoint) :: t) = partsOf t := by
  rw [partsOf, List.splitOn_cons_eq_if_modifyHead, if_pos (by simp)]
  rfl

/-- **Names with slashes between them are read one by one.** -/
theorem partsOf_intercalate (h : ∀ part ∈ parts, IsPart part) :
    partsOf (List.intercalate (AgentWorkshop.text "/") parts) = parts := by
  by_cases hparts : parts = []
  · rw [hparts]
    rfl
  · have hsplit : (List.intercalate (AgentWorkshop.text "/") parts).splitOn ('/' : CodePoint) =
        parts := List.splitOn_intercalate _ (fun part hpart => (h part hpart).no_slash) hparts
    rw [partsOf, hsplit, List.filter_eq_self]
    intro part hpart
    simpa using ⟨(h part hpart).ne_nil, (h part hpart).ne_dot⟩

/-- What they start with is the start of the first of them. -/
theorem head?_intercalate (hpart : part ≠ []) (more : List Text) :
    (List.intercalate (AgentWorkshop.text "/") (part :: more)).head? = part.head? := by
  obtain ⟨c, rest, rfl⟩ := List.exists_cons_of_ne_nil hpart
  cases more <;> rfl

theorem head?_intercalate_ne (h : ∀ part ∈ parts, IsPart part) :
    (List.intercalate (AgentWorkshop.text "/") parts).head? ≠ some ('/' : CodePoint) := by
  cases parts with
  | nil => exact nofun
  | cons part more =>
    have hpart := h part List.mem_cons_self
    rw [head?_intercalate hpart.ne_nil]
    exact fun hslash => hpart.no_slash (List.mem_of_head? hslash)

/-- So the slashes before them are those of the anchor. -/
theorem anchorOf_append (anchor : Anchor) (h : t.head? ≠ some ('/' : CodePoint)) :
    anchorOf (anchorText anchor ++ t) = anchor := by
  have hnone : t.takeWhile (fun c : CodePoint => c = '/') = [] := by
    cases t with
    | nil => rfl
    | cons c rest => exact List.takeWhile_cons_of_neg (by simpa using h)
  have hslashes : ∀ c ∈ anchorText anchor, c = ('/' : CodePoint) := by
    cases anchor with
    | here => exact nofun
    | top => exact fun c hc => List.mem_singleton.1 hc
    | doubleTop => exact List.forall_mem_cons.2 ⟨rfl, fun c hc => List.mem_singleton.1 hc⟩
  rw [anchorOf, List.takeWhile_append_of_pos (by simpa using hslashes), hnone, List.append_nil]
  cases anchor <;> rfl

theorem partsOf_append (anchor : Anchor) (t : Text) :
    partsOf (anchorText anchor ++ t) = partsOf t := by
  cases anchor with
  | here => rfl
  | top => exact partsOf_slash t
  | doubleTop => exact (partsOf_slash _).trans (partsOf_slash t)

/-- **The text of a path is read as the path.** -/
theorem ofText_toText (h : p.IsWritten) : ofText p.toText = p := by
  obtain ⟨anchor, parts⟩ := p
  have hwhole : ofText (anchorText anchor ++
      List.intercalate (AgentWorkshop.text "/") parts) = ⟨anchor, parts⟩ := by
    rw [ofText, anchorOf_append anchor (head?_intercalate_ne h), partsOf_append,
      partsOf_intercalate h]
  rw [toText]
  split
  · -- Only the working directory has an empty text, and a dot stands for it.
    rename_i hempty
    rw [hempty] at hwhole
    exact hwhole.symm ▸ rfl
  · exact hwhole

end Path

end AgentWorkshop
