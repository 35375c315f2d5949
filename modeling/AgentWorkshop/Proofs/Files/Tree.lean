import AgentWorkshop.Files.Tree

/-!
# What stands in a tree after it was changed

`FileTree.get?` is how a tree is looked at, so each way of changing one is
given by what it does to that: an entry that is put at an address is found
there and nothing else moves (`get?_set_self`, `get?_set_of_ne`). Writing a
file twice is writing it once (`fill_fill`).
-/

namespace AgentWorkshop

namespace FileTree

variable {t : FileTree} {a b : Address} {e : Entry}

theorem get?_of_ne_nil (hb : b ≠ []) : t.get? b = t.entries.lookup b := by
  cases b with
  | nil => exact absurd rfl hb
  | cons => rfl

/-- What stands somewhere is one of the entries. -/
theorem get?_ne_none_iff (hb : b ≠ []) : t.get? b ≠ none ↔ ∃ e, (b, e) ∈ t.entries := by
  rw [get?_of_ne_nil hb, ← Option.isSome_iff_ne_none, List.lookup_isSome_iff]
  constructor
  · rintro ⟨⟨a, e⟩, hmem, ha⟩
    rw [beq_iff_eq] at ha
    exact ⟨e, by rwa [ha]⟩
  · rintro ⟨e, hmem⟩
    exact ⟨_, hmem, beq_self_eq_true b⟩

/-- Taking away the entry of one address leaves every other one findable. -/
theorem lookup_erase_of_ne (h : b ≠ a) : (t.erase a).entries.lookup b = t.entries.lookup b := by
  obtain ⟨entries⟩ := t
  simp only [erase]
  induction entries with
  | nil => rfl
  | cons entry rest ih =>
    obtain ⟨c, e⟩ := entry
    by_cases hc : c = a
    · rw [List.filter_cons_of_neg (by simpa using hc), ih, List.lookup_cons]
      have hbc : (b == c) = false := by simpa [hc] using h
      simp [hbc]
    · rw [List.filter_cons_of_pos (by simpa using hc), List.lookup_cons, List.lookup_cons, ih]

/-- What is put at an address is found there. -/
theorem get?_set_self (ha : a ≠ []) : (t.set a e).get? a = some e := by
  rw [get?_of_ne_nil ha, set, List.lookup_cons, beq_self_eq_true]

/-- And what stands anywhere else is found as before. -/
theorem get?_set_of_ne (h : b ≠ a) : (t.set a e).get? b = t.get? b := by
  by_cases hb : b = []
  · rw [hb, get?, get?]
  have hba : (b == a) = false := by simpa using h
  rw [get?_of_ne_nil hb, get?_of_ne_nil hb, set, List.lookup_cons, hba]
  exact lookup_erase_of_ne h

/-- The last of two entries put at one address is the one that counts. -/
theorem set_set (e' : Entry) : (t.set a e).set a e' = t.set a e' := by
  simp [set, erase]

/-- Contents that are written stand at their address, except at the device that swallows
everything. -/
theorem get?_fill_self (ha : a ≠ []) (hnull : a ≠ nullDevice) (x : Bytes) :
    (t.fill a x).get? a = some (.file x) := by
  rw [fill, if_neg hnull, get?_set_self ha]

theorem get?_fill_of_ne (h : b ≠ a) (x : Bytes) : (t.fill a x).get? b = t.get? b := by
  rw [fill]
  split
  · rfl
  · exact get?_set_of_ne h

/-- The last of two contents written to one file is the one that counts. -/
theorem fill_fill (x y : Bytes) : (t.fill a x).fill a y = t.fill a y := by
  by_cases h : a = nullDevice
  · simp [fill, h]
  · simp [fill, h, set_set]

end FileTree

end AgentWorkshop
