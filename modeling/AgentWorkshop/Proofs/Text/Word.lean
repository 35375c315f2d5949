import AgentWorkshop.Text.Blank
import AgentWorkshop.Text.Lower
import Mathlib.Data.List.DropRight

/-!
# Words in any case, between blanks

A text `Spells` a word if it is the word between blanks, its ASCII letters in any case. Looking
for a word in the small letters of a stripped text finds just these spellings
(`lower_strip_eq_iff`), although small letters reach far beyond ASCII: they lead into it from
outside only to a `k`, so for a word without that letter no other code point counts
(`lower_eq_iff`).
-/

namespace AgentWorkshop

namespace CodePoint

variable {c d : CodePoint}

/-! ## One code point -/

/-- No blank is a capital. -/
theorem asciiLower_of_isBlank (h : c.isBlank = true) : c.asciiLower = c := by
  have hnot : ¬ (0x41 ≤ c.val ∧ c.val ≤ 0x5A) := by
    simp only [isBlank, blankRanges, List.any_cons, List.any_nil, Bool.or_eq_true,
      Bool.and_eq_true, decide_eq_true_eq, Bool.false_eq_true, or_false] at h
    omega
  rw [asciiLower, dif_neg hnot]

/-- Only ASCII is folded into ASCII. -/
theorem lt_of_asciiLower_lt (h : c.asciiLower.val < 0x80) : c.val < 0x80 := by
  rw [asciiLower] at h
  split at h <;> omega

set_option maxRecDepth 4000 in
/-- No run leads into ASCII, but for the one of the Kelvin sign. -/
theorem caseRuns_beyond : ∀ r ∈ caseRuns,
    (0x80 ≤ r.image ∧ r.image + (r.last - r.first) < 0x110000) ∨
      (r.first = r.last ∧ r.image = 0x6B) := by
  decide

theorem beyond_of_lower? {r : CaseRun} (hr : r ∈ caseRuns) (h : r.lower? c = some d) :
    0x80 ≤ d.val ∨ d = ('k' : CodePoint) := by
  rw [CaseRun.lower?] at h
  split at h
  case isFalse => cases h
  case isTrue hc =>
    cases h
    rcases caseRuns_beyond r hr with ⟨himage, hlimit⟩ | ⟨hsingle, himage⟩
    · left
      rw [Fin.val_ofNat, Nat.mod_eq_of_lt (by omega)]
      omega
    · right
      have hoffset : c.val - r.first = 0 := by omega
      rw [himage, hoffset]
      rfl

/-- **A code point outside ASCII has something outside ASCII in its small letters, or a `k`.** -/
theorem exists_mem_lower (h : ¬ c.val < 0x80) :
    ∃ d ∈ c.lower, 0x80 ≤ d.val ∨ d = ('k' : CodePoint) := by
  rw [lower, if_neg h]
  split
  · exact ⟨0x307, by simp, .inl (by decide)⟩
  · refine ⟨_, List.mem_singleton_self _, ?_⟩
    cases hrun : caseRuns.findSome? fun r => r.lower? c with
    | none => exact .inl (Nat.le_of_not_lt h)
    | some d =>
      obtain ⟨r, hr, hd⟩ := List.exists_of_findSome?_eq_some hrun
      exact beyond_of_lower? hr hd

theorem lower_ne_nil (c : CodePoint) : c.lower ≠ [] := by
  rw [lower]
  split
  · simp
  · split <;> simp

end CodePoint

namespace Text

variable {t word before : Text}

/-! ## Small letters -/

/-- Small letters are the ASCII ones where all is ASCII. -/
theorem lowerAfter_of_ascii (h : ∀ c ∈ t, c.val < 0x80) : lowerAfter before t = t.asciiLower := by
  induction t generalizing before with
  | nil => rfl
  | cons c rest ih =>
    have hc : c.val < 0x80 := h c List.mem_cons_self
    have hsigma : c.val ≠ 0x3A3 := by omega
    rw [lowerAfter, if_neg hsigma, CodePoint.lower, if_pos hc,
      ih fun d hd => h d (List.mem_cons_of_mem _ hd)]
    rfl

/-- And elsewhere they hold something outside ASCII, or a `k`. -/
theorem exists_mem_lowerAfter (before : Text) (h : ∃ c ∈ t, ¬ c.val < 0x80) :
    ∃ d ∈ lowerAfter before t, 0x80 ≤ d.val ∨ d = ('k' : CodePoint) := by
  obtain ⟨c, hc, hbeyond⟩ := h
  induction t generalizing before with
  | nil => cases hc
  | cons c' rest ih =>
    rw [lowerAfter]
    rcases List.mem_cons.1 hc with rfl | hrest
    · split
      · refine ⟨lowerSigma before rest, by simp, .inl ?_⟩
        rw [lowerSigma]
        split <;> decide
      · obtain ⟨d, hd, hout⟩ := CodePoint.exists_mem_lower hbeyond
        exact ⟨d, List.mem_append_left _ hd, hout⟩
    · obtain ⟨d, hd, hout⟩ := ih (c' :: before) hrest
      exact ⟨d, List.mem_append_right _ hd, hout⟩

/-- **In small letters a text is an ASCII word without `k` exactly if it is with its ASCII
letters folded.** -/
theorem lower_eq_iff (hword : ∀ d ∈ word, d.val < 0x80 ∧ d ≠ ('k' : CodePoint)) :
    t.lower = word ↔ t.asciiLower = word := by
  rw [lower]
  by_cases hascii : ∀ c ∈ t, c.val < 0x80
  · rw [lowerAfter_of_ascii hascii]
  · push Not at hascii
    obtain ⟨c, hc, hbeyond⟩ := hascii
    refine iff_of_false ?_ ?_
    · rintro rfl
      obtain ⟨d, hd, hout⟩ :=
        exists_mem_lowerAfter [] ⟨c, hc, Nat.not_lt.2 hbeyond⟩
      obtain ⟨hlt, hne⟩ := hword d hd
      exact hout.elim (fun hle => Nat.not_lt.2 hle hlt) hne
    · rintro rfl
      have hlt := (hword c.asciiLower (List.mem_map_of_mem hc)).1
      exact Nat.not_lt.2 hbeyond (CodePoint.lt_of_asciiLower_lt hlt)

theorem lower_eq_nil_iff : t.lower = [] ↔ t = [] := by
  rw [lower]
  cases t with
  | nil => simp [lowerAfter]
  | cons c rest =>
    have hc := CodePoint.lower_ne_nil c
    simp only [lowerAfter, List.append_eq_nil_iff, reduceCtorEq, iff_false, not_and]
    split <;> simp_all

/-! ## Blanks at the ends -/

theorem strip_eq (t : Text) :
    t.strip = (t.dropWhile CodePoint.isBlank).rdropWhile CodePoint.isBlank := rfl

/-- A text is what is left of it once stripped, between blanks. -/
theorem strip_between (t : Text) : ∃ before after, t = before ++ t.strip ++ after ∧
    before.isBlank = true ∧ after.isBlank = true := by
  refine ⟨t.takeWhile CodePoint.isBlank,
    (t.dropWhile CodePoint.isBlank).rtakeWhile CodePoint.isBlank, ?_, ?_, ?_⟩
  · rw [strip_eq, List.append_assoc, List.rdropWhile_append_rtakeWhile,
      List.takeWhile_append_dropWhile]
  · rw [isBlank, List.all_takeWhile]
  · rw [isBlank, List.all_eq_true]
    exact fun c hc => List.mem_rtakeWhile_imp hc

/-- What stands between blanks is left, if no blank is at its own ends. -/
theorem strip_of_between {before core after : Text} (hbefore : before.isBlank = true)
    (hafter : after.isBlank = true) (hne : core ≠ [])
    (hhead : (core.head hne).isBlank = false) (hlast : (core.getLast hne).isBlank = false) :
    strip (before ++ core ++ after) = core := by
  rw [isBlank, List.all_eq_true] at hbefore hafter
  have hfront : (before ++ core ++ after).dropWhile CodePoint.isBlank = core ++ after := by
    rw [List.append_assoc, List.dropWhile_append_of_pos hbefore]
    cases core with
    | nil => exact absurd rfl hne
    | cons c rest => exact List.dropWhile_cons_of_neg (by simpa using hhead)
  have hback : (after.reverse ++ core.reverse).dropWhile CodePoint.isBlank = core.reverse := by
    rw [List.dropWhile_append_of_pos fun c hc => hafter c (List.mem_reverse.1 hc),
      List.dropWhile_eq_self_iff]
    intro hlength
    simpa [List.getLast_eq_getElem] using hlast
  rw [strip_eq, hfront, List.rdropWhile, List.reverse_append, hback, List.reverse_reverse]

/-- Nothing is left exactly of blanks. -/
theorem strip_eq_nil_iff : t.strip = [] ↔ t.isBlank = true := by
  constructor
  · intro h
    obtain ⟨before, after, heq, hbefore, hafter⟩ := strip_between t
    rw [h, List.append_nil] at heq
    rw [heq, isBlank, List.all_append, Bool.and_eq_true]
    exact ⟨hbefore, hafter⟩
  · intro h
    rw [isBlank, List.all_eq_true] at h
    rw [strip_eq, List.dropWhile_eq_nil_iff.2 h]
    rfl

/-! ## Spellings -/

/-- The text is the word between blanks, with its ASCII letters in any case. -/
def Spells (t word : Text) : Prop :=
  ∃ before core after, t = before ++ core ++ after ∧ before.isBlank = true ∧
    after.isBlank = true ∧ core.asciiLower = word

/-- A word to look for: in ASCII, with neither a `k` nor a blank. -/
structure IsWord (word : Text) : Prop where
  plain : (word.all fun d => decide (d.val < 0x80) && decide (d ≠ ('k' : CodePoint))) = true
  dense : (word.any CodePoint.isBlank) = false
  ne_nil : word ≠ []

/-- **A stripped text in small letters is a word exactly if the text spells it.** -/
theorem lower_strip_eq_iff (hword : IsWord word) : t.strip.lower = word ↔ t.Spells word := by
  have hplain : ∀ d ∈ word, d.val < 0x80 ∧ d ≠ ('k' : CodePoint) := by
    simpa only [List.all_eq_true, Bool.and_eq_true, decide_eq_true_eq] using hword.plain
  rw [lower_eq_iff hplain]
  constructor
  · intro h
    obtain ⟨before, after, heq, hbefore, hafter⟩ := strip_between t
    exact ⟨before, t.strip, after, heq, hbefore, hafter, h⟩
  · rintro ⟨before, core, after, rfl, hbefore, hafter, rfl⟩
    -- Folding leaves blanks alone, so the core has none where the word has none.
    have hdense : ∀ c ∈ core, c.isBlank = false := by
      intro c hc
      have hfolded := List.any_eq_false.1 hword.dense c.asciiLower (List.mem_map_of_mem hc)
      by_contra hblank
      rw [Bool.not_eq_false] at hblank
      rw [CodePoint.asciiLower_of_isBlank hblank] at hfolded
      exact hfolded hblank
    have hne : core ≠ [] := fun h => hword.ne_nil (by rw [h]; rfl)
    rw [strip_of_between hbefore hafter hne (hdense _ (List.head_mem hne))
      (hdense _ (List.getLast_mem hne))]

end Text

end AgentWorkshop
