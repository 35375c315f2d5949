import AgentWorkshop.Proofs.Json.RoundTrip
import Mathlib.Data.List.Chain

/-!
# JSON in ASCII

`Json.printAscii` writes a value with ASCII alone: any other code point stands there by its
number, one above the basic plane by the numbers of its two surrogates (`asciiPoint`). So a
high surrogate right before a low one is written like the code point of the pair
(`flatMap_ascii_joinPairs`) and read as that; a text whose surrogates stand apart is read
back as it is (`readsBack_ascii`).
-/

namespace AgentWorkshop

namespace Text

variable {c : CodePoint} {t : Text}

/-! ## Surrogates that stand apart -/

/-- No high surrogate stands right before a low one. -/
def Apart (t : Text) : Prop :=
  t.IsChain fun c d => ¬ (c.isHighSurrogate = true ∧ d.isLowSurrogate = true)

/-- A code point that makes no pair with the next one is kept. -/
theorem joinPairs_cons (h : ∀ d ∈ t.head?, ¬ (c.isHighSurrogate = true ∧ d.isLowSurrogate = true)) :
    joinPairs (c :: t) = c :: joinPairs t := by
  cases t with
  | nil => rfl
  | cons d t => rw [joinPairs, if_neg (by simpa using h d rfl)]

/-- Nothing is joined in a text whose surrogates stand apart. -/
theorem Apart.joinPairs (h : Apart t) : t.joinPairs = t := by
  induction t with
  | nil => rfl
  | cons c t ih =>
    obtain ⟨hfirst, hrest⟩ := List.isChain_cons.1 h
    rw [joinPairs_cons hfirst, ih hrest]

/-- There are no surrogates in ASCII. -/
theorem apart_ascii (h : ∀ c ∈ t, c.val < 0x7F) : Apart t := by
  induction t with
  | nil => exact .nil
  | cons c t ih =>
    rw [List.forall_mem_cons] at h
    refine List.isChain_cons.2 ⟨?_, ih h.2⟩
    rintro d - ⟨hhigh, -⟩
    simp only [CodePoint.isHighSurrogate, Bool.and_eq_true, decide_eq_true_eq] at hhigh
    omega

/-- A pair stands for no surrogate. -/
theorem not_isLowSurrogate_ofPair (c d : CodePoint) :
    (CodePoint.ofPair c d).isLowSurrogate = false ∧
      (CodePoint.ofPair c d).isHighSurrogate = false := by
  have hplane : 0x10000 ≤ (CodePoint.ofPair c d).val := by
    simp only [CodePoint.ofPair]
    omega
  simp only [CodePoint.isLowSurrogate, CodePoint.isHighSurrogate, Bool.and_eq_false_iff,
    decide_eq_false_iff_not]
  omega

/-- A text that starts with a low surrogate after its pairs are joined did so before. -/
theorem head?_joinPairs (h : c ∈ t.joinPairs.head?) (hc : c.isLowSurrogate = true) :
    c ∈ t.head? := by
  fun_cases Text.joinPairs t with
  | case1 => exact h
  | case2 => exact h
  | case3 c' d rest hpair =>
    rw [Text.joinPairs, if_pos hpair] at h
    cases Option.mem_some_iff.1 h
    rw [(not_isLowSurrogate_ofPair c' d).1] at hc
    cases hc
  | case4 c' d rest hpair =>
    rw [Text.joinPairs, if_neg hpair] at h
    exact h

/-- **Once its pairs are joined, the surrogates of a text stand apart.** -/
theorem apart_joinPairs (t : Text) : Apart t.joinPairs := by
  fun_induction Text.joinPairs t with
  | case1 => exact .nil
  | case2 => exact .singleton _
  | case3 c d rest _ ih =>
    refine List.isChain_cons.2 ⟨?_, ih⟩
    rintro e - ⟨hhigh, -⟩
    rw [(not_isLowSurrogate_ofPair c d).2] at hhigh
    cases hhigh
  | case4 c d rest hpair ih =>
    refine List.isChain_cons.2 ⟨?_, ih⟩
    rintro e he ⟨hhigh, hlow⟩
    cases head?_joinPairs he hlow
    exact hpair (by rw [hhigh, hlow]; rfl)

theorem joinPairs_eq_iff (t : Text) : t.joinPairs = t ↔ Apart t := by
  refine ⟨fun h => ?_, Apart.joinPairs⟩
  rw [← h]
  exact apart_joinPairs t

end Text

namespace Json

open Text

variable {c : CodePoint} {t : Text} {v : Json}

/-! ## Writing -/

/-- A code point by its number. -/
def escape (n : Nat) : Text :=
  AgentWorkshop.text "\\u" ++ ofHex 4 n

/-- A code point in ASCII: one above the basic plane as its surrogate pair. -/
def asciiPoint (c : CodePoint) : Text :=
  if c.val < 0x7F then [c]
  else if c.val < 0x10000 then escape c.val
  else escape (0xD800 + (c.val - 0x10000) / 0x400) ++ escape (0xDC00 + (c.val - 0x10000) % 0x400)

theorem escape_ne_nil (n : Nat) : escape n ≠ [] :=
  List.append_ne_nil_of_left_ne_nil (List.cons_ne_nil _ _) _

/-- The value as JSON text in ASCII. -/
def printAscii (v : Json) : Text :=
  v.print.flatMap asciiPoint

theorem isSpelling_ascii : IsSpelling asciiPoint where
  ascii c hc := by rw [asciiPoint, if_pos hc]
  ne_nil c := by
    rw [asciiPoint]
    split_ifs
    · exact List.cons_ne_nil _ _
    · exact escape_ne_nil _
    · exact List.append_ne_nil_of_left_ne_nil (escape_ne_nil _) _

/-- Outside ASCII nothing is escaped before the code points are spelled. -/
theorem printPoint_of_not_ascii (hc : ¬ c.val < 0x7F) : printPoint c = [c] := by
  have hne (d : CodePoint) (hd : d.val < 0x7F) : c ≠ d := by
    rintro rfl
    exact hc hd
  rw [printPoint, if_neg (by rintro (h | h) <;> exact hne _ (by decide) h),
    if_neg (hne _ (by decide)), if_neg (hne _ (by decide)), if_neg (hne _ (by decide)),
    if_neg (by omega), if_neg (by omega), if_neg (by omega)]

theorem ascii_hexDigit : ∀ d < 16, (hexDigit d).val < 0x7F := by
  decide

/-- In ASCII every code point and every escape is ASCII. -/
theorem ascii_printPoint (hc : c.val < 0x7F) : ∀ d ∈ printPoint c, d.val < 0x7F := by
  rw [printPoint]
  split_ifs with h₁ h₂ h₃ h₄ h₅ h₆ h₇
  · simp only [List.forall_mem_cons, List.not_mem_nil, false_implies, implies_true, and_true]
    exact ⟨by decide, hc⟩
  · exact ascii_text _ (by decide)
  · exact ascii_text _ (by decide)
  · exact ascii_text _ (by decide)
  · exact ascii_text _ (by decide)
  · exact ascii_text _ (by decide)
  · rw [ofHex_four (by omega)]
    refine List.forall_mem_append.2 ⟨ascii_text _ (by decide), ?_⟩
    simp only [List.forall_mem_cons, List.not_mem_nil, false_implies, implies_true, and_true]
    exact ⟨ascii_hexDigit _ (by omega), ascii_hexDigit _ (by omega), ascii_hexDigit _ (by omega),
      ascii_hexDigit _ (by omega)⟩
  · simpa using hc

/-! ## Reading -/

/-- The ways to write a code point: by one sign, or by the numbers of a surrogate pair. -/
inductive WrittenAs (c : CodePoint) : List Sign → Prop
  | plain : WrittenAs c [.plain c]
  | numbered : WrittenAs c [.numbered c]
  | pair {high low : CodePoint} (hhigh : high.isHighSurrogate = true)
    (hlow : low.isLowSurrogate = true) (hpair : CodePoint.ofPair high low = c) :
    WrittenAs c [.numbered high, .numbered low]

theorem spells_escape {n : Nat} (hn : n < 0x10000) :
    Spells (escape n) [.numbered (Fin.ofNat 0x110000 n)] :=
  spells_numbered hn (Nat.mod_eq_of_lt (by omega))

/-- **Every code point is spelled in ASCII so that it can be read.** -/
theorem spells_ascii (c : CodePoint) :
    ∃ signs, Spells ((printPoint c).flatMap asciiPoint) signs ∧ WrittenAs c signs := by
  by_cases hascii : c.val < 0x7F
  · obtain ⟨sign, hsign, rfl | ⟨rfl, -⟩⟩ := spells_printPoint c
    all_goals rw [isSpelling_ascii.flatMap_ascii (ascii_printPoint hascii)]
    · exact ⟨_, hsign, .plain⟩
    · exact ⟨_, hsign, .numbered⟩
  rw [printPoint_of_not_ascii hascii, List.flatMap_singleton, asciiPoint, if_neg hascii]
  split_ifs with hbasic
  · exact ⟨_, spells_numbered hbasic rfl, .numbered⟩
  · have hbound := c.isLt
    refine ⟨_, (spells_escape (by omega)).append (spells_escape (by omega)), .pair ?_ ?_ ?_⟩
    · simp only [CodePoint.isHighSurrogate, Fin.ofNat, Bool.and_eq_true, decide_eq_true_eq]
      omega
    · simp only [CodePoint.isLowSurrogate, Fin.ofNat, Bool.and_eq_true, decide_eq_true_eq]
      omega
    · refine Fin.ext ?_
      simp only [CodePoint.ofPair, Fin.ofNat]
      omega

/-- The signs of a text whose surrogates stand apart. A low surrogate is the first of them by
number only where it is the first code point, so no pair arises that the text does not have. -/
theorem exists_signs_ascii (h : Apart t) :
    ∃ signs, Spells ((t.flatMap printPoint).flatMap asciiPoint) signs ∧ joinSigns signs = t ∧
      ∀ d after, signs = .numbered d :: after → d.isLowSurrogate = true → d ∈ t.head? := by
  induction t with
  | nil => exact ⟨[], spells_nil, rfl, by simp⟩
  | cons c t ih =>
    obtain ⟨hfirst, hrest⟩ := List.isChain_cons.1 h
    obtain ⟨signs, hsigns, hjoin, hlow⟩ := ih hrest
    obtain ⟨written, hspells, hwritten⟩ := spells_ascii c
    refine ⟨written ++ signs, ?_, ?_⟩
    · rw [List.flatMap_cons, List.flatMap_append]
      exact hspells.append hsigns
    cases hwritten with
    | plain => exact ⟨by rw [List.singleton_append, joinSigns_plain, hjoin], by simp⟩
    | numbered =>
      refine ⟨?_, by simp_all⟩
      rw [List.singleton_append, joinSigns_numbered, hjoin]
      rintro d after hd ⟨hhigh, hd'⟩
      exact hfirst d (hlow d after hd hd') ⟨hhigh, hd'⟩
    | @pair high low hhigh hlow' hpair =>
      refine ⟨?_, ?_⟩
      · rw [List.cons_append, List.singleton_append, joinSigns, hhigh, hlow', hjoin, hpair]
        rfl
      · rintro d after hd hdlow
        cases hd
        simp only [CodePoint.isHighSurrogate, CodePoint.isLowSurrogate, Bool.and_eq_true,
          decide_eq_true_eq] at hhigh hdlow
        omega

/-- **A text whose surrogates stand apart is read back from ASCII.** -/
theorem readsBack_ascii (h : Apart t) : ReadsBack asciiPoint t := by
  intro rest
  obtain ⟨signs, hsigns, hjoin, -⟩ := exists_signs_ascii h
  rw [scanString_of_spells hsigns, hjoin]

/-- **Exact data printed in ASCII is read back**, if the surrogates of its texts stand apart. -/
theorem read_printAscii (h : Exact Apart nestingLimit v) : read v.printAscii = .ok v :=
  read_spelled isSpelling_ascii (h.imp fun _ => readsBack_ascii)

/-! ## Pairs -/

theorem asciiPoint_ofPair {d : CodePoint} (hc : c.isHighSurrogate = true)
    (hd : d.isLowSurrogate = true) :
    asciiPoint (CodePoint.ofPair c d) = asciiPoint c ++ asciiPoint d := by
  simp only [CodePoint.isHighSurrogate, CodePoint.isLowSurrogate, Bool.and_eq_true,
    decide_eq_true_eq] at hc hd
  have hval : (CodePoint.ofPair c d).val =
      0x10000 + (c.val - 0xD800) % 0x400 * 0x400 + (d.val - 0xDC00) % 0x400 := rfl
  have hhigh : 0xD800 + ((CodePoint.ofPair c d).val - 0x10000) / 0x400 = c.val := by omega
  have hlow : 0xDC00 + ((CodePoint.ofPair c d).val - 0x10000) % 0x400 = d.val := by omega
  rw [asciiPoint, if_neg (by omega), if_neg (by omega), hhigh, hlow, asciiPoint,
    if_neg (by omega), if_pos (by omega), asciiPoint, if_neg (by omega), if_pos (by omega)]

/-- **A pair is written like the code point that it stands for.** -/
theorem flatMap_ascii_joinPairs (t : Text) : (t.joinPairs.flatMap printPoint).flatMap asciiPoint =
    (t.flatMap printPoint).flatMap asciiPoint := by
  fun_induction Text.joinPairs t with
  | case1 => rfl
  | case2 => rfl
  | case3 c d rest hpair ih =>
    rw [Bool.and_eq_true] at hpair
    obtain ⟨hc, hd⟩ := hpair
    have hc' := hc
    have hd' := hd
    simp only [CodePoint.isHighSurrogate, CodePoint.isLowSurrogate, Bool.and_eq_true,
      decide_eq_true_eq] at hc' hd'
    have hplane : ¬ (CodePoint.ofPair c d).val < 0x7F := by
      simp only [CodePoint.ofPair]
      omega
    simp only [List.flatMap_cons, List.flatMap_append, ih, printPoint_of_not_ascii hplane,
      printPoint_of_not_ascii (c := c) (by omega), printPoint_of_not_ascii (c := d) (by omega),
      List.flatMap_nil, List.append_nil, asciiPoint_ofPair hc hd, List.append_assoc]
  | case4 c d rest _ ih => simp only [List.flatMap_cons, List.flatMap_append, ih]

end Json

end AgentWorkshop
