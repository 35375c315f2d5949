import AgentWorkshop.Json.Printer
import AgentWorkshop.Text.Utf8
import Mathlib.Data.List.TakeWhile

/-!
# Texts that UTF-8 can write

A text of scalar values is one without surrogates. Those are exactly the texts
that `Utf8.encode` writes (`encode_eq_ok_iff`), and writing a string as JSON
neither adds a surrogate nor takes one away (`isScalar_printString`).
-/

namespace AgentWorkshop

namespace Text

/-- Every code point is a scalar value: none is a surrogate. -/
def IsScalar (t : Text) : Prop :=
  ∀ c ∈ t, c.isSurrogate = false

instance (t : Text) : Decidable (IsScalar t) :=
  inferInstanceAs (Decidable (∀ c ∈ t, c.isSurrogate = false))

@[simp] theorem isScalar_nil : IsScalar [] := by
  simp [IsScalar]

@[simp] theorem isScalar_cons {c : CodePoint} {t : Text} :
    IsScalar (c :: t) ↔ c.isSurrogate = false ∧ IsScalar t :=
  List.forall_mem_cons

@[simp] theorem isScalar_append {s t : Text} : IsScalar (s ++ t) ↔ IsScalar s ∧ IsScalar t :=
  List.forall_mem_append

theorem isScalar_flatMap {t : Text} {g : CodePoint → Text} :
    IsScalar (t.flatMap g) ↔ ∀ c ∈ t, IsScalar (g c) := by
  simp only [IsScalar, List.mem_flatMap]
  constructor
  · intro h c hc d hd
    exact h d ⟨c, hc, hd⟩
  · rintro h d ⟨c, hc, hd⟩
    exact h c hc d hd

/-- A character is no surrogate. -/
theorem isSurrogate_ofChar (c : Char) : (CodePoint.ofChar c).isSurrogate = false := by
  have hvalid := c.valid
  rw [UInt32.isValidChar, Nat.isValidChar] at hvalid
  have hval : (CodePoint.ofChar c).val = c.val.toNat := rfl
  simp only [CodePoint.isSurrogate, hval, Bool.and_eq_false_iff, decide_eq_false_iff_not]
  omega

/-- So a text made of characters has none. -/
theorem isScalar_map_ofChar (cs : List Char) : IsScalar (cs.map CodePoint.ofChar) := by
  intro d hd
  obtain ⟨c, -, rfl⟩ := List.mem_map.1 hd
  exact isSurrogate_ofChar c

@[simp] theorem isScalar_text (s : String) : IsScalar (text s) :=
  isScalar_map_ofChar s.toList

theorem isScalar_ofHex (width n : Nat) : IsScalar (ofHex width n) := by
  rw [ofHex, isScalar_append]
  refine ⟨fun c hc => ?_, isScalar_map_ofChar _⟩
  rw [(List.mem_replicate.1 hc).2]
  decide

end Text

namespace Utf8

open Text

/-- Nothing keeps a text of scalar values from being written. -/
theorem unencodable?_eq_none_iff {t : Text} : unencodable? t = none ↔ IsScalar t := by
  have hdrop : t.dropWhile (fun c => !c.isSurrogate) = [] ↔ IsScalar t := by
    simp [List.dropWhile_eq_nil_iff, IsScalar]
  rw [← hdrop, unencodable?]
  cases t.dropWhile fun c => !c.isSurrogate <;> simp

/-- **UTF-8 writes exactly the texts of scalar values.** -/
theorem encode_eq_ok_iff {t : Text} {bytes : Bytes} :
    encode t = .ok bytes ↔ IsScalar t ∧ bytes = t.flatMap encodePoint := by
  rw [encode, ← unencodable?_eq_none_iff]
  cases unencodable? t with
  | none => simp [eq_comm]
  | some run => simp

theorem encode_eq_error_iff {t : Text} : (∃ run, encode t = .error run) ↔ ¬ IsScalar t := by
  rw [encode, ← unencodable?_eq_none_iff]
  cases unencodable? t with
  | none => simp
  | some run => simp

end Utf8

namespace Json

open Text

theorem isScalar_printPoint (c : CodePoint) :
    IsScalar (printPoint c) ↔ c.isSurrogate = false := by
  by_cases hc : c.val < 0x80
  · have hplain : c.isSurrogate = false := by
      simp only [CodePoint.isSurrogate, Bool.and_eq_false_iff, decide_eq_false_iff_not]
      omega
    simp only [hplain, iff_true]
    rw [printPoint]
    repeat' split
    all_goals simp [hplain, isScalar_ofHex]
    decide
  · -- Nothing from U+0080 on is escaped.
    have hself : printPoint c = [c] := by
      have hne : ∀ d : CodePoint, d.val < 0x80 → c ≠ d := by
        rintro d hd rfl
        exact hc hd
      rw [printPoint, if_neg, if_neg (hne _ (by decide)), if_neg (hne _ (by decide)),
        if_neg (hne _ (by decide)), if_neg (by omega), if_neg (by omega), if_neg (by omega)]
      rintro (h | h)
      · exact hne _ (by decide) h
      · exact hne _ (by decide) h
    rw [hself]
    simp

/-- **A string is written with a surrogate exactly if it holds one.** -/
@[simp] theorem isScalar_printString (t : Text) : IsScalar (printString t) ↔ IsScalar t := by
  simp only [printString, isScalar_append, isScalar_text, true_and, and_true, isScalar_flatMap,
    isScalar_printPoint]
  rfl

theorem isScalar_printElements (vs : List Json) :
    IsScalar (printElements vs) ↔ ∀ v ∈ vs, IsScalar v.print := by
  induction vs with
  | nil => simp [printElements]
  | cons v rest ih =>
    cases rest with
    | nil => simp [printElements]
    | cons w rest =>
      rw [printElements, isScalar_append, isScalar_append, ih]
      simp

end Json

end AgentWorkshop
