import AgentWorkshop.Proofs.Text.Numeral
import AgentWorkshop.Text.Blank
import AgentWorkshop.Text.Digit

/-!
# Numbers in the digits of any script

A run of decimal digits `Writes` the number that has their values as its digits, the first one
counting most. That is the number it is read as (`writes_iff`), and the numeral of a number is
such a run (`writes_ofNat`). No digit of any script is blank.
-/

namespace AgentWorkshop

namespace CodePoint

variable {c : CodePoint} {d : Nat}

/-- A digit lies in a block of ten. -/
theorem exists_zero_of_decimalValue? (h : c.decimalValue? = some d) :
    ∃ z ∈ decimalZeros, c.val = z + d ∧ d < 10 := by
  rw [decimalValue?, Option.map_eq_some_iff] at h
  obtain ⟨z, hfind, hd⟩ := h
  have hrange := List.find?_some hfind
  rw [Bool.and_eq_true, decide_eq_true_eq, decide_eq_true_eq] at hrange
  exact ⟨z, List.mem_of_find?_eq_some hfind, by omega, by omega⟩

theorem isDecimalDigit_iff : c.isDecimalDigit = true ↔ ∃ d, c.decimalValue? = some d := by
  rw [isDecimalDigit, Option.isSome_iff_exists]

theorem decimalValue?_hexDigit : ∀ d < 10, (Text.hexDigit d).decimalValue? = some d := by
  decide

theorem blankRanges_apart : ∀ r ∈ blankRanges, ∀ z ∈ decimalZeros, r.2 < z ∨ z + 10 ≤ r.1 := by
  decide

/-- **No digit is blank.** -/
theorem not_isDecimalDigit_of_isBlank (h : c.isBlank = true) : c.isDecimalDigit = false := by
  rw [isBlank, List.any_eq_true] at h
  obtain ⟨r, hr, hrange⟩ := h
  rw [Bool.and_eq_true, decide_eq_true_eq, decide_eq_true_eq] at hrange
  rw [← Bool.not_eq_true, isDecimalDigit_iff]
  rintro ⟨d, hd⟩
  obtain ⟨z, hz, hc, hlt⟩ := exists_zero_of_decimalValue? hd
  have := blankRanges_apart r hr z hz
  omega

end CodePoint

namespace Text

variable {t : Text} {n : Nat}

/-- **The text writes the number**: its code points are decimal digits with these values, and the
number has them as its digits, the first one counting most. -/
def Writes (t : Text) (n : Nat) : Prop :=
  ∃ ds : List Nat, t.map CodePoint.decimalValue? = ds.map some ∧ (∀ d ∈ ds, d < 10) ∧
    n = Nat.ofDigits 10 ds.reverse

theorem decimalNat_eq_ofDigits (t : Text) :
    t.decimalNat = Nat.ofDigits 10 (t.map fun c => c.decimalValue?.getD 0).reverse := by
  rw [decimalNat, Nat.ofDigits_eq_foldr, List.foldr_reverse, List.foldl_map]
  simp only [Nat.cast_id, Nat.add_comm]

theorem map_decimalValue? (h : ∀ c ∈ t, c.isDecimalDigit = true) :
    t.map CodePoint.decimalValue? = (t.map fun c => c.decimalValue?.getD 0).map some := by
  rw [List.map_map]
  refine List.map_congr_left fun c hc => ?_
  obtain ⟨d, hd⟩ := CodePoint.isDecimalDigit_iff.1 (h c hc)
  rw [Function.comp_apply, hd, Option.getD_some]

/-- **A run of digits is read as the number that it writes.** -/
theorem writes_iff : t.Writes n ↔ (∀ c ∈ t, c.isDecimalDigit = true) ∧ n = t.decimalNat := by
  constructor
  · rintro ⟨ds, hvalues, -, rfl⟩
    have hds : (t.map fun c => c.decimalValue?.getD 0) = ds := by
      have hgetD := congrArg (List.map fun v : Option Nat => v.getD 0) hvalues
      simpa only [List.map_map, Function.comp_def, Option.getD_some, List.map_id'] using hgetD
    refine ⟨fun c hc => ?_, by rw [decimalNat_eq_ofDigits, hds]⟩
    have hmem := List.mem_map_of_mem (f := CodePoint.decimalValue?) hc
    rw [hvalues, List.mem_map] at hmem
    obtain ⟨d, -, hd⟩ := hmem
    exact CodePoint.isDecimalDigit_iff.2 ⟨d, hd.symm⟩
  · rintro ⟨hdecimal, rfl⟩
    refine ⟨_, map_decimalValue? hdecimal, fun d hd => ?_, decimalNat_eq_ofDigits t⟩
    obtain ⟨c, hc, rfl⟩ := List.mem_map.1 hd
    obtain ⟨d, hd⟩ := CodePoint.isDecimalDigit_iff.1 (hdecimal c hc)
    obtain ⟨-, -, -, hlt⟩ := CodePoint.exists_zero_of_decimalValue? hd
    rwa [hd, Option.getD_some]

/-- **A numeral writes its number.** -/
theorem writes_ofNat (n : Nat) : (ofNat n).Writes n := by
  induction n using Nat.strong_induction_on with
  | _ n ih =>
    rw [ofNat_eq]
    by_cases hn : n < 10
    · refine ⟨[n], ?_, by simpa using hn, by simp⟩
      rw [if_pos hn, List.map_singleton, List.map_singleton, CodePoint.decimalValue?_hexDigit n hn]
    · obtain ⟨ds, hvalues, hlt, hrest⟩ := ih (n / 10) (by omega)
      have hlast : n % 10 < 10 := by omega
      refine ⟨ds ++ [n % 10], ?_, ?_, ?_⟩
      · rw [if_neg hn, List.map_append, List.map_append, hvalues, List.map_singleton,
          List.map_singleton, CodePoint.decimalValue?_hexDigit _ hlast]
      · simpa [or_imp, forall_and] using ⟨hlt, hlast⟩
      · rw [List.reverse_append, List.reverse_singleton, List.singleton_append,
          Nat.ofDigits_cons, ← hrest]
        omega

end Text

end AgentWorkshop
