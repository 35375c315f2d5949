import AgentWorkshop.Number.Binary64
import Mathlib.Algebra.Ring.Nat

/-!
# Integers that are doubles

An integer of magnitude at most `2 ^ 53` is a double exactly (`toInt?_ofInt`): below that
bound its significand needs no rounding, and the bound itself is a power of two.
-/

namespace AgentWorkshop

theorem roundDiv_one (n : Nat) : roundDiv n 1 = n := by
  rw [roundDiv, Nat.mod_one, Nat.div_one]
  rfl

/-- A sign is no part of the magnitude. -/
theorem natAbs_ite_neg (negative : Bool) (j : Nat) :
    (if negative = true then -(j : Int) else j).natAbs = j := by
  split <;> omega

namespace Binary64

variable {negative : Bool} {m : Nat} {n : Int}

theorem log2Ratio_one (hm : m ≠ 0) : log2Ratio m 1 = m.log2 := by
  have hone : (1 : Nat).log2 = 0 := rfl
  have hle : 2 ^ m.log2 ≤ m := Nat.log2_self_le hm
  rw [log2Ratio, hone]
  simp only [Nat.pow_eq, Int.natCast_zero, Int.sub_zero, Int.toNat_natCast, Nat.one_mul]
  rw [if_pos (Nat.le_trans hle (Nat.le_mul_of_pos_right _ (Nat.two_pow_pos _)))]

/-- A number below `2 ^ 53` is shifted to the left until its significand is full. -/
theorem ofRatio_one (hm : m ≠ 0) (hlt : m < 2 ^ 53) : ofRatio negative m 1 =
    finite negative (m * 2 ^ (52 - m.log2)) (-(52 - m.log2 : Nat)) := by
  have hlog : m.log2 < 53 := (Nat.log2_lt hm).2 hlt
  have hexponent : max leastExponent (log2Ratio m 1 - 52) = -(52 - m.log2 : Nat) := by
    rw [log2Ratio_one hm, leastExponent]
    omega
  have hfull : m * 2 ^ (52 - m.log2) < 2 ^ 53 := by
    calc m * 2 ^ (52 - m.log2) < 2 ^ (m.log2 + 1) * 2 ^ (52 - m.log2) :=
          Nat.mul_lt_mul_of_pos_right Nat.lt_log2_self (Nat.two_pow_pos _)
      _ = 2 ^ 53 := by rw [← Nat.pow_add]; congr 1; omega
  rw [ofRatio, if_neg hm]
  simp only [hexponent, Nat.pow_eq, Int.neg_neg, Int.toNat_natCast, Int.toNat_neg_natCast,
    Nat.pow_zero, Nat.mul_one, roundDiv_one, assemble]
  simp only [if_neg (Nat.ne_of_lt hfull), greatestExponent]
  rw [if_neg (by omega)]

theorem toInt?_zero (negative : Bool) : (zero negative).toInt? = some 0 := by
  rw [zero, toInt?, numerator, Nat.zero_mul, Nat.zero_mod, Nat.zero_div, if_pos rfl]
  cases negative <;> rfl

/-- **Integers up to `2 ^ 53` are doubles.** -/
theorem toInt?_ofInt (hn : n.natAbs ≤ 2 ^ 53) : (ofInt n).toInt? = some n := by
  rcases Nat.lt_or_eq_of_le hn with hlt | heq
  · by_cases hzero : n.natAbs = 0
    · rw [Int.natAbs_eq_zero] at hzero
      rw [hzero]
      exact toInt?_zero false
    · rw [ofInt, ofRatio_one hzero hlt, toInt?, numerator, denominator]
      simp only [Nat.pow_eq, Int.neg_neg, Int.toNat_natCast, Int.toNat_neg_natCast, Nat.pow_zero,
        Nat.mul_one]
      rw [if_pos (Nat.mul_mod_left _ _), Nat.mul_div_cancel _ (Nat.two_pow_pos _)]
      by_cases hneg : n < 0
      · rw [if_pos (by simpa using hneg)]
        congr 1
        omega
      · rw [if_neg (by simpa using hneg)]
        congr 1
        omega
  · -- the bound itself has one bit more than a significand
    rcases Int.natAbs_eq n with h | h
    · rw [h, heq]
      rfl
    · rw [h, heq]
      rfl

theorem isFinite_ofInt (hn : n.natAbs ≤ 2 ^ 53) : (ofInt n).isFinite = true := by
  have h := toInt?_ofInt hn
  cases hx : ofInt n with
  | finite => rfl
  | nan => rw [hx] at h; cases h
  | infinite => rw [hx] at h; cases h

end Binary64

end AgentWorkshop
