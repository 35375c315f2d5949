import AgentWorkshop.Proofs.Number.Binary64
import Mathlib.Algebra.Order.Field.Power
import Mathlib.Data.Nat.Cast.Field
import Mathlib.Data.Rat.Cast.Order
import Mathlib.Tactic.FieldSimp
import Mathlib.Tactic.Linarith
import Mathlib.Tactic.NormNum
import Mathlib.Tactic.Positivity
import Mathlib.Tactic.Ring

/-!
# The nearest double

`Binary64.ofRatio` gives the double that is nearest to a quotient, of two the one with the even
significand (`isNearest_ofRatio`), unless the quotient is nearer to `2 ^ 1024` than to any double,
half-way included; then it gives an infinity (`isFinite_ofRatio_iff`). Both are read off what
rounding to a grid leaves (`Rounds`): a significand within half a unit of the number, on a grid
no finer than the number has room for.
-/

namespace AgentWorkshop

variable {num den : Nat}

/-- **Rounding a quotient is off by a half at most**, and if by a half, the result is even. -/
theorem roundDiv_near (num : Nat) (hden : 0 < den) :
    |(roundDiv num den : ℚ) - num / den| ≤ 1 / 2 ∧
      (|(roundDiv num den : ℚ) - num / den| = 1 / 2 → Even (roundDiv num den)) := by
  have hpos : (0 : ℚ) < den := by exact_mod_cast hden
  have hquotient : (num : ℚ) / den = (num / den : Nat) + (num % den : Nat) / den := by
    rw [div_eq_iff hpos.ne', add_mul, div_mul_cancel₀ _ hpos.ne']
    exact_mod_cast (Nat.div_add_mod' num den).symm
  rw [hquotient, roundDiv]
  have hrest : (0 : ℚ) ≤ (num % den : Nat) / den := by positivity
  have hrest' : ((num % den : Nat) : ℚ) / den < 1 := by
    rw [div_lt_one hpos]
    exact_mod_cast Nat.mod_lt num hden
  split_ifs with hbelow habove
  · have hhalf : ((num % den : Nat) : ℚ) / den < 1 / 2 := by
      rw [div_lt_iff₀ hpos]
      have hcast : (2 : ℚ) * (num % den : Nat) < den := by exact_mod_cast hbelow
      linarith
    rw [sub_add_cancel_left, abs_neg, abs_of_nonneg hrest]
    exact ⟨hhalf.le, fun h => absurd h hhalf.ne⟩
  · have hhalf : 1 / 2 < ((num % den : Nat) : ℚ) / den := by
      rw [lt_div_iff₀ hpos]
      have hcast : (den : ℚ) < 2 * (num % den : Nat) := by exact_mod_cast habove
      linarith
    rw [Nat.cast_add, Nat.cast_one, add_sub_add_left_eq_sub, abs_of_pos (by linarith)]
    exact ⟨by linarith, fun h => by linarith⟩
  · have hhalf : ((num % den : Nat) : ℚ) / den = 1 / 2 := by
      have htwice : 2 * (num % den) = den := by omega
      rw [div_eq_iff hpos.ne']
      have hcast : (2 : ℚ) * (num % den : Nat) = den := by exact_mod_cast htwice
      linarith
    have heven : Even (num / den + num / den % 2) := by
      rw [Nat.even_iff]
      omega
    refine ⟨?_, fun _ => heven⟩
    rw [hhalf, Nat.cast_add, add_sub_add_left_eq_sub]
    rcases Nat.mod_two_eq_zero_or_one (num / den) with h | h <;> rw [h] <;> norm_num [abs_le]

/-- An integer within a half of a number is nearest to it, and another as near is so by a half. -/
theorem near_int {k j : ℤ} {r : ℚ} (hk : |(k : ℚ) - r| ≤ 1 / 2) (hj : j ≠ k) :
    |(k : ℚ) - r| ≤ |(j : ℚ) - r| ∧ (|(j : ℚ) - r| = |(k : ℚ) - r| → |(k : ℚ) - r| = 1 / 2) := by
  have hapart : (1 : ℚ) ≤ |(j : ℚ) - k| := by
    exact_mod_cast Int.one_le_abs (sub_ne_zero.2 hj)
  have htriangle : |(j : ℚ) - k| ≤ |(j : ℚ) - r| + |(k : ℚ) - r| := by
    rw [abs_sub_comm (k : ℚ) r]
    exact abs_sub_le _ _ _
  exact ⟨by linarith, fun h => by linarith⟩

namespace Binary64

/-! ## Doubles as numbers -/

/-- One or its negative. -/
def unit (negative : Bool) : ℚ :=
  if negative then -1 else 1

/-- The number that a finite double is; `0` for what is not finite. -/
def value : Binary64 → ℚ
  | finite negative m q => unit negative * (m * 2 ^ q)
  | _ => 0

/-- A finite double has a significand of at most 53 bits, an exponent in range, and fewer bits
only at the least exponent. -/
def IsDouble : Binary64 → Prop
  | finite _ m q => m < 2 ^ 53 ∧ leastExponent ≤ q ∧ q ≤ greatestExponent ∧
      (2 ^ 52 ≤ m ∨ q = leastExponent)
  | _ => True

/-- The last bit of the significand is `0`. -/
def IsEven : Binary64 → Prop
  | finite _ m _ => Even m
  | _ => False

/-- **The double nearest to a number**: no finite double is nearer, and if a different one is as
near, this one is even. -/
structure IsNearest (r : ℚ) (x : Binary64) : Prop where
  isDouble : x.IsDouble
  isFinite : x.isFinite = true
  nearest : ∀ y : Binary64, y.IsDouble → y.isFinite = true → |x.value - r| ≤ |y.value - r|
  even : ∀ y : Binary64, y.IsDouble → y.isFinite = true → |y.value - r| = |x.value - r| →
    y.value ≠ x.value → x.IsEven

@[simp] theorem unit_false : unit false = 1 :=
  if_neg Bool.false_ne_true

@[simp] theorem unit_true : unit true = -1 :=
  if_pos rfl

theorem unit_mul_self (negative : Bool) : unit negative * unit negative = 1 := by
  cases negative <;> simp

theorem abs_unit_mul (negative : Bool) (r : ℚ) : |unit negative * r| = |r| := by
  cases negative <;> simp

/-! ## Powers of two -/

theorem two_zpow_pos (e : ℤ) : (0 : ℚ) < 2 ^ e := by
  positivity

theorem zpow_two_le {e f : ℤ} (h : e ≤ f) : (2 : ℚ) ^ e ≤ 2 ^ f :=
  zpow_le_zpow_right₀ one_le_two h

/-- A quotient in units of a power of two. -/
theorem scaled_ratio (num den : Nat) (e : ℤ) :
    ((num * Nat.pow 2 (-e).toNat : Nat) : ℚ) / (den * Nat.pow 2 e.toNat : Nat) =
      num / den / 2 ^ e := by
  simp only [Nat.pow_eq]
  obtain ⟨n, rfl | rfl⟩ := e.eq_nat_or_neg
  · rw [Int.toNat_neg_natCast, Int.toNat_natCast, zpow_natCast, pow_zero, mul_one]
    push_cast
    rw [div_div]
  · rw [neg_neg, Int.toNat_neg_natCast, Int.toNat_natCast, zpow_neg, zpow_natCast, pow_zero,
      mul_one, div_inv_eq_mul]
    push_cast
    rw [mul_div_right_comm]

/-- **The logarithm of a quotient.** -/
theorem log2Ratio_spec (hnum : 0 < num) (hden : 0 < den) :
    (2 : ℚ) ^ log2Ratio num den ≤ num / den ∧ (num : ℚ) / den < 2 ^ (log2Ratio num den + 1) := by
  have hpos : (0 : ℚ) < den := by exact_mod_cast hden
  have hlow : ((2 : ℚ) ^ (num.log2 : ℤ)) ≤ num := by
    rw [zpow_natCast]
    exact_mod_cast Nat.log2_self_le hnum.ne'
  have hhigh : (num : ℚ) < 2 ^ ((num.log2 : ℤ) + 1) := by
    exact_mod_cast Nat.lt_log2_self (n := num)
  have hlow' : ((2 : ℚ) ^ (den.log2 : ℤ)) ≤ den := by
    rw [zpow_natCast]
    exact_mod_cast Nat.log2_self_le hden.ne'
  have hhigh' : (den : ℚ) < 2 ^ ((den.log2 : ℤ) + 1) := by
    exact_mod_cast Nat.lt_log2_self (n := den)
  set k : ℤ := (num.log2 : ℤ) - (den.log2 : ℤ) with hk
  -- The test of the definition is whether the quotient reaches `2 ^ k`.
  have htest : den * Nat.pow 2 k.toNat ≤ num * Nat.pow 2 (-k).toNat ↔ (2 : ℚ) ^ k ≤ num / den := by
    have hscaled := scaled_ratio num den k
    have hgrid : (0 : ℚ) < (den * Nat.pow 2 k.toNat : Nat) := by
      exact_mod_cast Nat.mul_pos hden (Nat.two_pow_pos _)
    rw [← one_le_div (two_zpow_pos k), ← hscaled, one_le_div hgrid, Nat.cast_le]
  have hupper : (num : ℚ) / den < 2 ^ (k + 1) := by
    rw [div_lt_iff₀ hpos]
    calc (num : ℚ) < 2 ^ ((num.log2 : ℤ) + 1) := hhigh
      _ = 2 ^ (k + 1) * 2 ^ (den.log2 : ℤ) := by
          rw [← zpow_add₀ two_ne_zero]
          congr 1
          omega
      _ ≤ 2 ^ (k + 1) * den := mul_le_mul_of_nonneg_left hlow' (two_zpow_pos _).le
  have hlower : (2 : ℚ) ^ (k - 1) ≤ num / den := by
    rw [le_div_iff₀ hpos]
    calc (2 : ℚ) ^ (k - 1) * den ≤ 2 ^ (k - 1) * 2 ^ ((den.log2 : ℤ) + 1) :=
          mul_le_mul_of_nonneg_left hhigh'.le (two_zpow_pos _).le
      _ = 2 ^ (num.log2 : ℤ) := by
          rw [← zpow_add₀ two_ne_zero]
          congr 1
          omega
      _ ≤ num := hlow
  rw [log2Ratio, ← hk]
  split_ifs with h
  · exact ⟨htest.1 h, hupper⟩
  · rw [sub_add_cancel]
    exact ⟨hlower, lt_of_not_ge fun hle => h (htest.2 hle)⟩

/-! ## Rounding to a grid -/

/-- A number was rounded to a significand at an exponent: to within half a unit, a half to the
even one, and so that the significand has 53 bits unless the exponent is the least. -/
structure Rounds (r : ℚ) (k : Nat) (e : ℤ) : Prop where
  least : leastExponent ≤ e
  near : |(k : ℚ) - r / 2 ^ e| ≤ 1 / 2
  even : |(k : ℚ) - r / 2 ^ e| = 1 / 2 → Even k
  full : e = leastExponent ∨ 2 ^ (52 + e) ≤ r
  bound : r < 2 ^ (53 + e)

/-- **What rounding a quotient is made of.** -/
theorem ofRatio_rounds (negative : Bool) (hnum : 0 < num) (hden : 0 < den) :
    ∃ k e, ofRatio negative num den = assemble negative k e ∧ Rounds ((num : ℚ) / den) k e := by
  obtain ⟨hlow, hhigh⟩ := log2Ratio_spec hnum hden
  set e : ℤ := max leastExponent (log2Ratio num den - 52) with he
  have hgrid : 0 < den * Nat.pow 2 e.toNat := Nat.mul_pos hden (Nat.two_pow_pos _)
  have hnear := roundDiv_near (num * Nat.pow 2 (-e).toNat) hgrid
  rw [scaled_ratio] at hnear
  refine ⟨_, e, ?_, le_max_left _ _, hnear.1, hnear.2, ?_, ?_⟩
  · rw [ofRatio, if_neg hnum.ne']
  · rcases max_choice leastExponent (log2Ratio num den - 52) with h | h
    · exact .inl (he.trans h)
    · refine .inr (le_trans (zpow_two_le ?_) hlow)
      omega
  · refine lt_of_lt_of_le hhigh (zpow_two_le ?_)
    omega

namespace Rounds

variable {r : ℚ} {k : Nat} {e : ℤ}

/-- The number on the grid of its exponent. -/
theorem number_eq (e : ℤ) (r : ℚ) : r / 2 ^ e * 2 ^ e = r :=
  div_mul_cancel₀ r (two_zpow_pos e).ne'

/-- Distances on the grid. -/
theorem distance (e : ℤ) (r x : ℚ) : |x * 2 ^ e - r| = |x - r / 2 ^ e| * 2 ^ e := by
  rw [← abs_of_pos (two_zpow_pos e), ← abs_mul, abs_of_pos (two_zpow_pos e), sub_mul, number_eq]

theorem scaled_lt (h : Rounds r k e) : r / 2 ^ e < 2 ^ 53 := by
  rw [div_lt_iff₀ (two_zpow_pos e)]
  refine lt_of_lt_of_eq h.bound ?_
  rw [zpow_add₀ two_ne_zero]
  norm_num

/-- Above the least exponent the number has 53 bits. -/
theorem full_of_lt (h : Rounds r k e) (he : leastExponent < e) : 2 ^ (52 + e) ≤ r :=
  h.full.resolve_left he.ne'

/-- Rounding up may give one bit more. -/
theorem le (h : Rounds r k e) : k ≤ 2 ^ 53 := by
  have hk : (k : ℚ) < 2 ^ 53 + 1 := by
    have hnear := (abs_le.1 h.near).2
    have hscaled := h.scaled_lt
    linarith
  exact Nat.lt_succ_iff.1 (by exact_mod_cast hk)

/-- But never gives one less. -/
theorem ge (h : Rounds r k e) : 2 ^ 52 ≤ k ∨ e = leastExponent := by
  refine h.full.symm.imp_left fun hfull => ?_
  have hscaled : (2 : ℚ) ^ 52 ≤ r / 2 ^ e := by
    rw [le_div_iff₀ (two_zpow_pos e)]
    refine le_of_eq_of_le ?_ hfull
    rw [zpow_add₀ two_ne_zero]
    norm_num
  have hk : (2 : ℚ) ^ 52 < k + 1 := by
    have hnear := (abs_le.1 h.near).1
    linarith
  exact Nat.lt_succ_iff.1 (by exact_mod_cast hk)

/-- Of the numbers on the grid the one rounded to is nearest. -/
theorem nearest_on_grid (h : Rounds r k e) (j : ℤ) :
    |(k : ℚ) * 2 ^ e - r| ≤ |(j : ℚ) * 2 ^ e - r| ∧
      (|(j : ℚ) * 2 ^ e - r| = |(k : ℚ) * 2 ^ e - r| → j ≠ k → Even k) := by
  have hunit := two_zpow_pos e
  rw [distance, distance]
  by_cases hsame : j = k
  · rw [hsame, Int.cast_natCast]
    exact ⟨le_rfl, fun _ hne => absurd rfl hne⟩
  · obtain ⟨hle, htie⟩ := near_int (k := (k : ℤ)) (by simpa using h.near) hsame
    rw [Int.cast_natCast] at hle htie
    refine ⟨mul_le_mul_of_nonneg_right hle hunit.le, fun heq _ => h.even (htie ?_)⟩
    exact mul_right_cancel₀ hunit.ne' heq

/-- A number on a finer grid is below the first one with 53 bits on this. -/
theorem finer_lt {j q : ℤ} (hj : |j| < 2 ^ 53) (hq : q < e) : (j : ℚ) * 2 ^ q < 2 ^ (52 + e) := by
  have hj' : (j : ℚ) < 2 ^ (53 : ℤ) := by
    have hcast : ((j : ℤ) : ℚ) < ((2 ^ 53 : ℤ) : ℚ) := by
      exact_mod_cast (abs_lt.1 hj).2
    exact_mod_cast hcast
  calc (j : ℚ) * 2 ^ q < 2 ^ (53 : ℤ) * 2 ^ q := mul_lt_mul_of_pos_right hj' (two_zpow_pos q)
    _ = 2 ^ (53 + q) := (zpow_add₀ two_ne_zero _ _).symm
    _ ≤ 2 ^ (52 + e) := zpow_two_le (by omega)

/-- **Nothing with 53 bits is nearer than the number rounded.** What is on the grid is one of its
integers; what is finer is below the first number of the grid with 53 bits, and that is nearer. -/
theorem nearest (h : Rounds r k e) {j q : ℤ} (hj : |j| < 2 ^ 53) (hq : leastExponent ≤ q) :
    |(k : ℚ) * 2 ^ e - r| ≤ |(j : ℚ) * 2 ^ q - r| ∧
      (|(j : ℚ) * 2 ^ q - r| = |(k : ℚ) * 2 ^ e - r| → (j : ℚ) * 2 ^ q ≠ k * 2 ^ e → Even k) := by
  by_cases hgrid : e ≤ q
  · obtain ⟨n, rfl⟩ := Int.le.dest hgrid
    have hpoint : (j : ℚ) * 2 ^ (e + n) = ((j * 2 ^ n : ℤ) : ℚ) * 2 ^ e := by
      rw [zpow_add₀ two_ne_zero, zpow_natCast]
      push_cast
      ring
    obtain ⟨hle, htie⟩ := h.nearest_on_grid (j * 2 ^ n)
    rw [hpoint]
    refine ⟨hle, fun heq hne => htie heq fun hsame => hne ?_⟩
    rw [hsame, Int.cast_natCast]
  · have hfull := h.full_of_lt (by omega)
    have hbelow := finer_lt hj (not_le.1 hgrid)
    have hfirst : |(k : ℚ) * 2 ^ e - r| ≤ r - 2 ^ (52 + e) := by
      have hpoint : (2 : ℚ) ^ (52 + e) = ((2 ^ 52 : ℤ) : ℚ) * 2 ^ e := by
        rw [zpow_add₀ two_ne_zero]
        norm_num
      rw [← abs_of_nonneg (sub_nonneg.2 hfull), abs_sub_comm r, hpoint]
      exact (h.nearest_on_grid _).1
    have hfar : r - 2 ^ (52 + e) < |(j : ℚ) * 2 ^ q - r| := by
      rw [abs_sub_comm]
      exact lt_of_lt_of_le (by linarith) (le_abs_self _)
    have hstrict := hfirst.trans_lt hfar
    exact ⟨hstrict.le, fun heq => absurd heq hstrict.ne'⟩

/-! ## Putting the parts together -/

variable {negative : Bool}

/-- Carrying one bit more changes nothing of the number. -/
theorem assemble_of_finite (h : Rounds r k e) (hfinite : (assemble negative k e).isFinite = true) :
    (assemble negative k e).value = unit negative * (k * 2 ^ e) ∧
      (assemble negative k e).IsDouble ∧ (Even k → (assemble negative k e).IsEven) := by
  have hleast := h.least
  have hbound := h.le
  have hfull := h.ge
  simp only [assemble, Nat.pow_eq] at hfinite ⊢
  by_cases hcarry : k = 2 ^ 53
  · simp only [if_pos hcarry] at hfinite ⊢
    by_cases hover : greatestExponent < e + 1
    · rw [if_pos hover] at hfinite
      cases hfinite
    · rw [if_neg hover]
      refine ⟨?_, ⟨by norm_num, by omega, by omega, .inl le_rfl⟩, fun _ => ?_⟩
      · rw [value, hcarry, zpow_add₀ two_ne_zero]
        push_cast
        ring
      · exact ⟨2 ^ 51, by norm_num⟩
  · simp only [if_neg hcarry] at hfinite ⊢
    by_cases hover : greatestExponent < e
    · rw [if_pos hover] at hfinite
      cases hfinite
    · rw [if_neg hover]
      exact ⟨rfl, ⟨by omega, hleast, by omega, hfull⟩, fun heven => heven⟩

/-- The number from which on no double is nearest, in units of the greatest exponent. -/
theorem overflow_eq : ((2 ^ 1024 - 2 ^ 970 : Nat) : ℚ) = (2 ^ 53 - 1 / 2) * 2 ^ greatestExponent := by
  have hle : 2 ^ 970 ≤ 2 ^ 1024 := pow_le_pow_right₀ one_le_two (by norm_num)
  have hgreatest : (2 : ℚ) ^ greatestExponent = 2 * 2 ^ 970 :=
    (zpow_natCast 2 971).trans (pow_succ' 2 970)
  have hbound : (2 : ℚ) ^ 1024 = 2 ^ 54 * 2 ^ 970 := by
    rw [← pow_add]
  rw [Nat.cast_sub hle, Nat.cast_pow, Nat.cast_pow, Nat.cast_ofNat, hgreatest, hbound]
  generalize (2 : ℚ) ^ 970 = u
  ring

theorem isFinite_assemble : (assemble negative k e).isFinite = true ↔
    e ≤ greatestExponent ∧ (k = 2 ^ 53 → e < greatestExponent) := by
  simp only [assemble, Nat.pow_eq]
  by_cases hcarry : k = 2 ^ 53 <;> simp only [hcarry, if_true, if_false] <;>
    split_ifs <;> simp [isFinite] <;> omega

/-- The number is not as great as to be rounded to one bit more, unless it was: half a unit below
that the significand is odd. -/
theorem scaled_lt_of_ne (h : Rounds r k e) (hk : k ≠ 2 ^ 53) : r / 2 ^ e < 2 ^ 53 - 1 / 2 := by
  obtain ⟨hlow, hhigh⟩ := abs_le.1 h.near
  have hle : (k : ℚ) + 1 ≤ 2 ^ 53 := by exact_mod_cast Nat.lt_of_le_of_ne h.le hk
  refine lt_of_le_of_ne (by linarith) fun heq => ?_
  have hlast : (k : ℚ) + 1 = 2 ^ 53 := le_antisymm hle (by linarith)
  have heven : Even k := by
    refine h.even ?_
    rw [heq, ← hlast, abs_sub_comm, abs_of_nonneg] <;> linarith
  have hodd : k + 1 = 2 ^ 53 := by exact_mod_cast hlast
  rw [Nat.even_iff] at heven
  omega

/-- One bit more is given from half a unit below it on. -/
theorem le_scaled_of_eq (h : Rounds r k e) (hk : k = 2 ^ 53) : 2 ^ 53 - 1 / 2 ≤ r / 2 ^ e := by
  have hcast : (k : ℚ) = 2 ^ 53 := by exact_mod_cast hk
  have hnear := (abs_le.1 h.near).2
  linarith

/-- Beyond the greatest exponent numbers are too great. -/
theorem le_greatest (h : Rounds r k e) (hr : r < (2 ^ 1024 - 2 ^ 970 : Nat)) :
    e ≤ greatestExponent := by
  by_contra hover
  have hfull := h.full_of_lt (by rw [leastExponent]; rw [greatestExponent] at hover; omega)
  have hmore : (2 : ℚ) ^ 53 * 2 ^ greatestExponent ≤ 2 ^ (52 + e) := by
    have hsum : (2 : ℚ) ^ 53 * 2 ^ greatestExponent = 2 ^ (53 + greatestExponent) :=
      (zpow_add₀ two_ne_zero 53 _).symm
    rw [hsum]
    exact zpow_two_le (by omega)
  have hgreatest := two_zpow_pos greatestExponent
  rw [overflow_eq] at hr
  linarith

/-- **A number is rounded to a finite double** if it is less than half a unit above the greatest
one. Half a unit is too much. -/
theorem isFinite_assemble_iff (h : Rounds r k e) :
    (assemble negative k e).isFinite = true ↔ r < (2 ^ 1024 - 2 ^ 970 : Nat) := by
  have hunit := two_zpow_pos e
  rw [isFinite_assemble]
  constructor
  · rintro ⟨hexponent, hcarry⟩
    rw [overflow_eq, ← number_eq e r]
    by_cases hfull : k = 2 ^ 53
    · -- One bit more was carried, so the exponent is not the greatest.
      have hhalf : (2 : ℚ) ^ e * 2 ≤ 2 ^ greatestExponent := by
        rw [← zpow_add_one₀ two_ne_zero]
        exact zpow_two_le (hcarry hfull)
      calc r / 2 ^ e * 2 ^ e < 2 ^ 53 * 2 ^ e := mul_lt_mul_of_pos_right h.scaled_lt hunit
        _ ≤ (2 ^ 53 - 1 / 2) * (2 ^ e * 2) := by linarith
        _ ≤ (2 ^ 53 - 1 / 2) * 2 ^ greatestExponent :=
            mul_le_mul_of_nonneg_left hhalf (by norm_num)
    · calc r / 2 ^ e * 2 ^ e < (2 ^ 53 - 1 / 2) * 2 ^ e :=
            mul_lt_mul_of_pos_right (h.scaled_lt_of_ne hfull) hunit
        _ ≤ (2 ^ 53 - 1 / 2) * 2 ^ greatestExponent :=
            mul_le_mul_of_nonneg_left (zpow_two_le hexponent) (by norm_num)
  · intro hr
    refine ⟨h.le_greatest hr, fun hfull => lt_of_le_of_ne (h.le_greatest hr) fun heq => ?_⟩
    have hscaled := h.le_scaled_of_eq hfull
    rw [overflow_eq, ← heq, ← div_lt_iff₀ hunit] at hr
    exact absurd hr (not_lt.2 hscaled)

end Rounds

/-! ## Quotients and integers -/

/-- Every double is a number of 53 bits at its exponent. -/
theorem value_eq_of_isDouble {y : Binary64} (hy : y.IsDouble) (hfinite : y.isFinite = true) :
    ∃ j q : ℤ, |j| < 2 ^ 53 ∧ leastExponent ≤ q ∧ y.value = j * 2 ^ q := by
  cases y with
  | nan => cases hfinite
  | infinite => cases hfinite
  | finite negative m q =>
    have hm : |(m : ℤ)| < 2 ^ 53 := by
      rw [Nat.abs_cast]
      exact_mod_cast hy.1
    cases negative with
    | false => exact ⟨m, q, hm, hy.2.1, by simp [value]⟩
    | true => exact ⟨-m, q, by rwa [abs_neg], hy.2.1, by simp [value]⟩

theorem unit_mul_value (negative : Bool) {j q : ℤ} : ∃ j' : ℤ, |j'| = |j| ∧
    unit negative * (j * 2 ^ q) = j' * 2 ^ q := by
  cases negative with
  | false => exact ⟨j, rfl, by simp⟩
  | true => exact ⟨-j, abs_neg j, by simp⟩

variable {negative : Bool}

/-- **A quotient is too great** for a double from half a unit above the greatest one on. -/
theorem isFinite_ofRatio_iff (hden : 0 < den) : (ofRatio negative num den).isFinite = true ↔
    (num : ℚ) / den < (2 ^ 1024 - 2 ^ 970 : Nat) := by
  by_cases hnum : num = 0
  · have hpos : (0 : ℚ) < (2 ^ 1024 - 2 ^ 970 : Nat) := by
      rw [Rounds.overflow_eq]
      exact mul_pos (by norm_num) (two_zpow_pos _)
    rw [hnum, ofRatio, if_pos rfl, Nat.cast_zero, zero_div]
    exact iff_of_true rfl hpos
  · obtain ⟨k, e, heq, h⟩ := ofRatio_rounds negative (Nat.pos_of_ne_zero hnum) hden
    rw [heq, h.isFinite_assemble_iff]

/-- **Otherwise it is rounded to the nearest double**, a tie going to the even one. -/
theorem isNearest_ofRatio (hden : 0 < den) (hfinite : (ofRatio negative num den).isFinite = true) :
    IsNearest (unit negative * (num / den)) (ofRatio negative num den) := by
  by_cases hnum : num = 0
  · have hvalue : (zero negative).value = 0 := by simp [zero, value]
    have hzero : ofRatio negative num den = zero negative := by rw [ofRatio, if_pos hnum]
    rw [hzero, hnum, Nat.cast_zero, zero_div, mul_zero]
    refine ⟨⟨by norm_num, le_rfl, by decide, .inr rfl⟩, rfl, fun y _ _ => ?_,
      fun y _ _ _ _ => ⟨0, rfl⟩⟩
    rw [hvalue, sub_zero, abs_zero]
    exact abs_nonneg _
  · obtain ⟨k, e, heq, h⟩ := ofRatio_rounds negative (Nat.pos_of_ne_zero hnum) hden
    rw [heq] at hfinite ⊢
    obtain ⟨hvalue, hdouble, heven⟩ := h.assemble_of_finite hfinite
    -- Another double is as far from the number as its magnitude is from the number's.
    have hother (y : Binary64) (hy : y.IsDouble) (hy' : y.isFinite = true) :
        ∃ j q : ℤ, |j| < 2 ^ 53 ∧ leastExponent ≤ q ∧ y.value = unit negative * (j * 2 ^ q) := by
      obtain ⟨j, q, hj, hq, hvalue⟩ := value_eq_of_isDouble hy hy'
      obtain ⟨j', hj', hunit⟩ := unit_mul_value negative (j := j) (q := q)
      refine ⟨j', q, hj' ▸ hj, hq, ?_⟩
      rw [← hunit, ← mul_assoc, unit_mul_self, one_mul, hvalue]
    have hdistance (x : ℚ) : |unit negative * x - unit negative * (num / den)| = |x - num / den| := by
      rw [← mul_sub, abs_unit_mul]
    refine ⟨hdouble, hfinite, fun y hy hy' => ?_, fun y hy hy' htie hne => ?_⟩
    · obtain ⟨j, q, hj, hq, hvalue'⟩ := hother y hy hy'
      rw [hvalue, hvalue', hdistance, hdistance]
      exact (h.nearest hj hq).1
    · obtain ⟨j, q, hj, hq, hvalue'⟩ := hother y hy hy'
      rw [hvalue, hvalue', hdistance, hdistance] at htie
      refine heven ((h.nearest hj hq).2 htie fun hsame => hne ?_)
      rw [hvalue, hvalue', hsame]

/-- So a quotient gives a double, and a decimal too. -/
theorem isDouble_ofRatio (hden : 0 < den) : (ofRatio negative num den).IsDouble := by
  cases hx : ofRatio negative num den with
  | nan => trivial
  | infinite => trivial
  | finite sign m q =>
    have hfinite : (ofRatio negative num den).isFinite = true := by
      rw [hx]
      rfl
    exact hx ▸ (isNearest_ofRatio hden hfinite).isDouble

theorem isDouble_ofDecimal (negative : Bool) (digits : Nat) (exponent : ℤ) :
    (ofDecimal negative digits exponent).IsDouble := by
  have hzero : (zero negative).IsDouble := ⟨by norm_num, le_rfl, by decide, .inr rfl⟩
  rw [ofDecimal]
  split_ifs
  · exact hzero
  · trivial
  · exact hzero
  · exact isDouble_ofRatio (Nat.pow_pos (by decide))

/-- The double nearest to an integer. -/
theorem isNearest_ofInt {n : ℤ} (h : (ofInt n).isFinite = true) : IsNearest n (ofInt n) := by
  have hn : (n : ℚ) = unit (decide (n < 0)) * ((n.natAbs : ℚ) / (1 : Nat)) := by
    rw [Nat.cast_one, div_one, Nat.cast_natAbs]
    by_cases hneg : n < 0
    · rw [decide_eq_true hneg, unit_true, abs_of_neg hneg, Int.cast_neg, neg_one_mul, neg_neg]
    · rw [decide_eq_false hneg, unit_false, abs_of_nonneg (not_lt.1 hneg), one_mul]
  rw [hn]
  exact isNearest_ofRatio Nat.one_pos h

/-- **Integers below the bound have one**, and no others. -/
theorem isFinite_ofInt_iff {n : ℤ} :
    (ofInt n).isFinite = true ↔ n.natAbs < 2 ^ 1024 - 2 ^ 970 := by
  rw [ofInt, isFinite_ofRatio_iff Nat.one_pos, Nat.cast_one, div_one, Nat.cast_lt]

/-! ## Integers among the doubles -/

theorem numerator_div_denominator (m : Nat) (q : ℤ) :
    (numerator m q : ℚ) / denominator q = m * 2 ^ q := by
  have hscaled := scaled_ratio m 1 (-q)
  rw [neg_neg, Nat.one_mul, Nat.cast_one, div_one, zpow_neg, div_inv_eq_mul] at hscaled
  exact hscaled

/-- **A double is shown as an integer** if its number is that integer. -/
theorem toInt?_eq_some_iff {x : Binary64} {k : ℤ} (hfinite : x.isFinite = true) :
    x.toInt? = some k ↔ x.value = k := by
  cases x with
  | nan => cases hfinite
  | infinite => cases hfinite
  | finite negative m q =>
    have hpos : (0 : ℚ) < denominator q := by exact_mod_cast Nat.two_pow_pos _
    rw [toInt?, value, ← numerator_div_denominator]
    by_cases hwhole : numerator m q % denominator q = 0
    · have hexact : (numerator m q : ℚ) / denominator q = (numerator m q / denominator q : Nat) :=
        (Nat.cast_div (Nat.dvd_of_mod_eq_zero hwhole) hpos.ne').symm
      rw [if_pos hwhole, Option.some_inj, hexact]
      cases negative
      · rw [unit_false, one_mul, if_neg Bool.false_ne_true, ← @Int.cast_inj ℚ, Int.cast_natCast]
      · rw [unit_true, neg_one_mul, if_pos rfl, ← @Int.cast_inj ℚ, Int.cast_neg, Int.cast_natCast]
    · rw [if_neg hwhole]
      refine iff_of_false (by simp) fun hvalue => hwhole ?_
      -- The magnitude of the integer would be the quotient.
      have habs : (numerator m q : ℚ) / denominator q = (k.natAbs : Nat) := by
        have hmagnitude := congrArg abs hvalue
        rw [abs_unit_mul, abs_of_nonneg (by positivity)] at hmagnitude
        rw [hmagnitude, Nat.cast_natAbs, Int.cast_abs]
      rw [div_eq_iff hpos.ne'] at habs
      exact Nat.mod_eq_zero_of_dvd ⟨k.natAbs, by rw [mul_comm]; exact_mod_cast habs⟩

theorem numerator_lt {m : Nat} {q : ℤ} (hm : m < 2 ^ 53) (hq : q ≤ greatestExponent) :
    numerator m q < 2 ^ 1024 := by
  obtain ⟨d, hsum, hd⟩ : ∃ d, 53 + d = 1024 ∧ q.toNat ≤ d := by
    rw [greatestExponent] at hq
    exact ⟨971, rfl, by omega⟩
  have hpow : 2 ^ q.toNat ≤ 2 ^ d := Nat.pow_le_pow_right Nat.two_pos hd
  calc numerator m q < 2 ^ 53 * 2 ^ d :=
        Nat.mul_lt_mul_of_lt_of_le hm hpow (Nat.two_pow_pos d)
    _ = 2 ^ 1024 := by rw [← hsum, Nat.pow_add]

/-- No double is beyond `2 ^ 1024`, be it an integer, -/
theorem natAbs_toInt?_le {x : Binary64} {k : ℤ} (hx : x.IsDouble) (h : x.toInt? = some k) :
    k.natAbs ≤ 2 ^ 1024 := by
  cases x with
  | nan => cases h
  | infinite => cases h
  | finite negative m q =>
    have hlt := numerator_lt hx.1 hx.2.2.1
    have hdiv := Nat.div_le_self (numerator m q) (denominator q)
    rw [toInt?, Option.ite_none_right_eq_some] at h
    obtain rfl := Option.some.inj h.2
    rw [natAbs_ite_neg]
    exact hdiv.trans hlt.le

/-- or be it rounded to one. -/
theorem natAbs_round_le {x : Binary64} (hx : x.IsDouble) : x.round.natAbs ≤ 2 ^ 1024 := by
  cases x with
  | nan => exact Nat.zero_le _
  | infinite => exact Nat.zero_le _
  | finite negative m q =>
    have hlt := numerator_lt hx.1 hx.2.2.1
    have hdiv := Nat.div_le_self (numerator m q) (denominator q)
    have hnear : roundDiv (numerator m q) (denominator q) ≤
        numerator m q / denominator q + 1 := by
      rw [roundDiv]
      split_ifs <;> omega
    rw [round, natAbs_ite_neg]
    exact hnear.trans ((Nat.succ_le_succ hdiv).trans hlt)

/-- **The double nearest to an integer is an integer.** Up to `2 ^ 53` it is the same one; above,
a unit of the last place is a whole number. -/
theorem exists_toInt?_ofInt {n : ℤ} (hfinite : (ofInt n).isFinite = true) :
    ∃ k, (ofInt n).toInt? = some k := by
  by_cases hn : n.natAbs ≤ 2 ^ 53
  · exact ⟨n, toInt?_ofInt hn⟩
  · have hpos : 0 < n.natAbs := by omega
    obtain ⟨k, e, heq, h⟩ := ofRatio_rounds (decide (n < 0)) hpos Nat.one_pos
    have hassembled : ofInt n = assemble (decide (n < 0)) k e := heq
    have he : 0 ≤ e := by
      by_contra hneg
      have hbound := h.bound
      have hle : (2 : ℚ) ^ (53 + e) ≤ 2 ^ (53 : ℤ) := zpow_two_le (by omega)
      have hlarge : (2 : ℚ) ^ (53 : ℤ) < n.natAbs := by
        exact_mod_cast Nat.lt_of_not_le hn
      rw [Nat.cast_one, div_one] at hbound
      linarith
    obtain ⟨d, rfl⟩ := Int.eq_ofNat_of_zero_le he
    rw [hassembled] at hfinite ⊢
    obtain ⟨hvalue, -, -⟩ := h.assemble_of_finite hfinite
    obtain ⟨j, -, hj⟩ := unit_mul_value (decide (n < 0)) (j := (k : ℤ)) (q := (d : ℤ))
    refine ⟨j * 2 ^ d, (toInt?_eq_some_iff hfinite).2 ?_⟩
    rw [hvalue]
    push_cast at hj ⊢
    exact_mod_cast hj

end Binary64

end AgentWorkshop
