import AgentWorkshop.Json.Reader
import Mathlib.Data.Nat.Digits.Defs

/-!
# Numerals

A decimal numeral is a run of digits that starts with a zero only if it is a lone one
(`ofNat_cases`), and it is read as the number that it writes (`digitsValue_ofNat`). Four
hexadecimal digits write any number of sixteen bits (`ofHex_four`).
-/

namespace AgentWorkshop

namespace Text

variable {n : Nat}

/-- The code point of a digit below sixteen. -/
def hexDigit (d : Nat) : CodePoint :=
  CodePoint.ofChar d.digitChar

theorem hexValue?_hexDigit : ∀ d < 16, (hexDigit d).hexValue? = some d := by
  decide

theorem isAsciiDigit_hexDigit : ∀ d < 10, (hexDigit d).isAsciiDigit = true := by
  decide

theorem val_hexDigit : ∀ d < 10, (hexDigit d).val = 0x30 + d := by
  decide

/-! ## Decimal numerals -/

/-- The last digit of a number stands after those of the rest. -/
theorem ofNat_eq (n : Nat) : ofNat n =
    if n < 10 then [hexDigit n] else ofNat (n / 10) ++ [hexDigit (n % 10)] := by
  rw [ofNat, Nat.toDigits_eq_if (by decide)]
  split <;> simp [ofNat, hexDigit]

/-- **A numeral is not empty and has digits only**; the first is a zero for zero alone. -/
theorem ofNat_cases (n : Nat) : ∃ d rest, ofNat n = hexDigit d :: rest ∧ d < 10 ∧
    (d = 0 → n = 0 ∧ rest = []) ∧ ∀ c ∈ rest, c.isAsciiDigit = true := by
  induction n using Nat.strong_induction_on with
  | _ n ih =>
    rw [ofNat_eq]
    by_cases hn : n < 10
    · rw [if_pos hn]
      exact ⟨n, [], rfl, hn, fun h => ⟨h, rfl⟩, by simp⟩
    · rw [if_neg hn]
      obtain ⟨d, rest, hrest, hd, hzero, hdigits⟩ := ih (n / 10) (by omega)
      refine ⟨d, rest ++ [hexDigit (n % 10)], by rw [hrest, List.cons_append], hd, ?_, ?_⟩
      · intro h
        have := (hzero h).1
        omega
      · intro c hc
        rcases List.mem_append.1 hc with hc | hc
        · exact hdigits c hc
        · rw [List.mem_singleton.1 hc]
          exact isAsciiDigit_hexDigit _ (by omega)

theorem isAsciiDigit_of_mem_ofNat {c : CodePoint} (hc : c ∈ ofNat n) :
    c.isAsciiDigit = true := by
  obtain ⟨d, rest, hrest, hd, -, hdigits⟩ := ofNat_cases n
  rw [hrest] at hc
  rcases List.mem_cons.1 hc with rfl | hc
  · exact isAsciiDigit_hexDigit d hd
  · exact hdigits c hc

/-- **A numeral is read as its number.** -/
@[simp] theorem digitsValue_ofNat (n : Nat) : Json.digitsValue (ofNat n) = n := by
  induction n using Nat.strong_induction_on with
  | _ n ih =>
    rw [ofNat_eq]
    by_cases hn : n < 10
    · rw [if_pos hn, Json.digitsValue, List.foldl_cons, List.foldl_nil, val_hexDigit n hn]
      omega
    · have hrest := ih (n / 10) (by omega)
      rw [Json.digitsValue] at hrest
      rw [if_neg hn, Json.digitsValue, List.foldl_append, hrest, List.foldl_cons, List.foldl_nil,
        val_hexDigit _ (by omega)]
      omega

/-- A number below a power of ten has no more digits than the power says. -/
theorem length_ofNat_le (k : Nat) (hn : n < 10 ^ (k + 1)) : (ofNat n).length ≤ k + 1 := by
  induction k generalizing n with
  | zero => rw [ofNat_eq, if_pos (by omega), List.length_singleton]
  | succ k ih =>
    rw [ofNat_eq]
    split
    · simp
    · have := ih (n := n / 10) (by rw [Nat.pow_succ] at hn; omega)
      rw [List.length_append, List.length_singleton]
      omega

/-! ## Hexadecimal numerals -/

/-- The digits of a number in base sixteen, the last one apart. -/
theorem toDigits_sixteen (n : Nat) : (Nat.toDigits 16 n).map CodePoint.ofChar =
    if n < 16 then [hexDigit n]
    else (Nat.toDigits 16 (n / 16)).map CodePoint.ofChar ++ [hexDigit (n % 16)] := by
  rw [Nat.toDigits_eq_if (by decide)]
  split <;> simp [hexDigit]

/-- **Four hexadecimal digits write a number of sixteen bits.** -/
theorem ofHex_four (hn : n < 0x10000) : ofHex 4 n =
    [hexDigit (n / 0x1000), hexDigit (n / 0x100 % 16), hexDigit (n / 0x10 % 16),
      hexDigit (n % 16)] := by
  rw [ofHex, toDigits_sixteen]
  by_cases h₁ : n < 0x10
  · rw [if_pos h₁, show n / 0x1000 = 0 by omega, show n / 0x100 % 16 = 0 by omega,
      show n / 0x10 % 16 = 0 by omega, show n % 16 = n by omega]
    rfl
  rw [if_neg h₁, toDigits_sixteen]
  by_cases h₂ : n < 0x100
  · rw [if_pos (by omega), show n / 0x1000 = 0 by omega, show n / 0x100 % 16 = 0 by omega,
      show n / 0x10 % 16 = n / 16 by omega]
    rfl
  rw [if_neg (by omega), toDigits_sixteen]
  by_cases h₃ : n < 0x1000
  · rw [if_pos (by omega), show n / 0x1000 = 0 by omega,
      show n / 0x100 % 16 = n / 16 / 16 by omega]
    rfl
  rw [if_neg (by omega), toDigits_sixteen, if_pos (by omega),
    show n / 0x1000 = n / 16 / 16 / 16 by omega, show n / 0x100 % 16 = n / 16 / 16 % 16 by omega]
  rfl

end Text

end AgentWorkshop
