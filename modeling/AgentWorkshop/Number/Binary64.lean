/-!
# Binary64 — doubles as exact numbers

A finite double is a sign, a significand below `2 ^ 53` and an exponent of two,
so every fact about it is one about integers; no operation of the machine's own
floating point is used. `Binary64.ofRatio` rounds a quotient to the nearest
double, a tie to the even significand, and every other reader goes through it.
-/

namespace AgentWorkshop

/-- The nearest integer to `num / den`; of two, the even one. -/
def roundDiv (num den : Nat) : Nat :=
  let q := num / den
  let r := num % den
  if 2 * r < den then q
  else if den < 2 * r then q + 1
  else q + q % 2

/-- A double: a signed number `significand * 2 ^ exponent`, an infinity, or no
number at all. -/
inductive Binary64 where
  | nan
  | infinite (negative : Bool)
  | finite (negative : Bool) (significand : Nat) (exponent : Int)
  deriving DecidableEq, Repr

namespace Binary64

/-- The exponent of the subnormal numbers, the least there is. -/
def leastExponent : Int := -1074

/-- The greatest exponent of a finite number. -/
def greatestExponent : Int := 971

/-- Zero with a sign. -/
def zero (negative : Bool) : Binary64 :=
  finite negative 0 leastExponent

/-- The number is neither an infinity nor a NaN. -/
def isFinite : Binary64 → Bool
  | finite .. => true
  | _ => false

/-- The integer part of the base-two logarithm of `num / den`, both positive. -/
def log2Ratio (num den : Nat) : Int :=
  let k : Int := (num.log2 : Int) - (den.log2 : Int)
  if den * Nat.pow 2 k.toNat ≤ num * Nat.pow 2 (-k).toNat then k else k - 1

/-- Carries a significand that was rounded up to `2 ^ 53`, and overflows to an
infinity above the greatest exponent. -/
def assemble (negative : Bool) (significand : Nat) (exponent : Int) : Binary64 :=
  let (significand, exponent) :=
    if significand = Nat.pow 2 53 then (Nat.pow 2 52, exponent + 1) else (significand, exponent)
  if greatestExponent < exponent then infinite negative
  else finite negative significand exponent

/-- The double nearest to `num / den`, a tie going to the even significand. -/
def ofRatio (negative : Bool) (num den : Nat) : Binary64 :=
  if num = 0 then zero negative
  else
    let exponent := max leastExponent (log2Ratio num den - 52)
    assemble negative
      (roundDiv (num * Nat.pow 2 (-exponent).toNat) (den * Nat.pow 2 exponent.toNat)) exponent

/-- The double nearest to an integer. -/
def ofInt (n : Int) : Binary64 :=
  ofRatio (decide (n < 0)) n.natAbs 1

/-- The double nearest to `digits * 10 ^ exponent`. An exponent so great or so
small that the digits cannot bring the number back into range is settled at
once, so the powers of ten computed stay small. -/
def ofDecimal (negative : Bool) (digits : Nat) (exponent : Int) : Binary64 :=
  if digits = 0 then zero negative
  else if 0 ≤ exponent ∧ 1024 ≤ (digits.log2 : Int) + 3 * exponent then infinite negative
  else if exponent < 0 ∧ (digits.log2 : Int) + 1 + 3 * exponent ≤ -1075 then zero negative
  else ofRatio negative (digits * Nat.pow 10 exponent.toNat) (Nat.pow 10 (-exponent).toNat)

/-- The numerator of the magnitude of a finite number. -/
def numerator (significand : Nat) (exponent : Int) : Nat :=
  significand * Nat.pow 2 exponent.toNat

/-- The denominator of the magnitude of a finite number. -/
def denominator (exponent : Int) : Nat :=
  Nat.pow 2 (-exponent).toNat

/-- The integer that the number is, if it is one. -/
def toInt? : Binary64 → Option Int
  | finite negative m q =>
    if numerator m q % denominator q = 0 then
      let n : Int := (numerator m q / denominator q : Nat)
      some (if negative then -n else n)
    else none
  | _ => none

/-- The nearest integer, a tie going to the even one; `0` for what is not finite. -/
def round : Binary64 → Int
  | finite negative m q =>
    let n : Int := roundDiv (numerator m q) (denominator q)
    if negative then -n else n
  | _ => 0

end Binary64

end AgentWorkshop
