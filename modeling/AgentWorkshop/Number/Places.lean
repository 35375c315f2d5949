import AgentWorkshop.Number.Display

/-!
# Numbers with a count of places

The layouts of real numbers with so many places after the point, plain, with an
exponent or as whichever of the two is shorter, rounded from the exact value; a
tie goes to the even digit.
-/

namespace AgentWorkshop

/-- The magnitude of a number, as a quotient with a positive denominator. -/
structure Ratio where
  num : Nat
  den : Nat
  deriving DecidableEq, Repr

namespace Ratio

/-- The magnitude of `m * 2 ^ q`. -/
def ofBinary (m : Nat) (q : Int) : Ratio :=
  ⟨Binary64.numerator m q, Binary64.denominator q⟩

/-- The magnitude of `digits * 10 ^ exponent`. -/
def ofDecimal (digits : Nat) (exponent : Int) : Ratio :=
  ⟨digits * Nat.pow 10 exponent.toNat, Nat.pow 10 (-exponent).toNat⟩

/-- The nearest number with a significand of so many bits, as a significand and
an exponent of two. -/
def toBits (bits : Nat) (r : Ratio) : Nat × Int :=
  if r.num = 0 then (0, 0)
  else
    let exponent := Binary64.log2Ratio r.num r.den - (bits - 1 : Nat)
    (roundDiv (r.num * Nat.pow 2 (-exponent).toNat) (r.den * Nat.pow 2 exponent.toNat), exponent)

/-- Digits with a point before the last `places` of them; a point with nothing
after it stands only if `keepsPoint`. -/
def withPoint (keepsPoint : Bool) (whole fraction : Text) : Text :=
  whole ++ if fraction.isEmpty && !keepsPoint then [] else text "." ++ fraction

/-- The number with `places` digits after the point. -/
def fixed (r : Ratio) (places : Nat) (keepsPoint : Bool) : Text :=
  let unit := Nat.pow 10 places
  let scaled := roundDiv (r.num * unit) r.den
  withPoint keepsPoint (Text.ofNat (scaled / unit))
    (if places = 0 then [] else Text.padZeros places (Text.ofNat (scaled % unit)))

/-- The number rounded to `count` digits, the first of which is no zero, with
the exponent of ten of the first one. -/
def significant (r : Ratio) (count : Nat) : Nat × Int :=
  if r.num = 0 then (0, 0)
  else
    let exponent := Decimal.magnitude r.num r.den - 1
    let shift : Int := count - 1 - exponent
    let digits := roundDiv (r.num * Nat.pow 10 shift.toNat) (r.den * Nat.pow 10 (-shift).toNat)
    if digits = Nat.pow 10 count then (digits / 10, exponent + 1) else (digits, exponent)

/-- The digits of the number with a point after the first and an exponent of ten. -/
def scientific (r : Ratio) (places : Nat) (keepsPoint : Bool) : Text :=
  let (digits, exponent) := r.significant (places + 1)
  let t := Text.padZeros (places + 1) (Text.ofNat digits)
  withPoint keepsPoint (t.take 1) (t.drop 1) ++ text (if exponent < 0 then "e-" else "e+") ++
    Text.padZeros 2 (Text.ofNat exponent.natAbs)

/-- The digits of a fraction without the zeros at its end. -/
def withoutZeros (t : Text) : Text :=
  if t.contains ('.' : CodePoint) then
    let kept := (t.reverse.dropWhile fun c : CodePoint => c = '0')
    (if kept.head? = some ('.' : CodePoint) then kept.drop 1 else kept).reverse
  else t

/-- The number with so many digits that count, plain unless its exponent is
small or large. Zeros at the end are kept only if `keepsPoint`. -/
def general (r : Ratio) (precision : Nat) (keepsPoint : Bool) : Text :=
  let precision := max precision 1
  let (_, exponent) := r.significant precision
  if -4 ≤ exponent ∧ exponent < precision then
    let t := r.fixed (precision - 1 - exponent).toNat keepsPoint
    if keepsPoint then t else withoutZeros t
  else
    let t := r.scientific (precision - 1) keepsPoint
    let isMark (c : CodePoint) : Bool := c = 'e'
    let mantissa := t.takeWhile fun c => !isMark c
    (if keepsPoint then mantissa else withoutZeros mantissa) ++ t.dropWhile fun c => !isMark c

/-- The digits of `m * 2 ^ q` in base sixteen with an exponent of two, from its
first bit on. -/
def hexadecimal (m : Nat) (q : Int) (places : Option Nat) (keepsPoint : Bool) : Text :=
  if m = 0 then
    withPoint keepsPoint (text "0x0") (List.replicate (places.getD 0) ('0' : CodePoint)) ++ text "p+0"
  else
    let bits := m.log2
    let width := (bits + 3) / 4
    let full := m * Nat.pow 2 (4 * width - bits)
    let exponent : Int := q + bits
    let kept := match places with
      | some n => if n < width then roundDiv full (Nat.pow 16 (width - n)) else
          full * Nat.pow 16 (n - width)
      | none => full
    let t := Text.padZeros ((places.getD width) + 1) (Text.ofHex 0 kept)
    let fraction := t.drop 1
    let fraction := if places.isSome then fraction
      else (fraction.reverse.dropWhile fun c : CodePoint => c = '0').reverse
    text "0x" ++ withPoint keepsPoint (t.take 1) fraction ++
      text (if exponent < 0 then "p-" else "p+") ++ Text.ofNat exponent.natAbs

end Ratio

end AgentWorkshop
