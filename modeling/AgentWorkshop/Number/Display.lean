import AgentWorkshop.Number.Shortest
import AgentWorkshop.Text.Basic

/-!
# The texts of numbers

How doubles are shown: `Binary64.display` with the fewest digits that read
back, `Binary64.fixed` with a given number of places, and `Binary64.count` as
an integer wherever the number is one.
-/

namespace AgentWorkshop

/-- How the shortest digits of a double are laid out. -/
structure FloatLayout where
  /-- The least decimal exponent written without an exponent part. -/
  leastPlain : Int
  /-- The least decimal exponent above it written with an exponent part. -/
  leastScientific : Int
  /-- The least number of digits of an exponent part. -/
  exponentWidth : Nat

/-- Plain digits from `0.0001` to below `10 ^ 16`, and a signed exponent of at
least two digits elsewhere. -/
def FloatLayout.standard : FloatLayout := ⟨-4, 16, 2⟩

namespace Text

/-- Digits padded at the left with zeros to a width. -/
def padZeros (width : Nat) (digits : Text) : Text :=
  List.replicate (width - digits.length) ('0' : CodePoint) ++ digits

end Text

namespace FloatLayout

/-- The digits with a point after the first `before` of them. -/
def plain (digits : Text) (before : Int) : Text :=
  if before ≤ 0 then
    text "0." ++ List.replicate (-before).toNat ('0' : CodePoint) ++ digits
  else if digits.length ≤ before.toNat then
    digits ++ List.replicate (before.toNat - digits.length) ('0' : CodePoint) ++ text ".0"
  else digits.take before.toNat ++ text "." ++ digits.drop before.toNat

/-- The digits with a point after the first and a decimal exponent. -/
def scientific (l : FloatLayout) (digits : Text) (exponent : Int) : Text :=
  let fraction := if digits.length ≤ 1 then [] else text "." ++ digits.drop 1
  digits.take 1 ++ fraction ++ text (if exponent < 0 then "e-" else "e+") ++
    Text.padZeros l.exponentWidth (Text.ofNat exponent.natAbs)

/-- The text of a decimal in this layout. -/
def write (l : FloatLayout) (d : Decimal) : Text :=
  let digits := Text.ofNat d.digits
  let before : Int := digits.length + d.exponent
  if d.digits = 0 then text "0.0"
  else if l.leastPlain ≤ before - 1 ∧ before - 1 < l.leastScientific then plain digits before
  else l.scientific digits (before - 1)

end FloatLayout

namespace Binary64

/-- A minus sign before a negative number. -/
def signed (negative : Bool) (t : Text) : Text :=
  if negative then ('-' : CodePoint) :: t else t

/-- The fewest digits that read back; NaN and the infinities by their names. -/
def display (notANumber infinity : Text) : Binary64 → Text
  | nan => notANumber
  | infinite negative => signed negative infinity
  | finite negative m q => signed negative (FloatLayout.standard.write (Decimal.shortest m q))

/-- The number with exactly `places` digits after the point, rounded from its
exact value, a tie going to the even digit. -/
def fixed (places : Nat) : Binary64 → Text
  | nan => text "nan"
  | infinite negative => signed negative (text "inf")
  | finite negative m q =>
    let unit := Nat.pow 10 places
    let scaled := roundDiv (numerator m q * unit) (denominator q)
    signed negative (Text.ofNat (scaled / unit) ++ text "." ++
      Text.padZeros places (Text.ofNat (scaled % unit)))

/-- The exact digits of a number that is an integer, the fewest digits that
read back for any other. -/
def count (x : Binary64) : Text :=
  match x.toInt? with
  | some n => Text.ofInt n
  | none => x.display (text "nan") (text "inf")

end Binary64

end AgentWorkshop
