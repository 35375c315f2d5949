import AgentWorkshop.Number.Binary64

/-!
# The shortest decimal that reads back

Among the decimals that round to a given double, `Decimal.shortest` takes one
with the fewest digits, and of those the nearest. For a given number of digits
only the two neighbours of the double on that decimal grid need a test: if any
point of the grid lies in the interval, so does one of them.
-/

namespace AgentWorkshop

/-- The number `digits * 10 ^ exponent`. -/
structure Decimal where
  digits : Nat
  exponent : Int
  deriving DecidableEq, Repr

namespace Decimal

/-- How many decimal digits a number has; `0` has one. -/
def width (n : Nat) : Nat :=
  (Nat.toDigits 10 n).length

/-- Moves the zeros at the end of the digits into the exponent. -/
def trimZeros : (fuel : Nat) → Decimal → Decimal
  | 0, d => d
  | fuel + 1, d =>
    if d.digits % 10 = 0 ∧ d.digits ≠ 0 then
      trimZeros fuel { digits := d.digits / 10, exponent := d.exponent + 1 }
    else d

/-- The least `p` with `num / den < 10 ^ p`, for positive `num` and `den`. -/
def magnitude (num den : Nat) : Int :=
  if den ≤ num then width (num / den) else 1 - width ((den - 1) / num)

/-- The decimals that round to a double, all numbers in units of a quarter of
its last place: from `low` to `high` around `mid`, ends included if `closed`. -/
structure Interval where
  low : Nat
  mid : Nat
  high : Nat
  closed : Bool
  /-- Numerator of the unit. -/
  num : Nat
  /-- Denominator of the unit. -/
  den : Nat

/-- The interval of a positive double. The number below a power of two is
nearer than the one above it, unless the power is the least exponent's. -/
def Interval.of (m : Nat) (q : Int) : Interval where
  low := 4 * m - if m = Nat.pow 2 52 ∧ Binary64.leastExponent < q then 1 else 2
  mid := 4 * m
  high := 4 * m + 2
  closed := m % 2 = 0
  num := Nat.pow 2 (q - 2).toNat
  den := Nat.pow 2 (2 - q).toNat

/-- The multiples of `10 ^ exponent` that the interval holds, among the two
next to its middle; of two the nearer, the even one on a tie. -/
def Interval.onGrid? (i : Interval) (exponent : Int) : Option Decimal :=
  let ten := Nat.pow 10 exponent.toNat * i.den
  let unit := i.num * Nat.pow 10 (-exponent).toNat
  let holds (c : Nat) : Bool :=
    if i.closed then decide (i.low * unit ≤ c * ten) && decide (c * ten ≤ i.high * unit)
    else decide (i.low * unit < c * ten) && decide (c * ten < i.high * unit)
  let below := i.mid * unit / ten
  let nearest := roundDiv (i.mid * unit) ten
  let other := if nearest = below then below + 1 else below
  if holds nearest then some { digits := nearest, exponent }
  else if holds other then some { digits := other, exponent }
  else none

/-- The first grid with a point in the interval, from the given number of
digits on. -/
def Interval.search (i : Interval) (magnitude : Int) : (steps digits : Nat) → Decimal
  | 0, digits => { digits := i.mid, exponent := magnitude - digits }
  | steps + 1, digits =>
    (i.onGrid? (magnitude - digits)).getD (i.search magnitude steps (digits + 1))

/-- The shortest decimal that rounds to `m * 2 ^ q`, nearest among the shortest.
Seventeen digits always suffice. -/
def shortest (m : Nat) (q : Int) : Decimal :=
  if m = 0 then { digits := 0, exponent := 0 }
  else
    let p := magnitude (Binary64.numerator m q) (Binary64.denominator q)
    trimZeros 20 ((Interval.of m q).search p 17 1)

end Decimal

end AgentWorkshop
