import TableauSimplex.Number.Decimal
import TableauSimplex.Number.Quantity
import TableauSimplex.Number.Rounding

/-!
# The shortest decimal that reads back

Every double owns the interval of numbers that round to it.  For one, two, … seventeen digits the
two neighbours of the value on that decimal grid are tested against the interval; the first grid
with a hit wins, and of two hits the nearer one.
-/

set_option autoImplicit false

namespace TableauSimplex.Double

/-- The rounding interval of a double in a unit of its own: `low`, `value` and `high` count that
unit, and `grid` of them make one step of the decimal grid under test. -/
structure Interval where
  low : Nat
  value : Nat
  high : Nat
  grid : Nat
  closed : Bool

/-- The interval against the grid of multiples of `10 ^ power`.  Four times the mantissa makes the
halfway points whole. -/
def interval (double : Double) (power : Int) : Interval :=
  let scale := powerOfTwo (double.exponent - 2).toNat * powerOfTen (-power).toNat
  let centre := 4 * double.mantissa
  { low := (if double.atBoundary then centre - 1 else centre - 2) * scale
    value := centre * scale
    high := (centre + 2) * scale
    grid := powerOfTwo (2 - double.exponent).toNat * powerOfTen power.toNat
    closed := double.mantissa % 2 = 0 }

namespace Interval

def contains (interval : Interval) (multiple : Nat) : Bool :=
  let point := multiple * interval.grid
  if interval.closed then interval.low ≤ point ∧ point ≤ interval.high
  else interval.low < point ∧ point < interval.high

def nearest? (interval : Interval) : Option Nat :=
  let below := interval.value / interval.grid
  let above := below + 1
  match interval.contains below, interval.contains above with
  | false, false => none
  | true, false => some below
  | false, true => some above
  | true, true =>
      some (divideHalfEven interval.value interval.grid)

end Interval

def shortest (double : Double) : Decimal :=
  if double.mantissa = 0 then { negative := double.negative, digits := 0, exponent := 0 }
  else
    let leading := leadingExponent (double.mantissa * powerOfTwo double.exponent.toNat)
      (powerOfTwo (-double.exponent).toNat)
    let attempt (count : Nat) : Option Decimal :=
      let power := leading - count
      (double.interval power).nearest?.map fun digits =>
        { negative := double.negative, digits, exponent := power }
    ((List.range 17).findSome? attempt).getD
      { negative := double.negative, digits := double.mantissa, exponent := 0 }

end TableauSimplex.Double
