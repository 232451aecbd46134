import TableauSimplex.Number.Power

/-!
# Rounding a quotient

`divideHalfEven` is the natural number nearest to a fraction, and the even one of two that are
equally near.
-/

set_option autoImplicit false

namespace TableauSimplex

def divideHalfEven (numerator denominator : Nat) : Nat :=
  let quotient := numerator / denominator
  let twice := 2 * (numerator % denominator)
  if twice < denominator then quotient
  else if denominator < twice then quotient + 1
  else if quotient % 2 = 0 then quotient
  else quotient + 1

/-- The greatest `e` in the given range with `10 ^ e ≤ numerator / denominator`, searched upwards
from a lower bound. -/
def climbPowerOfTen (numerator denominator : Nat) : Nat → Int → Int
  | 0, exponent => exponent
  | fuel + 1, exponent =>
      let next := exponent + 1
      if powerOfTen next.toNat * denominator ≤ numerator * powerOfTen (-next).toNat then
        climbPowerOfTen numerator denominator fuel next
      else exponent

/-- The exponent of the leading decimal digit of a positive fraction.  The difference of the
binary logarithms, less one, bounds the binary exponent from below; `30103 / 100000` is just
above the decimal logarithm of two. -/
def leadingExponent (numerator denominator : Nat) : Int :=
  let binary : Int := (numerator.log2 : Int) - denominator.log2 - 1
  climbPowerOfTen numerator denominator 4 ((binary * 30103).fdiv 100000 - 1)

end TableauSimplex
