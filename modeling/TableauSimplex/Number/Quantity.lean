import TableauSimplex.Number.Power

/-!
# The exact value of a machine number

A quantity is what a floating-point number stands for: no number, an infinity, or a signed
fraction.  `Quantity.ofBits` decodes the sixty-four bits of a double; all later formatting works
on the fraction in exact natural-number arithmetic.
-/

set_option autoImplicit false

namespace TableauSimplex

/-- A signed fraction, an infinity, or no number.  Zero has a sign. -/
inductive Quantity where
  | notANumber
  | infinite (negative : Bool)
  | finite (negative : Bool) (numerator denominator : Nat)
  deriving DecidableEq, Repr

/-- A finite double of the form `± mantissa · 2 ^ exponent`.  `atBoundary` marks a mantissa whose
lower neighbour is half as far away as its upper one. -/
structure Double where
  negative : Bool
  mantissa : Nat
  exponent : Int
  atBoundary : Bool
  deriving DecidableEq, Repr

inductive DoubleClass where
  | notANumber
  | infinite (negative : Bool)
  | finite (value : Double)
  deriving DecidableEq, Repr

namespace DoubleClass

def ofBits (bits : Nat) : DoubleClass :=
  let negative := bits / powerOfTwo 63 % 2 == 1
  let biased : Nat := bits / powerOfTwo 52 % powerOfTwo 11
  let fraction : Nat := bits % powerOfTwo 52
  if biased = 2047 then
    if fraction = 0 then .infinite negative else .notANumber
  else if biased = 0 then
    .finite { negative, mantissa := fraction, exponent := -1074, atBoundary := false }
  else
    .finite
      { negative
        mantissa := powerOfTwo 52 + fraction
        exponent := (biased : Int) - 1075
        atBoundary := fraction = 0 ∧ biased ≠ 1 }

end DoubleClass

def Quantity.ofDouble : DoubleClass → Quantity
  | .notANumber => .notANumber
  | .infinite negative => .infinite negative
  | .finite value =>
      .finite value.negative (value.mantissa * powerOfTwo value.exponent.toNat)
        (powerOfTwo (-value.exponent).toNat)

end TableauSimplex
