import TableauSimplex.Number.Numeral
import TableauSimplex.Number.Quantity

/-!
# The arithmetic of the solver

The solver is written once for every type with the four operations, negation and comparisons.
No law is assumed.  Machine numbers are the arithmetic that runs; rational numbers are the exact
one.
-/

set_option autoImplicit false

namespace TableauSimplex

/-- Operations and comparisons of the numbers a tableau holds, together with the reading of a
decimal and the exact value of a number. -/
class Scalar (α : Type) extends
    Add α, Sub α, Mul α, Div α, Neg α, Zero α, One α, LT α, LE α, BEq α where
  decidableLT : DecidableLT α
  decidableLE : DecidableLE α
  ofDecimal : Decimal → α
  infinite? : Bool → Option α
  notANumber? : Option α
  quantity : α → Quantity

namespace Scalar

variable {α : Type} [Scalar α]

instance : DecidableLT α := Scalar.decidableLT

instance : DecidableLE α := Scalar.decidableLE

/-- The distance from zero.  A number that is not below zero is its own, whatever its sign bit. -/
def magnitude (x : α) : α :=
  if x < 0 then -x else x

/-- The number a numeral stands for, where the arithmetic has it. -/
def ofNumeral? : Numeral → Option α
  | .decimal value => some (ofDecimal value)
  | .infinite negative => infinite? negative
  | .notANumber => notANumber?

/-- A power of ten with a negative exponent. -/
def tenth (places : Nat) : α :=
  ofDecimal { negative := false, digits := 1, exponent := -places }

/-- Zero in place of a number closer to it than the tolerance. -/
def snap (tolerance x : α) : α :=
  if magnitude x < tolerance then 0 else x

end Scalar

namespace Float64

/-- The nearest machine number.  Beyond the range of doubles a decimal is infinite or zero, which
is decided before any power of ten is computed. -/
def ofDecimal (value : Decimal) : Float :=
  let leading : Int := (Decimal.digitChars value.digits).length + value.exponent
  let size : Float :=
    if value.digits = 0 ∨ leading < -400 then 0.0
    else if 400 < leading then 1.0 / 0.0
    else Float.ofScientific value.digits (value.exponent < 0) value.exponent.natAbs
  if value.negative then -size else size

def infinite (negative : Bool) : Float :=
  if negative then -(1.0 / 0.0) else 1.0 / 0.0

def ofNumeral : Numeral → Float
  | .decimal value => ofDecimal value
  | .infinite negative => infinite negative
  | .notANumber => 0.0 / 0.0

def quantity (value : Float) : Quantity :=
  .ofDouble (.ofBits value.toBits.toNat)

end Float64

instance : Scalar Float where
  toAdd := instAddFloat
  toSub := instSubFloat
  toMul := instMulFloat
  toDiv := instDivFloat
  toNeg := instNegFloat
  zero := 0.0
  one := 1.0
  toLT := instLTFloat
  toLE := instLEFloat
  toBEq := instBEqFloat
  decidableLT := Float.decLt
  decidableLE := Float.decLe
  ofDecimal := Float64.ofDecimal
  infinite? := fun negative => some (Float64.infinite negative)
  notANumber? := some (Float64.ofNumeral .notANumber)
  quantity := Float64.quantity

namespace Rational

/-- The exact value of a decimal. -/
def ofDecimal (value : Decimal) : Rat :=
  let size : Rat :=
    mkRat (value.digits * powerOfTen value.exponent.toNat) (powerOfTen (-value.exponent).toNat)
  if value.negative then Rat.neg size else size

def quantity (value : Rat) : Quantity :=
  .finite (value.num < 0) value.num.natAbs value.den

end Rational

instance : Scalar Rat where
  toAdd := Rat.instAdd
  toSub := Rat.instSub
  toMul := Rat.instMul
  toDiv := Rat.instDiv
  toNeg := Rat.instNeg
  zero := Rat.ofInt 0
  one := Rat.ofInt 1
  toLT := Rat.instLT
  toLE := Rat.instLE
  beq := fun a b => decide (a = b)
  decidableLT := Rat.instDecidableLt
  decidableLE := Rat.instDecidableLe
  ofDecimal := Rational.ofDecimal
  infinite? := fun _ => none
  notANumber? := none
  quantity := Rational.quantity

end TableauSimplex
