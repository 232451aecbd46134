import TableauSimplex.Number.Decimal
import TableauSimplex.Number.Quantity
import TableauSimplex.Number.Rounding

/-!
# Short texts of a quantity

A cell shows a quantity to two places, a half going to the even neighbour, without superfluous
zeros and without a negative zero.  A residual shows six significant digits.
-/

set_option autoImplicit false

namespace TableauSimplex.Quantity

def infinityText (negative : Bool) : String :=
  if negative then "-inf" else "inf"

/-- The digits of a number of hundredths, without zeros at the end of the fraction. -/
def hundredthsChars (hundredths : Nat) : List Char :=
  let whole := Decimal.digitChars (hundredths / 100)
  let fraction := hundredths % 100
  if fraction = 0 then whole
  else if fraction % 10 = 0 then whole ++ '.' :: Decimal.digitChars (fraction / 10)
  else whole ++ '.' :: (Decimal.digitChars (fraction / 10) ++ Decimal.digitChars (fraction % 10))

def cell : Quantity → String
  | .notANumber => "nan"
  | .infinite negative => infinityText negative
  | .finite negative numerator denominator =>
      let hundredths := divideHalfEven (100 * numerator) denominator
      let digits := hundredthsChars hundredths
      String.ofList (if negative ∧ hundredths ≠ 0 then '-' :: digits else digits)

/-- Whole numbers below a million are written without an exponent. -/
def residualLayout : DecimalLayout :=
  { positionalBelow := 6, keepsFraction := false }

def residual : Quantity → String
  | .notANumber => "nan"
  | .infinite negative => infinityText negative
  | .finite negative numerator denominator =>
      let rounded : Decimal :=
        if numerator = 0 then { negative, digits := 0, exponent := 0 }
        else
          let power := leadingExponent numerator denominator - 5
          { negative
            digits := divideHalfEven (numerator * powerOfTen (-power).toNat)
              (denominator * powerOfTen power.toNat)
            exponent := power }
      residualLayout.write rounded

end TableauSimplex.Quantity
