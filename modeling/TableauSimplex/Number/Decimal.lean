/-!
# Signed decimals and their layout

A decimal is a sign, a natural number of units and a power of ten.  `DecimalLayout` lists the
decisions a text of it has to make: which exponents are written out positionally, and whether a
whole number keeps a fraction.
-/

set_option autoImplicit false

namespace TableauSimplex

/-- The number `± digits · 10 ^ exponent`.  The sign is kept also for zero. -/
structure Decimal where
  negative : Bool
  digits : Nat
  exponent : Int
  deriving DecidableEq, Repr

namespace Decimal

/-- The decimal digits of a natural number, most significant first; zero has one digit. -/
def digitChars (number : Nat) : List Char :=
  Nat.toDigits 10 number

/-- Drops the zeros at the end of the digits, moving them into the exponent. -/
def trim (fuel : Nat) (digits : Nat) (exponent : Int) : Nat × Int :=
  match fuel with
  | 0 => (digits, exponent)
  | fuel + 1 =>
      if digits % 10 = 0 ∧ digits ≠ 0 then trim fuel (digits / 10) (exponent + 1)
      else (digits, exponent)

end Decimal

/-- How a decimal is written.  A leading digit of weight `10 ^ e` is written positionally when
`-4 ≤ e < positionalBelow`, and otherwise with an exponent of at least two digits. -/
structure DecimalLayout where
  positionalBelow : Int
  keepsFraction : Bool

namespace DecimalLayout

def exponentChars (exponent : Int) : List Char :=
  let digits := Decimal.digitChars exponent.natAbs
  let padded := if digits.length < 2 then '0' :: digits else digits
  'e' :: (if exponent < 0 then '-' else '+') :: padded

def positional (layout : DecimalLayout) (digits : List Char) (whole : Int) : List Char :=
  if whole ≤ 0 then
    '0' :: '.' :: (List.replicate whole.natAbs '0' ++ digits)
  else if digits.length ≤ whole.toNat then
    digits ++ List.replicate (whole.toNat - digits.length) '0'
      ++ (if layout.keepsFraction then ['.', '0'] else [])
  else
    digits.take whole.toNat ++ '.' :: digits.drop whole.toNat

def scientific (digits : List Char) (exponent : Int) : List Char :=
  match digits with
  | [] => []
  | [first] => first :: exponentChars exponent
  | first :: rest => first :: '.' :: (rest ++ exponentChars exponent)

def write (layout : DecimalLayout) (value : Decimal) : String :=
  let digits := Decimal.digitChars value.digits
  let (units, exponent) := Decimal.trim digits.length value.digits value.exponent
  let shown := Decimal.digitChars units
  let leading : Int := if units = 0 then 0 else shown.length - 1 + exponent
  let body :=
    if -4 ≤ leading ∧ leading < layout.positionalBelow then
      layout.positional shown (leading + 1)
    else scientific shown leading
  String.ofList (if value.negative then '-' :: body else body)

end DecimalLayout

end TableauSimplex
