import TableauSimplex.Number.Decimal
import TableauSimplex.Text.Margin

/-!
# Reading numerals

A numeral is an optional sign, digits with an optional point and an optional exponent, or one of
the words for infinity and for no number.  A single underscore may stand between two digits.
The class of digits is a parameter, because one reader takes ASCII digits only and another takes
the decimal digits of every script.
-/

set_option autoImplicit false

namespace TableauSimplex

inductive Numeral where
  | decimal (value : Decimal)
  | infinite (negative : Bool)
  | notANumber
  deriving DecidableEq, Repr

namespace Numeral

def asciiDigit? (c : Char) : Option Nat :=
  if '0' ≤ c ∧ c ≤ '9' then some (c.toNat - '0'.toNat) else none

/-- The digits at the front, and what follows them.  `inside` says that a digit has been read, so
an underscore with a digit behind it is passed over. -/
def takeDigits (digit? : Char → Option Nat) (inside : Bool) :
    List Char → List Nat × List Char
  | [] => ([], [])
  | '_' :: rest =>
      match inside, rest with
      | true, next :: _ =>
          match digit? next with
          | some _ => takeDigits digit? false rest
          | none => ([], '_' :: rest)
      | _, _ => ([], '_' :: rest)
  | c :: rest =>
      match digit? c with
      | some value =>
          let more := takeDigits digit? true rest
          (value :: more.1, more.2)
      | none => ([], c :: rest)

def ofDigits (digits : List Nat) : Nat :=
  digits.foldl (fun number digit => 10 * number + digit) 0

def takeSign : List Char → Bool × List Char
  | '+' :: rest => (false, rest)
  | '-' :: rest => (true, rest)
  | rest => (false, rest)

/-- An exponent that fills the rest of the text; no text stands for zero. -/
def exponent? (digit? : Char → Option Nat) : List Char → Option Int
  | [] => some 0
  | c :: rest =>
      if c = 'e' ∨ c = 'E' then
        let (negative, unsigned) := takeSign rest
        match takeDigits digit? false unsigned with
        | (first :: more, []) =>
            let size : Int := ofDigits (first :: more)
            some (if negative then -size else size)
        | _ => none
      else none

/-- Digits with at most one point, at least one digit, and an exponent. -/
def unsigned? (digit? : Char → Option Nat) (negative : Bool) (text : List Char) :
    Option Decimal :=
  let (whole, afterWhole) := takeDigits digit? false text
  let (fraction, afterFraction) :=
    match afterWhole with
    | '.' :: rest => takeDigits digit? false rest
    | rest => ([], rest)
  match whole ++ fraction with
  | [] => none
  | digits =>
      (exponent? digit? afterFraction).map fun exponent =>
        { negative, digits := ofDigits digits, exponent := exponent - fraction.length }

/-- Reads a whole text as a numeral; characters of the class `isMargin` may surround it. -/
def read? (digit? : Char → Option Nat) (isMargin : Char → Bool) (text : List Char) :
    Option Numeral :=
  let (negative, unsigned) := takeSign (Text.stripBoth isMargin text)
  let word := String.ofList (unsigned.map Char.toLower)
  if word = "inf" ∨ word = "infinity" then some (.infinite negative)
  else if word = "nan" then some .notANumber
  else (unsigned? digit? negative unsigned).map .decimal

end Numeral

end TableauSimplex
