import TableauSimplex.Number.Numeral
import TableauSimplex.Schema.Issue
import TableauSimplex.Text.Blank

/-!
# Numbers written as texts

A text may stand for a number in a document.  A text for a machine number is a numeral in ASCII
digits.  A text for a whole number is brought into the plain form first: blanks around it, a plus,
zeros in front and a fraction of zeros are left out.  Zeros behind a minus stay, which changes
nothing.  In both, underscores may separate any two other characters.
-/

set_option autoImplicit false

namespace TableauSimplex.Schema

def hasDoubleUnderscore : List Char → Bool
  | first :: second :: rest =>
      (first == '_' && second == '_') || hasDoubleUnderscore (second :: rest)
  | _ => false

/-- A text without its underscores, none of which may stand at an end or beside another. -/
def withoutUnderscores? (text : List Char) : Option (List Char) :=
  if text.head? = some '_' ∨ text.getLast? = some '_' ∨ hasDoubleUnderscore text then none
  else some (text.filter (· != '_'))

/-- The numeral written by a text.  Blanks may surround it only if it has no underscores. -/
def numeralOfText? (text : String) : Option Numeral :=
  let chars := text.toList
  let isMargin := if chars.contains '_' then fun _ => false else Text.isNumeralMargin
  (withoutUnderscores? chars).bind (Numeral.read? Numeral.asciiDigit? isMargin)

/-! ## Whole numbers -/

def isNonzeroDigit (c : Char) : Bool :=
  c.isDigit && c != '0'

def withoutPlus? : List Char → Option (List Char)
  | '+' :: '-' :: _ => none
  | '+' :: rest => some rest
  | text => some text

/-- A text behind a zero: further zeros and underscores are passed over up to the first digit of
another kind or a minus.  One character stays in front of a point or at the end. -/
def afterZero? (passed : Char) : List Char → Option (List Char)
  | [] => some [passed]
  | c :: rest =>
      if c = '0' ∨ c = '_' then afterZero? c rest
      else if c = '.' then some (passed :: c :: rest)
      else if c = '-' ∨ isNonzeroDigit c then some (c :: rest)
      else none

/-- A text that starts with a minus or a digit, without superfluous zeros at its front. -/
def withoutZeros? : List Char → Option (List Char)
  | [] => none
  | c :: rest =>
      if c = '0' then afterZero? c rest
      else if c = '-' ∨ isNonzeroDigit c then some (c :: rest)
      else none

/-- A text without the point and the zeros behind it, of which there has to be one. -/
def withoutZeroFraction (text : List Char) : List Char :=
  match text.dropWhile (· != '.') with
  | '.' :: zero :: more =>
      if (zero :: more).all (· == '0') then text.takeWhile (· != '.') else text
  | _ => text

def plainForm? (text : List Char) : Option (List Char) := do
  let unsigned ← withoutPlus? (Text.stripBoth Text.isNumeralMargin text)
  let trimmed ← withoutZeros? unsigned
  let whole := withoutZeroFraction trimmed
  return (withoutUnderscores? whole).getD whole

def plainLimit : Nat := 4300

/-- Reads the plain form: a row of digits behind an optional minus.  Too many characters are
refused before anything behind the digits is looked at. -/
def plainInteger (text : List Char) : Except Complaint Int :=
  let unsigned := if text.head? = some '-' then text.drop 1 else text
  let digits := unsigned.takeWhile Char.isDigit
  let sign := text.length - unsigned.length
  if plainLimit < sign + digits.length then .error .oversizedInteger
  else if digits.isEmpty ∨ digits.length < unsigned.length then .error .unreadableInteger
  else
    let size : Int := Numeral.ofDigits (digits.filterMap Numeral.asciiDigit?)
    .ok (if sign = 0 then size else -size)

def integerOfText (text : String) : Except Complaint Int :=
  match plainForm? text.toList with
  | some plain => plainInteger plain
  | none => .error .unreadableInteger

end TableauSimplex.Schema
