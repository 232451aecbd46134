import TableauSimplex.Language.Scan
import TableauSimplex.Scalar
import TableauSimplex.Text.Blank
import TableauSimplex.Text.Digit
import TableauSimplex.Text.Quoted
import TableauSimplex.Text.Word

/-!
# Linear expressions

A term is an optional sign, an optional numeral and a name.  An expression is scanned for terms;
what lies between them is scanned again for numbers, which add up to the constant.  Stars are
left out before.
-/

set_option autoImplicit false

namespace TableauSimplex.Language

/-- A sum of multiples of named variables, in the order of the names, and a constant. -/
structure LinearForm (α : Type) where
  terms : List (String × α)
  constant : α
  deriving DecidableEq, Repr

/-- The sign at the front of a text, if there is one, and the rest. -/
def takeSign : List Char → List Char × List Char
  | '+' :: rest => (['+'], rest)
  | '-' :: rest => (['-'], rest)
  | rest => ([], rest)

/-- The point at the front of a text, if there is one, and the rest. -/
def takePoint : List Char → List Char × List Char
  | '.' :: rest => (['.'], rest)
  | rest => ([], rest)

theorem takeSign_length (input : List Char) : (takeSign input).2.length ≤ input.length := by
  unfold takeSign
  split <;> simp

theorem takePoint_length (input : List Char) : (takePoint input).2.length ≤ input.length := by
  unfold takePoint
  split <;> simp

theorem length_dropWhile_le (p : Char → Bool) (input : List Char) :
    (input.dropWhile p).length ≤ input.length :=
  (List.dropWhile_suffix p).length_le

/-- A term as written: the text of its coefficient, and its name. -/
structure TermText where
  coefficient : List Char
  name : List Char
  deriving DecidableEq, Repr

/-- The text of a coefficient at the front: a sign, blanks, digits, a point and digits, all of
which may be missing. -/
def takeCoefficient (input : List Char) : List Char × List Char :=
  let (sign, afterSign) := takeSign input
  let afterBlanks := afterSign.dropWhile Text.isBlank
  let afterWhole := afterBlanks.dropWhile Text.isDigit
  let (point, afterPoint) := takePoint afterWhole
  (sign ++ afterSign.takeWhile Text.isBlank ++ afterBlanks.takeWhile Text.isDigit ++ point
      ++ afterPoint.takeWhile Text.isDigit,
    afterPoint.dropWhile Text.isDigit)

theorem takeCoefficient_length (input : List Char) :
    (takeCoefficient input).2.length ≤ input.length := by
  have signBound := takeSign_length input
  have blankBound := length_dropWhile_le Text.isBlank (takeSign input).2
  have wholeBound := length_dropWhile_le Text.isDigit
    ((takeSign input).2.dropWhile Text.isBlank)
  have pointBound := takePoint_length
    (((takeSign input).2.dropWhile Text.isBlank).dropWhile Text.isDigit)
  have fractionBound := length_dropWhile_le Text.isDigit
    (takePoint (((takeSign input).2.dropWhile Text.isBlank).dropWhile Text.isDigit)).2
  simp only [takeCoefficient]
  omega

/-- A name at the front of a text: a letter or underscore and the word characters after it. -/
def takeName? : List Char → Option (List Char × List Char)
  | [] => none
  | c :: rest =>
      if Text.isNameStart c then some (c :: rest.takeWhile Text.isWord, rest.dropWhile Text.isWord)
      else none

theorem takeName?_length {input name rest : List Char}
    (success : takeName? input = some (name, rest)) : rest.length < input.length := by
  cases input with
  | nil => simp [takeName?] at success
  | cons c tail =>
      simp only [takeName?] at success
      split at success
      · have equation := (Prod.mk.inj (Option.some.inj success)).2
        have bound := length_dropWhile_le Text.isWord tail
        simp only [List.length_cons, ← equation]
        omega
      · simp at success

def takeTerm? (input : List Char) : Option (TermText × List Char) :=
  let (coefficient, afterCoefficient) := takeCoefficient input
  (takeName? (afterCoefficient.dropWhile Text.isBlank)).map fun (name, rest) =>
    ({ coefficient, name }, rest)

def term : Recogniser TermText where
  read := takeTerm?
  shortens := by
    intro input value rest success
    simp only [takeTerm?, Option.map_eq_some_iff, Prod.mk.injEq] at success
    obtain ⟨⟨name, after⟩, found, _, equation⟩ := success
    have nameBound := takeName?_length found
    have blankBound := length_dropWhile_le Text.isBlank (takeCoefficient input).2
    have coefficientBound := takeCoefficient_length input
    have ending : after = rest := equation
    rw [← ending]
    omega

def takeFraction : List Char → List Char × List Char
  | '.' :: rest =>
      match rest.takeWhile Text.isDigit with
      | [] => ([], '.' :: rest)
      | digits => ('.' :: digits, rest.dropWhile Text.isDigit)
  | rest => ([], rest)

theorem takeFraction_length (input : List Char) :
    (takeFraction input).2.length ≤ input.length := by
  unfold takeFraction
  split
  · next rest =>
      have bound := length_dropWhile_le Text.isDigit rest
      split
      · exact Nat.le_refl _
      · simp only [List.length_cons]
        omega
  · exact Nat.le_refl _

/-- A number at the front of a text: a sign, blanks, digits, and perhaps a fraction. -/
def takeNumber? (input : List Char) : Option (List Char × List Char) :=
  let (sign, afterSign) := takeSign input
  match afterSign.dropWhile Text.isBlank with
  | [] => none
  | c :: rest =>
      if Text.isDigit c then
        let (fraction, afterFraction) := takeFraction (rest.dropWhile Text.isDigit)
        some
          (sign ++ afterSign.takeWhile Text.isBlank ++ c :: rest.takeWhile Text.isDigit
            ++ fraction, afterFraction)
      else none

def number : Recogniser (List Char) where
  read := takeNumber?
  shortens := by
    intro input value rest success
    have signBound := takeSign_length input
    have blankBound := length_dropWhile_le Text.isBlank (takeSign input).2
    simp only [takeNumber?] at success
    split at success
    · simp at success
    · next c tail shape =>
        split at success
        · have equation := (Prod.mk.inj (Option.some.inj success)).2
          have digitBound := length_dropWhile_le Text.isDigit tail
          have fractionBound := takeFraction_length (tail.dropWhile Text.isDigit)
          rw [shape, List.length_cons] at blankBound
          rw [← equation]
          omega
        · simp at success

structure NumberError where
  text : String
  deriving DecidableEq, Repr

def NumberError.message (error : NumberError) : String :=
  "could not convert string to float: " ++ Text.quoted error.text

section Reading

variable {α : Type} [Scalar α]

/-- The number a text stands for, in digits of any script. -/
def number? (text : List Char) : Option α :=
  (Numeral.read? Text.digit? Text.isNumeralMargin text).bind Scalar.ofNumeral?

/-- The number a text stands for once its spaces are left out. -/
def readNumber (text : List Char) : Except NumberError α :=
  let joined := text.filter (· != ' ')
  match number? joined with
  | some value => .ok value
  | none => .error { text := String.ofList joined }

/-- The value of a coefficient; a bare sign stands for one. -/
def readCoefficient (text : List Char) : Except NumberError α :=
  match text.filter (· != ' ') with
  | [] => .ok 1
  | ['+'] => .ok 1
  | ['-'] => .ok (-1)
  | _ => readNumber text

/-- Adds a coefficient to that of a name; a new name starts from zero and comes last. -/
def addTerm (name : String) (coefficient : α) : List (String × α) → List (String × α)
  | [] => [(name, 0 + coefficient)]
  | entry :: rest =>
      if entry.1 = name then (name, entry.2 + coefficient) :: rest
      else entry :: addTerm name coefficient rest

def sumTerms : List TermText → List (String × α) → Except NumberError (List (String × α))
  | [], sums => .ok sums
  | item :: rest, sums => do
      let coefficient ← readCoefficient item.coefficient
      sumTerms rest (addTerm (String.ofList item.name) coefficient sums)

def sumNumbers : List (List Char) → α → Except NumberError α
  | [], sum => .ok sum
  | text :: rest, sum => do
      let value ← readNumber text
      sumNumbers rest (sum + value)

/-- A coefficient that is not negligible. -/
def isRelevant (entry : String × α) : Bool :=
  decide (Scalar.tenth 12 < Scalar.magnitude entry.2)

def readExpression (text : List Char) : Except NumberError (LinearForm α) := do
  let pieces := scan term (text.filter (· != '*'))
  let sums ← sumTerms (findings pieces) []
  let constant ← sumNumbers (findings (scan number (blanked pieces))) 0
  return { terms := sums.filter isRelevant, constant }

end Reading

end TableauSimplex.Language
