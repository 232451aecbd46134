import TableauSimplex.Proofs.Language.Term

/-!
# Strays in an expression

The reader of expressions collects what its recognisers find and does not look at what is left over.
A character that neither recogniser can take separates what stands before it from what stands
behind it, and has no meaning of its own.
-/

set_option autoImplicit false

namespace TableauSimplex

open TableauSimplex.Text

namespace Text

section Runs

variable {inside : Char → Bool} {c : Char} (outside : inside c = false)

include outside

theorem takeWhile_append_cons (front back : List Char) :
    (front ++ c :: back).takeWhile inside = front.takeWhile inside := by
  induction front with
  | nil => simp [outside]
  | cons d front induction =>
      rw [List.cons_append, List.takeWhile_cons, List.takeWhile_cons, induction]

theorem dropWhile_append_cons (front back : List Char) :
    (front ++ c :: back).dropWhile inside = front.dropWhile inside ++ c :: back := by
  induction front with
  | nil => simp [outside]
  | cons d front induction =>
      rw [List.cons_append, List.dropWhile_cons, List.dropWhile_cons, induction]
      split <;> rfl

end Runs

end Text

namespace Language

/-! ## What is found -/

/-- The terms and the numbers that an expression is read as the sum of. -/
structure Found where
  terms : List TermText
  numbers : List (List Char)
  deriving DecidableEq

namespace Found

instance : Append Found where
  append first second :=
    { terms := first.terms ++ second.terms, numbers := first.numbers ++ second.numbers }

section Reading

variable {α : Type} [Scalar α]

def read (found : Found) : Except NumberError (LinearForm α) := do
  let sums ← sumTerms found.terms []
  let constant ← sumNumbers found.numbers 0
  return { terms := sums.filter isRelevant, constant }

end Reading

end Found

def found (text : List Char) : Found :=
  let pieces := scan term (text.filter (· != '*'))
  { terms := findings pieces, numbers := findings (scan number (blanked pieces)) }

/-- The meaning of an expression is the sum of what is found in it. -/
theorem readExpression_eq_read {α : Type} [Scalar α] (text : List Char) :
    readExpression (α := α) text = (found text).read :=
  rfl

/-! ## Recognisers that stop -/

/-- A recogniser stops at a character if what it reads in front of it does not depend on what stands
behind it. -/
def Recogniser.StopsAt {β : Type} (recogniser : Recogniser β) (c : Char) : Prop :=
  ∀ front back, recogniser.read (front ++ c :: back) =
    (recogniser.read front).map fun (value, rest) => (value, rest ++ c :: back)

section Scan

variable {β : Type}

theorem findings_append (first second : List (Piece β)) :
    findings (first ++ second) = findings first ++ findings second :=
  List.filterMap_append

theorem blanked_append (first second : List (Piece β)) :
    blanked (first ++ second) = blanked first ++ blanked second :=
  List.flatMap_append

/-- What stands behind a character at which the recogniser stops is scanned on its own. -/
theorem scan_append_cons {recogniser : Recogniser β} {c : Char} (stops : recogniser.StopsAt c)
    (front back : List Char) :
    scan recogniser (front ++ c :: back) =
      scan recogniser front ++ .plain c :: scan recogniser back := by
  induction front using scan.induct recogniser with
  | case1 =>
      have nothing : recogniser.read [] = none := by
        cases success : recogniser.read [] with
        | none => rfl
        | some read => exact absurd (recogniser.shortens _ _ _ success) (Nat.not_lt_zero _)
      have fails : recogniser.read (c :: back) = none := by
        rw [← List.nil_append (c :: back), stops, nothing]
        rfl
      rw [List.nil_append, scan_of_none fails, scan, List.nil_append]
  | case2 d tail value rest success _ induction =>
      have found : recogniser.read (d :: tail ++ c :: back) = some (value, rest ++ c :: back) := by
        rw [stops, success]
        rfl
      have taken : (d :: tail ++ c :: back).length - (rest ++ c :: back).length =
          (d :: tail).length - rest.length := by
        rw [List.length_append, List.length_append, Nat.add_sub_add_right]
      rw [scan_of_some found, scan_of_some success, induction, taken, List.cons_append]
  | case3 d tail fails induction =>
      have missed : recogniser.read (d :: (tail ++ c :: back)) = none := by
        rw [← List.cons_append, stops, fails]
        rfl
      rw [List.cons_append, scan_of_none missed, scan_of_none fails, induction, List.cons_append]

end Scan

/-! ## Characters that no recogniser takes -/

/-- A character that is no part of any number, name or sign, no blank and no star. -/
structure Stray (c : Char) : Prop where
  blank : isBlank c = false
  word : isWord c = false
  plus : c ≠ '+'
  minus : c ≠ '-'
  point : c ≠ '.'
  star : c ≠ '*'

namespace Stray

variable {c : Char} (stray : Stray c)

include stray

theorem digit : isDigit c = false := by
  by_contra digit
  rw [Bool.not_eq_false] at digit
  have word := stray.word
  rw [isWord_of_isDigit digit] at word
  cases word

theorem nameStart : isNameStart c = false := by
  by_contra start
  rw [Bool.not_eq_false] at start
  have word := stray.word
  rw [isWord_of_identifier (identifier_of_isNameStart start)] at word
  cases word

theorem takeSign (front back : List Char) :
    takeSign (front ++ c :: back) =
      ((Language.takeSign front).1, (Language.takeSign front).2 ++ c :: back) := by
  cases front with
  | nil =>
      exact takeSign.eq_3 _ (by simpa using stray.plus) (by simpa using stray.minus)
  | cons d front =>
      by_cases plus : d = '+'
      · rw [plus]
        rfl
      · by_cases minus : d = '-'
        · rw [minus]
          rfl
        · rw [List.cons_append, takeSign.eq_3 _ (by simpa using plus) (by simpa using minus),
            takeSign.eq_3 _ (by simpa using plus) (by simpa using minus)]
          rfl

theorem takePoint (front back : List Char) :
    takePoint (front ++ c :: back) =
      ((Language.takePoint front).1, (Language.takePoint front).2 ++ c :: back) := by
  cases front with
  | nil => exact takePoint.eq_2 _ (by simpa using stray.point)
  | cons d front =>
      by_cases point : d = '.'
      · rw [point]
        rfl
      · rw [List.cons_append, takePoint.eq_2 _ (by simpa using point),
          takePoint.eq_2 _ (by simpa using point)]
        rfl

theorem takeCoefficient (front back : List Char) :
    takeCoefficient (front ++ c :: back) =
      ((Language.takeCoefficient front).1, (Language.takeCoefficient front).2 ++ c :: back) := by
  simp only [Language.takeCoefficient, stray.takeSign, stray.takePoint,
    takeWhile_append_cons stray.blank, dropWhile_append_cons stray.blank,
    takeWhile_append_cons stray.digit, dropWhile_append_cons stray.digit]

theorem takeName? (front back : List Char) :
    takeName? (front ++ c :: back) =
      (Language.takeName? front).map fun (name, rest) => (name, rest ++ c :: back) := by
  cases front with
  | nil => simp [Language.takeName?, stray.nameStart]
  | cons d front =>
      simp only [Language.takeName?, List.cons_append, takeWhile_append_cons stray.word,
        dropWhile_append_cons stray.word]
      split <;> rfl

theorem stops_term : term.StopsAt c := by
  intro front back
  simp only [term, takeTerm?, stray.takeCoefficient, dropWhile_append_cons stray.blank,
    stray.takeName?, Option.map_map]
  rfl

theorem takeFraction (front back : List Char) :
    takeFraction (front ++ c :: back) =
      ((Language.takeFraction front).1, (Language.takeFraction front).2 ++ c :: back) := by
  cases front with
  | nil => exact takeFraction.eq_2 _ (by simpa using stray.point)
  | cons d front =>
      by_cases point : d = '.'
      · rw [point]
        simp only [Language.takeFraction, List.cons_append, takeWhile_append_cons stray.digit,
          dropWhile_append_cons stray.digit]
        split <;> rfl
      · rw [List.cons_append, takeFraction.eq_2 _ (by simpa using point),
          takeFraction.eq_2 _ (by simpa using point)]
        rfl

theorem stops_number : number.StopsAt c := by
  intro front back
  simp only [number, takeNumber?, stray.takeSign, takeWhile_append_cons stray.blank,
    dropWhile_append_cons stray.blank]
  cases (Language.takeSign front).2.dropWhile isBlank with
  | nil => simp [stray.digit]
  | cons d rest =>
      simp only [List.cons_append, takeWhile_append_cons stray.digit,
        dropWhile_append_cons stray.digit, stray.takeFraction]
      split <;> rfl

/-- A stray character separates, and has no meaning of its own. -/
theorem found_append_cons (front back : List Char) :
    found (front ++ c :: back) = found front ++ found back := by
  have kept : (front ++ c :: back).filter (· != '*') =
      front.filter (· != '*') ++ c :: back.filter (· != '*') := by
    simp [stray.star]
  have plain (before after : List (Piece TermText)) :
      blanked (before ++ .plain c :: after) = blanked before ++ c :: blanked after :=
    blanked_append before (.plain c :: after)
  unfold found
  simp only [kept, scan_append_cons stray.stops_term, plain,
    scan_append_cons stray.stops_number, findings_append]
  rfl

end Stray

/-- A star is passed over. -/
theorem found_star (front back : List Char) :
    found (front ++ '*' :: back) = found (front ++ back) := by
  simp [found]

end Language

end TableauSimplex
