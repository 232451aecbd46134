import TableauSimplex.Proofs.Language.Summation

/-!
# Digits around a point

In front of a name a number may begin or end with its point.  Standing alone it is read in the same
way as long as a digit stands before the point.  Of a number that begins with its point only the
digits are read: the sign and the point are lost.
-/

set_option autoImplicit false

namespace TableauSimplex

open TableauSimplex.Text TableauSimplex.Language

namespace Grammar

/-- Digits with a point before, between or behind them, or without one. -/
structure PointedFigure where
  whole : List Char
  fraction : Option (List Char)
  whole_digit : ∀ c ∈ whole, isDigit c = true
  fraction_digit : ∀ c ∈ fraction.getD [], isDigit c = true
  digits_ne_nil : whole ++ fraction.getD [] ≠ []

namespace PointedFigure

variable (figure : PointedFigure)

def chars : List Char :=
  figure.whole ++ (figure.fraction.map ('.' :: ·)).getD []

def behindPoint : List Char :=
  figure.fraction.getD []

def coefficient (sign : Option Sign) (gap : Gap) : Coefficient where
  sign
  gap
  whole := figure.whole
  fraction := figure.fraction
  whole_digit := figure.whole_digit
  fraction_digit := figure.fraction_digit

theorem chars_coefficient (sign : Option Sign) (gap : Gap) :
    (figure.coefficient sign gap).chars =
      (sign.map Sign.char).toList ++ (gap.chars ++ figure.chars) := by
  simp only [Coefficient.chars, Coefficient.lead, List.append_assoc]
  rfl

theorem no_star : ∀ c ∈ figure.chars, c ≠ '*' := by
  rintro c member rfl
  have inBody : '*' ∈ (figure.coefficient none noGap).body := member
  exact absurd (Coefficient.mem_body inBody) (by decide)

end PointedFigure

section Values

variable {α : Type} [Scalar α]

/-- The whole number that digits stand for. -/
def digitsValue (digits : List Char) : Nat :=
  Numeral.ofDigits (digits.map fun c => (digit? c).getD 0)

namespace PointedFigure

/-- The number that a figure stands for, with the sign before it. -/
def value (figure : PointedFigure) (sign : Sign) : α :=
  Scalar.ofDecimal
    { negative := sign = .minus
      digits := digitsValue (figure.whole ++ figure.behindPoint)
      exponent := -figure.behindPoint.length }

/-- The number that a figure is read as when no name follows. -/
def readAlone (figure : PointedFigure) (sign : Sign) : α :=
  if figure.whole = [] then
    Scalar.ofDecimal { negative := false, digits := digitsValue figure.behindPoint, exponent := 0 }
  else figure.value sign

variable (figure : PointedFigure) (sign : Sign) (gap : Gap)

theorem value_coefficient :
    (figure.coefficient (some sign) gap).value = (figure.value sign : α) := by
  have nonempty : (figure.coefficient (some sign) gap).digits ≠ [] := figure.digits_ne_nil
  have negative : decide (some sign = some .minus) = decide (sign = .minus) := by simp
  rw [Coefficient.value, if_neg nonempty, value, ← negative]
  rfl

theorem value_constant_coefficient :
    (figure.coefficient (some sign) gap).constant.value = (figure.readAlone sign : α) := by
  unfold readAlone
  split
  · rename_i noWhole
    have digits : figure.behindPoint ≠ [] := by
      simpa [noWhole, behindPoint] using figure.digits_ne_nil
    have constant_digits : (figure.coefficient (some sign) gap).constant.digits =
        figure.behindPoint := by
      simp [Coefficient.constant, Coefficient.digits, coefficient, noWhole, behindPoint]
    rw [Coefficient.value, if_neg (by rw [constant_digits]; exact digits), Coefficient.decimal,
      constant_digits]
    simp only [Coefficient.constant, coefficient, noWhole, if_true]
    rfl
  · rename_i filled
    rw [Coefficient.value_constant filled, figure.value_coefficient]

end PointedFigure

end Values

/-! ## A figure beside a name -/

namespace PointedFigure

variable (figure : PointedFigure) (sign : Sign) (before after gap : Nat)

/-- A figure that is added to `x` or taken from it, with spaces around the sign. -/
def besideX : List Char :=
  'x' :: (spaces before ++ sign.char :: (spaces after ++ figure.chars))

def beforeY : List Char :=
  figure.besideX sign before after ++ (spaces gap ++ ['y'])

def entryX : Entry :=
  (Operand.unit letterX.identifier).entry none noGap

/-- The figure with its sign, as a coefficient. -/
def signed : Coefficient :=
  figure.coefficient (some sign) (.spaces after)

theorem filter_besideX :
    (figure.besideX sign before after).filter (· != '*') =
      entriesText [(noGap, entryX), (.spaces before, .constant (figure.signed sign after))]
        noGap := by
  have noStar : ∀ c ∈ figure.besideX sign before after, c ≠ '*' := by
    have space (count : Nat) : ∀ c ∈ spaces count, c ≠ '*' :=
      forall_of_space forall_mem_spaces (by decide)
    have ofSign : sign.char ≠ '*' := by cases sign <;> decide
    refine List.forall_mem_cons.mpr ⟨by decide, List.forall_mem_append.mpr ⟨space before, ?_⟩⟩
    exact List.forall_mem_cons.mpr
      ⟨ofSign, List.forall_mem_append.mpr ⟨space after, figure.no_star⟩⟩
  rw [filter_star noStar, entriesText_cons, entriesText_cons, entryX, Operand.chars_entry,
    Entry.chars, signed, chars_coefficient]
  simp [besideX, entriesText, noGap, Gap.spaces, Operand.chars, Identifier.chars, Name.identifier,
    letterX]

theorem filter_beforeY :
    (figure.beforeY sign before after gap).filter (· != '*') =
      entriesText
        [(noGap, entryX),
          (.spaces before,
            .named (letterY.identifier.term (figure.signed sign after) (.spaces gap)))] noGap := by
  have noStar : ∀ c ∈ spaces gap ++ ['y'], c ≠ '*' :=
    List.forall_mem_append.mpr
      ⟨forall_of_space forall_mem_spaces (by decide), by simp⟩
  rw [beforeY, List.filter_append, filter_besideX, filter_star noStar]
  simp [entriesText, noGap, Gap.spaces, Entry.chars, Term.chars, Term.name, Identifier.term,
    Name.identifier, letterY]

theorem orderly_pair {second : Entry} (legible : second.Legible) (signed : second.IsSigned) :
    Orderly [(noGap, entryX), (.spaces before, second)] noGap where
  spaced := by
    simp only [List.forall_mem_cons, List.not_mem_nil, false_implies, implies_true, and_true]
    exact ⟨spaced_noGap, Gap.spaced_spaces before⟩
  legible := by
    simp only [List.forall_mem_cons, List.not_mem_nil, false_implies, implies_true, and_true]
    exact ⟨Operand.legible_entry none trivial spaced_noGap, legible⟩
  first := by
    rintro placed head
    cases head
    exact .inr rfl
  signed := by
    simpa using signed
  trail := spaced_noGap

theorem orderly_besideX :
    Orderly [(noGap, entryX), (.spaces before, .constant (figure.signed sign after))] noGap :=
  orderly_pair before ⟨Gap.spaced_spaces after, figure.digits_ne_nil⟩ (Option.some_ne_none sign)

theorem orderly_beforeY :
    Orderly
      [(noGap, entryX),
        (.spaces before, .named (letterY.identifier.term (figure.signed sign after) (.spaces gap)))]
      noGap := by
  refine orderly_pair before ⟨Gap.spaced_spaces after, Gap.spaced_spaces gap, ?_, ?_⟩
    (Option.some_ne_none sign)
  · exact fun bare => figure.digits_ne_nil bare.1
  · exact fun empty => absurd empty (Coefficient.body_ne_nil figure.digits_ne_nil)

end PointedFigure

section Values

variable {α : Type} [Scalar α]

/-- The coefficient of `y` is the number that the figure in front of it stands for.  As a constant
the same figure is read as that number if a digit stands before its point; otherwise its digits are
read as a whole number without a sign. -/
theorem readExpression_pointedFigure (figure : PointedFigure) (sign : Sign)
    (before after gap : Nat) :
    readExpression (figure.beforeY sign before after gap) =
        .ok
          { terms := [("x", 0 + 1), ("y", 0 + figure.value sign)].filter isRelevant
            constant := (0 : α) } ∧
      readExpression (figure.besideX sign before after) =
        .ok
          { terms := [("x", 0 + 1)].filter isRelevant
            constant := (0 : α) + figure.readAlone sign } := by
  have pair (coefficient : α) : tally [("x", 1), ("y", coefficient)] =
      [("x", 0 + 1), ("y", 0 + coefficient)] := by
    simp [tally, total, List.eraseDups_cons]
  have single : tally [("x", (1 : α))] = [("x", 0 + 1)] := by
    simp [tally, total, List.eraseDups_cons]
  have unit : PointedFigure.entryX.term? = some ("x", (1 : α)) := rfl
  constructor
  · rw [(figure.orderly_beforeY sign before after gap).readExpression
      (figure.filter_beforeY sign before after gap)]
    have named :
        (Entry.named (letterY.identifier.term (figure.signed sign after) (.spaces gap))).term? =
          some ("y", (figure.value sign : α)) := by
      rw [← figure.value_coefficient]
      rfl
    simp only [List.filterMap_cons, List.filterMap_nil, unit, named, pair]
    rfl
  · rw [(figure.orderly_besideX sign before after).readExpression
      (figure.filter_besideX sign before after)]
    have number : (Entry.constant (figure.signed sign after)).constant? =
        some (figure.readAlone sign : α) := by
      rw [← figure.value_constant_coefficient]
      rfl
    have noTerm : (Entry.constant (figure.signed sign after)).term? =
        (none : Option (String × α)) := rfl
    have noNumber : PointedFigure.entryX.constant? = (none : Option α) := rfl
    simp only [List.filterMap_cons, List.filterMap_nil, unit, noTerm, number, noNumber, single,
      List.foldl_cons, List.foldl_nil]

end Values

theorem readExpression_half :
    readExpression (α := Float) "x - .5 y".toList =
        .ok { terms := [("x", 1), ("y", -0.5)], constant := 0 } ∧
      readExpression (α := Float) "x - .5".toList = .ok { terms := [("x", 1)], constant := 5 } := by
  decide +kernel

end Grammar

end TableauSimplex
