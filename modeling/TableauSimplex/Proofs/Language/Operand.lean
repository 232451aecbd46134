import TableauSimplex.Proofs.Language.Entry

/-!
# Operands of a sum

A sum as it is usually written: each operand is a figure, an identifier, or a figure in front of an
identifier.  With the sign before it an operand is an entry that can always be read, and it is read
as the number or the term that it says.
-/

set_option autoImplicit false

namespace TableauSimplex

open TableauSimplex.Text TableauSimplex.Language

namespace Grammar

theorem filter_star {text : List Char} (outside : ∀ c ∈ text, c ≠ '*') :
    text.filter (· != '*') = text := by
  rw [List.filter_eq_self]
  intro c member
  exact bne_iff_ne.mpr (outside c member)

/-- An ASCII identifier. -/
structure Identifier where
  first : Char
  rest : List Char
  first_start : isNameStart first = true
  rest_ascii : ∀ c ∈ rest, c.isAlphanum = true ∨ c = '_'

namespace Identifier

def chars (name : Identifier) : List Char :=
  name.first :: name.rest

def string (name : Identifier) : String :=
  String.ofList name.chars

theorem isWord (name : Identifier) : ∀ c ∈ name.chars, isWord c = true := by
  intro c member
  rcases List.mem_cons.mp member with rfl | later
  · exact isWord_of_identifier (identifier_of_isNameStart name.first_start)
  · exact isWord_of_identifier (name.rest_ascii c later)

theorem no_star (name : Identifier) : ∀ c ∈ name.chars, c ≠ '*' := by
  rintro c member rfl
  exact absurd (name.isWord '*' member) (by decide)

/-- The identifier as a term. -/
def term (name : Identifier) (coefficient : Coefficient) (gap : Gap) : Term where
  coefficient
  gap
  first := name.first
  others := name.rest
  first_start := name.first_start
  others_word c member := isWord_of_identifier (name.rest_ascii c member)

end Identifier

/-! ## Coefficients of operands -/

/-- A sign and the gap behind it, without a figure. -/
def Coefficient.bare (sign : Option Sign) (gap : Gap) : Coefficient where
  sign
  gap
  whole := []
  fraction := none
  whole_digit := forall_isDigit_nil
  fraction_digit := forall_isDigit_nil

def Figure.coefficient (figure : Figure) (sign : Option Sign) (gap : Gap) : Coefficient where
  sign
  gap
  whole := figure.whole.chars
  fraction := figure.fraction.map Digits.chars
  whole_digit := figure.whole.digit
  fraction_digit := by
    cases figure.fraction with
    | none => exact forall_isDigit_nil
    | some fraction => exact fraction.digit

namespace Figure

variable (figure : Figure) (sign : Option Sign) (gap : Gap)

theorem body_coefficient : (figure.coefficient sign gap).body = figure.chars := by
  rcases figure with ⟨whole, _ | fraction⟩ <;> simp [Coefficient.body, coefficient, chars]

theorem digits_coefficient : (figure.coefficient sign gap).digits ≠ [] :=
  fun empty => figure.whole.chars_ne_nil (List.append_eq_nil_iff.mp empty).1

theorem decimal_coefficient :
    (figure.coefficient sign gap).decimal = figure.decimal sign := by
  rcases figure with ⟨whole, _ | fraction⟩ <;>
    simp [Coefficient.decimal, Coefficient.digits, coefficient, decimal, behindPoint,
      Digits.values] <;> rfl

theorem value_coefficient {α : Type} [Scalar α] :
    (figure.coefficient sign gap).value = (figure.value sign : α) := by
  rw [Coefficient.value, if_neg (figure.digits_coefficient sign gap), decimal_coefficient, value]

theorem no_star : ∀ c ∈ figure.chars, c ≠ '*' := by
  rintro c member rfl
  exact absurd (figure.isFiller '*' member) (by decide)

end Figure

/-! ## Operands -/

/-- A figure, an identifier, or both with a gap between them. -/
inductive Operand where
  | constant (figure : Figure)
  | unit (name : Identifier)
  | multiple (figure : Figure) (gap : Gap) (name : Identifier)

namespace Operand

def chars : Operand → List Char
  | .constant figure => figure.chars
  | .unit name => name.chars
  | .multiple figure gap name => figure.chars ++ (gap.chars ++ name.chars)

/-- Whether the gap of an operand, if it has one, is spaces. -/
def Spaced : Operand → Prop
  | .multiple _ gap _ => gap.Spaced
  | _ => True

/-- An operand with the sign before it. -/
def entry (sign : Option Sign) (gap : Gap) : Operand → Entry
  | .constant figure => .constant (figure.coefficient sign gap)
  | .unit name => .named (name.term (.bare sign gap) noGap)
  | .multiple figure inner name => .named (name.term (figure.coefficient sign gap) inner)

variable (operand : Operand) (sign : Option Sign) (gap : Gap)

theorem chars_entry :
    (operand.entry sign gap).chars =
      (sign.map Sign.char).toList ++ (gap.chars ++ operand.chars) := by
  have figured (figure : Figure) : (figure.coefficient sign gap).chars =
      (sign.map Sign.char).toList ++ (gap.chars ++ figure.chars) := by
    rw [Coefficient.chars, figure.body_coefficient, Coefficient.lead, List.append_assoc]
    rfl
  cases operand with
  | constant figure => exact figured figure
  | unit name =>
      simp [entry, Entry.chars, Term.chars, Term.name, Identifier.term, Coefficient.chars,
        Coefficient.lead, Coefficient.front, Coefficient.body, Coefficient.bare, noGap, chars,
        Identifier.chars]
  | multiple figure inner name =>
      rw [entry, Entry.chars, Term.chars, Identifier.term, figured]
      simp [Term.name, chars, Identifier.chars]

variable {operand} {gap}

theorem legible_entry (spaced : operand.Spaced) (space : gap.Spaced) :
    (operand.entry sign gap).Legible := by
  cases operand with
  | constant figure => exact ⟨space, figure.digits_coefficient sign gap⟩
  | unit name => exact ⟨space, spaced_noGap, fun bare => bare.2 rfl, fun _ => rfl⟩
  | multiple figure inner name =>
      refine ⟨space, spaced, fun bare => figure.digits_coefficient sign gap bare.1, fun empty => ?_⟩
      exact absurd empty (Coefficient.body_ne_nil (figure.digits_coefficient sign gap))

theorem isSigned_entry : (operand.entry sign gap).IsSigned ↔ sign ≠ none := by
  cases operand <;> exact Iff.rfl

/-! ## What an operand says -/

section Values

variable {α : Type} [Scalar α]

/-- The name of an operand with its coefficient, which is one if there is no figure. -/
def term? (sign : Option Sign) : Operand → Option (String × α)
  | .constant _ => none
  | .unit name => some (name.string, if sign = some .minus then -1 else 1)
  | .multiple figure _ name => some (name.string, figure.value sign)

def constant? (sign : Option Sign) : Operand → Option α
  | .constant figure => some (figure.value sign)
  | _ => none

theorem term?_entry (operand : Operand) (gap : Gap) :
    (operand.entry sign gap).term? = (operand.term? sign : Option (String × α)) := by
  cases operand with
  | constant figure => rfl
  | unit name => rfl
  | multiple figure inner name =>
      simp only [entry, Entry.term?, term?, Identifier.term, figure.value_coefficient]
      rfl

theorem constant?_entry (operand : Operand) (gap : Gap) :
    (operand.entry sign gap).constant? = (operand.constant? sign : Option α) := by
  cases operand with
  | constant figure =>
      have filled : (figure.coefficient sign gap).whole ≠ [] := figure.whole.chars_ne_nil
      rw [entry, Entry.constant?, Coefficient.value_constant filled, figure.value_coefficient,
        constant?]
  | unit name => rfl
  | multiple figure inner name => rfl

end Values

end Operand

end Grammar

end TableauSimplex
