import TableauSimplex.Position
import TableauSimplex.Scalar

/-!
# Linear constraints

A constraint compares a linear form with a target.  The sign of a relation is the coefficient of
the surplus variable that turns the constraint into an equation.
-/

set_option autoImplicit false

namespace TableauSimplex

inductive Relation where
  | atMost
  | equal
  | atLeast
  deriving DecidableEq, Repr

namespace Relation

def symbol : Relation → String
  | .atMost => "<="
  | .equal => "=="
  | .atLeast => ">="

def sign : Relation → Int
  | .atMost => 1
  | .equal => 0
  | .atLeast => -1

/-- The relation between the negated sides. -/
def flip : Relation → Relation
  | .atMost => .atLeast
  | .equal => .equal
  | .atLeast => .atMost

def ofSymbol? : String → Option Relation
  | "<=" => some .atMost
  | "==" => some .equal
  | ">=" => some .atLeast
  | _ => none

theorem flip_flip (relation : Relation) : relation.flip.flip = relation := by
  cases relation <;> rfl

end Relation

/-- `coefficients · x` compared with `target`. -/
structure Constraint (α : Type) where
  coefficients : List α
  relation : Relation
  target : α
  coefficients_ne_nil : coefficients ≠ []

namespace Constraint

variable {α : Type} [Scalar α]

def negated (constraint : Constraint α) : Constraint α where
  coefficients := constraint.coefficients.map fun coefficient => -coefficient
  relation := constraint.relation.flip
  target := -constraint.target
  coefficients_ne_nil := by simpa using constraint.coefficients_ne_nil

/-- Whether the target is known not to be negative. -/
def isNormal (constraint : Constraint α) : Bool :=
  decide ((0 : α) ≤ constraint.target)

/-- An equivalent constraint whose target is not negative. -/
def normalised (constraint : Constraint α) : Constraint α :=
  if constraint.isNormal then constraint else constraint.negated

omit [Scalar α] in
/-- An inequality has a surplus variable. -/
def isInequality (constraint : Constraint α) : Bool :=
  constraint.relation != .equal

omit [Scalar α] in
/-- A normal constraint that its surplus variable does not satisfy at the origin has an
artificial variable. -/
def needsArtificial (constraint : Constraint α) : Bool :=
  constraint.relation != .atMost

end Constraint

/-- The number of variables that a list of constraints speaks of. -/
def variableCount {α : Type} (constraints : List (Constraint α)) : Nat :=
  constraints.foldl (fun count constraint => max count constraint.coefficients.length) 0

def surplusCount {α : Type} (constraints : List (Constraint α)) : Nat :=
  constraints.countP Constraint.isInequality

def constraintAt {α : Type} (constraints : List (Constraint α)) (position : Int) :
    Except PositionError (Constraint α) :=
  match resolve? constraints.length position with
  | some index => .ok (constraints.get index)
  | none => .error (.listRead position)

end TableauSimplex
