import TableauSimplex.Program.Constraint

/-!
# Linear programs

A linear program asks for non-negative values of its variables that satisfy every constraint and
make the objective as large, or as small, as possible.
-/

set_option autoImplicit false

namespace TableauSimplex

inductive Sense where
  | minimise
  | maximise
  deriving DecidableEq, Repr

namespace Sense

def name : Sense → String
  | .minimise => "min"
  | .maximise => "max"

def ofName? : String → Option Sense
  | "min" => some .minimise
  | "max" => some .maximise
  | _ => none

end Sense

structure NamedConstraint (α : Type) extends Constraint α where
  name : Option String

structure LinearProgram (α : Type) where
  name : String := "problem"
  sense : Sense := .maximise
  objective : List α
  constraints : List (NamedConstraint α)
  variableNames : Option (List String) := none

namespace LinearProgram

variable {α : Type}

def system (program : LinearProgram α) : List (Constraint α) :=
  program.constraints.map NamedConstraint.toConstraint

/-- A constraint without a name, or with an empty one, is called by its position from one. -/
def constraintName (position : Nat) (constraint : NamedConstraint α) : String :=
  match constraint.name with
  | none => s!"c{position + 1}"
  | some name => if name = "" then s!"c{position + 1}" else name

def constraintNames (program : LinearProgram α) : List String :=
  program.constraints.mapIdx constraintName

def without (program : LinearProgram α) (position : Nat) : LinearProgram α :=
  { program with constraints := program.constraints.eraseIdx position }

end LinearProgram

/-- Why a program has no tableau. -/
inductive ProblemError where
  | noConstraints
  | noVariables
  | negativeCount
  | variableNameCount (expected given : Nat)
  deriving DecidableEq, Repr

def ProblemError.message : ProblemError → String
  | .noConstraints => "Must have at least one constraint."
  | .noVariables => "Must solve for at least one variable."
  | .negativeCount => "negative dimensions are not allowed"
  | .variableNameCount expected given => s!"Expected {expected} variable names, got {given}."

end TableauSimplex
