import TableauSimplex.Program.Basic
import TableauSimplex.Program.Options
import TableauSimplex.Schema.Value
import TableauSimplex.Solver.Solution

/-!
# Reading programs, options and solutions
-/

set_option autoImplicit false

namespace TableauSimplex.Schema

/-- A list of numbers that may not be empty. -/
structure Coefficients where
  values : List Float
  values_ne_nil : values ≠ []

def someCoefficients (values : List Float) : Checked Coefficients :=
  if values_ne_nil : values ≠ [] then .valid { values, values_ne_nil }
  else .fail .noCoefficients

/-- Coefficients; the complaint about anything but a list is a parameter. -/
def coefficients (complaint : Complaint) : Reader Coefficients :=
  fun document => (listOr complaint float document).andThen someCoefficients

def makeConstraint (row : Coefficients) (relation : Relation) (target : Float) :
    Constraint Float where
  coefficients := row.values
  relation
  target
  coefficients_ne_nil := row.values_ne_nil

def relation : Reader Relation :=
  choice Relation.ofSymbol? "'<=', '>=' or '=='"

def sense : Reader Sense :=
  choice Sense.ofName? "'min' or 'max'"

def exchangeRule : Reader ExchangeRule :=
  choice ExchangeRule.ofName? "'dantzig' or 'bland'"

def status : Reader Status :=
  choice Status.ofName? "'optimal', 'infeasible' or 'unbounded'"

def relationOfSign? (sign : Int) : Option Relation :=
  if sign = 1 then some .atMost
  else if sign = 0 then some .equal
  else if sign = -1 then some .atLeast
  else none

/-- A relation by the sign of its surplus variable, which any number may give that equals it.  A
whole number beyond a machine word is refused before it is compared. -/
def relationSign : Reader Relation
  | .integer value =>
      if fitsWord value then ofSign (some value) else .fail .oversizedInteger
  | .boolean value => ofSign (some (if value then 1 else 0))
  | .real value =>
      match integerOfFloat (Float64.ofNumeral value) with
      | .valid number => ofSign (some number)
      | .invalid _ => ofSign none
  | _ => ofSign none
where
  ofSign (sign : Option Int) : Checked Relation :=
    match sign.bind relationOfSign? with
    | some relation => .valid relation
    | none => .fail (.notChosen "-1, 0 or 1")

def signedConstraint : Reader (Constraint Float) :=
  model "Constraint" fun fields =>
    makeConstraint <$> required fields "coefficients" (coefficients .notTuple)
      <*> required fields "relation_sign" relationSign
      <*> required fields "target" float

def namedConstraint : Reader (NamedConstraint Float) :=
  model "ConstraintSpec" fun fields =>
    (fun row relation target name =>
        { toConstraint := makeConstraint row relation target, name })
      <$> required fields "coefficients" (coefficients .notList)
      <*> required fields "cmp" relation
      <*> required fields "rhs" float
      <*> withDefault fields "name" none (nullable text)

def linearProgram : Reader (LinearProgram Float) :=
  model "LinearProgram" fun fields =>
    (fun name sense objective constraints variableNames =>
        ({ name, sense, objective, constraints, variableNames } : LinearProgram Float))
      <$> withDefault fields "name" "problem" text
      <*> withDefault fields "sense" .maximise sense
      <*> required fields "objective" (list float)
      <*> required fields "constraints" (list namedConstraint)
      <*> withDefault fields "variable_names" none (nullable (list text))

def options : Reader (Options Float) :=
  let standard : Options Float := Options.standard
  model "SolveOptions" fun fields =>
    (fun maxPivots tolerance feasibilityTolerance rule checksBasis =>
        ({ maxPivots, tolerance, feasibilityTolerance, rule, checksBasis } : Options Float))
      <$> withDefault fields "max_pivots" standard.maxPivots (nullable integer)
      <*> withDefault fields "tol" standard.tolerance float
      <*> withDefault fields "feasibility_tol" standard.feasibilityTolerance float
      <*> withDefault fields "pivot_rule" standard.rule exchangeRule
      <*> withDefault fields "check_invariants" standard.checksBasis boolean

def table {β : Type} (reader : Reader β) : Reader (Table β) :=
  fun document => (dictionary reader document).map Table.ofList

def solution : Reader (Solution Float) :=
  model "LPSolution" fun fields =>
    (fun status objectiveValue values point basis alternateOptima pivots phaseOnePivots message =>
        ({ status, objectiveValue, values, point, basis, alternateOptima, pivots, phaseOnePivots,
           message } : Solution Float))
      <$> required fields "status" status
      <*> required fields "objective_value" (nullable float)
      <*> required fields "values" (nullable (list float))
      <*> required fields "x" (nullable (table float))
      <*> withDefault fields "basis" Table.empty (table text)
      <*> withDefault fields "alternate_optima" false boolean
      <*> required fields "pivots" integer
      <*> withDefault fields "phase1_pivots" 0 integer
      <*> withDefault fields "message" "" text

end TableauSimplex.Schema
