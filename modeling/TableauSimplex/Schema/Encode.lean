import TableauSimplex.Diagnosis
import TableauSimplex.Json.Basic
import TableauSimplex.Schema.Issue

/-!
# Programs, options and solutions as documents
-/

set_option autoImplicit false

namespace TableauSimplex

def Table.toJson {β : Type} (encode : β → Json) (table : Table β) : Json :=
  .object (table.entries.map fun entry => (entry.1, encode entry.2))

/-- A constraint with its relation written both ways. -/
def Constraint.toJson (constraint : Constraint Float) : Json :=
  .object
    [("coefficients", .floats constraint.coefficients),
     ("relation_sign", .integer constraint.relation.sign),
     ("target", .ofFloat constraint.target),
     ("cmp", .text constraint.relation.symbol)]

def NamedConstraint.toJson (constraint : NamedConstraint Float) : Json :=
  .object
    [("coefficients", .floats constraint.coefficients),
     ("cmp", .text constraint.relation.symbol),
     ("rhs", .ofFloat constraint.target),
     ("name", .optional .text constraint.name)]

def LinearProgram.toFields (program : LinearProgram Float) : List (String × Json) :=
  [("name", .text program.name),
   ("sense", .text program.sense.name),
   ("objective", .floats program.objective),
   ("constraints", .list (program.constraints.map NamedConstraint.toJson)),
   ("variable_names", .optional .texts program.variableNames)]

def LinearProgram.toJson (program : LinearProgram Float) : Json :=
  .object program.toFields

def Options.toJson (options : Options Float) : Json :=
  .object
    [("max_pivots", .optional .integer options.maxPivots),
     ("tol", .ofFloat options.tolerance),
     ("feasibility_tol", .ofFloat options.feasibilityTolerance),
     ("pivot_rule", .text options.rule.name),
     ("check_invariants", .boolean options.checksBasis)]

def Solution.toJson (solution : Solution Float) : Json :=
  .object
    [("status", .text solution.status.name),
     ("objective_value", .optional .ofFloat solution.objectiveValue),
     ("values", .optional .floats solution.values),
     ("x", .optional (Table.toJson .ofFloat) solution.point),
     ("basis", solution.basis.toJson .text),
     ("alternate_optima", .boolean solution.alternateOptima),
     ("pivots", .integer solution.pivots),
     ("phase1_pivots", .integer solution.phaseOnePivots),
     ("message", .text solution.message)]

def Diagnosis.toJson (diagnosis : Diagnosis) : Json :=
  .object
    [("status", .text diagnosis.status.name),
     ("message", .text diagnosis.message),
     ("conflicting_constraints", .texts diagnosis.conflicts),
     ("suggestions", .texts diagnosis.suggestions)]

namespace Schema

def Step.toJson : Step → Json
  | .key name => .text name
  | .index position => .ofNat position

def Issue.toJson (issue : Issue) : Json :=
  .object
    [("loc", .list (issue.location.map Step.toJson)),
     ("type", .text issue.complaint.code),
     ("msg", .text issue.complaint.message)]

end Schema

end TableauSimplex
