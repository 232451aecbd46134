import TableauSimplex.Solver.Basic

/-!
# Diagnosing an infeasible program

A constraint is in conflict if the program without it is no longer infeasible.  Without any
constraint at all, the origin is a solution.
-/

set_option autoImplicit false

namespace TableauSimplex

structure Diagnosis where
  status : Status
  message : String
  conflicts : List String
  suggestions : List String
  deriving DecidableEq, Repr

namespace LinearProgram

variable {α : Type} [Scalar α]

/-- Whether dropping the constraint at a position makes the program feasible. -/
def isConflict (program : LinearProgram α) (options : Options α) (position : Nat) :
    Except SolveError Bool :=
  if (program.without position).constraints.isEmpty then .ok true
  else ((program.without position).solve options).map fun solution =>
    solution.status != .infeasible

def conflictsFrom (program : LinearProgram α) (options : Options α) :
    Nat → List String → Except SolveError (List String)
  | _, [] => .ok []
  | position, name :: rest => do
      let conflict ← program.isConflict options position
      let others ← program.conflictsFrom options (position + 1) rest
      return if conflict then name :: others else others

def suggestionsFor (conflicts : List String) : List String :=
  if conflicts.isEmpty then
    ["No single constraint explains the conflict; check groups of constraints."]
  else ["Relax or inspect the conflicting constraints above."]

/-- Solves a program and, if it is infeasible, names the constraints in conflict. -/
def diagnose (program : LinearProgram α) (options : Options α) :
    Except SolveError Diagnosis := do
  let solution ← program.solve options
  match solution.status with
  | .infeasible =>
      let conflicts ← program.conflictsFrom options 0 program.constraintNames
      return {
        status := .infeasible
        message := solution.message
        conflicts
        suggestions := suggestionsFor conflicts }
  | status =>
      return {
        status
        message :=
          if solution.message = "" then "Problem is not infeasible." else solution.message
        conflicts := []
        suggestions := [] }

end LinearProgram

end TableauSimplex
