import TableauSimplex.Proofs.Program.Feasible
import TableauSimplex.Solver.Basic

/-!
# Programs without a tableau

A program is turned away before its run for two reasons only: it has no constraints, or it names
its variables and the number of names is not the number of variables.
-/

set_option autoImplicit false

namespace TableauSimplex

variable {α : Type}

namespace LinearProgram

/-- The number of variables that the constraints and the objective of a program speak of. -/
def size (program : LinearProgram α) : Nat :=
  max (variableCount program.system) program.objective.length

theorem system_eq_nil_iff {program : LinearProgram α} :
    program.system = [] ↔ program.constraints = [] :=
  List.map_eq_nil_iff

end LinearProgram

variable [Scalar α]

namespace Tableau

theorem build_nil (objective : List α) (sense : Sense) :
    build [] objective sense = .error .noConstraints :=
  rfl

theorem exists_build_decisions {constraints : List (Constraint α)} (nonempty : constraints ≠ [])
    (objective : List α) (sense : Sense) :
    ∃ L tableau, build constraints objective sense = .ok ⟨L, tableau⟩ ∧
      L.decisions = max (variableCount constraints) objective.length := by
  have normal : ¬ constraints.map Constraint.normalised = [] := by simpa using nonempty
  refine ⟨_, _, dif_neg normal, ?_⟩
  have costs_length : (costs sense objective).length = objective.length := by
    cases sense <;> simp [costs]
  change max (variableCount (constraints.map Constraint.normalised))
    (costs sense objective).length = _
  rw [variableCount_normalised, costs_length]

theorem decisionNames_eq_error_iff {L : Layout} {names : Option (List String)}
    {error : ProblemError} :
    decisionNames L names = .error error ↔
      ∃ given, names = some given ∧ given.length ≠ L.decisions ∧
        error = .variableNameCount L.decisions given.length := by
  cases names with
  | none => simp [decisionNames]
  | some given =>
      simp only [decisionNames, Option.some.injEq, exists_eq_left']
      split
      · rename_i fits
        simp [fits]
      · rename_i fits
        simp [fits, eq_comm]

end Tableau

namespace LinearProgram

/-- A program is turned away exactly for a lack of constraints or a wrong number of names. -/
theorem solve_eq_problem_iff {program : LinearProgram α} {options : Options α}
    {error : ProblemError} :
    program.solve options = .error (.problem error) ↔
      (program.constraints = [] ∧ error = .noConstraints) ∨
        (program.constraints ≠ [] ∧ ∃ names, program.variableNames = some names ∧
          names.length ≠ program.size ∧ error = .variableNameCount program.size names.length) := by
  by_cases nonempty : program.constraints = []
  · have noSystem : program.system = [] := system_eq_nil_iff.mpr nonempty
    rw [solve, solveSystem, runSystem, noSystem, Tableau.build_nil]
    simp [nonempty, bind, Except.bind, eq_comm]
  · have system : program.system ≠ [] := fun noSystem => nonempty (system_eq_nil_iff.mp noSystem)
    obtain ⟨L, tableau, built, decisions⟩ :=
      Tableau.exists_build_decisions system program.objective program.sense
    rw [solve, solveSystem, runSystem, built, size, ← decisions]
    simp only [nonempty, false_and, false_or, not_false_eq_true, true_and, ne_eq,
      ← Tableau.decisionNames_eq_error_iff, Tableau.solve]
    cases named : Tableau.decisionNames L program.variableNames with
    | error failure => simp [named, bind, Except.bind, Except.map]
    | ok names =>
        -- The run itself fails with an error of its own.
        cases outcome : (tableau.solveNamed options names).outcome <;>
          simp [named, bind, Except.bind, Except.map, pure, Except.pure, ProgramRun.outcome,
            outcome, Except.mapError]

end LinearProgram

end TableauSimplex
