import TableauSimplex.Proofs.Solver.Verdict

/-!
# The three verdicts

Without tolerance, whatever the rule, the ceiling and the checks: an optimal solution gives a
feasible point that no other surpasses, a program is called infeasible exactly if it has no
feasible point, and a program is called unbounded only if its objective surpasses every bound.
-/

set_option autoImplicit false

namespace TableauSimplex

theorem exists_solution_of_status {answer : Except SolveError (Solution ℚ)} {status : Status}
    (found : answer.map Solution.status = .ok status) :
    ∃ solution, answer = .ok solution ∧ solution.status = status :=
  exists_of_map_eq_ok found

section Verdicts

variable {options : Options ℚ} {constraints : List (Constraint ℚ)} {objective : List ℚ}
  {sense : Sense} {names : Option (List String)} {solution : Solution ℚ}

/-- An optimal solution has a value for every variable of the program.  The values are a feasible
point with the reported objective value, and no feasible point is better. -/
theorem solveSystem_optimal_correct (noTolerance : options.tolerance = 0)
    (noAllowance : options.feasibilityTolerance = 0)
    (solved : solveSystem options constraints objective sense names = .ok solution)
    (optimal : solution.status = .optimal) :
    ∃ values, solution.values = some values ∧
      values.length = max (variableCount constraints) objective.length ∧
      (∀ value ∈ values, 0 ≤ value) ∧ (∀ constraint ∈ constraints, constraint.Holds values) ∧
      solution.objectiveValue = some (dot objective values) ∧
      ∀ point, Feasible constraints values.length point →
        ¬ sense.Better (dot objective point) (dot objective values) := by
  have answers := answers_of_solveSystem noTolerance noAllowance solved
  rw [Solution.Answers, optimal] at answers
  obtain ⟨values, sameValues, value, feasible, best⟩ := answers
  refine ⟨values, sameValues, feasible.length_eq, feasible.nonneg, feasible.holds, value, ?_⟩
  rw [feasible.length_eq]
  exact best

def repeatedEquation : List (Constraint ℚ) :=
  [⟨[1, 1], .equal, 2, by decide⟩, ⟨[-2, -2], .equal, -4, by decide⟩]

theorem solveSystem_optimal_repeatedEquation :
    ∃ solution values,
      solveSystem .exact repeatedEquation [1, 3] .maximise none = .ok solution ∧
        solution.values = some values ∧
        (∀ constraint ∈ repeatedEquation, constraint.Holds values) ∧
        ∀ point, Feasible repeatedEquation values.length point →
          dot [1, 3] point ≤ dot [1, 3] values := by
  obtain ⟨solution, solved, optimal⟩ := exists_solution_of_status
    (show (solveSystem .exact repeatedEquation [1, 3] .maximise none).map Solution.status =
      .ok .optimal by decide +kernel)
  obtain ⟨values, sameValues, _, _, holds, _, best⟩ :=
    solveSystem_optimal_correct rfl rfl solved optimal
  exact ⟨solution, values, solved, sameValues, holds, fun point feasible =>
    not_lt.mp (best point feasible)⟩

/-- A solution calls a program infeasible exactly if it has no feasible point, because a first
phase ends without residual exactly if there is one. -/
theorem solveSystem_infeasible_iff (noTolerance : options.tolerance = 0)
    (noAllowance : options.feasibilityTolerance = 0) :
    (∀ solution, solveSystem options constraints objective sense names = .ok solution →
        (solution.status = .infeasible ↔
          ¬ ∃ point, Feasible constraints (programSize constraints objective) point)) ∧
      ∀ L (tableau final : Tableau L ℚ) limit outcome,
        Tableau.build constraints objective sense = .ok ⟨L, tableau⟩ → tableau.phase = .first →
          (tableau.optimise options limit).EndsIn outcome final →
            (final.infeasibility = 0 ↔
              ∃ point, Feasible constraints (programSize constraints objective) point) := by
  constructor
  · intro solution solved
    have answers := answers_of_solveSystem noTolerance noAllowance solved
    rw [Solution.Answers] at answers
    cases status : solution.status with
    | optimal =>
        rw [status] at answers
        obtain ⟨values, _, _, feasible, _⟩ := answers
        apply iff_of_false (by simp)
        intro none
        exact none ⟨values, feasible⟩
    | infeasible =>
        rw [status] at answers
        apply iff_of_true rfl
        rintro ⟨point, feasible⟩
        exact answers point feasible
    | unbounded =>
        rw [status] at answers
        obtain ⟨point, feasible, _⟩ := answers 0
        apply iff_of_false (by simp)
        intro none
        exact none ⟨point, feasible⟩
  · intro L tableau final limit outcome built first ends
    obtain ⟨represents, basic, admissible⟩ := Tableau.build_spec built
    exact Tableau.infeasibility_of_optimise represents admissible first noTolerance ends

def contradictoryBounds : List (Constraint ℚ) :=
  [⟨[1], .atMost, 1, by decide⟩, ⟨[1], .atLeast, 2, by decide⟩]

theorem solveSystem_infeasible_contradictoryBounds :
    (∃ solution, solveSystem .exact contradictoryBounds [1] .maximise none = .ok solution ∧
        ¬ ∃ point, Feasible contradictoryBounds 1 point) ∧
      ∃ L, ∃ tableau final : Tableau L ℚ, ∃ limit outcome,
        Tableau.build contradictoryBounds [1] .maximise = .ok ⟨L, tableau⟩ ∧
          tableau.phase = .first ∧ (tableau.optimise .exact limit).EndsIn outcome final ∧
            final.infeasibility ≠ 0 := by
  obtain ⟨solution, solved, infeasible⟩ := exists_solution_of_status
    (show (solveSystem .exact contradictoryBounds [1] .maximise none).map Solution.status =
      .ok .infeasible by decide +kernel)
  have verdict :=
    @solveSystem_infeasible_iff .exact contradictoryBounds [1] .maximise none rfl rfl
  have impossible := (verdict.1 solution solved).mp infeasible
  refine ⟨⟨solution, solved, impossible⟩, ?_⟩
  obtain ⟨L, tableau, used, final, built, _, ends⟩ := solveSystem_eq_ok.mp solved
  have starts : (Tableau.build contradictoryBounds [1] .maximise).map (fun start => start.2.phase) =
      .ok .first := by decide +kernel
  rw [built] at starts
  have first : tableau.phase = .first := Except.ok.inj starts
  rcases Tableau.endsIn_solveNamed.mp ends with ⟨_, firstEnds⟩ | ⟨second, _⟩
  · obtain ⟨outcome, optimised, phaseEnds, _⟩ := Tableau.endsIn_firstPhase.mp firstEnds
    exact ⟨L, tableau, optimised, _, outcome, built, first, phaseEnds, fun zero =>
      impossible ((verdict.2 L tableau optimised _ outcome built first phaseEnds).mp zero)⟩
  · rw [first] at second
    cases second

/-- If a solution calls a program unbounded, every bound is surpassed at some feasible point. -/
theorem solveSystem_unbounded_surpasses (noTolerance : options.tolerance = 0)
    (noAllowance : options.feasibilityTolerance = 0)
    (solved : solveSystem options constraints objective sense names = .ok solution)
    (unbounded : solution.status = .unbounded) (bound : ℚ) :
    ∃ point, Feasible constraints (programSize constraints objective) point ∧
      sense.Better (dot objective point) bound := by
  have answers := answers_of_solveSystem noTolerance noAllowance solved
  rw [Solution.Answers, unbounded] at answers
  exact answers bound

def openRay : List (Constraint ℚ) :=
  [⟨[1, -1], .equal, 1, by decide⟩, ⟨[2, -2], .equal, 2, by decide⟩]

theorem solveSystem_unbounded_openRay :
    ∃ solution, solveSystem .exact openRay [1, 1] .maximise none = .ok solution ∧
      ∃ point, Feasible openRay 2 point ∧ 1000 < dot [1, 1] point := by
  obtain ⟨solution, solved, unbounded⟩ := exists_solution_of_status
    (show (solveSystem .exact openRay [1, 1] .maximise none).map Solution.status =
      .ok .unbounded by decide +kernel)
  exact ⟨solution, solved, solveSystem_unbounded_surpasses rfl rfl solved unbounded 1000⟩

end Verdicts

end TableauSimplex
