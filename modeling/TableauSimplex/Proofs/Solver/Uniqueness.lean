import TableauSimplex.Proofs.Solver.Correctness
import TableauSimplex.Proofs.Solver.Whole

/-!
# Optima without an alternative

In the last tableau of a solve without tolerance no structural column has a negative driving entry.
If none outside the basis has a zero one either, a feasible point as good as the basic solution has
zeros in all columns outside the basis.  Then the rows leave it no choice in the basic columns.
-/

set_option autoImplicit false

namespace TableauSimplex

namespace Tableau

variable {L : Layout} {options : Options ℚ} {start tableau : Tableau L ℚ}
  {basic : Fin L.constraints → Fin L.width} {constraints : List (Constraint ℚ)}
  {objective : List ℚ} {sense : Sense}

/-- Where no structural column outside the basis improves, a vector that is as good as the basic
solution has zeros where the driving row has entries. -/
theorem Canonical.driving_mul_eq_zero_of_level (canonical : tableau.Canonical basic)
    (optimal : ∀ column : Fin L.width, column.val < L.structural →
      (∀ row, basic row ≠ column) → 0 ≤ tableau.driving.entries column)
    {vector : Fin L.width → ℚ} (genuine : L.Genuine vector)
    (level : tableau.driving.gap vector = -tableau.driving.target) (column : Fin L.width) :
    tableau.driving.entries column * vector column = 0 := by
  have summand_nonneg (column : Fin L.width) :
      0 ≤ tableau.driving.entries column * vector column := by
    by_cases isBasic : ∃ row, basic row = column
    · obtain ⟨row, rfl⟩ := isBasic
      rw [canonical.driving_basic, zero_mul]
    · by_cases structural : column.val < L.structural
      · have nonneg := optimal column structural fun row same => isBasic ⟨row, same⟩
        exact mul_nonneg nonneg (genuine.nonneg column)
      · rw [genuine.artificial column (not_lt.mp structural), mul_zero]
  have form : ∑ column, tableau.driving.entries column * vector column = 0 := by
    have gap : tableau.driving.form vector - tableau.driving.target = -tableau.driving.target :=
      level
    exact sub_eq_neg_self.mp gap
  exact (Finset.sum_eq_zero_iff_of_nonneg fun column _ => summand_nonneg column).mp form column
    (Finset.mem_univ column)

theorem Canonical.eq_basicSolution_of_level (canonical : tableau.Canonical basic)
    (worsens : ∀ column : Fin L.width, column.val < L.structural →
      (∀ row, basic row ≠ column) → 0 < tableau.driving.entries column)
    {vector : Fin L.width → ℚ} (solves : tableau.Solves vector) (genuine : L.Genuine vector)
    (level : tableau.driving.gap vector = -tableau.driving.target) :
    vector = tableau.basicSolution basic := by
  apply canonical.eq_basicSolution solves
  intro column nonbasic
  by_cases structural : column.val < L.structural
  · have product := canonical.driving_mul_eq_zero_of_level
      (fun column structural nonbasic => (worsens column structural nonbasic).le) genuine level
      column
    exact (mul_eq_zero.mp product).resolve_left (worsens column structural nonbasic).ne'
  · exact genuine.artificial column (not_lt.mp structural)

/-! ## Columns without an alternative -/

/-- Whether the objective rows call no column basic. -/
def PlainObjectives (tableau : Tableau L ℚ) : Prop :=
  tableau.residualBasic = -1 ∧ tableau.objectiveBasic = -1

theorem Reaches.plainObjectives {state : SolveState L ℚ} (reached : start.Reaches options state)
    (plain : start.PlainObjectives) : state.tableau.PlainObjectives :=
  reached.invariant (fun later => later.tableau.PlainObjectives) plain
    fun _ _ _ same step => by cases step <;> exact same

theorem plainObjectives_of_build (built : build constraints objective sense = .ok ⟨L, start⟩) :
    start.PlainObjectives := by
  obtain ⟨_, same⟩ := exists_ofNormal_of_build built
  cases same
  exact ⟨rfl, rfl⟩

theorem Canonical.isBasic_iff (canonical : tableau.Canonical basic)
    (plain : tableau.PlainObjectives) {column : Fin L.width} :
    tableau.isBasic column.val = true ↔ ∃ row, basic row = column := by
  constructor
  · intro isBasic
    obtain ⟨index, _, same⟩ := List.any_eq_true.mp isBasic
    have equal : tableau.basic index = column.val := by simpa using same
    cases index with
    | residual =>
        have negative : tableau.basic .residual = -1 := plain.1
        omega
    | objective =>
        have negative : tableau.basic .objective = -1 := plain.2
        omega
    | constraint row =>
        have basis : tableau.basic (.constraint row) = (basic row).val := canonical.basis_eq row
        exact ⟨row, Fin.ext (by omega)⟩
  · rintro ⟨row, rfl⟩
    have listed : RowIndex.constraint row ∈ RowIndex.all L := by
      simp [RowIndex.all, Layout.constraintRows]
    exact List.any_eq_true.mpr ⟨_, listed, beq_iff_eq.mpr (canonical.basis_eq row)⟩

/-- Whether a structural column outside the basis leaves the objective as it is. -/
def Free (tableau : Tableau L ℚ) (basic : Fin L.constraints → Fin L.width)
    (column : Fin L.width) : Prop :=
  column.val < L.structural ∧ (∀ row, basic row ≠ column) ∧ tableau.driving.entries column = 0

theorem Canonical.hasAlternative_iff (canonical : tableau.Canonical basic)
    (plain : tableau.PlainObjectives) :
    tableau.hasAlternative 0 = true ↔ ∃ column, tableau.Free basic column := by
  unfold hasAlternative
  rw [List.any_eq_true]
  refine exists_congr fun column => ?_
  have outside : tableau.isBasic column.val = false ↔ ∀ row, basic row ≠ column := by
    rw [← Bool.not_eq_true, canonical.isBasic_iff plain, not_exists]
  simp [mem_structuralColumns, outside, Scalar.magnitude_le_zero_iff, Free]

theorem alternateOptima_of_optimalSolution {tolerance : ℚ} {names : List String}
    {phaseOnePivots pivots : Nat} {solution : Solution ℚ}
    (reads : tableau.optimalSolution tolerance names phaseOnePivots pivots = .ok solution) :
    solution.alternateOptima = tableau.hasAlternative tolerance := by
  obtain ⟨_, _, rfl⟩ := exists_of_map_eq_ok reads
  rfl

/-! ## The last tableau -/

/-- The tableau off which an optimal solution is read stands for the same program as the first one,
and no column of it improves. -/
structure Optimum (start final : Tableau L ℚ) (basic : Fin L.constraints → Fin L.width)
    (constraints : List (Constraint ℚ)) (objective : List ℚ) (sense : Sense)
    (solution : Solution ℚ) : Prop where
  equivalent : start.Equivalent final
  represents : Represents final constraints objective sense
  admissible : Admissible final basic
  second : final.phase = .second
  plain : final.PlainObjectives
  optimal : ∀ column : Fin L.width, column.val < L.structural → 0 ≤ final.driving.entries column
  reads : ∃ names phaseOnePivots pivots,
    final.optimalSolution 0 names phaseOnePivots pivots = .ok solution

namespace Optimum

variable {final : Tableau L ℚ} {solution : Solution ℚ}

theorem values_eq (optimum : Optimum start final basic constraints objective sense solution) :
    solution.values = some (L.decisionPart (final.basicSolution basic)) ∧
      solution.objectiveValue =
        some (dot objective (L.decisionPart (final.basicSolution basic))) := by
  obtain ⟨_, _, _, reads⟩ := optimum.reads
  exact (optimalSolution_spec optimum.represents optimum.admissible optimum.second reads).2

theorem alternateOptima_eq
    (optimum : Optimum start final basic constraints objective sense solution) :
    solution.alternateOptima = final.hasAlternative 0 := by
  obtain ⟨_, _, _, reads⟩ := optimum.reads
  exact alternateOptima_of_optimalSolution reads

theorem feasible (optimum : Optimum start final basic constraints objective sense solution) :
    Feasible constraints L.decisions (L.decisionPart (final.basicSolution basic)) :=
  feasible_basicSolution optimum.represents optimum.admissible optimum.second

theorem gap_eq_iff (optimum : Optimum start final basic constraints objective sense solution)
    {vector : Fin L.width → ℚ} (solves : final.Solves vector) :
    final.driving.gap vector = -final.driving.target ↔
      dot objective (L.decisionPart vector) =
        dot objective (L.decisionPart (final.basicSolution basic)) := by
  rw [driving_of_second optimum.second, optimum.represents.objective_gap vector solves,
    ← cost_basicSolution optimum.represents optimum.admissible optimum.second]
  exact (Function.LeftInverse.injective sense.cost_cost).eq_iff

theorem eq_decisionPart_of_not_hasAlternative
    (optimum : Optimum start final basic constraints objective sense solution)
    (alone : final.hasAlternative 0 = false) {point : List ℚ}
    (feasible : Feasible constraints L.decisions point)
    (level : dot objective point =
      dot objective (L.decisionPart (final.basicSolution basic))) :
    point = L.decisionPart (final.basicSolution basic) := by
  have canonical := optimum.admissible.canonical
  obtain ⟨vector, solves, genuine, rfl⟩ := optimum.represents.complete point feasible
  have worsens (column : Fin L.width) (structural : column.val < L.structural)
      (nonbasic : ∀ row, basic row ≠ column) : 0 < final.driving.entries column := by
    apply lt_of_le_of_ne (optimum.optimal column structural)
    intro zero
    -- A column that leaves the objective as it is would have been mentioned.
    have alternative := (canonical.hasAlternative_iff optimum.plain).mpr
      ⟨column, structural, nonbasic, zero.symm⟩
    rw [alone] at alternative
    cases alternative
  rw [canonical.eq_basicSolution_of_level worsens solves genuine
    ((optimum.gap_eq_iff solves).mpr level)]

end Optimum

end Tableau

theorem exists_optimum_of_optimal {options : Options ℚ}
    (noTolerance : options.tolerance = 0) (noAllowance : options.feasibilityTolerance = 0)
    {constraints : List (Constraint ℚ)} {objective : List ℚ} {sense : Sense}
    {names : Option (List String)} {solution : Solution ℚ}
    (solved : solveSystem options constraints objective sense names = .ok solution)
    (optimal : solution.status = .optimal) :
    ∃ L, ∃ start final : Tableau L ℚ, ∃ used basic,
      Tableau.build constraints objective sense = .ok ⟨L, start⟩ ∧
        (start.solveNamed options used).EndsIn solution final ∧
        Tableau.Optimum start final basic constraints objective sense solution := by
  obtain ⟨L, start, used, final, built, _, ends⟩ := solveSystem_eq_ok.mp solved
  obtain ⟨startRepresents, startAdmissible⟩ := Tableau.build_spec built
  obtain ⟨state, reached, rfl, concludes⟩ := Tableau.exists_concluding_state ends
  obtain ⟨second, finished, _, _, reads⟩ := concludes.of_optimal optimal
  rw [noTolerance] at finished reads
  have residualClear : start.ResidualClear options := by
    intro _ _ _ _
    rw [noAllowance]
    exact (eq_or_ne _ 0).imp_right abs_pos.mpr
  have equivalent := reached.equivalent startRepresents startAdmissible noTolerance
    noAllowance.ge residualClear
  obtain ⟨⟨basic, admissible⟩, _⟩ := reached.orderly noTolerance startAdmissible
  refine ⟨L, start, _, used, basic, built, ends, ?_⟩
  exact
    { equivalent
      represents := startRepresents.of_equivalent equivalent reached.sense_eq
      admissible
      second
      plain := reached.plainObjectives (Tableau.plainObjectives_of_build built)
      optimal := fun column structural => Tableau.optimal_of_nextMove finished
        (Tableau.mem_candidates.mpr fun _ => structural)
      reads := ⟨_, _, _, reads⟩ }

/-- Without tolerance an optimal solution that mentions no alternative gives a feasible point, and
every feasible point with the reported objective value is that point. -/
theorem solveSystem_unique_of_not_alternateOptima {options : Options ℚ}
    (noTolerance : options.tolerance = 0) (noAllowance : options.feasibilityTolerance = 0)
    {constraints : List (Constraint ℚ)} {objective : List ℚ} {sense : Sense}
    {names : Option (List String)} {solution : Solution ℚ}
    (solved : solveSystem options constraints objective sense names = .ok solution)
    (optimal : solution.status = .optimal) (alone : solution.alternateOptima = false) :
    ∃ values value, solution.values = some values ∧ solution.objectiveValue = some value ∧
      Feasible constraints (programSize constraints objective) values ∧
      dot objective values = value ∧
      ∀ point, Feasible constraints (programSize constraints objective) point →
        dot objective point = value → point = values := by
  obtain ⟨L, start, final, used, basic, _, _, optimum⟩ :=
    exists_optimum_of_optimal noTolerance noAllowance solved optimal
  obtain ⟨values, value⟩ := optimum.values_eq
  rw [optimum.alternateOptima_eq] at alone
  rw [← optimum.represents.size_eq]
  refine ⟨_, _, values, value, optimum.feasible, rfl, ?_⟩
  intro point feasible level
  exact optimum.eq_decisionPart_of_not_hasAlternative alone feasible level

/-- A corner at which an equation that is given twice meets a bound. -/
def soleCorner : List (Constraint ℚ) :=
  [.linear 1 [1] .equal 2, .linear (-2) [-2] .equal (-4), .linear 1 [-1] .atLeast (-1)]

theorem solveSystem_unique_soleCorner :
    (∃ solution, solveSystem .exact soleCorner [1, 3] .maximise none = .ok solution ∧
      solution.alternateOptima = false) ∧
    ∀ point, Feasible soleCorner 2 point → dot [1, 3] point = 5 → point = [1 / 2, 3 / 2] := by
  obtain ⟨solution, solved, read⟩ := exists_of_map_eq_ok
    (show (solveSystem .exact soleCorner [1, 3] .maximise none).map (fun solution =>
        (solution.status, solution.alternateOptima, solution.values, solution.objectiveValue)) =
      .ok (.optimal, false, some [1 / 2, 3 / 2], some 5) by decide +kernel)
  simp only [Prod.mk.injEq] at read
  obtain ⟨optimal, alone, sameValues, sameValue⟩ := read
  obtain ⟨values, value, given, reported, _, _, unique⟩ :=
    solveSystem_unique_of_not_alternateOptima rfl rfl solved optimal alone
  obtain rfl := Option.some.inj (given.symm.trans sameValues)
  obtain rfl := Option.some.inj (reported.symm.trans sameValue)
  exact ⟨⟨solution, solved, alone⟩, unique⟩

end TableauSimplex
