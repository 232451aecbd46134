import TableauSimplex.Proofs.Solver.Drift
import TableauSimplex.Proofs.Solver.Tolerance

/-!
# The reported objective value

With a tolerance the reported objective value need not be that of the reported values.  An exchange
may round it off a target whose column has a large cost, or off an entry of the objective row whose
column grows large later.  The two values stay close if the costs are not too large and if, in
addition, no entry of the objective row is rounded or no exchange goes too far.
-/

set_option autoImplicit false

namespace TableauSimplex

namespace Tableau

variable {L : Layout} {options : Options ℚ} {start tableau : Tableau L ℚ}
  {basic : Fin L.constraints → Fin L.width} {constraints : List (Constraint ℚ)}
  {objective : List ℚ} {sense : Sense}

/-! ## Reading with a tolerance -/

def reading (tableau : Tableau L ℚ) (tolerance : ℚ) : Fin L.width → ℚ :=
  fun column => (tableau.basicValue tolerance column.val).2

theorem Canonical.abs_reading_sub_le (canonical : Canonical tableau basic) {tolerance : ℚ}
    (tolerant : 0 ≤ tolerance) (column : Fin L.width) :
    |tableau.reading tolerance column - tableau.basicSolution basic column| ≤ tolerance := by
  unfold reading
  by_cases isBasic : ∃ row, basic row = column
  · obtain ⟨row, rfl⟩ := isBasic
    rw [basicSolution, spread_basic _ canonical.injective, basicValue, canonical.rowOf_basic row]
    simp only [Scalar.magnitude_eq_abs]
    split
    · rename_i small
      rwa [zero_sub, abs_neg]
    · rwa [sub_self, abs_zero]
  · have nonbasic (row : Fin L.constraints) : basic row ≠ column := fun same =>
      isBasic ⟨row, same⟩
    rw [canonical.basicValue_of_ne nonbasic, basicSolution, spread_of_ne _ nonbasic, sub_zero,
      abs_zero]
    exact tolerant

theorem Canonical.optimalSolution_reading (canonical : Canonical tableau basic) {tolerance : ℚ}
    {names : List String} {phaseOnePivots pivots : Nat} {solution : Solution ℚ}
    (reads : tableau.optimalSolution tolerance names phaseOnePivots pivots = .ok solution) :
    solution.values = some (L.decisionPart (tableau.reading tolerance)) ∧
      solution.objectiveValue = some tableau.objectiveValue := by
  obtain ⟨values, read, eachValue⟩ := canonical.point_eq_ok tolerance
  have decisions : values.toList = L.decisionPart (tableau.reading tolerance) := by
    rw [Family.toList_eq_ofFn, Layout.decisionPart]
    exact congrArg List.ofFn (funext eachValue)
  rw [optimalSolution, read] at reads
  obtain rfl := Except.ok.inj reads
  rw [← decisions]
  exact ⟨rfl, rfl⟩

/-! ## The first objective row -/

theorem sum_abs_getD (numbers : List ℚ) {width : Nat} (fits : numbers.length ≤ width) :
    ∑ index : Fin width, |numbers[index.val]?.getD 0| = (numbers.map fun x => |x|).sum := by
  induction numbers generalizing width with
  | nil => simp
  | cons number rest induction =>
      cases width with
      | zero => simp at fits
      | succ width =>
          have restFits : rest.length ≤ width := by simpa using fits
          rw [Fin.sum_univ_succ, List.map_cons, List.sum_cons, ← induction restFits]
          simp

theorem length_le_structural (constraints : List (Constraint ℚ)) (costs : List ℚ)
    (nonempty : constraints ≠ []) :
    costs.length ≤ (Layout.ofConstraints constraints costs.length nonempty).structural := by
  have decisions : costs.length ≤
      (Layout.ofConstraints constraints costs.length nonempty).decisions := le_max_right _ _
  exact decisions.trans (Layout.decisions_le_structural _)

section Build

variable (built : build constraints objective sense = .ok ⟨L, start⟩)

include built

theorem form_objective_of_build (vector : Fin L.width → ℚ) :
    start.objective.form vector = sense.cost (dot objective (L.decisionPart vector)) := by
  obtain ⟨nonempty, same⟩ := exists_ofNormal_of_build built
  cases same
  have gap := gap_objective_ofNormal sense _ nonempty (costs sense objective) vector
  have target : (ofNormal sense (constraints.map Constraint.normalised) (costs sense objective)
    nonempty).objective.target = 0 := rfl
  rw [Row.gap, target, sub_zero] at gap
  rw [gap]
  cases sense with
  | minimise => rfl
  | maximise => exact dot_negated objective _

theorem freshObjective_of_build : start.FreshObjective := by
  obtain ⟨nonempty, same⟩ := exists_ofNormal_of_build built
  cases same
  refine ⟨rfl, fun column artificial => ?_⟩
  have behind := (length_le_structural _ (costs sense objective) nonempty).trans artificial
  rw [entries_objective_ofNormal, List.getElem?_eq_none behind, Option.getD_none]

theorem oneNorm_objective_of_build :
    oneNorm start.objective.entries.get = (objective.map fun cost => |cost|).sum := by
  obtain ⟨nonempty, same⟩ := exists_ofNormal_of_build built
  cases same
  have fits := (length_le_structural (constraints.map Constraint.normalised)
    (costs sense objective) nonempty).trans (Layout.structural_le_width _)
  rw [oneNorm, Finset.sum_congr rfl fun column _ =>
    congrArg abs (entries_objective_ofNormal sense _ _ nonempty column), sum_abs_getD _ fits]
  cases sense with
  | minimise => rfl
  | maximise =>
      rw [costs, List.map_map]
      simp only [Function.comp_def, abs_neg]

/-! ## Optimal solutions -/

/-- The reported objective value is off that of the reported values by no more than the drift and
what the reading rounds. -/
theorem Drifted.abs_objectiveValue_sub_le {tolerance margin reach : ℚ} {count : Nat}
    (drifted : Drifted start tolerance margin reach count tableau basic)
    (sameSense : tableau.sense = start.sense) (tolerant : 0 ≤ tolerance) :
    let size := (objective.map fun cost => |cost|).sum
    |tableau.objectiveValue - dot objective (L.decisionPart (tableau.reading tolerance))| ≤
      tolerance * (count + (count + 1) * size) + count ^ 2 * reach := by
  intro size
  have represents := (build_spec built).1
  have value : tableau.objectiveValue = sense.cost (-tableau.objective.target) :=
    objectiveValue_eq_of_cost (sameSense.trans represents.sense_eq) (by rw [sense.cost_cost])
  have cost : dot objective (L.decisionPart (tableau.reading tolerance)) =
      sense.cost (start.objective.form (tableau.reading tolerance)) := by
    rw [form_objective_of_build built, sense.cost_cost]
  have carried := drifted.drift_le
  have read := start.objective.abs_form_sub_le (drifted.canonical.abs_reading_sub_le tolerant)
  rw [oneNorm_objective_of_build built] at carried read
  rw [value, cost, sense.abs_cost_sub_cost]
  rw [drift, abs_le] at carried
  rw [abs_le] at read ⊢
  constructor <;> linarith

theorem exists_near_of_optimal {margin reach : ℚ} (tolerant : 0 ≤ options.tolerance)
    (drifts : start.Drifts options margin reach) {names : List String} {solution : Solution ℚ}
    {final : Tableau L ℚ} (ends : (start.solveNamed options names).EndsIn solution final)
    (optimal : solution.status = .optimal) :
    ∃ values value, solution.values = some values ∧ solution.objectiveValue = some value ∧
      |value - dot objective values| ≤
        options.tolerance *
            (solution.pivots + (solution.pivots + 1) * (objective.map fun cost => |cost|).sum) +
          solution.pivots ^ 2 * reach := by
  obtain ⟨count, state, counted, reached, rfl, concludes⟩ := exists_concluding_state_after ends
  obtain ⟨_, _, _, _, reads⟩ := concludes.of_optimal optimal
  obtain ⟨basic, drifted⟩ := reached.drifted tolerant (exists_canonical_of_build built)
    (freshObjective_of_build built) drifts
  have sameSense := reached.reaches.sense_eq
  obtain ⟨values, value⟩ := drifted.canonical.optimalSolution_reading reads
  have near := drifted.abs_objectiveValue_sub_le built sameSense tolerant
  refine ⟨_, _, values, value, ?_⟩
  rw [counted, Int.cast_natCast]
  exact near

end Build

/-! ## Undisturbed solves -/

/-- Whether no exchange of a solve rounds an entry of the objective row. -/
def ObjectiveKept (start : Tableau L ℚ) (options : Options ℚ) : Prop :=
  ∀ (state : SolveState L ℚ) (tableau : Tableau L ℚ) (entering : Fin L.width)
    (leaving : Fin L.constraints), start.Reaches options state →
      state.Exchanges options tableau entering leaving →
        tableau.ExchangeKeeps .objective entering leaving options.tolerance

/-- Whether no exchange of a solve moves the basic solution further than a way. -/
def MovesWithin (start : Tableau L ℚ) (options : Options ℚ) (way : ℚ) : Prop :=
  ∀ (state : SolveState L ℚ) (tableau : Tableau L ℚ) (entering : Fin L.width)
    (leaving : Fin L.constraints), start.Reaches options state →
      state.Exchanges options tableau entering leaving →
        tableau.exchangeWay entering leaving ≤ way

theorem ObjectiveKept.drifts (kept : start.ObjectiveKept options) : start.Drifts options 0 0 where
  margin_nonneg := le_rfl
  reach_nonneg := le_rfl
  exchange state tableau entering leaving reached exchanges :=
    ⟨(kept state tableau entering leaving reached exchanges).roundsWithin (by simp),
      (zero_mul _).le⟩

theorem MovesWithin.drifts {way : ℚ} (within : start.MovesWithin options way)
    (tolerant : 0 ≤ options.tolerance) (forward : 0 ≤ way) :
    start.Drifts options options.tolerance (options.tolerance * way) where
  margin_nonneg := tolerant
  reach_nonneg := mul_nonneg tolerant forward
  exchange state tableau entering leaving reached exchanges :=
    ⟨roundsWithin_tolerance (by simp) tolerant,
      mul_le_mul_of_nonneg_left (within state tableau entering leaving reached exchanges) tolerant⟩

theorem Undisturbed.objectiveKept (undisturbed : start.Undisturbed options)
    (canonical : ∃ basic, start.Canonical basic) (tolerant : 0 ≤ options.tolerance) :
    start.ObjectiveKept options := by
  intro state tableau entering leaving reached exchanges column
  have clear := undisturbed.clear_exchange
    (undisturbed.reaches_sharpened canonical tolerant reached)
    (undisturbed.exchanges_sharpened canonical tolerant reached exchanges)
  exact (clear.objective.entries column).imp_right le_of_lt

end Tableau

namespace LinearProgram

variable {program : LinearProgram ℚ} {options : Options ℚ}

def ObjectiveKept (program : LinearProgram ℚ) (options : Options ℚ) : Prop :=
  ∀ L (start : Tableau L ℚ),
    Tableau.build program.system program.objective program.sense = .ok ⟨L, start⟩ →
      start.ObjectiveKept options

def MovesWithin (program : LinearProgram ℚ) (options : Options ℚ) (way : ℚ) : Prop :=
  ∀ L (start : Tableau L ℚ),
    Tableau.build program.system program.objective program.sense = .ok ⟨L, start⟩ →
      start.MovesWithin options way

theorem Undisturbed.objectiveKept (undisturbed : program.Undisturbed options)
    (tolerant : 0 ≤ options.tolerance) : program.ObjectiveKept options :=
  fun L start built => (undisturbed L start built).objectiveKept
    (Tableau.exists_canonical_of_build built) tolerant

/-- With any tolerance the reported objective value is off that of the reported values by no more
than the tolerance times a number that grows with the exchanges, the costs and the longest way of an
exchange; the way does not count if no entry of the objective row is rounded.  So the two values
agree up to a millionth if that is at most a millionth. -/
theorem solve_objectiveValue_near (tolerant : 0 ≤ options.tolerance) {way : ℚ} (forward : 0 ≤ way)
    (limited : program.ObjectiveKept options ∧ way = 0 ∨ program.MovesWithin options way)
    {solution : Solution ℚ} (solved : program.solve options = .ok solution)
    (optimal : solution.status = .optimal) :
    ∃ values value, solution.values = some values ∧ solution.objectiveValue = some value ∧
      let size := (program.objective.map fun cost => |cost|).sum
      let bound := options.tolerance *
        (solution.pivots + (solution.pivots + 1) * size + solution.pivots ^ 2 * way)
      |value - dot program.objective values| ≤ bound ∧
        (bound ≤ 1 / 10 ^ 6 →
          |value - dot program.objective values| ≤ 1 / 10 ^ 6 * max 1 |value|) := by
  obtain ⟨L, start, names, final, built, _, ends⟩ := solveSystem_eq_ok.mp solved
  obtain ⟨margin, drifts⟩ : ∃ margin, start.Drifts options margin (options.tolerance * way) := by
    rcases limited with ⟨kept, rfl⟩ | within
    · rw [mul_zero]
      exact ⟨0, (kept L start built).drifts⟩
    · exact ⟨_, (within L start built).drifts tolerant forward⟩
  obtain ⟨values, value, sameValues, sameValue, near⟩ :=
    Tableau.exists_near_of_optimal built tolerant drifts ends optimal
  refine ⟨values, value, sameValues, sameValue, ?_, ?_⟩
  · linarith
  · intro small
    have one : (1 : ℚ) ≤ max 1 |value| := le_max_left _ _
    linarith

theorem solve_objectiveValue_near_blending :
    ∃ solution values value, blending.solve .standard = .ok solution ∧
      solution.values = some values ∧ solution.objectiveValue = some value ∧
        |value - dot [3, 2] values| ≤ 1 / 10 ^ 6 * max 1 |value| := by
  have undisturbed :=
    undisturbed_blending tolerance_standard feasibilityTolerance_standard
  obtain ⟨solution, solved, read⟩ := exists_of_map_eq_ok
    (show (blending.solve .standard).map (fun solution => (solution.status, solution.pivots)) =
      .ok (.optimal, 2) by decide +kernel)
  obtain ⟨optimal, pivots⟩ := Prod.mk.inj read
  obtain ⟨values, value, sameValues, sameValue, _, near⟩ :=
    solve_objectiveValue_near tolerance_standard_nonneg le_rfl
      (.inl ⟨undisturbed.objectiveKept tolerance_standard_nonneg, rfl⟩) solved optimal
  refine ⟨solution, values, value, solved, sameValues, sameValue, near ?_⟩
  rw [tolerance_standard, pivots]
  norm_num [blending]

/-- A bound that is smaller than the standard tolerance, and a large cost. -/
def costlyTrifle : LinearProgram ℚ where
  objective := [1000000]
  constraints := [⟨.linear 1 [] .atMost (1 / 2000000000), none⟩]

/-- Small costs for variables that can grow large.  An exchange leaves a difference of them that is
smaller than the standard tolerance. -/
def trifleCosts : LinearProgram ℚ where
  objective := [4 / 1000000000, 5 / 2000000000, 2 / 1000000000]
  constraints :=
    [⟨.linear 2 [1] .atMost 1000000000, none⟩, ⟨.linear 0 [-1, 1] .atMost 1, none⟩]

/-- Whether the standard solve reports an objective value that is not that of the reported
values. -/
def ReportsApart (program : LinearProgram ℚ) : Prop :=
  ∃ solution values value, program.solve .standard = .ok solution ∧
    solution.status = .optimal ∧ solution.values = some values ∧
      solution.objectiveValue = some value ∧
        ¬ |value - dot program.objective values| ≤ 1 / 10 ^ 6 * max 1 |value|

theorem reportsApart_of_read {program : LinearProgram ℚ} {values : List ℚ} {value : ℚ}
    (read : (program.solve .standard).map (fun solution =>
      (solution.status, solution.values, solution.objectiveValue)) =
        .ok (.optimal, some values, some value))
    (exceeds : 1 / 10 ^ 6 * max 1 |value| < |value - dot program.objective values|) :
    program.ReportsApart := by
  obtain ⟨solution, solved, same⟩ := exists_of_map_eq_ok read
  simp only [Prod.mk.injEq] at same
  exact ⟨solution, values, value, solved, same.1, same.2.1, same.2.2, not_le.mpr exceeds⟩

/-- The value of the first program is read as zero but has been counted, and an entry of the
objective row of the second one is lost before its column grows large. -/
theorem solve_objectiveValue_apart : costlyTrifle.ReportsApart ∧ trifleCosts.ReportsApart := by
  constructor
  · have read : (costlyTrifle.solve .standard).map (fun solution =>
        (solution.status, solution.values, solution.objectiveValue)) =
          .ok (.optimal, some [0], some (1 / 2000)) := by decide +kernel
    exact reportsApart_of_read read (by decide +kernel)
  · have read : (trifleCosts.solve .standard).map (fun solution =>
        (solution.status, solution.values, solution.objectiveValue)) =
          .ok (.optimal, some [0, 1000000000, 1000000001], some (2000000001 / 500000000)) := by
      decide +kernel
    exact reportsApart_of_read read (by decide +kernel)

end LinearProgram

end TableauSimplex
