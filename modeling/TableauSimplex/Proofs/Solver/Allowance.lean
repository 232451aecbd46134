import TableauSimplex.Proofs.Solver.Progress
import TableauSimplex.Proofs.Solver.Verdict
import TableauSimplex.Proofs.Tableau.Violation

/-!
# What the allowance lets through

Without tolerance the hand-over clears the targets that the first phase leaves in artificial rows.
Every solution of a later tableau, moved by the cleared targets in their artificial columns, solves
the first tableau.  The cleared targets add up to the residual, which is within the allowance, so
the constraints are violated by no more than that.
-/

set_option autoImplicit false

namespace TableauSimplex

namespace Tableau

variable {L : Layout} {options : Options ℚ} {start tableau : Tableau L ℚ}
  {basic : Fin L.constraints → Fin L.width}

/-! ## Moved solutions -/

/-- Whether the solutions of a tableau, moved by a shift of the artificial columns, solve the first
tableau with the same gap of the objective row. -/
structure Moved (start tableau : Tableau L ℚ) (shift : Fin L.width → ℚ) : Prop where
  nonneg : ∀ column, 0 ≤ shift column
  structural : ∀ column : Fin L.width, column.val < L.structural → shift column = 0
  solves : ∀ vector, tableau.Solves vector →
    start.Solves fun column => vector column + shift column
  objective_gap : ∀ vector, tableau.Solves vector →
    start.objective.gap (fun column => vector column + shift column) = tableau.objective.gap vector

theorem moved_of_equivalent (equivalent : start.Equivalent tableau) :
    start.Moved tableau fun _ => 0 where
  nonneg _ := le_rfl
  structural _ _ := rfl
  solves vector solves := by
    simpa only [add_zero] using (equivalent.solves_iff vector).mp solves
  objective_gap vector solves := by
    have original := (equivalent.solves_iff vector).mp solves
    have same : start.objective.gap vector = tableau.objective.gap vector :=
      (equivalent.gap_eq vector original .objective).symm
    simpa only [add_zero] using same

theorem Moved.equivalent {shift : Fin L.width → ℚ} {next : Tableau L ℚ}
    (moved : start.Moved tableau shift) (equivalent : tableau.Equivalent next) :
    start.Moved next shift where
  nonneg := moved.nonneg
  structural := moved.structural
  solves vector solves := moved.solves vector ((equivalent.solves_iff vector).mp solves)
  objective_gap vector solves := by
    have original := (equivalent.solves_iff vector).mp solves
    rw [moved.objective_gap vector original]
    exact (equivalent.gap_eq vector original .objective).symm

/-- Clearing the target of a row takes that much out of its basic column. -/
theorem Canonical.gap_clearTarget (canonical : tableau.Canonical basic) (row : Fin L.constraints)
    (vector : Fin L.width → ℚ) (index : RowIndex L) :
    (tableau.row index).gap (fun column => vector column +
        (tableau.rows row).target * if basic row = column then 1 else 0) =
      ((tableau.clearTarget row).row index).gap vector := by
  rw [Row.gap_along, Canonical.form_growing, canonical.unit row index]
  have forms : ((tableau.clearTarget row).row index).form vector =
      (tableau.row index).form vector := by
    simp only [Row.form, entries_clearTarget]
  rw [Row.gap, Row.gap, forms]
  cases index with
  | residual => simp [Tableau.row, clearTarget]
  | objective => simp [Tableau.row, clearTarget]
  | constraint other =>
      simp only [Tableau.row, rows_clearTarget, RowIndex.constraint.injEq]
      by_cases same : other = row
      · subst same
        simp
      · rw [if_neg same, if_neg (Ne.symm same)]
        ring

theorem Moved.clearTarget {shift : Fin L.width → ℚ} (moved : start.Moved tableau shift)
    (canonical : tableau.Canonical basic) {row : Fin L.constraints}
    (target_nonneg : 0 ≤ (tableau.rows row).target) (artificial : L.structural ≤ (basic row).val) :
    start.Moved (tableau.clearTarget row) fun column => shift column +
      (tableau.rows row).target * if basic row = column then 1 else 0 := by
  have original (vector : Fin L.width → ℚ) (solves : (tableau.clearTarget row).Solves vector) :
      tableau.Solves fun column => vector column +
        (tableau.rows row).target * if basic row = column then 1 else 0 := by
    intro other
    exact (canonical.gap_clearTarget row vector (.constraint other)).trans (solves other)
  have regroup (vector : Fin L.width → ℚ) :
      (fun column => vector column + (shift column +
        (tableau.rows row).target * if basic row = column then 1 else 0)) =
      fun column => (vector column +
        (tableau.rows row).target * if basic row = column then 1 else 0) + shift column := by
    funext column
    ring
  refine ⟨?_, ?_, ?_, ?_⟩
  · intro column
    refine add_nonneg (moved.nonneg column) (mul_nonneg target_nonneg ?_)
    split <;> norm_num
  · intro column structural
    have other : basic row ≠ column := by
      rintro rfl
      omega
    rw [moved.structural column structural, if_neg other, mul_zero, add_zero]
  · intro vector solves
    rw [regroup]
    exact moved.solves _ (original vector solves)
  · intro vector solves
    rw [regroup, moved.objective_gap _ (original vector solves)]
    exact canonical.gap_clearTarget row vector .objective

theorem artificialSum_along (shift : Fin L.width → ℚ) (distance : ℚ) {column : Fin L.width}
    (artificial : L.structural ≤ column.val) :
    L.artificialSum (fun other => shift other + distance * if column = other then 1 else 0) =
      L.artificialSum shift + distance := by
  have entry : (artificialCount L : Row L.width ℚ).entries column = 1 := by
    simp [artificialCount, Layout.isArtificial, artificial]
  rw [← gap_artificialCount, Row.gap_along, gap_artificialCount, Canonical.form_growing, entry,
    mul_one]

/-! ## What is left to clear -/

/-- The targets of the artificial rows among some rows. -/
def pendingMass (tableau : Tableau L ℚ) (pending : List (Fin L.constraints)) : ℚ :=
  (pending.map fun row => if tableau.isArtificialRow row then (tableau.rows row).target else 0).sum

theorem pendingMass_constraintRows (tableau : Tableau L ℚ) :
    tableau.pendingMass L.constraintRows = tableau.artificialMass :=
  (Fin.sum_univ_def _).symm

theorem pendingMass_cons (tableau : Tableau L ℚ) (row : Fin L.constraints)
    (rest : List (Fin L.constraints)) :
    tableau.pendingMass (row :: rest) =
      (if tableau.isArtificialRow row then (tableau.rows row).target else 0) +
        tableau.pendingMass rest :=
  List.sum_cons

theorem pendingMass_clearTarget_le {row : Fin L.constraints}
    (target_nonneg : 0 ≤ (tableau.rows row).target) (pending : List (Fin L.constraints)) :
    (tableau.clearTarget row).pendingMass pending ≤ tableau.pendingMass pending := by
  apply List.sum_le_sum
  intro other _
  have artificial :
      (tableau.clearTarget row).isArtificialRow other = tableau.isArtificialRow other := rfl
  rw [artificial, rows_clearTarget]
  by_cases same : row = other
  · subst same
    rw [if_pos rfl]
    split
    · exact target_nonneg
    · exact le_rfl
  · rw [if_neg same]

theorem isArtificialRow_exchange_of_ne {entering : Fin L.width} {leaving row : Fin L.constraints}
    (other : leaving ≠ row) (tolerance : ℚ) :
    (tableau.exchange entering leaving tolerance).isArtificialRow row =
      tableau.isArtificialRow row := by
  rw [isArtificialRow, basis_exchange, if_neg other, isArtificialRow]

theorem pendingMass_exchange {entering : Fin L.width} {row : Fin L.constraints}
    (cleared : (tableau.rows row).target = 0) (pivot : (tableau.rows row).entries entering ≠ 0)
    (pending : List (Fin L.constraints)) :
    (tableau.exchange entering row 0).pendingMass pending = tableau.pendingMass pending := by
  unfold pendingMass
  congr 2
  funext other
  rw [target_exchange_of_zero cleared pivot]
  by_cases same : row = other
  · rw [← same, cleared]
    simp only [ite_self]
  · rw [isArtificialRow_exchange_of_ne same]

/-! ## The account of a solve -/

/-- How the allowance is used up within a solve: by what has been cleared and by what is left to
clear. -/
def Accounted (start : Tableau L ℚ) (allowance : ℚ) : SolveState L ℚ → Prop
  | .within state =>
      state.tableau.phase = .second →
        ∃ shift, start.Moved state.tableau shift ∧ L.artificialSum shift ≤ allowance
  | .between pending tableau =>
      ∃ shift, start.Moved tableau shift ∧
        L.artificialSum shift + tableau.pendingMass pending ≤ allowance

section Account

variable {constraints : List (Constraint ℚ)} {objective : List ℚ} {sense : Sense}

theorem artificialSum_zero : L.artificialSum (fun _ => 0) = 0 := by
  simp [Layout.artificialSum]

/-- Clearing a pending artificial row moves its target from what is left to what has been
cleared. -/
theorem accounted_clearTarget {allowance : ℚ} {row : Fin L.constraints}
    {rest : List (Fin L.constraints)} (settled : Settled tableau basic (row :: rest))
    (artificial : tableau.isArtificialRow row = true)
    (accounted : start.Accounted allowance (.between (row :: rest) tableau)) :
    start.Accounted allowance (.between rest (tableau.clearTarget row)) := by
  obtain ⟨shift, moved, mass⟩ := accounted
  have target_nonneg := settled.targets_nonneg row
  have isArtificial := (isArtificialRow_iff settled.canonical row).mp artificial
  have less := pendingMass_clearTarget_le target_nonneg rest
  rw [pendingMass_cons, if_pos artificial] at mass
  refine ⟨_, moved.clearTarget settled.canonical target_nonneg isArtificial, ?_⟩
  rw [artificialSum_along _ _ isArtificial]
  linarith

theorem Accounted.step (represents : Represents start constraints objective sense)
    (noTolerance : options.tolerance = 0) {state next : SolveState L ℚ}
    (orderly : start.Orderly state)
    (accounted : start.Accounted options.feasibilityTolerance state)
    (step : state.Step options next) : start.Accounted options.feasibilityTolerance next := by
  cases step with
  | exchange move =>
      rw [noTolerance] at move ⊢
      have chosen := chosen_of_nextMove move
      intro second
      obtain ⟨shift, moved, mass⟩ := accounted second
      exact ⟨shift, moved.equivalent (equivalent_exchange _ chosen.positive.ne'), mass⟩
  | @leave state _ first small =>
      -- Nothing has been cleared yet, and all that is left to clear is the residual.
      obtain ⟨⟨basic, admissible⟩, meaning⟩ := orderly
      obtain ⟨equivalent, sameSense⟩ := meaning first
      have moved := moved_of_equivalent equivalent
      have residual :=
        (represents.of_equivalent equivalent sameSense).infeasibility_eq admissible.canonical
      refine ⟨_, ⟨moved.nonneg, moved.structural, moved.solves, moved.objective_gap⟩, ?_⟩
      have mass : state.tableau.clearResidual.pendingMass L.constraintRows =
          state.tableau.infeasibility := by
        rw [residual, ← pendingMass_constraintRows]
        rfl
      rw [artificialSum_zero, zero_add, mass]
      exact not_lt.mp small
  | skip structural =>
      obtain ⟨shift, moved, mass⟩ := accounted
      rw [pendingMass_cons, if_neg structural, zero_add] at mass
      exact ⟨shift, moved, mass⟩
  | keep artificial missing =>
      obtain ⟨basic, settled⟩ := orderly
      exact accounted_clearTarget settled artificial accounted
  | @expel row rest tableau entering artificial chosen =>
      obtain ⟨basic, settled⟩ := orderly
      rw [noTolerance] at chosen ⊢
      have pivot : ((tableau.clearTarget row).rows row).entries entering ≠ 0 :=
        abs_pos.mp (replacement_spec chosen).2
      have cleared := target_clearTarget_self tableau row
      obtain ⟨shift, moved, mass⟩ := accounted_clearTarget settled artificial accounted
      refine ⟨shift, moved.equivalent (equivalent_exchange _ pivot), ?_⟩
      rwa [pendingMass_exchange cleared pivot]
  | enter tableau =>
      intro _
      obtain ⟨shift, moved, mass⟩ := accounted
      refine ⟨shift, ⟨moved.nonneg, moved.structural, moved.solves, moved.objective_gap⟩, ?_⟩
      have nothing : tableau.pendingMass [] = 0 := List.sum_nil
      rwa [nothing, add_zero] at mass

theorem Reaches.accounted {state : SolveState L ℚ} (reached : start.Reaches options state)
    (represents : Represents start constraints objective sense)
    (admissible : ∃ basic, start.Admissible basic) (noTolerance : options.tolerance = 0)
    (allowing : 0 ≤ options.feasibilityTolerance) :
    start.Accounted options.feasibilityTolerance state := by
  refine reached.invariant (start.Accounted options.feasibilityTolerance) ?_ ?_
  · intro _
    exact ⟨_, moved_of_equivalent (.refl start), artificialSum_zero.trans_le allowing⟩
  · intro state next earlier accounted step
    exact accounted.step represents noTolerance (earlier.orderly noTolerance admissible) step

/-! ## Optimal solutions -/

theorem Moved.decisionPart_eq {shift : Fin L.width → ℚ} (moved : start.Moved tableau shift)
    (vector : Fin L.width → ℚ) :
    L.decisionPart (fun column => vector column + shift column) = L.decisionPart vector := by
  unfold Layout.decisionPart
  congr 1
  funext decision
  have structural : (L.decisionColumn decision).val < L.structural :=
    decision.isLt.trans_le L.decisions_le_structural
  simp only [moved.structural _ structural, add_zero]

theorem artificialSum_add_of_genuine {vector : Fin L.width → ℚ} (genuine : L.Genuine vector)
    (shift : Fin L.width → ℚ) :
    L.artificialSum (fun column => vector column + shift column) = L.artificialSum shift := by
  apply Finset.sum_congr rfl
  intro column _
  split
  · rename_i artificial
    simp only [genuine.artificial column artificial, zero_add]
  · rfl

section Optimal

variable {shift : Fin L.width → ℚ} (moved : start.Moved tableau shift)
  (admissible : tableau.Admissible basic) (second : tableau.phase = .second)

include moved admissible second

theorem Moved.sum_violation_le (built : build constraints objective sense = .ok ⟨L, start⟩) :
    (constraints.map fun constraint =>
        constraint.violation (L.decisionPart (tableau.basicSolution basic))).sum ≤
      L.artificialSum shift := by
  have solves := moved.solves _ admissible.canonical.solves_basicSolution
  have nonneg (column : Fin L.width) : 0 ≤ tableau.basicSolution basic column + shift column :=
    add_nonneg (admissible.basicSolution_nonneg column) (moved.nonneg column)
  have bound := sum_violation_of_build built solves nonneg
  rwa [moved.decisionPart_eq,
    artificialSum_add_of_genuine (genuine_basicSolution admissible second)] at bound

theorem Moved.objectiveValue_eq (represents : Represents start constraints objective sense)
    (sameSense : tableau.sense = start.sense) :
    tableau.objectiveValue = dot objective (L.decisionPart (tableau.basicSolution basic)) := by
  have solves := admissible.canonical.solves_basicSolution
  have gap := admissible.canonical.driving_gap_basicSolution
  rw [driving_of_second second, ← moved.objective_gap _ solves,
    represents.objective_gap _ (moved.solves _ solves), moved.decisionPart_eq] at gap
  exact objectiveValue_eq_of_cost (sameSense.trans represents.sense_eq) gap

end Optimal

/-- Without tolerance the values of an optimal solution are not negative, all violations of the
constraints together are within the allowance, and the objective value is exact. -/
theorem violations_of_optimal (built : build constraints objective sense = .ok ⟨L, start⟩)
    (noTolerance : options.tolerance = 0) (allowing : 0 ≤ options.feasibilityTolerance)
    {names : List String} {solution : Solution ℚ} {final : Tableau L ℚ}
    (ends : (start.solveNamed options names).EndsIn solution final)
    (optimal : solution.status = .optimal) :
    ∃ values, solution.values = some values ∧ (∀ value ∈ values, 0 ≤ value) ∧
      (constraints.map fun constraint => constraint.violation values).sum ≤
        options.feasibilityTolerance ∧
      solution.objectiveValue = some (dot objective values) := by
  obtain ⟨represents, startAdmissible⟩ := build_spec built
  obtain ⟨state, reached, rfl, concludes⟩ := exists_concluding_state ends
  obtain ⟨second, _, phaseOnePivots, pivots, reads⟩ := concludes.of_optimal optimal
  rw [noTolerance] at reads
  obtain ⟨⟨basic, admissible⟩, _⟩ := reached.orderly noTolerance startAdmissible
  obtain ⟨shift, moved, mass⟩ :=
    reached.accounted represents startAdmissible noTolerance allowing second
  obtain ⟨_, values, value⟩ := admissible.canonical.optimalSolution_exact reads
  rw [moved.objectiveValue_eq admissible second represents reached.sense_eq] at value
  refine ⟨_, values, ?_, (moved.sum_violation_le admissible second built).trans mass, value⟩
  intro entry member
  obtain ⟨decision, rfl⟩ := List.mem_ofFn.mp member
  exact admissible.basicSolution_nonneg _

end Account

end Tableau

/-- Without tolerance and with any allowance: an optimal solution has a value for every variable of
the program and none is negative, its constraints are violated by no more than the allowance all
together, and the objective value is that of the values. -/
theorem solveSystem_optimal_within_allowance {options : Options ℚ}
    (noTolerance : options.tolerance = 0) (allowing : 0 ≤ options.feasibilityTolerance)
    {constraints : List (Constraint ℚ)} {objective : List ℚ} {sense : Sense}
    {names : Option (List String)} {solution : Solution ℚ}
    (solved : solveSystem options constraints objective sense names = .ok solution)
    (optimal : solution.status = .optimal) :
    ∃ values, solution.values = some values ∧
      values.length = max (variableCount constraints) objective.length ∧
      (∀ value ∈ values, 0 ≤ value) ∧
      (constraints.map fun constraint => constraint.violation values).sum ≤
        options.feasibilityTolerance ∧
      solution.objectiveValue = some (dot objective values) := by
  obtain ⟨L, start, used, final, built, _, ends⟩ := solveSystem_eq_ok.mp solved
  obtain ⟨represents, _⟩ := Tableau.build_spec built
  obtain ⟨state, _, rfl, concludes⟩ := Tableau.exists_concluding_state ends
  obtain ⟨_, _, _, _, reads⟩ := concludes.of_optimal optimal
  obtain ⟨values, given, nonneg, violations, value⟩ :=
    Tableau.violations_of_optimal built noTolerance allowing ends optimal
  have length_eq := Tableau.length_values_of_optimalSolution reads given
  exact ⟨values, given, length_eq.trans represents.size_eq, nonneg, violations, value⟩

/-- Two bounds that miss each other by a half. -/
def narrowlyMissed : List (Constraint ℚ) :=
  [.linear 1 [] .atMost 1, .linear 1 [] .atLeast (3 / 2)]

theorem solveSystem_optimal_within_allowance_narrowlyMissed :
    ∃ solution values,
      solveSystem { Options.exact with feasibilityTolerance := 1 / 2 } narrowlyMissed [1]
          .maximise none = .ok solution ∧
        solution.values = some values ∧ (∀ value ∈ values, 0 ≤ value) ∧
        (narrowlyMissed.map fun constraint => constraint.violation values).sum ≤ 1 / 2 := by
  obtain ⟨solution, solved, optimal⟩ := exists_of_map_eq_ok
    (show (solveSystem { Options.exact with feasibilityTolerance := 1 / 2 } narrowlyMissed [1]
      .maximise none).map Solution.status = .ok .optimal by decide +kernel)
  obtain ⟨values, given, _, nonneg, violations, _⟩ :=
    solveSystem_optimal_within_allowance rfl (by norm_num) solved optimal
  exact ⟨solution, values, solved, given, nonneg, violations⟩

end TableauSimplex
