import TableauSimplex.Proofs.Solver.Drift
import TableauSimplex.Proofs.Solver.Progress
import TableauSimplex.Proofs.Solver.Tolerance

/-!
# First phases without a leaving row

In the first phase the entry of a column in the residual row adds up its entries in the artificial
rows, up to what was rounded off the residual row, while the ratio test compares each of them with
the tolerance alone.  So several small entries together can make a column improve where no row can
leave.  That is the only way for the first phase to stop without a leaving row: the entry of the
residual row is then within the tolerance for every artificial row and the rounding before.
-/

set_option autoImplicit false

namespace TableauSimplex

namespace Tableau

variable {L : Layout} {options : Options ℚ} {start tableau : Tableau L ℚ}
  {basic : Fin L.constraints → Fin L.width} {constraints : List (Constraint ℚ)}
  {objective : List ℚ} {sense : Sense} {margin slant : ℚ}

/-! ## Residuals along a direction -/

theorem artificialSum_add_mul (vector direction : Fin L.width → ℚ) (distance : ℚ) :
    L.artificialSum (fun column => vector column + distance * direction column) =
      L.artificialSum vector + distance * L.artificialSum direction := by
  have target : (artificialCount L : Row L.width ℚ).target = 0 := rfl
  have form : (artificialCount L).form direction = L.artificialSum direction := by
    rw [← gap_artificialCount, Row.gap, target, sub_zero]
  rw [← gap_artificialCount, Row.gap_along, gap_artificialCount, form]

theorem Represents.form_residual (represents : Represents tableau constraints objective sense)
    {vector direction : Fin L.width → ℚ} (solves : tableau.Solves vector)
    (flat : tableau.Flat direction) :
    tableau.residual.form direction = L.artificialSum direction := by
  have moved := represents.residual_gap _ ((flat_iff_of_solves solves direction).mp flat)
  rw [Row.gap_along, artificialSum_add_mul, represents.residual_gap vector solves] at moved
  linarith

theorem Canonical.neg_sum_le_artificialSum_ray (canonical : Canonical tableau basic)
    (growing : Fin L.width) :
    -∑ row, (if tableau.isArtificialRow row then (tableau.rows row).entries growing else 0) ≤
      L.artificialSum (tableau.ray basic growing) := by
  have unit_nonneg : 0 ≤ L.artificialSum fun column => if growing = column then 1 else 0 :=
    Layout.artificialSum_nonneg fun column => by split <;> norm_num
  unfold ray
  rw [artificialSum_add_mul, canonical.artificialSum_spread]
  linarith

/-! ## The residual row of a first phase -/

def artificialRows (tableau : Tableau L ℚ) : Finset (Fin L.constraints) :=
  Finset.univ.filter fun row => tableau.isArtificialRow row

theorem sum_artificialRows_le {tolerance : ℚ} {column : Fin L.width}
    (small : ∀ row, (tableau.rows row).entries column ≤ tolerance) :
    ∑ row, (if tableau.isArtificialRow row then (tableau.rows row).entries column else 0) ≤
      tolerance * tableau.artificialRows.card := by
  rw [← Finset.sum_filter, mul_comm, ← nsmul_eq_mul]
  exact Finset.sum_le_card_nsmul _ _ _ fun row _ => small row

def HoldsResidual (start : Tableau L ℚ) (margin : ℚ) (count : Nat) : SolveState L ℚ → Prop
  | .within state =>
      state.tableau.phase = .first → start.Parallel state.tableau .residual (count * margin)
  | .between _ _ => True

/-- Whether no exchange of the first phase rounds the entries of the residual row by more than a
margin. -/
def ResidualRounds (start : Tableau L ℚ) (options : Options ℚ) (margin : ℚ) : Prop :=
  ∀ (state : PhaseState L ℚ) (entering : Fin L.width) (leaving : Fin L.constraints),
    start.Reaches options (.within state) → state.tableau.phase = .first →
      state.nextMove options.tolerance options.rule = .exchange entering leaving →
        state.tableau.RoundsWithin .residual entering leaving options.tolerance margin

theorem ReachesAfter.holdsResidual {count : Nat} {state : SolveState L ℚ}
    (reached : start.ReachesAfter options count state) (tolerant : 0 ≤ options.tolerance)
    (canonical : ∃ basic, start.Canonical basic) (rounds : start.ResidualRounds options margin) :
    start.HoldsResidual margin count state := by
  induction reached with
  | start =>
      intro _
      rw [Nat.cast_zero, zero_mul]
      exact .refl start .residual
  | @exchange count state next tableau entering leaving earlier exchanges step induction =>
      cases step with
      | @exchange state entering leaving move =>
          intro first
          obtain ⟨basic, canonical⟩ := earlier.reaches.exists_canonical tolerant canonical
          have pivot := (SolveState.Exchanges.phase move).pivot_ne_zero tolerant
          have parallel := (induction first).trans (canonical.parallel_exchange pivot
            (rounds state entering leaving earlier.reaches first move))
          rwa [← add_one_mul, ← Nat.cast_add_one] at parallel
      | leave _ _ _ => trivial
      | skip _ => trivial
      | keep _ _ => trivial
      | expel _ _ => trivial
      | enter _ =>
          intro first
          cases first
  | rest earlier rests step induction =>
      cases step with
      | exchange move => exact absurd (.phase move) (rests _ _ _)
      | leave _ _ _ => trivial
      | skip _ => trivial
      | keep _ _ => trivial
      | expel _ _ => trivial
      | enter _ =>
          intro first
          cases first

theorem Canonical.neg_le_entries_residual (canonical : Canonical tableau basic)
    (represents : Represents start constraints objective sense)
    (startCanonical : ∃ basic, start.Canonical basic)
    (parallel : start.Parallel tableau .residual slant) (upward : 0 ≤ slant)
    {tolerance : ℚ} {column : Fin L.width}
    (small : ∀ row, (tableau.rows row).entries column ≤ tolerance) :
    -(tolerance * tableau.artificialRows.card +
        slant * (1 + ∑ row, |(tableau.rows row).entries column|)) ≤
      tableau.residual.entries column := by
  obtain ⟨startBasic, startCanonical⟩ := startCanonical
  have flat := (parallel.flat_iff _).mp (canonical.form_ray column)
  have first := represents.form_residual startCanonical.solves_basicSolution flat
  have now : tableau.residual.form (tableau.ray basic column) = tableau.residual.entries column :=
    canonical.form_ray_objective .residual (by simp) column
  have close : |tableau.residual.form (tableau.ray basic column) -
      start.residual.form (tableau.ray basic column)| ≤ slant * _ :=
    parallel.form_close _ flat
  rw [now, first, abs_le] at close
  have falls := canonical.neg_sum_le_artificialSum_ray column
  have sum := sum_artificialRows_le small
  have length := mul_le_mul_of_nonneg_left (oneNorm_ray_le tableau basic column) upward
  linarith

/-- Whether no exchange of the first phase rounds an entry of the residual row. -/
def ResidualKept (start : Tableau L ℚ) (options : Options ℚ) : Prop :=
  ∀ (state : PhaseState L ℚ) (entering : Fin L.width) (leaving : Fin L.constraints),
    start.Reaches options (.within state) → state.tableau.phase = .first →
      state.nextMove options.tolerance options.rule = .exchange entering leaving →
        state.tableau.ExchangeKeeps .residual entering leaving options.tolerance

/-- A margin for what an exchange of the first phase rounds off the residual row. -/
def ResidualMargin (start : Tableau L ℚ) (options : Options ℚ) (margin : ℚ) : Prop :=
  margin = options.tolerance ∨ start.ResidualKept options ∧ margin = 0

theorem ResidualMargin.rounds (chosen : start.ResidualMargin options margin)
    (tolerant : 0 ≤ options.tolerance) : start.ResidualRounds options margin := by
  intro state entering leaving reached first move
  rcases chosen with rfl | ⟨kept, rfl⟩
  · exact roundsWithin_tolerance (by simp) tolerant
  · exact (kept state entering leaving reached first move).roundsWithin (by simp)

/-- The least that the residual row can hold in a column whose entries are all within the tolerance,
after a number of exchanges that have rounded it by no more than a margin each. -/
def leastResidual (tableau : Tableau L ℚ) (tolerance margin : ℚ) (count : Nat)
    (column : Fin L.width) : ℚ :=
  -(tolerance * tableau.artificialRows.card +
    count * margin * (1 + ∑ row, |(tableau.rows row).entries column|))

theorem leastResidual_le (built : build constraints objective sense = .ok ⟨L, start⟩)
    (tolerant : 0 ≤ options.tolerance) (chosen : start.ResidualMargin options margin) {count : Nat}
    {state : PhaseState L ℚ} (reached : start.ReachesAfter options count (.within state))
    (first : state.tableau.phase = .first) {column : Fin L.width}
    (small : ∀ row, (state.tableau.rows row).entries column ≤ options.tolerance) :
    state.tableau.leastResidual options.tolerance margin count column ≤
      state.tableau.residual.entries column := by
  have canonical := exists_canonical_of_build built
  have parallel := reached.holdsResidual tolerant canonical (chosen.rounds tolerant) first
  obtain ⟨basic, stateCanonical⟩ := reached.reaches.exists_canonical tolerant canonical
  have upward : 0 ≤ margin := by
    rcases chosen with rfl | ⟨_, rfl⟩
    · exact tolerant
    · exact le_rfl
  exact Canonical.neg_le_entries_residual stateCanonical (build_spec built).1 canonical parallel
    (mul_nonneg count.cast_nonneg upward) small

theorem Fails.blocked_of_noLeavingRow {error : RunError} (fails : start.Fails options error)
    (tolerant : 0 ≤ options.tolerance) (canonical : ∃ basic, start.Canonical basic)
    {name snapshot : String} (same : error = .invariant { fault := .noLeavingRow name, snapshot }) :
    ∃ (count : Nat) (state : PhaseState L ℚ) (column : Fin L.width),
      start.ReachesAfter options count (.within state) ∧ state.tableau.phase = .first ∧
        name = L.columnName column.val ∧
          state.tableau.residual.entries column < -options.tolerance ∧
            ∀ row, (state.tableau.rows row).entries column ≤ options.tolerance := by
  cases fails with
  | sameVariable _ _ _ => cases congrArg InvariantError.fault (RunError.invariant.inj same)
  | check reached broken =>
      obtain ⟨basic, canonical⟩ := reached.exists_canonical tolerant canonical
      cases (canonical.checkBasis_eq_ok options.tolerance).symm.trans broken
  | @noLeavingRow state column reached first move =>
      have fault := congrArg InvariantError.fault (RunError.invariant.inj same)
      obtain ⟨count, after⟩ := ReachesAfter.exists_of_reaches reached
      obtain ⟨improves, small⟩ := blocked_of_nextMove move
      rw [driving_of_first first] at improves
      exact ⟨count, state, column, after, first, (Fault.noLeavingRow.inj fault).symm, improves,
        small⟩
  | pivotCeiling _ _ _ => cases congrArg InvariantError.fault (RunError.invariant.inj same)
  | point _ _ => cases same

end Tableau

/-- With any tolerance, in every state of the first phase: if the residual row is further below zero
in a column than entries within the tolerance and the rounding so far can take it, some entry of the
column exceeds the tolerance.  So a solve stops without a leaving row only where the residual row is
between that and the tolerance, with more than one artificial row if nothing was rounded, and never
without tolerance. -/
theorem solveSystem_noLeavingRow_only_within {options : Options ℚ}
    (tolerant : 0 ≤ options.tolerance) (constraints : List (Constraint ℚ)) (objective : List ℚ)
    (sense : Sense) (names : Option (List String)) :
    (∀ (L : Layout) (start : Tableau L ℚ) (margin : ℚ),
      Tableau.build constraints objective sense = .ok ⟨L, start⟩ →
      start.ResidualMargin options margin →
      ∀ (count : Nat) (state : PhaseState L ℚ) (column : Fin L.width),
        start.ReachesAfter options count (.within state) → state.tableau.phase = .first →
        state.tableau.residual.entries column <
            state.tableau.leastResidual options.tolerance margin count column →
          ∃ row, options.tolerance < (state.tableau.rows row).entries column) ∧
    ∀ name, StopsAt (solveSystem options constraints objective sense names) (.noLeavingRow name) →
      0 < options.tolerance ∧
      ∃ (L : Layout) (start : Tableau L ℚ) (count : Nat) (state : PhaseState L ℚ)
        (column : Fin L.width),
        Tableau.build constraints objective sense = .ok ⟨L, start⟩ ∧
        start.ReachesAfter options count (.within state) ∧ state.tableau.phase = .first ∧
        name = L.columnName column.val ∧
        state.tableau.residual.entries column < -options.tolerance ∧
        (∀ row, (state.tableau.rows row).entries column ≤ options.tolerance) ∧
        (∀ margin, start.ResidualMargin options margin →
          state.tableau.leastResidual options.tolerance margin count column ≤
            state.tableau.residual.entries column) ∧
        (start.ResidualKept options → 1 < state.tableau.artificialRows.card) := by
  constructor
  · intro L start margin built chosen count state column reached first below
    by_contra blocked
    have small (row : Fin L.constraints) :
        (state.tableau.rows row).entries column ≤ options.tolerance :=
      not_lt.mp fun large => blocked ⟨row, large⟩
    exact absurd (Tableau.leastResidual_le built tolerant chosen reached first small)
      (not_le.mpr below)
  · rintro name ⟨snapshot, failed⟩
    obtain ⟨L, start, built, fails⟩ := exists_fails_of_solveSystem failed
    obtain ⟨count, state, column, reached, first, named, improves, small⟩ :=
      fails.blocked_of_noLeavingRow tolerant (Tableau.exists_canonical_of_build built) rfl
    have least (margin : ℚ) (chosen : start.ResidualMargin options margin) :=
      Tableau.leastResidual_le built tolerant chosen reached first small
    refine ⟨?_, L, start, count, state, column, built, reached, first, named, improves, small,
      least, ?_⟩
    · by_contra noTolerance
      have zero : options.tolerance = 0 := le_antisymm (not_lt.mp noTolerance) tolerant
      have bound := least options.tolerance (.inl rfl)
      rw [Tableau.leastResidual, zero] at bound
      rw [zero] at improves
      linarith
    · intro kept
      by_contra few
      have bound := least 0 (.inr ⟨kept, rfl⟩)
      have card : (state.tableau.artificialRows.card : ℚ) ≤ 1 := by exact_mod_cast not_lt.mp few
      have product := mul_le_mul_of_nonneg_left card tolerant
      rw [Tableau.leastResidual] at bound
      linarith

/-- An equation with a coefficient below the standard tolerance, given twice.  Together the two are
above it. -/
def faintPair : List (Constraint ℚ) :=
  [.linear (6 / 10000000000) [] .equal 0, .linear (6 / 10000000000) [] .equal 0]

theorem solveSystem_noLeavingRow_faintPair :
    StopsAt (solveSystem .standard faintPair [-1] .maximise none) (.noLeavingRow "x1") :=
  stopsAt_iff.mpr (by decide +kernel)

theorem solveSystem_noLeavingRow_only_within_faintPair :
    ∃ (L : Layout) (start : Tableau L ℚ) (count : Nat) (state : PhaseState L ℚ)
      (column : Fin L.width),
      Tableau.build faintPair [-1] .maximise = .ok ⟨L, start⟩ ∧
      start.ReachesAfter .standard count (.within state) ∧
      state.tableau.residual.entries column < -(1 / 10 ^ 9) ∧
      ∀ row, (state.tableau.rows row).entries column ≤ 1 / 10 ^ 9 := by
  have stops : StopsAt (solveSystem .standard faintPair [-1] .maximise none)
      (.noLeavingRow "x1") := stopsAt_iff.mpr (by decide +kernel)
  obtain ⟨_, L, start, count, state, column, built, reached, _, _, improves, small, _⟩ :=
    (solveSystem_noLeavingRow_only_within tolerance_standard_nonneg faintPair [-1] .maximise
      none).2 "x1" stops
  rw [tolerance_standard] at improves small
  exact ⟨L, start, count, state, column, built, reached, improves, small⟩

end TableauSimplex
