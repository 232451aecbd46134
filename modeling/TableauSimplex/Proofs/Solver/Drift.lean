import TableauSimplex.Proofs.Solver.Basis
import TableauSimplex.Proofs.Solver.Certificate
import TableauSimplex.Proofs.Solver.Count
import TableauSimplex.Proofs.Tableau.Direction

/-!
# The drift of the objective value

The target of the objective row is carried along from exchange to exchange, while the basic solution
is read off the constraint rows.  Without tolerance the target is the value that the first objective
row gives the basic solution, up to its sign.  With a tolerance the two drift apart: an exchange
adds what it rounds off the targets, and what was rounded off the entries of the objective row
before, times the way that the basic solution moves.
-/

set_option autoImplicit false

namespace TableauSimplex

namespace Tableau

variable {L : Layout} {options : Options ℚ} {start tableau : Tableau L ℚ}
  {basic : Fin L.constraints → Fin L.width} {entering : Fin L.width} {leaving : Fin L.constraints}
  {tolerance margin slant reach : ℚ}

/-! ## The way of an exchange -/

/-- How far an exchange moves the basic solution: its ratio times the change of all columns. -/
def exchangeWay (tableau : Tableau L ℚ) (entering : Fin L.width) (leaving : Fin L.constraints) :
    ℚ :=
  |tableau.ratio (.entry entering) leaving| * (1 + ∑ row, |(tableau.rows row).entries entering|)

theorem oneNorm_spread_le (basic : Fin L.constraints → Fin L.width)
    (values : Fin L.constraints → ℚ) :
    oneNorm (spread basic values) ≤ oneNorm values := by
  calc oneNorm (spread basic values)
      ≤ ∑ column, ∑ row, |if basic row = column then values row else 0| :=
        Finset.sum_le_sum fun _ _ => Finset.abs_sum_le_sum_abs _ _
    _ = oneNorm values := by
        rw [Finset.sum_comm]
        simp only [apply_ite abs, abs_zero, Finset.sum_ite_eq, Finset.mem_univ, if_true, oneNorm]

theorem oneNorm_ray_le (tableau : Tableau L ℚ) (basic : Fin L.constraints → Fin L.width)
    (growing : Fin L.width) :
    oneNorm (tableau.ray basic growing) ≤ 1 + ∑ row, |(tableau.rows row).entries growing| := by
  have unit : ∑ column, |if growing = column then (1 : ℚ) else 0| = 1 := by
    simp only [apply_ite abs, abs_one, abs_zero, Finset.sum_ite_eq, Finset.mem_univ, if_true]
  have others := oneNorm_spread_le basic fun row => (tableau.rows row).entries growing
  calc oneNorm (tableau.ray basic growing)
      ≤ ∑ column, (|if growing = column then (1 : ℚ) else 0| +
          |spread basic (fun row => (tableau.rows row).entries growing) column|) := by
        refine Finset.sum_le_sum fun column _ => ?_
        rw [ray, neg_one_mul, ← sub_eq_add_neg]
        exact abs_sub _ _
    _ ≤ 1 + ∑ row, |(tableau.rows row).entries growing| := by
        rw [Finset.sum_add_distrib, unit]
        exact add_le_add le_rfl others

theorem abs_ratio_mul_oneNorm_ray_le :
    |tableau.ratio (.entry entering) leaving| * oneNorm (tableau.ray basic entering) ≤
      tableau.exchangeWay entering leaving :=
  mul_le_mul_of_nonneg_left (oneNorm_ray_le tableau basic entering) (abs_nonneg _)

/-! ## Drift -/

/-- What the target of the objective row is off the value that the first objective row gives the
basic solution. -/
def drift (start tableau : Tableau L ℚ) (basic : Fin L.constraints → Fin L.width) : ℚ :=
  start.objective.form (tableau.basicSolution basic) + tableau.objective.target

theorem Canonical.abs_drift_exchange_exact_sub_le (canonical : Canonical tableau basic)
    (parallel : start.Parallel tableau .objective slant) (upward : 0 ≤ slant)
    (pivot : (tableau.rows leaving).entries entering ≠ 0) (replaced : basic leaving ≠ entering) :
    |start.drift (tableau.exchange entering leaving 0) (Function.update basic leaving entering) -
        start.drift tableau basic| ≤ slant * tableau.exchangeWay entering leaving := by
  let ratio := tableau.ratio (.entry entering) leaving
  let ray := tableau.ray basic entering
  have target : (tableau.exchange entering leaving 0).objective.target =
      tableau.objective.target - tableau.objective.entries entering * ratio :=
    objective_target_exchange .objective (by simp) pivot
  have entry : tableau.objective.form ray = tableau.objective.entries entering :=
    canonical.form_ray_objective .objective (by simp) entering
  have close : |tableau.objective.form ray - start.objective.form ray| ≤ slant * oneNorm ray :=
    parallel.form_close ray ((parallel.flat_iff ray).mp (canonical.form_ray entering))
  have moved : start.drift (tableau.exchange entering leaving 0)
      (Function.update basic leaving entering) - start.drift tableau basic =
        -(ratio * (tableau.objective.form ray - start.objective.form ray)) := by
    rw [drift, drift, canonical.basicSolution_exchange pivot replaced, target, entry]
    unfold travelled
    rw [Row.form_along]
    ring
  calc |start.drift (tableau.exchange entering leaving 0) (Function.update basic leaving entering) -
          start.drift tableau basic|
      = |ratio| * |tableau.objective.form ray - start.objective.form ray| := by
        rw [moved, abs_neg, abs_mul]
    _ ≤ |ratio| * (slant * oneNorm ray) := mul_le_mul_of_nonneg_left close (abs_nonneg _)
    _ = slant * (|ratio| * oneNorm ray) := by ring
    _ ≤ slant * tableau.exchangeWay entering leaving :=
        mul_le_mul_of_nonneg_left abs_ratio_mul_oneNorm_ray_le upward

theorem abs_drift_exchange_sub_le (start tableau : Tableau L ℚ) (entering : Fin L.width)
    (leaving : Fin L.constraints) {next : Fin L.constraints → Fin L.width}
    (injective : Function.Injective next) (tolerant : 0 ≤ tolerance) :
    |start.drift (tableau.exchange entering leaving tolerance) next -
        start.drift (tableau.exchange entering leaving 0) next| ≤
      tolerance * (1 + oneNorm start.objective.entries.get) := by
  have form := start.objective.abs_form_sub_le
    (abs_basicSolution_exchange_sub_le tableau entering leaving injective tolerant)
  have target : |(tableau.exchange entering leaving tolerance).objective.target -
      (tableau.exchange entering leaving 0).objective.target| ≤ tolerance :=
    abs_target_exchange_sub_le tableau entering leaving tolerant .objective
  have triangle := abs_add_le
    (start.objective.form ((tableau.exchange entering leaving tolerance).basicSolution next) -
      start.objective.form ((tableau.exchange entering leaving 0).basicSolution next))
    ((tableau.exchange entering leaving tolerance).objective.target -
      (tableau.exchange entering leaving 0).objective.target)
  rw [drift, drift, add_sub_add_comm]
  linarith

/-- A tableau after a number of exchanges, each of which has rounded the entries of the objective
row within a margin and has gone a way that reaches no further than the margin allows. -/
structure Drifted (start : Tableau L ℚ) (tolerance margin reach : ℚ) (count : Nat)
    (tableau : Tableau L ℚ) (basic : Fin L.constraints → Fin L.width) : Prop where
  canonical : tableau.Canonical basic
  parallel : start.Parallel tableau .objective (count * margin)
  drift_le : |start.drift tableau basic| ≤
    count * (tolerance * (1 + oneNorm start.objective.entries.get)) + count ^ 2 * reach

namespace Drifted

variable {count : Nat} (drifted : Drifted start tolerance margin reach count tableau basic)

include drifted

theorem exchange (tolerant : 0 ≤ tolerance) (upward : 0 ≤ margin) (reaching : 0 ≤ reach)
    (pivot : (tableau.rows leaving).entries entering ≠ 0) (replaced : basic leaving ≠ entering)
    (rounds : tableau.RoundsWithin .objective entering leaving tolerance margin)
    (near : margin * tableau.exchangeWay entering leaving ≤ reach) :
    Drifted start tolerance margin reach (count + 1)
      (tableau.exchange entering leaving tolerance) (Function.update basic leaving entering) where
  canonical := drifted.canonical.exchange pivot tolerance
  parallel := by
    have parallel := drifted.parallel.trans (drifted.canonical.parallel_exchange pivot rounds)
    rwa [← add_one_mul, ← Nat.cast_add_one] at parallel
  drift_le := by
    have next := drifted.canonical.exchange pivot tolerance
    have unrounded := drifted.canonical.abs_drift_exchange_exact_sub_le drifted.parallel
      (mul_nonneg count.cast_nonneg upward) pivot replaced
    have rounded := abs_drift_exchange_sub_le start tableau entering leaving next.injective tolerant
    have before := drifted.drift_le
    have moved : count * margin * tableau.exchangeWay entering leaving ≤ count * reach := by
      rw [mul_assoc]
      exact mul_le_mul_of_nonneg_left near count.cast_nonneg
    have slack : 0 ≤ (count + 1) * reach := mul_nonneg (by positivity) reaching
    rw [abs_le] at unrounded rounded before ⊢
    push_cast
    constructor <;> linarith

theorem of_rows_eq {other : Tableau L ℚ} (canonical : other.Canonical basic)
    (rows : other.rows = tableau.rows) (objective : other.objective = tableau.objective) :
    Drifted start tolerance margin reach count other basic where
  canonical := canonical
  parallel := by
    have same : tableau.Parallel other .objective 0 := by
      apply Parallel.of_entries_close
      · intro row column
        rw [rows]
      · intro column
        rw [show other.row .objective = tableau.row .objective from objective, sub_self, abs_zero]
    have parallel := drifted.parallel.trans same
    rwa [add_zero] at parallel
  drift_le := by
    have same : start.drift other basic = start.drift tableau basic := by
      rw [drift, drift, basicSolution, basicSolution, rows, objective]
    rw [same]
    exact drifted.drift_le

end Drifted

/-! ## The drift of a solve -/

/-- The objective row of a first tableau: its target is zero, and it does not meet the artificial
columns. -/
structure FreshObjective (start : Tableau L ℚ) : Prop where
  target : start.objective.target = 0
  artificial : ∀ column : Fin L.width, L.structural ≤ column.val →
    start.objective.entries column = 0

theorem Drifted.clearTarget {count : Nat}
    (drifted : Drifted start tolerance margin reach count tableau basic)
    (fresh : start.FreshObjective) {row : Fin L.constraints}
    (artificial : tableau.isArtificialRow row = true) :
    Drifted start tolerance margin reach count (tableau.clearTarget row) basic where
  canonical := drifted.canonical.of_entries_eq (fun _ => rfl) (entries_clearTarget tableau row)
  parallel := by
    have parallel := drifted.parallel.trans (.of_entries_eq (entries_clearTarget tableau row))
    rwa [add_zero] at parallel
  drift_le := by
    have form : start.objective.form ((tableau.clearTarget row).basicSolution basic) =
        start.objective.form (tableau.basicSolution basic) := by
      rw [basicSolution, basicSolution, form_spread, form_spread]
      apply Finset.sum_congr rfl
      intro other _
      rw [rows_clearTarget]
      split
      · rename_i same
        subst same
        have isArtificial := (isArtificialRow_iff drifted.canonical row).mp artificial
        rw [fresh.artificial _ isArtificial, zero_mul, zero_mul]
      · rfl
    have same : start.drift (tableau.clearTarget row) basic = start.drift tableau basic := by
      rw [drift, form]
      rfl
    rw [same]
    exact drifted.drift_le

/-- Whether no exchange of a solve rounds the entries of the objective row by more than a margin,
and none goes a way that times the margin exceeds a reach. -/
structure Drifts (start : Tableau L ℚ) (options : Options ℚ) (margin reach : ℚ) : Prop where
  margin_nonneg : 0 ≤ margin
  reach_nonneg : 0 ≤ reach
  exchange : ∀ (state : SolveState L ℚ) (tableau : Tableau L ℚ) (entering : Fin L.width)
    (leaving : Fin L.constraints), start.Reaches options state →
      state.Exchanges options tableau entering leaving →
        tableau.RoundsWithin .objective entering leaving options.tolerance margin ∧
          margin * tableau.exchangeWay entering leaving ≤ reach

theorem Drifted.of_exchanges {count : Nat} {state : SolveState L ℚ}
    (drifted : Drifted start tolerance margin reach count state.tableau basic)
    (fresh : start.FreshObjective)
    (exchanges : state.Exchanges options tableau entering leaving) :
    Drifted start tolerance margin reach count tableau basic := by
  cases exchanges with
  | phase _ => exact drifted
  | handOver artificial _ => exact drifted.clearTarget fresh artificial

theorem ReachesAfter.drifted {count : Nat} {state : SolveState L ℚ}
    (reached : start.ReachesAfter options count state) (tolerant : 0 ≤ options.tolerance)
    (canonical : ∃ basic, start.Canonical basic) (fresh : start.FreshObjective)
    (drifts : start.Drifts options margin reach) :
    ∃ basic, Drifted start options.tolerance margin reach count state.tableau basic := by
  induction reached with
  | start =>
      obtain ⟨basic, canonical⟩ := canonical
      have zero : start.drift start basic = 0 := by
        rw [drift, basicSolution, fresh.target, add_zero]
        exact canonical.form_spread_objective .objective (by simp) _
      refine ⟨basic, canonical, ?_, ?_⟩
      · rw [Nat.cast_zero, zero_mul]
        exact .refl start .objective
      · simp [SolveState.tableau, zero]
  | @exchange count state next tableau entering leaving earlier exchanges step induction =>
      obtain ⟨basic, drifted⟩ := induction
      rw [exchanges.tableau_of_step step]
      obtain ⟨rounds, near⟩ := drifts.exchange _ _ _ _ earlier.reaches exchanges
      exact ⟨_, (drifted.of_exchanges fresh exchanges).exchange tolerant drifts.margin_nonneg
        drifts.reach_nonneg (exchanges.pivot_ne_zero tolerant)
        (exchanges.basic_ne_entering tolerant drifted.canonical) rounds near⟩
  | rest earlier rests step induction =>
      obtain ⟨basic, drifted⟩ := induction
      cases step with
      | exchange move => exact absurd (.phase move) (rests _ _ _)
      | leave _ _ _ =>
          exact ⟨basic, drifted.of_rows_eq (drifted.canonical.of_entries_eq (fun _ => rfl)
            fun index => by cases index <;> rfl) rfl rfl⟩
      | skip _ => exact ⟨basic, drifted⟩
      | keep artificial _ => exact ⟨basic, drifted.clearTarget fresh artificial⟩
      | expel artificial chosen => exact absurd (.handOver artificial chosen) (rests _ _ _)
      | enter _ =>
          exact ⟨basic, drifted.of_rows_eq (drifted.canonical.of_entries_eq (fun _ => rfl)
            fun index => by cases index <;> rfl) rfl rfl⟩

end Tableau

end TableauSimplex
