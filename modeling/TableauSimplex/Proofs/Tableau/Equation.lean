import Mathlib.Algebra.BigOperators.Field
import Mathlib.Algebra.BigOperators.Fin
import Mathlib.Algebra.Order.BigOperators.Group.Finset
import Mathlib.Tactic.FieldSimp
import Mathlib.Tactic.Linarith
import Mathlib.Tactic.Ring
import TableauSimplex.Proofs.Tableau.Canonical

/-!
# Tableaux as systems of equations

A row states that its linear form takes the value of its target.  The gap of a row at a vector is
what is missing from that; a vector solves a tableau if no constraint row has a gap.  An exchange
without tolerance keeps the solutions, and at a solution it keeps the gaps of the objective rows.
In canonical form the targets of the rows, put into the basic columns, are a solution, and every
other column gives a direction along which solutions stay solutions.
-/

set_option autoImplicit false

namespace TableauSimplex

namespace Row

variable {width : Nat}

def form (row : Row width ℚ) (vector : Fin width → ℚ) : ℚ :=
  ∑ column, row.entries column * vector column

/-- The amount by which a vector misses the equation of a row. -/
def gap (row : Row width ℚ) (vector : Fin width → ℚ) : ℚ :=
  row.form vector - row.target

theorem form_eliminate (row lead : Row width ℚ) (factor : ℚ) (vector : Fin width → ℚ) :
    (row.eliminate factor lead).form vector = row.form vector - factor * lead.form vector := by
  simp only [form, entries_eliminate, sub_mul, Finset.sum_sub_distrib, Finset.mul_sum, mul_assoc]

theorem gap_eliminate (row lead : Row width ℚ) (factor : ℚ) (vector : Fin width → ℚ) :
    (row.eliminate factor lead).gap vector = row.gap vector - factor * lead.gap vector := by
  rw [gap, form_eliminate, target_eliminate, gap, gap]
  ring

theorem form_divide (row : Row width ℚ) (divisor : ℚ) (vector : Fin width → ℚ) :
    (row.divide divisor).form vector = row.form vector / divisor := by
  simp only [form, entries_divide, Finset.sum_div]
  exact Finset.sum_congr rfl fun column _ => by ring

theorem gap_divide (row : Row width ℚ) (divisor : ℚ) (vector : Fin width → ℚ) :
    (row.divide divisor).gap vector = row.gap vector / divisor := by
  rw [gap, form_divide, target_divide, gap, sub_div]

theorem form_along (row : Row width ℚ) (vector direction : Fin width → ℚ) (distance : ℚ) :
    row.form (fun column => vector column + distance * direction column) =
      row.form vector + distance * row.form direction := by
  simp only [form, mul_add, Finset.sum_add_distrib, Finset.mul_sum]
  exact congrArg _ (Finset.sum_congr rfl fun column _ => by ring)

theorem gap_along (row : Row width ℚ) (vector direction : Fin width → ℚ) (distance : ℚ) :
    row.gap (fun column => vector column + distance * direction column) =
      row.gap vector + distance * row.form direction := by
  rw [gap, form_along, gap]
  ring

end Row

namespace Tableau

variable {L : Layout}

def Solves (tableau : Tableau L ℚ) (vector : Fin L.width → ℚ) : Prop :=
  ∀ row, (tableau.rows row).gap vector = 0

/-- Two tableaux with the same solutions and, at a solution, the same gap in every row. -/
structure Equivalent (first second : Tableau L ℚ) : Prop where
  solves_iff : ∀ vector, second.Solves vector ↔ first.Solves vector
  gap_eq : ∀ vector, first.Solves vector → ∀ index,
    (second.row index).gap vector = (first.row index).gap vector

namespace Equivalent

variable {first second third : Tableau L ℚ}

theorem refl (tableau : Tableau L ℚ) : Equivalent tableau tableau :=
  ⟨fun _ => Iff.rfl, fun _ _ _ => rfl⟩

theorem trans (earlier : Equivalent first second) (later : Equivalent second third) :
    Equivalent first third where
  solves_iff vector := (later.solves_iff vector).trans (earlier.solves_iff vector)
  gap_eq vector solves index := by
    rw [later.gap_eq vector ((earlier.solves_iff vector).mpr solves) index,
      earlier.gap_eq vector solves index]

theorem symm (equivalent : Equivalent first second) : Equivalent second first where
  solves_iff vector := (equivalent.solves_iff vector).symm
  gap_eq vector solves index :=
    (equivalent.gap_eq vector ((equivalent.solves_iff vector).mp solves) index).symm

/-- Along a direction in which solutions stay solutions the forms agree too. -/
theorem form_eq (equivalent : Equivalent first second) {vector direction : Fin L.width → ℚ}
    (solves : first.Solves vector) (flat : ∀ row, (first.rows row).form direction = 0)
    (index : RowIndex L) :
    (second.row index).form direction = (first.row index).form direction := by
  have moved : first.Solves fun column => vector column + 1 * direction column := by
    intro row
    rw [Row.gap_along, solves row, flat row]
    ring
  have start := equivalent.gap_eq vector solves index
  have finish := equivalent.gap_eq _ moved index
  rw [Row.gap_along, Row.gap_along, start] at finish
  linarith

end Equivalent

theorem gap_exchange (tableau : Tableau L ℚ) {entering : Fin L.width}
    {leaving : Fin L.constraints} (pivot : (tableau.rows leaving).entries entering ≠ 0)
    (vector : Fin L.width → ℚ) (index : RowIndex L) :
    ((tableau.exchange entering leaving 0).row index).gap vector =
      let step := (tableau.rows leaving).gap vector / (tableau.rows leaving).entries entering
      if index = .constraint leaving then step
      else (tableau.row index).gap vector - (tableau.row index).entries entering * step := by
  rw [row_exchange_exact tableau entering leaving pivot]
  simp only
  split
  · exact Row.gap_divide ..
  · rw [Row.gap_eliminate, Row.gap_divide]

theorem solves_exchange (tableau : Tableau L ℚ) {entering : Fin L.width}
    {leaving : Fin L.constraints} (pivot : (tableau.rows leaving).entries entering ≠ 0)
    (vector : Fin L.width → ℚ) :
    (tableau.exchange entering leaving 0).Solves vector ↔ tableau.Solves vector := by
  have gaps (row : Fin L.constraints) := gap_exchange tableau pivot vector (.constraint row)
  constructor
  · intro solves
    have leavingGap : (tableau.rows leaving).gap vector = 0 := by
      have zero := gaps leaving
      simp only [if_true] at zero
      rw [show ((tableau.exchange entering leaving 0).row (.constraint leaving)).gap vector = 0
        from solves leaving] at zero
      exact (div_eq_zero_iff.mp zero.symm).resolve_right pivot
    intro row
    by_cases isLeaving : row = leaving
    · rw [isLeaving, leavingGap]
    · have zero := gaps row
      rw [show ((tableau.exchange entering leaving 0).row (.constraint row)).gap vector = 0
        from solves row] at zero
      simpa [isLeaving, leavingGap, Tableau.row] using zero.symm
  · intro solves row
    refine (gaps row).trans ?_
    simp [solves leaving, Tableau.row, solves row]

theorem equivalent_exchange (tableau : Tableau L ℚ) {entering : Fin L.width}
    {leaving : Fin L.constraints} (pivot : (tableau.rows leaving).entries entering ≠ 0) :
    Equivalent tableau (tableau.exchange entering leaving 0) where
  solves_iff := solves_exchange tableau pivot
  gap_eq vector solves index := by
    rw [gap_exchange tableau pivot, solves leaving, zero_div]
    by_cases isLeaving : index = .constraint leaving
    · subst isLeaving
      simp [Tableau.row, solves leaving]
    · simp [isLeaving]

/-! ## Vectors from a basis -/

/-- The vector with the given values in the basic columns and zeros elsewhere. -/
def spread (basic : Fin L.constraints → Fin L.width) (values : Fin L.constraints → ℚ) :
    Fin L.width → ℚ :=
  fun column => ∑ row, if basic row = column then values row else 0

section Spread

variable {basic : Fin L.constraints → Fin L.width} (values : Fin L.constraints → ℚ)

theorem spread_basic (injective : Function.Injective basic) (row : Fin L.constraints) :
    spread basic values (basic row) = values row := by
  simp [spread, injective.eq_iff]

theorem spread_of_ne {column : Fin L.width} (nonbasic : ∀ row, basic row ≠ column) :
    spread basic values column = 0 := by
  simp [spread, nonbasic]

theorem spread_nonneg (nonneg : ∀ row, 0 ≤ values row) (column : Fin L.width) :
    0 ≤ spread basic values column := by
  apply Finset.sum_nonneg
  intro row _
  split
  · exact nonneg row
  · exact le_rfl

theorem form_spread (row : Row L.width ℚ) :
    row.form (spread basic values) = ∑ index, row.entries (basic index) * values index := by
  simp only [Row.form, spread, Finset.mul_sum]
  rw [Finset.sum_comm]
  simp

end Spread

/-- The vector with the targets of the rows in their basic columns. -/
def basicSolution (tableau : Tableau L ℚ) (basic : Fin L.constraints → Fin L.width) :
    Fin L.width → ℚ :=
  spread basic fun row => (tableau.rows row).target

/-- The direction in which a column grows and the basic columns make up for it. -/
def ray (tableau : Tableau L ℚ) (basic : Fin L.constraints → Fin L.width)
    (growing : Fin L.width) : Fin L.width → ℚ :=
  fun column => (if growing = column then 1 else 0) +
    -1 * spread basic (fun row => (tableau.rows row).entries growing) column

def travelled (tableau : Tableau L ℚ) (basic : Fin L.constraints → Fin L.width)
    (growing : Fin L.width) (distance : ℚ) : Fin L.width → ℚ :=
  fun column => tableau.basicSolution basic column + distance * tableau.ray basic growing column

namespace Canonical

variable {tableau : Tableau L ℚ} {basic : Fin L.constraints → Fin L.width}

theorem form_spread_constraint (canonical : Canonical tableau basic)
    (values : Fin L.constraints → ℚ) (row : Fin L.constraints) :
    (tableau.rows row).form (spread basic values) = values row := by
  rw [form_spread]
  simp [canonical.entries_basic]

theorem form_spread_objective (canonical : Canonical tableau basic) (index : RowIndex L)
    (objective : ∀ row, index ≠ .constraint row) (values : Fin L.constraints → ℚ) :
    (tableau.row index).form (spread basic values) = 0 := by
  rw [form_spread]
  simp [canonical.entries_basic_of_ne index (objective _)]

theorem form_spread_driving (canonical : Canonical tableau basic)
    (values : Fin L.constraints → ℚ) : tableau.driving.form (spread basic values) = 0 :=
  canonical.form_spread_objective _ drivingIndex_ne_constraint values

theorem solves_basicSolution (canonical : Canonical tableau basic) :
    tableau.Solves (tableau.basicSolution basic) := by
  intro row
  rw [Row.gap, basicSolution, canonical.form_spread_constraint, sub_self]

/-- A solution that is zero outside the basis is the basic solution. -/
theorem eq_basicSolution (canonical : Canonical tableau basic)
    {vector : Fin L.width → ℚ} (solves : tableau.Solves vector)
    (outside : ∀ column, (∀ row, basic row ≠ column) → vector column = 0) :
    vector = tableau.basicSolution basic := by
  have spreads : vector = spread basic fun row => vector (basic row) := by
    funext column
    by_cases isBasic : ∃ row, basic row = column
    · obtain ⟨row, rfl⟩ := isBasic
      rw [spread_basic _ canonical.injective]
    · have nonbasic (row : Fin L.constraints) : basic row ≠ column := fun same =>
        isBasic ⟨row, same⟩
      rw [outside column nonbasic, spread_of_ne _ nonbasic]
  have targets (row : Fin L.constraints) : vector (basic row) = (tableau.rows row).target := by
    have form := canonical.form_spread_constraint (fun row => vector (basic row)) row
    rw [← spreads] at form
    rw [← form]
    exact sub_eq_zero.mp (solves row)
  rw [spreads, basicSolution, funext targets]

theorem driving_gap_basicSolution (canonical : Canonical tableau basic) :
    tableau.driving.gap (tableau.basicSolution basic) = -tableau.driving.target := by
  rw [Row.gap, basicSolution, canonical.form_spread_driving, zero_sub]

theorem form_growing (row : Row L.width ℚ) (growing : Fin L.width) :
    row.form (fun column => if growing = column then 1 else 0) = row.entries growing := by
  simp [Row.form]

theorem form_ray (canonical : Canonical tableau basic) (growing : Fin L.width)
    (row : Fin L.constraints) : (tableau.rows row).form (tableau.ray basic growing) = 0 := by
  unfold ray
  rw [Row.form_along, form_growing, canonical.form_spread_constraint]
  ring

theorem form_ray_objective (canonical : Canonical tableau basic) (index : RowIndex L)
    (objective : ∀ row, index ≠ .constraint row) (growing : Fin L.width) :
    (tableau.row index).form (tableau.ray basic growing) = (tableau.row index).entries growing := by
  unfold ray
  rw [Row.form_along, form_growing, canonical.form_spread_objective index objective]
  ring

theorem driving_form_ray (canonical : Canonical tableau basic) (growing : Fin L.width) :
    tableau.driving.form (tableau.ray basic growing) = tableau.driving.entries growing :=
  canonical.form_ray_objective _ drivingIndex_ne_constraint growing

theorem solves_travelled (canonical : Canonical tableau basic) (growing : Fin L.width)
    (distance : ℚ) : tableau.Solves (tableau.travelled basic growing distance) := by
  intro row
  unfold travelled
  rw [Row.gap_along, canonical.solves_basicSolution row, canonical.form_ray]
  ring

theorem ray_basic (canonical : Canonical tableau basic) {growing : Fin L.width}
    (nonbasic : ∀ row, basic row ≠ growing) (row : Fin L.constraints) :
    tableau.ray basic growing (basic row) = -(tableau.rows row).entries growing := by
  rw [ray, spread_basic _ canonical.injective, if_neg (nonbasic row).symm]
  ring

theorem ray_growing {growing : Fin L.width} (nonbasic : ∀ row, basic row ≠ growing) :
    tableau.ray basic growing growing = 1 := by
  rw [ray, spread_of_ne _ nonbasic, if_pos rfl]
  ring

theorem ray_of_ne {growing column : Fin L.width} (other : growing ≠ column)
    (nonbasic : ∀ row, basic row ≠ column) : tableau.ray basic growing column = 0 := by
  rw [ray, spread_of_ne _ nonbasic, if_neg other]
  ring

theorem ray_nonneg {growing : Fin L.width}
    (blocked : ∀ row, (tableau.rows row).entries growing ≤ 0) (column : Fin L.width) :
    0 ≤ tableau.ray basic growing column := by
  have opposite : -1 * spread basic (fun row => (tableau.rows row).entries growing) column =
      spread basic (fun row => -(tableau.rows row).entries growing) column := by
    simp only [spread, Finset.mul_sum]
    apply Finset.sum_congr rfl
    intro row _
    split <;> ring
  rw [ray, opposite]
  refine add_nonneg ?_ (spread_nonneg _ (fun row => neg_nonneg.mpr (blocked row)) column)
  split <;> norm_num

end Canonical

end Tableau

end TableauSimplex
