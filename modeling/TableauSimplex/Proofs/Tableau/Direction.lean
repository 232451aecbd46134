import Mathlib.Algebra.Order.Ring.Abs
import TableauSimplex.Proofs.Tableau.Choice
import TableauSimplex.Proofs.Tableau.Equation

/-!
# Flat directions

A direction is flat if no constraint row changes along it.  The tolerance of an exchange rounds no
entry of a constraint row, so every exchange keeps the flat directions.  Along them an objective row
changes as it did before, up to what is rounded off its entries, and the basic solution moves along
the ray of the entering column, up to what is rounded off the targets.
-/

set_option autoImplicit false

namespace TableauSimplex

/-! ## Sums of absolute values -/

section OneNorm

variable {width : Nat}

def oneNorm (values : Fin width → ℚ) : ℚ :=
  ∑ index, |values index|

theorem abs_sum_mul_le {margin : ℚ} {small : Fin width → ℚ}
    (bounded : ∀ index, |small index| ≤ margin) (values : Fin width → ℚ) :
    |∑ index, small index * values index| ≤ margin * oneNorm values := by
  calc |∑ index, small index * values index|
      ≤ ∑ index, |small index * values index| := Finset.abs_sum_le_sum_abs _ _
    _ ≤ ∑ index, margin * |values index| := by
        refine Finset.sum_le_sum fun index _ => ?_
        rw [abs_mul]
        exact mul_le_mul_of_nonneg_right (bounded index) (abs_nonneg _)
    _ = margin * oneNorm values := by rw [oneNorm, Finset.mul_sum]

end OneNorm

namespace Row

variable {width : Nat} {margin : ℚ}

/-- Where no value changes by more than a margin, a form changes by no more than its entries
allow. -/
theorem abs_form_sub_le (row : Row width ℚ) {first second : Fin width → ℚ}
    (close : ∀ column, |first column - second column| ≤ margin) :
    |row.form first - row.form second| ≤ margin * oneNorm row.entries.get := by
  have difference : row.form first - row.form second =
      ∑ column, (first column - second column) * row.entries column := by
    simp only [form, sub_mul, Finset.sum_sub_distrib, mul_comm]
  rw [difference]
  exact abs_sum_mul_le close row.entries.get

theorem abs_form_sub_le_of_entries {first second : Row width ℚ}
    (close : ∀ column, |first.entries column - second.entries column| ≤ margin)
    (vector : Fin width → ℚ) :
    |first.form vector - second.form vector| ≤ margin * oneNorm vector := by
  have difference : first.form vector - second.form vector =
      ∑ column, (first.entries column - second.entries column) * vector column := by
    simp only [form, sub_mul, Finset.sum_sub_distrib]
  rw [difference]
  exact abs_sum_mul_le close vector

end Row

namespace Tableau

variable {L : Layout}

def Flat (tableau : Tableau L ℚ) (direction : Fin L.width → ℚ) : Prop :=
  ∀ row, (tableau.rows row).form direction = 0

/-- A direction is flat if solutions stay solutions along it. -/
theorem flat_iff_of_solves {tableau : Tableau L ℚ} {vector : Fin L.width → ℚ}
    (solves : tableau.Solves vector) (direction : Fin L.width → ℚ) :
    tableau.Flat direction ↔
      tableau.Solves fun column => vector column + 1 * direction column := by
  apply forall_congr'
  intro row
  rw [Row.gap_along, solves row, zero_add, one_mul]

/-- Two tableaux with the same flat directions, along which a row changes in the same way up to a
slant. -/
structure Parallel (first second : Tableau L ℚ) (index : RowIndex L) (slant : ℚ) : Prop where
  flat_iff : ∀ direction, second.Flat direction ↔ first.Flat direction
  form_close : ∀ direction, first.Flat direction →
    |(second.row index).form direction - (first.row index).form direction| ≤
      slant * oneNorm direction

namespace Parallel

variable {first second third : Tableau L ℚ} {index : RowIndex L} {slant margin : ℚ}

theorem refl (tableau : Tableau L ℚ) (index : RowIndex L) : Parallel tableau tableau index 0 where
  flat_iff _ := Iff.rfl
  form_close _ _ := by rw [sub_self, abs_zero, zero_mul]

theorem trans (earlier : Parallel first second index slant)
    (later : Parallel second third index margin) :
    Parallel first third index (slant + margin) where
  flat_iff direction := (later.flat_iff direction).trans (earlier.flat_iff direction)
  form_close direction flat := by
    have before := earlier.form_close direction flat
    have after := later.form_close direction ((earlier.flat_iff direction).mpr flat)
    have triangle := abs_sub_le ((third.row index).form direction)
      ((second.row index).form direction) ((first.row index).form direction)
    linarith

theorem of_entries_close
    (constraints : ∀ row column,
      (second.rows row).entries column = (first.rows row).entries column)
    (close : ∀ column,
      |(second.row index).entries column - (first.row index).entries column| ≤ margin) :
    Parallel first second index margin where
  flat_iff direction := by
    apply forall_congr'
    intro row
    have same : (second.rows row).form direction = (first.rows row).form direction :=
      Finset.sum_congr rfl fun column _ => by rw [constraints row column]
    rw [same]
  form_close direction _ := Row.abs_form_sub_le_of_entries close direction

theorem of_entries_eq
    (same : ∀ index, (second.row index).entries = (first.row index).entries) :
    Parallel first second index 0 := by
  apply of_entries_close
  · exact fun row column =>
      congrArg (fun entries => entries.get column) (same (.constraint row))
  · intro column
    rw [same index, sub_self, abs_zero]

theorem of_equivalent (equivalent : Equivalent first second) {vector : Fin L.width → ℚ}
    (solves : first.Solves vector) (index : RowIndex L) : Parallel first second index 0 where
  flat_iff direction := by
    rw [flat_iff_of_solves solves, ← equivalent.solves_iff]
    exact flat_iff_of_solves ((equivalent.solves_iff vector).mpr solves) direction
  form_close direction flat := by
    rw [equivalent.form_eq solves flat index, sub_self, abs_zero, zero_mul]

end Parallel

/-! ## What an exchange rounds -/

/-- Whether an exchange rounds no entry of a row: each that it computes is zero or as large as the
tolerance. -/
def ExchangeKeeps (tableau : Tableau L ℚ) (index : RowIndex L) (entering : Fin L.width)
    (leaving : Fin L.constraints) (tolerance : ℚ) : Prop :=
  ∀ column,
    let entry := ((tableau.exchange entering leaving 0).row index).entries column
    entry = 0 ∨ tolerance ≤ |entry|

/-- Whether an exchange rounds every entry of a row by no more than a margin. -/
def RoundsWithin (tableau : Tableau L ℚ) (index : RowIndex L) (entering : Fin L.width)
    (leaving : Fin L.constraints) (tolerance margin : ℚ) : Prop :=
  ∀ column, |((tableau.exchange entering leaving tolerance).row index).entries column -
    ((tableau.exchange entering leaving 0).row index).entries column| ≤ margin

section Rounding

variable {tableau : Tableau L ℚ} {index : RowIndex L} {entering : Fin L.width}
  {leaving : Fin L.constraints} {tolerance : ℚ} (objective : ∀ row, index ≠ .constraint row)

include objective

theorem roundsWithin_tolerance (tolerant : 0 ≤ tolerance) :
    tableau.RoundsWithin index entering leaving tolerance tolerance := by
  intro column
  rw [entries_exchange_snap tableau entering leaving tolerance objective]
  exact Scalar.abs_snap_sub_le tolerant _

theorem ExchangeKeeps.roundsWithin
    (kept : tableau.ExchangeKeeps index entering leaving tolerance) :
    tableau.RoundsWithin index entering leaving tolerance 0 := by
  intro column
  rw [entries_exchange_snap tableau entering leaving tolerance objective,
    Scalar.snap_eq_self_iff.mpr (kept column), sub_self, abs_zero]

end Rounding

namespace Canonical

variable {tableau : Tableau L ℚ} {basic : Fin L.constraints → Fin L.width}
  {entering : Fin L.width} {leaving : Fin L.constraints} (canonical : Canonical tableau basic)
  (pivot : (tableau.rows leaving).entries entering ≠ 0)

include canonical pivot

theorem parallel_exchange {index : RowIndex L} {tolerance margin : ℚ}
    (rounds : tableau.RoundsWithin index entering leaving tolerance margin) :
    Parallel tableau (tableau.exchange entering leaving tolerance) index margin := by
  have unrounded : Parallel tableau (tableau.exchange entering leaving 0) index 0 :=
    .of_equivalent (equivalent_exchange tableau pivot) canonical.solves_basicSolution index
  rw [← zero_add margin]
  exact unrounded.trans (.of_entries_close
    (entries_exchange_constraint tableau entering leaving tolerance) rounds)

theorem ne_entering_of_pivot (replaced : basic leaving ≠ entering) (row : Fin L.constraints) :
    basic row ≠ entering := by
  rintro rfl
  refine pivot ?_
  rw [canonical.entries_basic, if_neg]
  rintro rfl
  exact replaced rfl

/-- Without tolerance the basic solution moves by the ratio of the leaving row. -/
theorem basicSolution_exchange (replaced : basic leaving ≠ entering) :
    (tableau.exchange entering leaving 0).basicSolution
        (Function.update basic leaving entering) =
      tableau.travelled basic entering (tableau.ratio (.entry entering) leaving) := by
  have nonbasic := canonical.ne_entering_of_pivot pivot replaced
  symm
  apply (canonical.exchange pivot 0).eq_basicSolution
  · exact (solves_exchange tableau pivot _).mpr (canonical.solves_travelled entering _)
  · intro column outside
    have other : entering ≠ column := by
      have differs := outside leaving
      rwa [Function.update_self] at differs
    rw [travelled]
    by_cases leaves : basic leaving = column
    · subst leaves
      rw [basicSolution, spread_basic _ canonical.injective, canonical.ray_basic nonbasic,
        ratio_entry]
      field_simp
      ring
    · have alsoNonbasic (row : Fin L.constraints) : basic row ≠ column := by
        by_cases isLeaving : row = leaving
        · rwa [isLeaving]
        · have differs := outside row
          rwa [Function.update_of_ne isLeaving] at differs
      rw [basicSolution, spread_of_ne _ alsoNonbasic, ray_of_ne other alsoNonbasic]
      ring

end Canonical

/-! ## Rounded targets -/

theorem abs_spread_sub_le {basic : Fin L.constraints → Fin L.width}
    (injective : Function.Injective basic) {first second : Fin L.constraints → ℚ} {margin : ℚ}
    (allowing : 0 ≤ margin) (close : ∀ row, |first row - second row| ≤ margin)
    (column : Fin L.width) :
    |spread basic first column - spread basic second column| ≤ margin := by
  by_cases isBasic : ∃ row, basic row = column
  · obtain ⟨row, rfl⟩ := isBasic
    rw [spread_basic _ injective, spread_basic _ injective]
    exact close row
  · have nonbasic (row : Fin L.constraints) : basic row ≠ column := fun same =>
      isBasic ⟨row, same⟩
    rw [spread_of_ne _ nonbasic, spread_of_ne _ nonbasic, sub_zero, abs_zero]
    exact allowing

theorem abs_target_exchange_sub_le (tableau : Tableau L ℚ) (entering : Fin L.width)
    (leaving : Fin L.constraints) {tolerance : ℚ} (tolerant : 0 ≤ tolerance)
    (index : RowIndex L) :
    |((tableau.exchange entering leaving tolerance).row index).target -
        ((tableau.exchange entering leaving 0).row index).target| ≤ tolerance := by
  rw [target_exchange_snap]
  exact Scalar.abs_snap_sub_le tolerant _

/-- With a tolerance every value of the next basic solution is that far from the exact one. -/
theorem abs_basicSolution_exchange_sub_le (tableau : Tableau L ℚ) (entering : Fin L.width)
    (leaving : Fin L.constraints) {next : Fin L.constraints → Fin L.width}
    (injective : Function.Injective next) {tolerance : ℚ} (tolerant : 0 ≤ tolerance)
    (column : Fin L.width) :
    |(tableau.exchange entering leaving tolerance).basicSolution next column -
        (tableau.exchange entering leaving 0).basicSolution next column| ≤ tolerance :=
  abs_spread_sub_le injective tolerant (fun row =>
    abs_target_exchange_sub_le tableau entering leaving tolerant (.constraint row)) column

end Tableau

end TableauSimplex
