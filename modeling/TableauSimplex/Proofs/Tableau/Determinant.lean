import Mathlib.LinearAlgebra.Matrix.AbsoluteValue
import Mathlib.LinearAlgebra.Matrix.NonsingularInverse
import TableauSimplex.Proofs.Tableau.Clearance
import TableauSimplex.Proofs.Tableau.Equation

/-!
# Tableaux of whole numbers

Let a tableau hold whole numbers.  In an equivalent tableau in canonical form every cell becomes
whole if it is multiplied by the determinant of the basic columns, and an entry of a constraint row
then is the determinant of other columns (Cramer's rule).  So if these determinants are bounded, a
cell that is not zero is not small, and ratios that are not equal are not close to each other.
-/

set_option autoImplicit false

namespace TableauSimplex

open Scalar (ClearOf)

/-! ## Whole numbers -/

def wholeNumbers : Subring ℚ :=
  (Int.castRingHom ℚ).range

theorem one_le_abs_of_whole {x : ℚ} (whole : x ∈ wholeNumbers) (nonzero : x ≠ 0) : 1 ≤ |x| := by
  obtain ⟨number, rfl⟩ := whole
  have positive : number ≠ 0 := by
    rintro rfl
    exact nonzero (map_zero _)
  have large := Int.one_le_abs positive
  rw [eq_intCast]
  exact_mod_cast large

theorem det_mem_wholeNumbers {size : Nat} {matrix : Matrix (Fin size) (Fin size) ℚ}
    (whole : ∀ row column, matrix row column ∈ wholeNumbers) : matrix.det ∈ wholeNumbers := by
  rw [Matrix.det_apply]
  apply sum_mem
  intro permutation _
  rw [Units.smul_def]
  exact zsmul_mem (prod_mem fun row _ => whole _ row) _

/-- A number of which a bounded multiple is whole is not small. -/
theorem clearOf_of_whole_multiple {tolerance scale bound x : ℚ}
    (whole : scale * x ∈ wholeNumbers) (nonzero : scale ≠ 0) (bounded : |scale| ≤ bound)
    (small : tolerance * bound < 1) : ClearOf tolerance x := by
  by_cases zero : x = 0
  · exact .inl zero
  · refine .inr (not_le.mp fun close => ?_)
    have large := one_le_abs_of_whole whole (mul_ne_zero nonzero zero)
    have product : |scale * x| ≤ bound * tolerance := by
      rw [abs_mul]
      exact mul_le_mul bounded close (abs_nonneg x) ((abs_nonneg scale).trans bounded)
    linarith

namespace Tableau

variable {L : Layout} {start tableau : Tableau L ℚ} {basic : Fin L.constraints → Fin L.width}

/-! ## Rows reduced by a basis -/

/-- What is left of a cell of a row after the basic columns of a tableau have been cleared. -/
def remainder (tableau : Tableau L ℚ) (basic : Fin L.constraints → Fin L.width)
    (row : Row L.width ℚ) (cell : CellIndex L.width) : ℚ :=
  row.cell cell - ∑ position, row.entries (basic position) * (tableau.rows position).cell cell

theorem remainder_entry (row : Row L.width ℚ) (column : Fin L.width) :
    tableau.remainder basic row (.entry column) = row.form (tableau.ray basic column) := by
  unfold ray
  rw [Row.form_along, Canonical.form_growing, form_spread, neg_one_mul, ← sub_eq_add_neg]
  rfl

theorem remainder_target (row : Row L.width ℚ) :
    tableau.remainder basic row .target = -row.gap (tableau.basicSolution basic) := by
  rw [Row.gap, basicSolution, form_spread, neg_sub]
  rfl

namespace Canonical

variable (canonical : tableau.Canonical basic)

include canonical

theorem remainder_constraint (row : Fin L.constraints) (cell : CellIndex L.width) :
    tableau.remainder basic (tableau.rows row) cell = 0 := by
  simp [remainder, canonical.entries_basic]

theorem remainder_of_ne {index : RowIndex L} (other : ∀ row, index ≠ .constraint row)
    (cell : CellIndex L.width) :
    tableau.remainder basic (tableau.row index) cell = (tableau.row index).cell cell := by
  simp [remainder, canonical.entries_basic_of_ne index (other _)]

/-- Equivalent tableaux leave the same remainders. -/
theorem remainder_eq (equivalent : start.Equivalent tableau) (index : RowIndex L)
    (cell : CellIndex L.width) :
    tableau.remainder basic (start.row index) cell =
      tableau.remainder basic (tableau.row index) cell := by
  cases cell with
  | entry column =>
      rw [remainder_entry, remainder_entry]
      exact equivalent.symm.form_eq canonical.solves_basicSolution (canonical.form_ray column) index
  | target =>
      rw [remainder_target, remainder_target]
      exact congrArg Neg.neg
        (equivalent.symm.gap_eq _ canonical.solves_basicSolution index)

end Canonical

/-! ## Determinants of columns -/

/-- The square matrix that some columns form in the constraint rows. -/
def columnMatrix (tableau : Tableau L ℚ) (chosen : Fin L.constraints → Fin L.width) :
    Matrix (Fin L.constraints) (Fin L.constraints) ℚ :=
  .of fun row position => (tableau.rows row).entries (chosen position)

theorem updateCol_columnMatrix (tableau : Tableau L ℚ) (chosen : Fin L.constraints → Fin L.width)
    (position : Fin L.constraints) (column : Fin L.width) :
    (tableau.columnMatrix chosen).updateCol position
        (fun row => (tableau.rows row).entries column) =
      tableau.columnMatrix (Function.update chosen position column) := by
  ext row other
  rw [Matrix.updateCol_apply]
  by_cases same : other = position
  · subst same
    simp [columnMatrix]
  · simp [columnMatrix, same]

section Cramer

variable (canonical : tableau.Canonical basic) (equivalent : start.Equivalent tableau)

include canonical equivalent

theorem mulVec_columnMatrix (cell : CellIndex L.width) :
    (start.columnMatrix basic).mulVec (fun position => (tableau.rows position).cell cell) =
      fun row => (start.rows row).cell cell := by
  funext row
  have same := canonical.remainder_eq equivalent (.constraint row) cell
  have zero := canonical.remainder_constraint row cell
  have remainder : tableau.remainder basic (start.rows row) cell = 0 := same.trans zero
  exact (sub_eq_zero.mp remainder).symm

theorem det_columnMatrix_ne_zero {startBasic : Fin L.constraints → Fin L.width}
    (startCanonical : start.Canonical startBasic) : (start.columnMatrix basic).det ≠ 0 := by
  apply Matrix.det_ne_zero_of_right_inverse
    (B := .of fun position row => (tableau.rows position).entries (startBasic row))
  ext row column
  have product := congrFun
    (mulVec_columnMatrix canonical equivalent (.entry (startBasic column))) row
  rw [Matrix.one_apply]
  exact product.trans (startCanonical.entries_basic column row)

/-- Cramer's rule for the cells of an equivalent tableau. -/
theorem det_mul_cell (row : Fin L.constraints) (cell : CellIndex L.width) :
    (start.columnMatrix basic).det * (tableau.rows row).cell cell =
      ((start.columnMatrix basic).updateCol row fun other => (start.rows other).cell cell).det := by
  rw [← Matrix.cramer_apply, ← mulVec_columnMatrix canonical equivalent cell,
    Matrix.cramer_eq_adjugate_mulVec, Matrix.mulVec_mulVec, Matrix.adjugate_mul,
    Matrix.smul_mulVec, Matrix.one_mulVec]
  rfl

end Cramer

/-! ## Bounded determinants -/

/-- Whether a tableau holds whole numbers and the determinants of its columns are bounded. -/
structure WholeWithin (tableau : Tableau L ℚ) (bound : ℚ) : Prop where
  cell : ∀ index cell, (tableau.row index).cell cell ∈ wholeNumbers
  det_le : ∀ chosen, |(tableau.columnMatrix chosen).det| ≤ bound

namespace WholeWithin

variable {bound tolerance : ℚ} {startBasic : Fin L.constraints → Fin L.width}
  (whole : start.WholeWithin bound)

include whole

theorem det_mem (chosen : Fin L.constraints → Fin L.width) :
    (start.columnMatrix chosen).det ∈ wholeNumbers :=
  det_mem_wholeNumbers fun row position => whole.cell (.constraint row) (.entry (chosen position))

variable (canonical : tableau.Canonical basic) (equivalent : start.Equivalent tableau)

include canonical equivalent

theorem det_mul_rows_mem (row : Fin L.constraints) (cell : CellIndex L.width) :
    (start.columnMatrix basic).det * (tableau.rows row).cell cell ∈ wholeNumbers := by
  rw [det_mul_cell canonical equivalent]
  apply det_mem_wholeNumbers
  intro other position
  rw [Matrix.updateCol_apply]
  split
  · exact whole.cell (.constraint other) cell
  · exact whole.cell (.constraint other) (.entry (basic position))

/-- The determinant of the basic columns makes every cell whole. -/
theorem det_mul_cell_mem (index : RowIndex L) (cell : CellIndex L.width) :
    (start.columnMatrix basic).det * (tableau.row index).cell cell ∈ wholeNumbers := by
  have ofObjective (other : ∀ row, index ≠ .constraint row) :
      (start.columnMatrix basic).det * (tableau.row index).cell cell ∈ wholeNumbers := by
    rw [← canonical.remainder_of_ne other, ← canonical.remainder_eq equivalent, remainder, mul_sub,
      Finset.mul_sum]
    refine sub_mem (mul_mem (whole.det_mem basic) (whole.cell index cell)) (sum_mem ?_)
    intro position _
    rw [mul_left_comm]
    exact mul_mem (whole.cell index (.entry (basic position)))
      (whole.det_mul_rows_mem canonical equivalent position cell)
  cases index with
  | residual => exact ofObjective (by simp)
  | objective => exact ofObjective (by simp)
  | constraint row => exact whole.det_mul_rows_mem canonical equivalent row cell

variable (startCanonical : start.Canonical startBasic)

include startCanonical

theorem one_le_bound : 1 ≤ bound :=
  (one_le_abs_of_whole (whole.det_mem basic)
    (det_columnMatrix_ne_zero canonical equivalent startCanonical)).trans (whole.det_le basic)

theorem clearOf_cell (small : tolerance * bound < 1) (index : RowIndex L)
    (cell : CellIndex L.width) : ClearOf tolerance ((tableau.row index).cell cell) :=
  clearOf_of_whole_multiple (whole.det_mul_cell_mem canonical equivalent index cell)
    (det_columnMatrix_ne_zero canonical equivalent startCanonical) (whole.det_le basic) small

theorem clear (small : tolerance * bound < 1) : tableau.Clear tolerance where
  residual :=
    ⟨fun column => whole.clearOf_cell canonical equivalent startCanonical small .residual
        (.entry column),
      whole.clearOf_cell canonical equivalent startCanonical small .residual .target⟩
  objective :=
    ⟨fun column => whole.clearOf_cell canonical equivalent startCanonical small .objective
        (.entry column),
      whole.clearOf_cell canonical equivalent startCanonical small .objective .target⟩
  targets row :=
    whole.clearOf_cell canonical equivalent startCanonical small (.constraint row) .target

omit startCanonical in
theorem abs_det_mul_entry_le (row : Fin L.constraints) (column : Fin L.width) :
    |(start.columnMatrix basic).det * (tableau.rows row).entries column| ≤ bound := by
  have cramer : (start.columnMatrix basic).det * (tableau.rows row).entries column =
      ((start.columnMatrix basic).updateCol row fun other =>
        (start.rows other).entries column).det :=
    det_mul_cell canonical equivalent row (.entry column)
  rw [cramer, start.updateCol_columnMatrix]
  exact whole.det_le _

theorem clearColumn (tolerant : 0 ≤ tolerance) (small : tolerance * bound ^ 2 < 1)
    (column : Fin L.width) : tableau.ClearColumn tolerance column where
  entries row positive := by
    have large := whole.one_le_bound canonical equivalent startCanonical
    have smaller : tolerance * bound ≤ tolerance * bound ^ 2 :=
      mul_le_mul_of_nonneg_left (le_self_pow₀ large two_ne_zero) tolerant
    have clear : ClearOf tolerance ((tableau.rows row).entries column) :=
      whole.clearOf_cell canonical equivalent startCanonical (smaller.trans_lt small)
        (.constraint row) (.entry column)
    exact (clear.lt_iff tolerant).mpr positive
  ratios first second firstPositive secondPositive := by
    have entry (row : Fin L.constraints) :=
      whole.det_mul_rows_mem canonical equivalent row (.entry column)
    have target (row : Fin L.constraints) :=
      whole.det_mul_rows_mem canonical equivalent row .target
    have bounded (row : Fin L.constraints) :=
      whole.abs_det_mul_entry_le canonical equivalent row column
    have nonzero := det_columnMatrix_ne_zero canonical equivalent startCanonical
    generalize (start.columnMatrix basic).det = det at entry target bounded nonzero
    -- Over the product of the two scaled entries the difference of the ratios is a whole number.
    have scaled : det * (tableau.rows first).entries column *
          (det * (tableau.rows second).entries column) *
          (tableau.ratio (.entry column) first - tableau.ratio (.entry column) second) =
        det * (tableau.rows first).target * (det * (tableau.rows second).entries column) -
          det * (tableau.rows second).target * (det * (tableau.rows first).entries column) := by
      have firstNonzero := firstPositive.ne'
      have secondNonzero := secondPositive.ne'
      rw [ratio_entry, ratio_entry]
      field_simp
    have difference := sub_mem (mul_mem (target first) (entry second))
      (mul_mem (target second) (entry first))
    refine clearOf_of_whole_multiple (scaled.symm ▸ difference)
      (mul_ne_zero (mul_ne_zero nonzero firstPositive.ne') (mul_ne_zero nonzero secondPositive.ne'))
      ?_ small
    rw [abs_mul, sq]
    exact mul_le_mul (bounded first) (bounded second) (abs_nonneg _)
      ((abs_nonneg _).trans (bounded first))

end WholeWithin

end Tableau

end TableauSimplex
