import Mathlib.Tactic.FieldSimp
import TableauSimplex.Proofs.Exact
import TableauSimplex.Tableau.Exchange

/-!
# What an exchange does to the cells

With any tolerance, an exchange makes its column a unit column and changes no column in which the
leaving row is zero, except that small entries of the objective rows become zero.  With a
tolerance of zero it divides the leaving row by the entry in the entering column and takes
multiples of the result away from the other rows, and nothing else.
-/

set_option autoImplicit false

namespace TableauSimplex

namespace Row

variable {width : Nat}

theorem ext_cells {α : Type} {first second : Row width α}
    (entries : ∀ column, first.entries column = second.entries column)
    (target : first.target = second.target) : first = second := by
  obtain ⟨firstEntries, firstTarget⟩ := first
  obtain ⟨secondEntries, secondTarget⟩ := second
  obtain rfl : firstEntries = secondEntries := Family.ext_get entries
  obtain rfl : firstTarget = secondTarget := target
  rfl

@[simp] theorem entries_eliminate (row lead : Row width ℚ) (factor : ℚ) (column : Fin width) :
    (row.eliminate factor lead).entries column =
      row.entries column - factor * lead.entries column := by
  simp [eliminate]

@[simp] theorem target_eliminate (row lead : Row width ℚ) (factor : ℚ) :
    (row.eliminate factor lead).target = row.target - factor * lead.target :=
  rfl

theorem eliminate_zero (row lead : Row width ℚ) : row.eliminate 0 lead = row :=
  ext_cells (by simp) (by simp)

@[simp] theorem entries_divide (row : Row width ℚ) (divisor : ℚ) (column : Fin width) :
    (row.divide divisor).entries column = row.entries column / divisor := by
  simp [divide, map]

@[simp] theorem target_divide (row : Row width ℚ) (divisor : ℚ) :
    (row.divide divisor).target = row.target / divisor :=
  rfl

theorem cell_eliminate (row lead : Row width ℚ) (factor : ℚ) (column : CellIndex width) :
    (row.eliminate factor lead).cell column = row.cell column - factor * lead.cell column := by
  cases column <;> simp [cell]

theorem cell_divide (row : Row width ℚ) (divisor : ℚ) (column : CellIndex width) :
    (row.divide divisor).cell column = row.cell column / divisor := by
  cases column <;> simp [cell]

theorem entries_withCell (row : Row width ℚ) (entering column : Fin width) (value : ℚ) :
    (row.withCell (.entry entering) value).entries column =
      if entering = column then value else row.entries column := by
  simp [withCell, Family.get_set]

@[simp] theorem target_withCell (row : Row width ℚ) (entering : Fin width) (value : ℚ) :
    (row.withCell (.entry entering) value).target = row.target :=
  rfl

theorem withCell_entries (row : Row width ℚ) (entering : Fin width) (value : ℚ)
    (present : row.entries entering = value) : row.withCell (.entry entering) value = row := by
  refine ext_cells ?_ rfl
  intro column
  rw [entries_withCell]
  split
  · rename_i same
    rw [← same, present]
  · rfl

end Row

namespace Tableau

variable {L : Layout}

@[simp] theorem row_withRows {α : Type} (tableau : Tableau L α)
    (rows : RowIndex L → Row L.width α) (index : RowIndex L) :
    (tableau.withRows rows).row index = rows index := by
  cases index <;> simp [row, withRows]

@[simp] theorem row_withBasic {α : Type} (tableau : Tableau L α) (row : Fin L.constraints)
    (basic : Int) (index : RowIndex L) :
    (tableau.withBasic (.constraint row) basic).row index = tableau.row index := by
  cases index <;> rfl

/-! ## Any tolerance -/

theorem entries_tidy_of_zero (index : RowIndex L) (row : Row L.width ℚ) (tolerance : ℚ)
    (column : Fin L.width) (zero : row.entries column = 0) :
    (tidy index row tolerance).entries column = 0 := by
  cases index <;> simp [tidy, Row.snap, Row.snapTarget, Row.map, zero]

theorem entries_tidy_constraint (position : Fin L.constraints) (row : Row L.width ℚ)
    (tolerance : ℚ) (column : Fin L.width) :
    (tidy (.constraint position) row tolerance).entries column = row.entries column :=
  rfl

section AnyArithmetic

variable {α : Type} [Scalar α] (tableau : Tableau L α) (entering : Fin L.width)
  (leaving : Fin L.constraints) (tolerance : α)

@[simp] theorem phase_exchange :
    (tableau.exchange entering leaving tolerance).phase = tableau.phase :=
  rfl

@[simp] theorem sense_exchange :
    (tableau.exchange entering leaving tolerance).sense = tableau.sense :=
  rfl

theorem basis_exchange (row : Fin L.constraints) :
    (tableau.exchange entering leaving tolerance).basis row =
      if leaving = row then (entering.val : Int) else tableau.basis row :=
  Family.get_set _ _ _ _

end AnyArithmetic

section AnyTolerance

variable (tableau : Tableau L ℚ) (entering : Fin L.width) (leaving : Fin L.constraints)
  (tolerance : ℚ)

theorem row_exchange (index : RowIndex L) :
    (tableau.exchange entering leaving tolerance).row index =
      let lead := tableau.lead (.entry entering) (.constraint leaving)
      if index = .constraint leaving then exchangedLead index lead (.entry entering) tolerance
      else exchangedRow index (tableau.row index) lead (.entry entering) tolerance := by
  simp [exchange, clearColumn]

theorem entries_lead (column : Fin L.width) :
    (tableau.lead (.entry entering) (.constraint leaving)).entries column =
      (tableau.rows leaving).entries column / (tableau.rows leaving).entries entering := by
  simp [lead, row, Row.cell]

/-- The entering column becomes the unit column of the leaving row. -/
theorem entries_exchange_entering (index : RowIndex L) :
    ((tableau.exchange entering leaving tolerance).row index).entries entering =
      if index = .constraint leaving then 1 else 0 := by
  rw [row_exchange]
  split <;> simp [exchangedLead, exchangedRow, Row.entries_withCell, *]

/-- A column without an entry in the leaving row keeps its zeros and all its entries in the
constraint rows. -/
theorem entries_exchange_of_zero (column : Fin L.width) (other : column ≠ entering)
    (zero : (tableau.rows leaving).entries column = 0) (index : RowIndex L)
    (kept : (∃ row, index = .constraint row) ∨ (tableau.row index).entries column = 0) :
    ((tableau.exchange entering leaving tolerance).row index).entries column =
      (tableau.row index).entries column := by
  have leadZero : (tableau.lead (.entry entering) (.constraint leaving)).entries column = 0 := by
    rw [entries_lead, zero, zero_div]
  rw [row_exchange]
  split
  · rename_i isLeaving
    subst isLeaving
    simp only [exchangedLead, Row.entries_withCell, if_neg other.symm]
    rw [entries_tidy_of_zero _ _ _ _ (by simp [leadZero])]
    exact zero.symm
  · simp only [exchangedRow, Row.entries_withCell, if_neg other.symm]
    rcases kept with ⟨row, rfl⟩ | zeroEntry
    · simp [entries_tidy_constraint, leadZero]
    · rw [entries_tidy_of_zero _ _ _ _ (by simp [leadZero, zeroEntry]), zeroEntry]

end AnyTolerance

/-! ## No tolerance -/

theorem tidy_exact (index : RowIndex L) (row : Row L.width ℚ) : tidy index row 0 = row := by
  refine Row.ext_cells (fun column => ?_) ?_ <;>
    cases index <;> simp [tidy, Row.snap, Row.snapTarget, Row.map]

/-- The rows after an exchange without tolerance. -/
theorem row_exchange_exact (tableau : Tableau L ℚ) (entering : Fin L.width)
    (leaving : Fin L.constraints) (pivot : (tableau.rows leaving).entries entering ≠ 0)
    (index : RowIndex L) :
    (tableau.exchange entering leaving 0).row index =
      let lead := (tableau.rows leaving).divide ((tableau.rows leaving).entries entering)
      if index = .constraint leaving then lead
      else (tableau.row index).eliminate ((tableau.row index).entries entering) lead := by
  have leadOne : (tableau.lead (.entry entering) (.constraint leaving)).entries entering = 1 := by
    rw [entries_lead, div_self pivot]
  rw [row_exchange]
  split
  · simp only [exchangedLead, tidy_exact]
    rw [Row.eliminate_zero, Row.withCell_entries _ _ _ leadOne]
    rfl
  · simp only [exchangedRow, tidy_exact]
    exact Row.withCell_entries _ _ _ (by simp [leadOne, Row.cell])

/-! ## What a tolerance rounds -/

section Rounding

variable (tableau : Tableau L ℚ) (entering : Fin L.width) (leaving : Fin L.constraints)
  (tolerance : ℚ)

theorem target_exchange_snap (index : RowIndex L) :
    ((tableau.exchange entering leaving tolerance).row index).target =
      Scalar.snap tolerance ((tableau.exchange entering leaving 0).row index).target := by
  have target (row : Row L.width ℚ) :
      (tidy index row tolerance).target = Scalar.snap tolerance (tidy index row 0).target := by
    rw [tidy_exact]
    cases index <;> rfl
  rw [row_exchange, row_exchange]
  simp only
  split
  · exact target _
  · exact target _

/-- In a constraint row the tolerance rounds nothing but the target. -/
theorem entries_exchange_constraint (row : Fin L.constraints) (column : Fin L.width) :
    ((tableau.exchange entering leaving tolerance).rows row).entries column =
      ((tableau.exchange entering leaving 0).rows row).entries column := by
  have rows (any : ℚ) : (tableau.exchange entering leaving any).rows row =
      (tableau.exchange entering leaving any).row (.constraint row) := rfl
  rw [rows, rows, row_exchange, row_exchange]
  simp only
  split
  · simp only [exchangedLead, Row.entries_withCell, entries_tidy_constraint]
  · simp only [exchangedRow, Row.entries_withCell, entries_tidy_constraint]

/-- In an objective row it rounds all entries. -/
theorem entries_exchange_snap {index : RowIndex L} (objective : ∀ row, index ≠ .constraint row)
    (column : Fin L.width) :
    ((tableau.exchange entering leaving tolerance).row index).entries column =
      Scalar.snap tolerance
        (((tableau.exchange entering leaving 0).row index).entries column) := by
  have entries (row : Row L.width ℚ) : (tidy index row tolerance).entries column =
      Scalar.snap tolerance ((tidy index row 0).entries column) := by
    rw [tidy_exact]
    cases index with
    | residual => exact Family.get_map _ _ _
    | objective => exact Family.get_map _ _ _
    | constraint row => exact absurd rfl (objective row)
  rw [row_exchange, row_exchange]
  simp only [if_neg (objective leaving), exchangedRow, Row.entries_withCell]
  split
  · exact (Scalar.snap_zero tolerance).symm
  · exact entries _

end Rounding

end Tableau

end TableauSimplex
