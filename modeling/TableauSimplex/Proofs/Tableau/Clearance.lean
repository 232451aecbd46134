import TableauSimplex.Proofs.Tableau.Choice
import TableauSimplex.Proofs.Tableau.Exchange
import TableauSimplex.Solver.Optimise
import TableauSimplex.Tableau.Solution

/-!
# Tableaux clear of a tolerance

If a tolerance takes no number of a tableau for zero that is not, then nothing that is done with the
tableau depends on it: the entering column, the ratio test, the exchange, the replacement of an
artificial column and the reading of the solution are those without tolerance.
-/

set_option autoImplicit false

namespace TableauSimplex

open Scalar (ClearOf)

namespace Row

variable {width : Nat}

/-- Whether no cell of a row is taken for zero that is not. -/
structure Clear (row : Row width ℚ) (tolerance : ℚ) : Prop where
  entries : ∀ column, ClearOf tolerance (row.entries column)
  target : ClearOf tolerance row.target

theorem Clear.snap_eq {row : Row width ℚ} {tolerance : ℚ} (clear : row.Clear tolerance) :
    row.snap tolerance = row := by
  refine ext_cells (fun column => ?_) clear.target.snap_eq
  simp only [snap, map, Family.get_map]
  exact (clear.entries column).snap_eq

end Row

namespace Tableau

variable {L : Layout}

/-- Whether no cell of the objective rows and no target is taken for zero that is not. -/
structure Clear (tableau : Tableau L ℚ) (tolerance : ℚ) : Prop where
  residual : tableau.residual.Clear tolerance
  objective : tableau.objective.Clear tolerance
  targets : ∀ row, ClearOf tolerance (tableau.rows row).target

/-- Whether in a column no positive entry is taken for zero, and no two ratios of positive entries
are taken for equal that are not. -/
structure ClearColumn (tableau : Tableau L ℚ) (tolerance : ℚ) (column : Fin L.width) : Prop where
  entries : ∀ row, 0 < (tableau.rows row).entries column →
    tolerance < (tableau.rows row).entries column
  ratios : ∀ first second, 0 < (tableau.rows first).entries column →
    0 < (tableau.rows second).entries column →
      ClearOf tolerance
        (tableau.ratio (.entry column) first - tableau.ratio (.entry column) second)

variable {tableau : Tableau L ℚ} {tolerance : ℚ}

theorem Clear.driving (clear : tableau.Clear tolerance) : tableau.driving.Clear tolerance := by
  unfold Tableau.driving drivingIndex
  split
  · exact clear.residual
  · exact clear.objective

/-! ## Choices -/

theorem Clear.entering_eq (clear : tableau.Clear tolerance) (tolerant : 0 ≤ tolerance)
    (rule : ExchangeRule) : tableau.entering? tolerance rule = tableau.entering? 0 rule := by
  have improves : tableau.improves tolerance = tableau.improves 0 := by
    funext column
    have entry := clear.driving.entries column
    rw [Bool.eq_iff_iff, improves_iff, improves_iff, entry.lt_neg_iff tolerant, neg_zero]
  cases rule <;> simp only [entering?, improves]

section Leaving

variable {column : Fin L.width} {rule : ExchangeRule} (clear : tableau.ClearColumn tolerance column)
  (tolerant : 0 ≤ tolerance)

include clear tolerant

theorem ClearColumn.betterLeaving_eq {best : Option (Fin L.constraints)}
    (positive : ∀ current, best = some current → 0 < (tableau.rows current).entries column)
    (row : Fin L.constraints) :
    tableau.betterLeaving (.entry column) tolerance rule best row =
      tableau.betterLeaving (.entry column) 0 rule best row := by
  unfold betterLeaving
  by_cases nonpositive : (tableau.rows row).cell (.entry column) ≤ 0
  · rw [if_pos nonpositive, if_pos (nonpositive.trans tolerant)]
  · have exceeds : ¬ (tableau.rows row).cell (.entry column) ≤ tolerance :=
      not_le.mpr (clear.entries row (not_le.mp nonpositive))
    rw [if_neg nonpositive, if_neg exceeds]
    cases best with
    | none => rfl
    | some current =>
        have apart := clear.ratios row current (not_le.mp nonpositive) (positive current rfl)
        simp only [Scalar.lt_sub_iff_of_clearOf apart tolerant, sub_zero,
          apart.magnitude_le_iff tolerant]

/-- The ratio test compares only rows with positive entries. -/
theorem ClearColumn.leaving_eq :
    tableau.leaving? (.entry column) tolerance rule = tableau.leaving? (.entry column) 0 rule := by
  have same (rows : List (Fin L.constraints)) (best : Option (Fin L.constraints))
      (positive : ∀ current, best = some current → 0 < (tableau.rows current).entries column) :
      rows.foldl (tableau.betterLeaving (.entry column) tolerance rule) best =
        rows.foldl (tableau.betterLeaving (.entry column) 0 rule) best := by
    induction rows generalizing best with
    | nil => rfl
    | cons row rest induction =>
        rw [List.foldl_cons, List.foldl_cons, clear.betterLeaving_eq tolerant positive row]
        apply induction
        intro current isBest
        rcases tableau.betterLeaving_eq (.entry column) 0 rule best row with kept | ⟨taken, large⟩
        · exact positive current (kept.symm.trans isBest)
        · obtain rfl := Option.some.inj (taken.symm.trans isBest)
          exact large
  exact same L.constraintRows none fun _ impossible => by cases impossible

end Leaving

theorem Clear.nextMove_eq (clear : tableau.Clear tolerance) (tolerant : 0 ≤ tolerance)
    {rule : ExchangeRule}
    (column : ∀ entering, tableau.entering? 0 rule = some entering →
      tableau.ClearColumn tolerance entering) :
    tableau.nextMove tolerance rule = tableau.nextMove 0 rule := by
  unfold nextMove
  rw [clear.entering_eq tolerant]
  cases enters : tableau.entering? 0 rule with
  | none => rfl
  | some entering => simp only [(column entering enters).leaving_eq tolerant]

theorem replacement_eq {row : Fin L.constraints} (tolerant : 0 ≤ tolerance)
    (clear : ∀ column : Fin L.width, column.val < L.structural →
      ClearOf tolerance ((tableau.rows row).entries column)) :
    tableau.replacement? row tolerance = tableau.replacement? row 0 := by
  unfold replacement?
  simp only
  cases found : firstBest _ L.structuralColumns with
  | none => rfl
  | some column =>
      have structural := mem_structuralColumns.mp (largest_entry found).1
      simp only [Option.filter_some, (clear column structural).magnitude_le_iff tolerant]

/-! ## Exchanges -/

theorem Clear.isDegenerateAt_eq (clear : tableau.Clear tolerance) (tolerant : 0 ≤ tolerance)
    (row : Fin L.constraints) :
    tableau.isDegenerateAt tolerance row = tableau.isDegenerateAt 0 row := by
  simp only [isDegenerateAt, (clear.targets row).magnitude_le_iff tolerant]

theorem Clear.tidy_eq (clear : tableau.Clear tolerance) (index : RowIndex L) :
    tidy index (tableau.row index) tolerance = tableau.row index := by
  cases index with
  | residual => exact clear.residual.snap_eq
  | objective => exact clear.objective.snap_eq
  | constraint row => exact Row.ext_cells (fun _ => rfl) (clear.targets row).snap_eq

/-- An exchange whose result is clear snaps nothing. -/
theorem exchange_eq {entering : Fin L.width} {leaving : Fin L.constraints}
    (pivot : (tableau.rows leaving).entries entering ≠ 0)
    (clear : (tableau.exchange entering leaving 0).Clear tolerance) :
    tableau.exchange entering leaving tolerance = tableau.exchange entering leaving 0 := by
  simp only [exchange, clearColumn]
  congr 2
  funext index
  have kept := clear.tidy_eq index
  rw [row_exchange_exact tableau entering leaving pivot] at kept
  simp only at kept ⊢
  split
  · rename_i isLeaving
    rw [if_pos isLeaving] at kept
    unfold exchangedLead
    rw [Row.eliminate_zero, tidy_exact]
    exact congrArg (Row.withCell · _ _) kept
  · rename_i other
    rw [if_neg other] at kept
    unfold exchangedRow
    rw [tidy_exact]
    exact congrArg (Row.withCell · _ _) kept

/-! ## Reading -/

theorem Clear.basicValue_eq (clear : tableau.Clear tolerance) (tolerant : 0 ≤ tolerance)
    (basic : Int) : tableau.basicValue tolerance basic = tableau.basicValue 0 basic := by
  unfold basicValue
  cases tableau.rowOf? basic with
  | none => rfl
  | some row => simp only [(clear.targets row).magnitude_le_iff tolerant]

theorem Clear.hasAlternative_eq (clear : tableau.Clear tolerance) (tolerant : 0 ≤ tolerance) :
    tableau.hasAlternative tolerance = tableau.hasAlternative 0 := by
  simp only [hasAlternative, (clear.driving.entries _).magnitude_le_iff tolerant]

end Tableau

end TableauSimplex
