import Mathlib.Data.List.FinRange
import Mathlib.Logic.Function.Basic
import TableauSimplex.Proofs.Tableau.Exchange
import TableauSimplex.Tableau.Invariant

/-!
# Tableaux in canonical form

A tableau is in canonical form for a choice of basic columns if each of them is the unit column of
its row, over the objective rows too.  Whatever the tolerance, an exchange on an entry that is not
zero keeps the form, and a tableau in this form passes the check of its basis.
-/

set_option autoImplicit false

namespace TableauSimplex.Tableau

variable {L : Layout}

theorem drivingIndex_ne_constraint {tableau : Tableau L ℚ} (row : Fin L.constraints) :
    tableau.drivingIndex ≠ .constraint row := by
  unfold drivingIndex
  split <;> simp

/-- Whether a column holds a one in a constraint row and zeros in all other rows. -/
def UnitColumn (tableau : Tableau L ℚ) (column : Fin L.width) (row : Fin L.constraints) : Prop :=
  ∀ index, (tableau.row index).entries column = if index = .constraint row then 1 else 0

structure Canonical (tableau : Tableau L ℚ) (basic : Fin L.constraints → Fin L.width) : Prop where
  basis_eq : ∀ row, tableau.basis row = (basic row).val
  unit : ∀ row, tableau.UnitColumn (basic row) row

theorem isUnitColumn_of_unitColumn {tableau : Tableau L ℚ} {column : Fin L.width}
    {row : Fin L.constraints} (unit : tableau.UnitColumn column row) (tolerance : ℚ) :
    tableau.isUnitColumn tolerance (.entry column) row = true := by
  apply List.all_eq_true.mpr
  intro index _
  have entry : (tableau.row index).cell (.entry column) =
      if index = .constraint row then 1 else 0 := unit index
  rw [entry]
  have reflexive : ∀ value : ℚ, agrees tolerance value value = true := fun value => by
    have same : (value == value) = true := decide_eq_true rfl
    simp only [agrees, same, Bool.true_or]
  exact reflexive _

namespace Canonical

variable {tableau : Tableau L ℚ} {basic : Fin L.constraints → Fin L.width}

theorem entries_basic (canonical : Canonical tableau basic) (row other : Fin L.constraints) :
    (tableau.rows other).entries (basic row) = if other = row then 1 else 0 := by
  simpa [Tableau.row] using canonical.unit row (.constraint other)

theorem entries_basic_of_ne (canonical : Canonical tableau basic) {row : Fin L.constraints}
    (index : RowIndex L) (other : index ≠ .constraint row) :
    (tableau.row index).entries (basic row) = 0 := by
  rw [canonical.unit row index, if_neg other]

theorem driving_basic (canonical : Canonical tableau basic) (row : Fin L.constraints) :
    tableau.driving.entries (basic row) = 0 :=
  canonical.entries_basic_of_ne _ (drivingIndex_ne_constraint row)

theorem injective (canonical : Canonical tableau basic) : Function.Injective basic := by
  intro first second same
  by_contra distinct
  have one := canonical.entries_basic first first
  rw [if_pos rfl, same, canonical.entries_basic second first, if_neg distinct] at one
  exact zero_ne_one one

theorem basic_unique (canonical : Canonical tableau basic)
    {other : Fin L.constraints → Fin L.width} (otherCanonical : Canonical tableau other) :
    basic = other := by
  funext row
  have same : ((basic row).val : Int) = (other row).val := by
    rw [← canonical.basis_eq row, otherCanonical.basis_eq row]
  exact Fin.ext (Int.ofNat.inj same)

theorem ne_basic_of_driving_ne_zero (canonical : Canonical tableau basic) {column : Fin L.width}
    (entry : tableau.driving.entries column ≠ 0) (row : Fin L.constraints) :
    basic row ≠ column := by
  rintro rfl
  exact entry (canonical.driving_basic row)

theorem exchange (canonical : Canonical tableau basic) {entering : Fin L.width}
    {leaving : Fin L.constraints} (pivot : (tableau.rows leaving).entries entering ≠ 0)
    (tolerance : ℚ) :
    Canonical (tableau.exchange entering leaving tolerance)
      (Function.update basic leaving entering) where
  basis_eq row := by
    rw [basis_exchange]
    by_cases isLeaving : leaving = row
    · subst isLeaving
      simp
    · rw [if_neg isLeaving, Function.update_of_ne (Ne.symm isLeaving), canonical.basis_eq row]
  unit row := by
    intro index
    by_cases isLeaving : row = leaving
    · subst isLeaving
      rw [Function.update_self]
      exact entries_exchange_entering ..
    · rw [Function.update_of_ne isLeaving]
      have zero : (tableau.rows leaving).entries (basic row) = 0 := by
        rw [canonical.entries_basic, if_neg (Ne.symm isLeaving)]
      have other : basic row ≠ entering := by
        rintro rfl
        exact pivot zero
      have kept : (∃ position, index = .constraint position) ∨
          (tableau.row index).entries (basic row) = 0 := by
        cases index with
        | constraint position => exact .inl ⟨position, rfl⟩
        | residual => exact .inr (canonical.entries_basic_of_ne _ (by simp))
        | objective => exact .inr (canonical.entries_basic_of_ne _ (by simp))
      rw [entries_exchange_of_zero _ _ _ _ _ other zero index kept]
      exact canonical.unit row index

/-! ## The check of the basis -/

theorem hasDistinctBasis_eq_true (canonical : Canonical tableau basic) :
    tableau.hasDistinctBasis = true := by
  have listed : tableau.basis.toList = List.ofFn fun row => ((basic row).val : Int) := by
    rw [Family.toList_eq_ofFn]
    exact congrArg List.ofFn (funext canonical.basis_eq)
  have distinct : tableau.basis.toList.Nodup := by
    rw [listed, List.nodup_ofFn]
    intro first second same
    exact canonical.injective (Fin.ext (Int.ofNat.inj same))
  have nonneg : ∀ column ∈ tableau.basis.toList, 0 ≤ column := by
    rw [listed]
    intro column member
    obtain ⟨row, rfl⟩ := List.mem_ofFn.mp member
    exact Int.natCast_nonneg _
  simpa [hasDistinctBasis, distinct] using nonneg

theorem checkRow_eq_ok (canonical : Canonical tableau basic) (tolerance : ℚ)
    (row : Fin L.constraints) : tableau.checkRow tolerance row = .ok () := by
  simp only [checkRow, canonical.basis_eq row, CellIndex.resolve_entry]
  rw [if_pos (isUnitColumn_of_unitColumn (canonical.unit row) tolerance)]

theorem checkBasis_eq_ok (canonical : Canonical tableau basic) (tolerance : ℚ) :
    tableau.checkBasis tolerance = .ok () := by
  rw [checkBasis, if_pos canonical.hasDistinctBasis_eq_true]
  induction L.constraintRows with
  | nil => rfl
  | cons row rest induction =>
      simp only [List.forM, canonical.checkRow_eq_ok tolerance row]
      exact induction

end Canonical

end TableauSimplex.Tableau
