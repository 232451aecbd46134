import Mathlib.Data.List.FinRange
import TableauSimplex.Proofs.Tableau.Meaning
import TableauSimplex.Tableau.Solution

/-!
# The point read off a canonical tableau

In canonical form the reading cannot fail: the point has the value of its column at every decision
variable, and a column has the target of the row in which it is basic, unless that is within the
tolerance of zero.
-/

set_option autoImplicit false

namespace TableauSimplex.Tableau.Canonical

variable {L : Layout} {tableau : Tableau L ℚ} {basic : Fin L.constraints → Fin L.width}

theorem rowOf_basic (canonical : Canonical tableau basic) (row : Fin L.constraints) :
    tableau.rowOf? (basic row).val = some row := by
  cases found : tableau.rowOf? (basic row).val with
  | none =>
      have differs := List.find?_eq_none.mp found row (List.mem_finRange row)
      simp [canonical.basis_eq] at differs
  | some other =>
      have same : tableau.basis other = (basic row).val := by simpa using List.find?_some found
      rw [canonical.basis_eq other] at same
      exact congrArg some (canonical.injective (Fin.ext (Int.ofNat.inj same)))

theorem rowOf_of_ne (canonical : Canonical tableau basic) {column : Fin L.width}
    (nonbasic : ∀ row, basic row ≠ column) : tableau.rowOf? column.val = none := by
  refine List.find?_eq_none.mpr fun row _ same => nonbasic row ?_
  have equal : tableau.basis row = column.val := by simpa using same
  rw [canonical.basis_eq row] at equal
  exact Fin.ext (Int.ofNat.inj equal)

theorem basicValue_of_ne (canonical : Canonical tableau basic) {column : Fin L.width}
    (nonbasic : ∀ row, basic row ≠ column) (tolerance : ℚ) :
    tableau.basicValue tolerance column.val = (.notBasic, 0) := by
  rw [basicValue, canonical.rowOf_of_ne nonbasic]

theorem basicValue_basic_exact (canonical : Canonical tableau basic) (row : Fin L.constraints) :
    (tableau.basicValue 0 (basic row).val).2 = (tableau.rows row).target := by
  rw [basicValue, canonical.rowOf_basic row]
  simp only
  split
  · rename_i small
    exact ((Scalar.magnitude_le_zero_iff _).mp small).symm
  · rfl

/-! ## The decision variables -/

theorem withRowValue_eq_ok (canonical : Canonical tableau basic) (tolerance : ℚ)
    (values : Family L.decisions ℚ) (row : Fin L.constraints) :
    ∃ next, tableau.withRowValue tolerance values row = .ok next ∧
      ∀ decision, next decision =
        if (basic row).val = decision.val then (tableau.basicValue tolerance decision.val).2
        else values decision := by
  unfold withRowValue
  simp only [canonical.basis_eq row]
  by_cases isDecision : (basic row).val < L.decisions
  · have resolved := resolveAxis_val 0 ⟨(basic row).val, isDecision⟩
    simp only at resolved
    rw [if_pos (Int.ofNat_lt.mpr isDecision), resolved]
    refine ⟨_, rfl, ?_⟩
    intro decision
    simp only [Family.get_set, Fin.ext_iff]
    split
    · rename_i here
      rw [← here]
    · rfl
  · rw [if_neg fun less => isDecision (Int.ofNat_lt.mp less)]
    refine ⟨values, rfl, fun decision => (if_neg ?_).symm⟩
    have bound := decision.isLt
    omega

theorem foldlM_withRowValue (canonical : Canonical tableau basic) (tolerance : ℚ)
    (rows : List (Fin L.constraints)) (values : Family L.decisions ℚ) :
    ∃ final, rows.foldlM (tableau.withRowValue tolerance) values = .ok final ∧
      ∀ decision, final decision =
        if ∃ row ∈ rows, (basic row).val = decision.val then
          (tableau.basicValue tolerance decision.val).2
        else values decision := by
  induction rows generalizing values with
  | nil => exact ⟨values, rfl, fun decision => by simp⟩
  | cons row rest induction =>
      obtain ⟨next, stepped, nextValues⟩ := canonical.withRowValue_eq_ok tolerance values row
      obtain ⟨final, finished, finalValues⟩ := induction next
      refine ⟨final, ?_, ?_⟩
      · rw [List.foldlM_cons, stepped]
        exact finished
      · intro decision
        rw [finalValues, nextValues]
        by_cases later : ∃ row ∈ rest, (basic row).val = decision.val
        · rw [if_pos later, if_pos]
          obtain ⟨other, member, same⟩ := later
          exact ⟨other, List.mem_cons_of_mem _ member, same⟩
        · rw [if_neg later]
          by_cases here : (basic row).val = decision.val
          · rw [if_pos here, if_pos ⟨row, List.mem_cons_self, here⟩]
          · rw [if_neg here, if_neg]
            rintro ⟨other, member, same⟩
            rcases List.mem_cons.mp member with rfl | member
            · exact here same
            · exact later ⟨other, member, same⟩

theorem point_eq_ok (canonical : Canonical tableau basic) (tolerance : ℚ) :
    ∃ values, tableau.point tolerance = .ok values ∧
      ∀ decision, values decision = (tableau.basicValue tolerance decision.val).2 := by
  obtain ⟨values, read, eachValue⟩ := canonical.foldlM_withRowValue tolerance L.constraintRows
    (.constant L.decisions 0)
  refine ⟨values, read, ?_⟩
  intro decision
  rw [eachValue]
  split
  · rfl
  · rename_i nonbasic
    have notBasic (row : Fin L.constraints) : basic row ≠ L.decisionColumn decision :=
      fun same => nonbasic ⟨row, List.mem_finRange row, congrArg Fin.val same⟩
    have value := canonical.basicValue_of_ne notBasic tolerance
    rw [Family.get_constant]
    exact (congrArg Prod.snd value).symm

theorem basicValue_exact (canonical : Canonical tableau basic) (column : Fin L.width) :
    (tableau.basicValue 0 column.val).2 = tableau.basicSolution basic column := by
  by_cases isBasic : ∃ row, basic row = column
  · obtain ⟨row, rfl⟩ := isBasic
    rw [canonical.basicValue_basic_exact row, basicSolution, spread_basic _ canonical.injective]
  · have nonbasic (row : Fin L.constraints) : basic row ≠ column := fun same =>
      isBasic ⟨row, same⟩
    rw [canonical.basicValue_of_ne nonbasic, basicSolution, spread_of_ne _ nonbasic]

/-- Without tolerance the point is the decision part of the basic solution. -/
theorem point_exact (canonical : Canonical tableau basic) :
    ∃ values, tableau.point 0 = .ok values ∧
      values.toList = L.decisionPart (tableau.basicSolution basic) := by
  obtain ⟨values, read, eachValue⟩ := canonical.point_eq_ok 0
  refine ⟨values, read, ?_⟩
  rw [Family.toList_eq_ofFn, Layout.decisionPart]
  apply congrArg List.ofFn
  funext decision
  rw [eachValue]
  exact canonical.basicValue_exact (L.decisionColumn decision)

end TableauSimplex.Tableau.Canonical
