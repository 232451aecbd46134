import TableauSimplex.Proofs.Log.Faithful
import TableauSimplex.Proofs.Solver.Outcome

/-!
# Basis reports and values

A solution keeps the kinds of its basic columns by name and its values by position.  Both are read
off the last tableau, whose basic columns are distinct, as are the names of columns.  So the report
has an entry for every row, a decision variable has the kind that its value says, and a column that
grows without end, which is none of the basic ones, has an entry of its own.
-/

set_option autoImplicit false

namespace TableauSimplex

/-- Whether the kind that a report has for a variable, if any, says what its value is. -/
def KindFits (tolerance : ℚ) (kind : Option String) (value : ℚ) : Prop :=
  (kind = some "unique" ↔ tolerance < |value|) ∧
    (kind ≠ some "unique" → value = 0 ∧ (kind = none ∨ kind = some "degenerate"))

namespace Tableau

variable {L : Layout} {tableau : Tableau L ℚ} {basic : Fin L.constraints → Fin L.width}
  {tolerance : ℚ}

/-! ## The kinds of the basic columns -/

namespace Canonical

theorem nodup_rowNames (canonical : tableau.Canonical basic) : tableau.rowNames.Nodup := by
  refine List.Nodup.map ?_ (List.nodup_finRange L.constraints)
  intro first second same
  rw [canonical.rowName_eq, canonical.rowName_eq] at same
  exact canonical.injective
    (Fin.ext (L.columnName_injective (basic first).isLt (basic second).isLt same))

theorem entries_basisReport (canonical : tableau.Canonical basic) (tolerance : ℚ) :
    (tableau.basisReport tolerance).entries = L.constraintRows.map fun row =>
      (tableau.rowName row, (tableau.basicValue tolerance (tableau.basis row)).1.name) := by
  apply Table.entries_ofList
  rw [List.map_map]
  exact canonical.nodup_rowNames

theorem names_basisReport (canonical : tableau.Canonical basic) (tolerance : ℚ) :
    (tableau.basisReport tolerance).entries.map Prod.fst = tableau.rowNames := by
  rw [canonical.entries_basisReport, List.map_map]
  rfl

theorem get?_basisReport_basic (canonical : tableau.Canonical basic) (tolerance : ℚ)
    (row : Fin L.constraints) :
    (tableau.basisReport tolerance).get? (L.columnName (basic row).val) =
      some (tableau.basicValue tolerance (basic row).val).1.name := by
  apply Table.get?_eq_some
  · rw [canonical.names_basisReport]
    exact canonical.nodup_rowNames
  · rw [canonical.entries_basisReport, ← canonical.rowName_eq, ← canonical.basis_eq]
    exact List.mem_map_of_mem (List.mem_finRange row)

theorem get?_basisReport_of_ne (canonical : tableau.Canonical basic) (tolerance : ℚ)
    {column : Fin L.width} (nonbasic : ∀ row, basic row ≠ column) :
    (tableau.basisReport tolerance).get? (L.columnName column.val) = none := by
  apply Table.get?_eq_none
  rw [canonical.names_basisReport]
  exact canonical.columnName_not_mem nonbasic

theorem kindFits (canonical : tableau.Canonical basic) (tolerant : 0 ≤ tolerance)
    (column : Fin L.width) :
    KindFits tolerance ((tableau.basisReport tolerance).get? (L.columnName column.val))
      (tableau.basicValue tolerance column.val).2 := by
  have small : ¬ tolerance < |(0 : ℚ)| := by
    rw [abs_zero]
    exact not_lt.mpr tolerant
  by_cases isBasic : ∃ row, basic row = column
  · obtain ⟨row, rfl⟩ := isBasic
    rw [canonical.get?_basisReport_basic, basicValue, canonical.rowOf_basic]
    simp only [Scalar.magnitude_eq_abs]
    split
    · exact ⟨iff_of_false (by decide) small, fun _ => ⟨rfl, .inr rfl⟩⟩
    · rename_i large
      exact ⟨iff_of_true rfl (not_le.mp large), fun differs => absurd rfl differs⟩
  · have nonbasic (row : Fin L.constraints) : basic row ≠ column := fun same =>
      isBasic ⟨row, same⟩
    rw [canonical.get?_basisReport_of_ne tolerance nonbasic, canonical.basicValue_of_ne nonbasic]
    exact ⟨iff_of_false (by decide) small, fun _ => ⟨rfl, .inl rfl⟩⟩

theorem length_basisReport (canonical : tableau.Canonical basic) (tolerance : ℚ) :
    (tableau.basisReport tolerance).entries.length = L.constraints := by
  rw [canonical.entries_basisReport, List.length_map, Layout.constraintRows,
    List.length_finRange]

theorem kindFits_optimalSolution (canonical : tableau.Canonical basic) (tolerant : 0 ≤ tolerance)
    {names : List String} {phaseOnePivots pivots : Nat} {solution : Solution ℚ}
    (reads : tableau.optimalSolution tolerance names phaseOnePivots pivots = .ok solution) :
    ∃ values, solution.values = some values ∧ values.length = L.decisions ∧
      ∀ decision value, values[decision]? = some value →
        KindFits tolerance ((tableau.basisReport tolerance).get? s!"x{decision + 1}") value := by
  obtain ⟨point, read, rfl⟩ := exists_of_map_eq_ok reads
  obtain ⟨values, alsoRead, eachValue⟩ := canonical.point_eq_ok tolerance
  obtain rfl := Except.ok.inj (read.symm.trans alsoRead)
  refine ⟨point.toList, rfl, by rw [Family.toList_eq_ofFn, List.length_ofFn], ?_⟩
  intro decision value found
  rw [Family.toList_eq_ofFn] at found
  obtain ⟨bound, rfl⟩ := List.getElem?_eq_some_iff.mp found
  rw [List.length_ofFn] at bound
  have label : L.columnName decision = s!"x{decision + 1}" := if_pos bound
  have fits := canonical.kindFits tolerant (L.decisionColumn ⟨decision, bound⟩)
  rw [List.getElem_ofFn, eachValue, ← label]
  exact fits

end Canonical

/-! ## The last tableau -/

section Conclusion

variable {options : Options ℚ} {names : List String} {solution : Solution ℚ}
  {state : PhaseState L ℚ}

/-- A solution reports the basis of its last tableau and, if it is unbounded, a structural column
besides. -/
theorem Concludes.basis_cases (concludes : Concludes options names state solution) :
    (solution.status ≠ .unbounded ∧
        solution.basis = state.tableau.basisReport options.tolerance) ∨
      ∃ ray : Fin L.width, solution.status = .unbounded ∧ ray.val < L.structural ∧
        state.nextMove options.tolerance options.rule = .unbounded ray ∧
        solution.basis = (state.tableau.basisReport options.tolerance).put
          (L.columnName ray.val) "unbounded" := by
  unfold Concludes at concludes
  cases phase : state.tableau.phase with
  | first =>
      simp only [phase] at concludes
      obtain ⟨_, _, pivots, rfl⟩ := concludes
      exact .inl ⟨nofun, rfl⟩
  | second =>
      simp only [phase] at concludes
      obtain ⟨phaseOnePivots, outcome, finished, reports⟩ := concludes
      unfold Reports at reports
      cases ray : outcome.ray with
      | none =>
          simp only [ray] at reports
          obtain ⟨_, _, rfl⟩ := exists_of_map_eq_ok reports
          exact .inl ⟨nofun, rfl⟩
      | some column =>
          rw [ray] at finished
          simp only [ray] at reports
          obtain rfl := reports
          obtain ⟨enters, _⟩ := choices_of_unbounded finished.1
          exact .inr ⟨column, rfl, mem_candidates.mp (entering_spec enters).1 phase, finished.1,
            rfl⟩

theorem Canonical.entries_put_unbounded (canonical : state.tableau.Canonical basic)
    (tolerant : 0 ≤ options.tolerance) {ray : Fin L.width}
    (move : state.nextMove options.tolerance options.rule = .unbounded ray) :
    ((state.tableau.basisReport options.tolerance).put (L.columnName ray.val)
        "unbounded").entries =
      (state.tableau.basisReport options.tolerance).entries ++
        [(L.columnName ray.val, "unbounded")] := by
  apply Table.putEntry_of_not_mem
  rw [canonical.names_basisReport]
  exact canonical.columnName_not_mem_rowNames tolerant move

end Conclusion

end Tableau

theorem Layout.columnName_structural (L : Layout) {position : Nat}
    (structural : position < L.structural) :
    (∃ decision < L.decisions, L.columnName position = s!"x{decision + 1}") ∨
      ∃ surplus < L.surplus, L.columnName position = s!"s{surplus + 1}" := by
  by_cases isDecision : position < L.decisions
  · exact .inl ⟨position, isDecision, if_pos isDecision⟩
  · have split : L.structural = L.decisions + L.surplus := rfl
    refine .inr ⟨position - L.decisions, by omega, ?_⟩
    rw [columnName, if_neg isDecision, if_pos structural]

/-! ## Solutions -/

/-- What the basis report of a solution has to say of the program, and of the values. -/
structure Solution.Consistent (solution : Solution ℚ) (tolerance : ℚ)
    (constraints : List (Constraint ℚ)) (objective : List ℚ) : Prop where
  names_nodup : (solution.basis.entries.map Prod.fst).Nodup
  length_basis : solution.basis.entries.length =
    constraints.length + if solution.status = .unbounded then 1 else 0
  unbounded : solution.status = .unbounded →
    ∃ name, solution.basis.entries.filter (fun entry => entry.2 = "unbounded") =
        [(name, "unbounded")] ∧
      ((∃ decision < programSize constraints objective, name = s!"x{decision + 1}") ∨
        ∃ surplus < surplusCount constraints, name = s!"s{surplus + 1}")
  optimal : solution.status = .optimal →
    ∃ values, solution.values = some values ∧
      values.length = programSize constraints objective ∧
      ∀ decision value, values[decision]? = some value →
        KindFits tolerance (solution.basis.get? s!"x{decision + 1}") value

theorem Tableau.Concludes.consistent {L : Layout} {options : Options ℚ} {names : List String}
    {solution : Solution ℚ} {state : PhaseState L ℚ} {basic : Fin L.constraints → Fin L.width}
    {constraints : List (Constraint ℚ)} {objective : List ℚ}
    (concludes : Concludes options names state solution)
    (canonical : state.tableau.Canonical basic) (tolerant : 0 ≤ options.tolerance)
    (fits : L.Accommodates constraints objective) :
    solution.Consistent options.tolerance constraints objective := by
  have size : L.decisions = programSize constraints objective := fits.decisions_eq
  have reported := canonical.names_basisReport options.tolerance
  have count := canonical.length_basisReport options.tolerance
  -- Only the entry of a ray can be foreign to the rows, and it stands behind theirs.
  rcases concludes.basis_cases with ⟨bounded, report⟩ | ⟨ray, unbounded, structural, move, report⟩
  · exact
      { names_nodup := by
          rw [report, reported]
          exact canonical.nodup_rowNames
        length_basis := by rw [report, count, if_neg bounded, fits.constraints_eq, add_zero]
        unbounded := fun unbounded => absurd unbounded bounded
        optimal := by
          intro optimal
          obtain ⟨_, _, _, _, reads⟩ := concludes.of_optimal optimal
          rw [report, ← size]
          exact canonical.kindFits_optimalSolution tolerant reads }
  · have entries := canonical.entries_put_unbounded tolerant move
    rw [← report] at entries
    exact
      { names_nodup := by
          rw [entries, List.map_append, reported, List.nodup_append]
          refine ⟨canonical.nodup_rowNames, List.nodup_singleton _, ?_⟩
          rintro _ member _ isRay rfl
          rw [List.mem_singleton.mp isRay] at member
          exact canonical.columnName_not_mem_rowNames tolerant move member
        length_basis := by
          rw [entries, List.length_append, count, if_pos unbounded, fits.constraints_eq]
          rfl
        unbounded := by
          intro _
          refine ⟨L.columnName ray.val, ?_, ?_⟩
          · have basicKinds : (state.tableau.basisReport options.tolerance).entries.filter
                (fun entry => entry.2 = "unbounded") = [] := by
              rw [canonical.entries_basisReport, List.filter_eq_nil_iff]
              simp [BasicKind.name_ne_unbounded]
            rw [entries, List.filter_append, basicKinds]
            rfl
          · rw [← size, ← fits.surplus_eq]
            exact L.columnName_structural structural
        optimal := by
          intro optimal
          rw [optimal] at unbounded
          cases unbounded }

/-- With any tolerance a solution has one entry in its report for every constraint.  An unbounded
one has one more, for a decision or surplus variable, and in an optimal one the entries fit the
values. -/
theorem solveSystem_consistent {options : Options ℚ} (tolerant : 0 ≤ options.tolerance)
    {constraints : List (Constraint ℚ)} {objective : List ℚ} {sense : Sense}
    {names : Option (List String)} {solution : Solution ℚ}
    (solved : solveSystem options constraints objective sense names = .ok solution) :
    solution.Consistent options.tolerance constraints objective := by
  obtain ⟨L, start, used, final, built, _, ends⟩ := solveSystem_eq_ok.mp solved
  obtain ⟨state, reached, _, concludes⟩ := Tableau.exists_concluding_state ends
  obtain ⟨basic, canonical⟩ :=
    reached.exists_canonical tolerant (Tableau.exists_canonical_of_build built)
  exact concludes.consistent canonical tolerant (Tableau.accommodates_of_build built)

/-- Two bounds that meet in a corner with a positive, a degenerate and a nonbasic variable. -/
def meetingBounds : List (Constraint ℚ) :=
  [.linear 1 [0, 1] .atMost 1, .linear 1 [1] .atMost 1]

theorem solveSystem_consistent_meetingBounds :
    0 ≤ (Options.standard : Options ℚ).tolerance ∧
      ∃ solution, solveSystem .standard meetingBounds [1, 1] .maximise none = .ok solution ∧
        solution.status = .optimal ∧ solution.values = some [1, 0, 0] ∧
        solution.basis.entries = [("x1", "unique"), ("x2", "degenerate")] ∧
        solution.Consistent (Options.standard : Options ℚ).tolerance meetingBounds [1, 1] := by
  obtain ⟨solution, solved, read⟩ := exists_of_map_eq_ok
    (show (solveSystem .standard meetingBounds [1, 1] .maximise none).map
        (fun solution => (solution.status, solution.values, solution.basis.entries)) =
      .ok (.optimal, some [1, 0, 0], [("x1", "unique"), ("x2", "degenerate")]) by decide +kernel)
  simp only [Prod.mk.injEq] at read
  obtain ⟨optimal, values, entries⟩ := read
  exact ⟨tolerance_standard_nonneg, solution, solved, optimal, values, entries,
    solveSystem_consistent tolerance_standard_nonneg solved⟩

end TableauSimplex
