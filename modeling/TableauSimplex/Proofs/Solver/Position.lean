import TableauSimplex.Proofs.Solver.Trace
import TableauSimplex.Proofs.Tableau.Build

/-!
# Positions in a solve

A basis is a list of numbers, but in the tableau of a program they are columns, and an exchange
writes a column.  So in every state of its solve they are columns, whatever the arithmetic, and no
reading of the basis can point outside the tableau: each error of a solve is a broken invariant.
-/

set_option autoImplicit false

namespace TableauSimplex.Tableau

variable {L : Layout} {α : Type}

/-- Whether every basic number is a column. -/
def BasisInside (tableau : Tableau L α) : Prop :=
  ∀ row, ∃ column : Fin L.width, tableau.basis row = column.val

variable [Scalar α] {tableau : Tableau L α}

namespace BasisInside

theorem exchange (inside : tableau.BasisInside) (entering : Fin L.width)
    (leaving : Fin L.constraints) (tolerance : α) :
    (tableau.exchange entering leaving tolerance).BasisInside := by
  intro row
  rw [basis_exchange]
  split
  · exact ⟨entering, rfl⟩
  · exact inside row

/-! ## Reading the basis -/

theorem exists_invariant_of_checkRow (inside : tableau.BasisInside) {tolerance : α}
    {row : Fin L.constraints} {error : RunError}
    (failed : tableau.checkRow tolerance row = .error error) :
    ∃ broken, error = .invariant broken := by
  obtain ⟨column, isColumn⟩ := inside row
  rw [checkRow, isColumn, CellIndex.resolve_entry] at failed
  simp only at failed
  split at failed
  · cases failed
  · exact ⟨_, (Except.error.inj failed).symm⟩

theorem exists_invariant_of_checkRows (inside : tableau.BasisInside) {tolerance : α}
    {rows : List (Fin L.constraints)} {error : RunError}
    (failed : rows.forM (tableau.checkRow tolerance) = .error error) :
    ∃ broken, error = .invariant broken := by
  induction rows with
  | nil => cases failed
  | cons row rest induction =>
      change (tableau.checkRow tolerance row >>= fun _ =>
        rest.forM (tableau.checkRow tolerance)) = .error error at failed
      cases first : tableau.checkRow tolerance row with
      | error early =>
          rw [first] at failed
          obtain rfl := Except.error.inj failed
          exact inside.exists_invariant_of_checkRow first
      | ok _ =>
          rw [first] at failed
          exact induction failed

theorem exists_invariant_of_checkBasis (inside : tableau.BasisInside) {tolerance : α}
    {error : RunError} (failed : tableau.checkBasis tolerance = .error error) :
    ∃ broken, error = .invariant broken := by
  unfold checkBasis at failed
  split at failed
  · exact inside.exists_invariant_of_checkRows failed
  · exact ⟨_, (Except.error.inj failed).symm⟩

theorem exists_withRowValue (inside : tableau.BasisInside) (tolerance : α)
    (values : Family L.decisions α) (row : Fin L.constraints) :
    ∃ next, tableau.withRowValue tolerance values row = .ok next := by
  obtain ⟨column, isColumn⟩ := inside row
  unfold withRowValue
  simp only [isColumn]
  split
  · rename_i less
    have resolved := resolveAxis_val 0 ⟨column.val, Int.ofNat_lt.mp less⟩
    simp only at resolved
    rw [resolved]
    exact ⟨_, rfl⟩
  · exact ⟨values, rfl⟩

theorem exists_point (inside : tableau.BasisInside) (tolerance : α) :
    ∃ values, tableau.point tolerance = .ok values := by
  have read (rows : List (Fin L.constraints)) (values : Family L.decisions α) :
      ∃ final, rows.foldlM (tableau.withRowValue tolerance) values = .ok final := by
    induction rows generalizing values with
    | nil => exact ⟨values, rfl⟩
    | cons row rest induction =>
        obtain ⟨next, stepped⟩ := inside.exists_withRowValue tolerance values row
        rw [List.foldlM_cons, stepped]
        exact induction next
  exact read L.constraintRows _

end BasisInside

/-! ## The states of a solve -/

variable {options : Options α} {start : Tableau L α}

theorem BasisInside.step {state next : SolveState L α} (inside : state.tableau.BasisInside)
    (step : state.Step options next) : next.tableau.BasisInside := by
  cases step with
  | exchange move => exact inside.exchange _ _ _
  | leave _ _ _ => exact inside
  | skip _ => exact inside
  | keep _ _ => exact inside
  | @expel row rest before _ _ _ =>
      have cleared : (before.clearTarget row).BasisInside := inside
      exact cleared.exchange _ _ _
  | enter _ => exact inside

theorem Reaches.basisInside {state : SolveState L α} (reached : start.Reaches options state)
    (inside : start.BasisInside) : state.tableau.BasisInside :=
  reached.invariant (fun state => state.tableau.BasisInside) inside
    fun _ _ _ inside step => inside.step step

theorem Fails.exists_invariant {error : RunError} (fails : start.Fails options error)
    (inside : start.BasisInside) : ∃ broken, error = .invariant broken := by
  cases fails with
  | sameVariable _ _ _ => exact ⟨_, rfl⟩
  | check reached broken =>
      exact (reached.basisInside inside).exists_invariant_of_checkBasis broken
  | noLeavingRow _ _ _ => exact ⟨_, rfl⟩
  | pivotCeiling _ _ _ => exact ⟨_, rfl⟩
  | point reached unreadable =>
      obtain ⟨values, read⟩ := (reached.basisInside inside).exists_point options.tolerance
      cases unreadable.symm.trans read

theorem basisInside_of_build {constraints : List (Constraint α)} {objective : List α}
    {sense : Sense} (built : build constraints objective sense = .ok ⟨L, start⟩) :
    start.BasisInside := by
  simp only [build] at built
  split at built
  · cases built
  · obtain ⟨rfl, rfl⟩ := Sigma.mk.inj (Except.ok.inj built)
    exact fun row => ⟨_, basis_ofNormal _ _ _ _ row⟩

end TableauSimplex.Tableau

namespace TableauSimplex

variable {α : Type} [Scalar α]

/-- No solve of a program reads a position outside its tableau. -/
theorem solveSystem_ne_position (options : Options α) (constraints : List (Constraint α))
    (objective : List α) (sense : Sense) (names : Option (List String)) (error : PositionError) :
    solveSystem options constraints objective sense names ≠ .error (.run (.position error)) := by
  intro failed
  obtain ⟨_, _, built, fails⟩ := exists_fails_of_solveSystem failed
  obtain ⟨broken, isBroken⟩ := fails.exists_invariant (Tableau.basisInside_of_build built)
  cases isBroken

end TableauSimplex
