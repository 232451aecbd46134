import TableauSimplex.Proofs.Solver.Handover
import TableauSimplex.Proofs.Solver.Trace
import TableauSimplex.Proofs.Tableau.Encoding
import TableauSimplex.Proofs.Tableau.Point

/-!
# The basis of a solve

Whatever the tolerance, every tableau that a solve reaches is in canonical form.  An exchange is
made on an entry that exceeds the tolerance, in a column that is not basic, and clearing a target
changes no entry.  So the checks of the basis cannot fail, and it makes no difference to a solve
whether they are made.
-/

set_option autoImplicit false

namespace TableauSimplex

/-- Whether a fault is one of the basis itself. -/
def Fault.ConcernsBasis : Fault → Prop
  | .sharedBasis _ | .brokenColumn _ _ | .sameVariable => True
  | .noLeavingRow _ | .pivotCeiling _ _ => False

variable {L : Layout} {options : Options ℚ}

namespace SolveState.Exchanges

variable {state : SolveState L ℚ} {tableau : Tableau L ℚ} {entering : Fin L.width}
  {leaving : Fin L.constraints} {basic : Fin L.constraints → Fin L.width}

theorem pivot_ne_zero (exchanges : state.Exchanges options tableau entering leaving)
    (tolerant : 0 ≤ options.tolerance) : (tableau.rows leaving).entries entering ≠ 0 := by
  cases exchanges with
  | phase move => exact (tolerant.trans_lt (Tableau.exceeds_of_nextMove move).2).ne'
  | handOver _ chosen => exact abs_pos.mp (tolerant.trans_lt (Tableau.replacement_spec chosen).2)

theorem canonical (exchanges : state.Exchanges options tableau entering leaving)
    (canonical : state.tableau.Canonical basic) : tableau.Canonical basic := by
  cases exchanges with
  | phase _ => exact canonical
  | handOver _ _ => exact canonical.of_entries_eq (fun _ => rfl) (Tableau.entries_clearTarget _ _)

theorem basic_ne_entering (exchanges : state.Exchanges options tableau entering leaving)
    (tolerant : 0 ≤ options.tolerance) (canonical : state.tableau.Canonical basic) :
    basic leaving ≠ entering := by
  cases exchanges with
  | phase move =>
      have improves := (Tableau.exceeds_of_nextMove move).1.trans_le (neg_nonpos.mpr tolerant)
      exact canonical.ne_basic_of_driving_ne_zero improves.ne leaving
  | handOver artificial chosen =>
      have isArtificial := (Tableau.isArtificialRow_iff canonical leaving).mp artificial
      have structural := (Tableau.replacement_spec chosen).1
      rintro rfl
      omega

end SolveState.Exchanges

namespace Tableau

/-! ## Canonical form -/

theorem exists_canonical_of_step (tolerant : 0 ≤ options.tolerance) {state next : SolveState L ℚ}
    (step : state.Step options next) (canonical : ∃ basic, state.tableau.Canonical basic) :
    ∃ basic, next.tableau.Canonical basic := by
  obtain ⟨basic, canonical⟩ := canonical
  cases step with
  | exchange move =>
      have exchanges := SolveState.Exchanges.phase move
      exact ⟨_, canonical.exchange (exchanges.pivot_ne_zero tolerant) _⟩
  | leave _ _ _ =>
      exact ⟨basic, canonical.of_entries_eq (fun _ => rfl) fun index => by cases index <;> rfl⟩
  | skip _ => exact ⟨basic, canonical⟩
  | keep _ _ =>
      exact ⟨basic, canonical.of_entries_eq (fun _ => rfl) (entries_clearTarget _ _)⟩
  | @expel row rest _ _ artificial chosen =>
      have exchanges : SolveState.Exchanges options (.between (row :: rest) _) _ _ row :=
        .handOver artificial chosen
      exact ⟨_, (exchanges.canonical canonical).exchange (exchanges.pivot_ne_zero tolerant) _⟩
  | enter tableau =>
      exact ⟨basic, canonical.of_entries_eq (fun _ => rfl) fun index => by cases index <;> rfl⟩

variable {start : Tableau L ℚ}

theorem Reaches.exists_canonical {state : SolveState L ℚ} (reached : start.Reaches options state)
    (tolerant : 0 ≤ options.tolerance) (canonical : ∃ basic, start.Canonical basic) :
    ∃ basic, state.tableau.Canonical basic :=
  reached.invariant (fun state => ∃ basic, state.tableau.Canonical basic) canonical
    fun _ _ _ holds step => exists_canonical_of_step tolerant step holds

/-- From a tableau in canonical form no fault of the basis can occur, and the point can always be
read. -/
theorem Fails.not_concernsBasis {error : RunError} (fails : start.Fails options error)
    (tolerant : 0 ≤ options.tolerance) (canonical : ∃ basic, start.Canonical basic) :
    ∃ broken, error = .invariant broken ∧ ¬ broken.fault.ConcernsBasis := by
  cases fails with
  | sameVariable reached exchanges same =>
      obtain ⟨basic, canonical⟩ := reached.exists_canonical tolerant canonical
      rw [(exchanges.canonical canonical).basis_eq] at same
      exact absurd (Fin.ext (Int.ofNat.inj same)) (exchanges.basic_ne_entering tolerant canonical)
  | check reached broken =>
      obtain ⟨basic, canonical⟩ := reached.exists_canonical tolerant canonical
      rw [canonical.checkBasis_eq_ok] at broken
      cases broken
  | noLeavingRow reached first move => exact ⟨_, rfl, id⟩
  | pivotCeiling limit reached move => exact ⟨_, rfl, id⟩
  | point reached unreadable =>
      obtain ⟨basic, canonical⟩ := reached.exists_canonical tolerant canonical
      obtain ⟨values, read, _⟩ := canonical.point_eq_ok options.tolerance
      cases unreadable.symm.trans read

/-! ## The checks make no difference -/

theorem checkedExchange_congr_checks {state : SolveState L ℚ} {tableau : Tableau L ℚ}
    {entering : Fin L.width} {leaving : Fin L.constraints}
    (reached : start.Reaches options state)
    (exchanges : state.Exchanges options tableau entering leaving)
    (tolerant : 0 ≤ options.tolerance) (canonical : ∃ basic, start.Canonical basic)
    (checks : Bool) :
    checkedExchange options tableau entering leaving =
      checkedExchange { options with checksBasis := checks } tableau entering leaving := by
  obtain ⟨basic, canonical⟩ := reached.exists_canonical tolerant canonical
  have pivot := exchanges.pivot_ne_zero tolerant
  have other := exchanges.basic_ne_entering tolerant canonical
  rw [(exchanges.canonical canonical).checkedExchange_eq pivot other,
    (exchanges.canonical canonical).checkedExchange_eq pivot other]

theorem agrees_checks (tolerant : 0 ≤ options.tolerance)
    (canonical : ∃ basic, start.Canonical basic) (checks : Bool) :
    start.Agrees options { options with checksBasis := checks } where
  maxPivots := rfl
  nextMove _ _ := rfl
  exchange _ _ _ reached move :=
    ⟨checkedExchange_congr_checks reached (.phase move) tolerant canonical checks, rfl⟩
  residual _ _ _ _ := Iff.rfl
  replacement _ _ _ _ _ := rfl
  expel _ _ _ _ reached artificial chosen :=
    checkedExchange_congr_checks reached (.handOver artificial chosen) tolerant canonical checks
  reads _ _ := ⟨rfl, rfl, rfl⟩

/-! ## Solves of a program -/

theorem exists_canonical_of_build {constraints : List (Constraint ℚ)} {objective : List ℚ}
    {sense : Sense} (built : build constraints objective sense = .ok ⟨L, start⟩) :
    ∃ basic, start.Canonical basic := by
  obtain ⟨_, basic, admissible⟩ := build_spec built
  exact ⟨basic, admissible.canonical⟩

/-- In every tableau that the solve of a program reaches, the basic columns are distinct unit
columns and pass the check.  Every exchange replaces a column by another one on an entry that is
not zero.  So no solve fails because of its basis, and it is the same one without the checks. -/
theorem solve_keeps_unit_basis (tolerant : 0 ≤ options.tolerance)
    {constraints : List (Constraint ℚ)} {objective : List ℚ} {sense : Sense}
    (built : build constraints objective sense = .ok ⟨L, start⟩) :
    (∀ state, start.Reaches options state →
      (∃ basic : Fin L.constraints → Fin L.width, Function.Injective basic ∧
        ∀ row, state.tableau.basis row = (basic row).val ∧
          state.tableau.UnitColumn (basic row) row) ∧
      state.tableau.checkBasis options.tolerance = .ok ()) ∧
    (∀ state tableau entering leaving, start.Reaches options state →
      state.Exchanges options tableau entering leaving →
        tableau.basis leaving ≠ entering.val ∧ (tableau.rows leaving).entries entering ≠ 0) ∧
    ∀ names,
      (start.solveNamed options names).Within (start.Shows options)
        (fun error => ∃ broken, error = .invariant broken ∧ ¬ broken.fault.ConcernsBasis) ∧
      ∀ checks, start.solveNamed { options with checksBasis := checks } names =
        start.solveNamed options names := by
  have canonical := exists_canonical_of_build built
  refine ⟨?_, ?_, ?_⟩
  · intro state reached
    obtain ⟨basic, canonical⟩ := reached.exists_canonical tolerant canonical
    exact ⟨⟨basic, canonical.injective, fun row => ⟨canonical.basis_eq row, canonical.unit row⟩⟩,
      canonical.checkBasis_eq_ok options.tolerance⟩
  · intro state tableau entering leaving reached exchanges
    obtain ⟨basic, canonical⟩ := reached.exists_canonical tolerant canonical
    refine ⟨?_, exchanges.pivot_ne_zero tolerant⟩
    rw [(exchanges.canonical canonical).basis_eq]
    exact fun same =>
      exchanges.basic_ne_entering tolerant canonical (Fin.ext (Int.ofNat.inj same))
  · intro names
    have within := within_solveNamed options names start
    exact ⟨⟨within.event, fun error failed =>
        (within.error error failed).not_concernsBasis tolerant canonical⟩,
      fun checks => ((agrees_checks tolerant canonical checks).solveNamed names).symm⟩

/-- Two variables that cancel each other: their artificial variable is basic at zero from the
beginning, and only the hand-over exchanges it. -/
def cancelling : List (Constraint ℚ) :=
  [.linear (-1) [-1] .equal 0, .linear 1 [] .atMost 3]

theorem solve_keeps_unit_basis_cancelling :
    (∃ solution, solveSystem .standard cancelling [1] .maximise none = .ok solution ∧
      solution.phaseOnePivots = 1) ∧
    ∃ L, ∃ start : Tableau L ℚ, build cancelling [1] .maximise = .ok ⟨L, start⟩ ∧
      (∀ state, start.Reaches .standard state →
        state.tableau.checkBasis (Options.standard : Options ℚ).tolerance = .ok ()) ∧
      start.solveNamed { (Options.standard : Options ℚ) with checksBasis := false } ["x", "y"] =
        start.solveNamed .standard ["x", "y"] := by
  obtain ⟨L, start, built⟩ := exists_build (List.cons_ne_nil _ _ : cancelling ≠ []) [1] .maximise
  obtain ⟨unit, _, same⟩ := solve_keeps_unit_basis tolerance_standard_nonneg built
  refine ⟨?_, L, start, built, fun state reached => (unit state reached).2,
    (same ["x", "y"]).2 false⟩
  exact exists_of_map_eq_ok (show (solveSystem .standard cancelling [1] .maximise none).map
    Solution.phaseOnePivots = .ok 1 by decide +kernel)

end Tableau

end TableauSimplex
