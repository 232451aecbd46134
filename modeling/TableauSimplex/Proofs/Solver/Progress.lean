import TableauSimplex.Proofs.Solver.Certificate
import TableauSimplex.Proofs.Solver.Trace
import TableauSimplex.Proofs.Tableau.Encoding

/-!
# The progress of a solve

Without tolerance, and with any allowance for the residual, every tableau within a phase is
admissible, and a tableau of the first phase is equivalent to the one the solve started from.  So
no target is ever negative, the residual of the first phase is the sum of the targets in the
artificial rows, and an exchange of a phase moves the driving target up exactly if the leaving row
has a positive target.
-/

set_option autoImplicit false

namespace TableauSimplex.Tableau

variable {L : Layout} {options : Options ℚ} {start tableau : Tableau L ℚ}

/-! ## Orderly states -/

def Orderly (start : Tableau L ℚ) : SolveState L ℚ → Prop
  | .within state =>
      (∃ basic, state.tableau.Admissible basic) ∧
        (state.tableau.phase = .first →
          start.Equivalent state.tableau ∧ state.tableau.sense = start.sense)
  | .between pending tableau => ∃ basic, Settled tableau basic pending

theorem Orderly.step {state next : SolveState L ℚ} (orderly : start.Orderly state)
    (noTolerance : options.tolerance = 0) (step : state.Step options next) :
    start.Orderly next := by
  cases step with
  | exchange move =>
      obtain ⟨⟨basic, admissible⟩, meaning⟩ := orderly
      rw [noTolerance] at move ⊢
      have chosen := chosen_of_nextMove move
      refine ⟨⟨_, admissible.exchange chosen⟩, ?_⟩
      intro first
      obtain ⟨equivalent, sense⟩ := meaning first
      exact ⟨equivalent.trans (equivalent_exchange _ chosen.positive.ne'), sense⟩
  | leave _ _ _ =>
      obtain ⟨⟨basic, admissible⟩, _⟩ := orderly
      exact ⟨basic, admissible.settled_clearResidual⟩
  | @skip row _ _ structural =>
      obtain ⟨basic, settled⟩ := orderly
      rw [isArtificialRow_iff settled.canonical row, not_le] at structural
      exact ⟨basic, settled.skip structural⟩
  | @keep row _ tableau artificial missing =>
      obtain ⟨basic, settled⟩ := orderly
      rw [noTolerance] at missing
      have cleared := target_clearTarget_self tableau row
      exact ⟨basic, (settled.clearTarget row).redundant cleared missing⟩
  | @expel row _ tableau _ artificial chosen =>
      obtain ⟨basic, settled⟩ := orderly
      rw [noTolerance] at chosen ⊢
      have cleared := target_clearTarget_self tableau row
      exact ⟨_, (settled.clearTarget row).replace cleared chosen⟩
  | enter tableau =>
      obtain ⟨basic, settled⟩ := orderly
      refine ⟨⟨basic, settled.leaveFirstPhase.admissible⟩, ?_⟩
      intro impossible
      cases impossible

theorem Reaches.orderly {state : SolveState L ℚ} (reached : start.Reaches options state)
    (noTolerance : options.tolerance = 0) (admissible : ∃ basic, start.Admissible basic) :
    start.Orderly state :=
  reached.invariant start.Orderly ⟨admissible, fun _ => ⟨.refl start, rfl⟩⟩
    fun _ _ _ orderly step => orderly.step noTolerance step

/-! ## The artificial rows -/

/-- The sum of the targets of the rows whose basic column is artificial. -/
def artificialMass (tableau : Tableau L ℚ) : ℚ :=
  ∑ row, if tableau.isArtificialRow row then (tableau.rows row).target else 0

section ArtificialMass

variable {basic : Fin L.constraints → Fin L.width} {constraints : List (Constraint ℚ)}
  {objective : List ℚ} {sense : Sense}

theorem Canonical.artificialSum_spread (canonical : tableau.Canonical basic)
    (values : Fin L.constraints → ℚ) :
    L.artificialSum (spread basic values) =
      ∑ row, if tableau.isArtificialRow row then values row else 0 := by
  have target : (artificialCount L : Row L.width ℚ).target = 0 := rfl
  have entry (row : Fin L.constraints) : (artificialCount L : Row L.width ℚ).entries (basic row) =
      if tableau.isArtificialRow row then 1 else 0 := by
    simp [artificialCount, Layout.isArtificial, isArtificialRow_iff canonical row]
  rw [← gap_artificialCount, Row.gap, target, sub_zero, form_spread]
  apply Finset.sum_congr rfl
  intro row _
  rw [entry, ite_mul, one_mul, zero_mul]

theorem Canonical.artificialSum_eq_artificialMass (canonical : tableau.Canonical basic) :
    L.artificialSum (tableau.basicSolution basic) = tableau.artificialMass :=
  canonical.artificialSum_spread _

theorem Represents.infeasibility_eq (represents : Represents tableau constraints objective sense)
    (canonical : tableau.Canonical basic) : tableau.infeasibility = tableau.artificialMass := by
  have form : tableau.residual.form (tableau.basicSolution basic) = 0 := by
    rw [basicSolution, form_spread]
    apply Finset.sum_eq_zero
    intro row _
    have zero : tableau.residual.entries (basic row) = 0 :=
      canonical.entries_basic_of_ne .residual (by simp)
    rw [zero, zero_mul]
  have gap := represents.residual_gap _ canonical.solves_basicSolution
  rw [canonical.artificialSum_eq_artificialMass, Row.gap, form, zero_sub] at gap
  exact gap

end ArtificialMass

/-! ## Solves of a program -/

/-- In every tableau within a phase of the solve of a program no target is negative, in the first
phase the residual is the sum of the targets in the artificial rows, and an exchange does not move
the driving target down; it moves it up exactly if the target of the leaving row is positive. -/
theorem solve_progresses (noTolerance : options.tolerance = 0)
    {constraints : List (Constraint ℚ)} {objective : List ℚ} {sense : Sense}
    (built : build constraints objective sense = .ok ⟨L, start⟩) :
    start.infeasibility = start.artificialMass ∧
    (∀ state : PhaseState L ℚ, start.Reaches options (.within state) →
      (∀ row, 0 ≤ (state.tableau.rows row).target) ∧
      (state.tableau.phase = .first →
        state.tableau.infeasibility = state.tableau.artificialMass) ∧
      ∀ entering leaving,
        state.nextMove options.tolerance options.rule = .exchange entering leaving →
          let next := (state.exchanged options.tolerance entering leaving).tableau
          state.tableau.driving.target ≤ next.driving.target ∧
            (state.tableau.driving.target < next.driving.target ↔
              0 < (state.tableau.rows leaving).target)) ∧
    ∀ names, (start.solveNamed options names).Within (start.Shows options)
      (start.Fails options) := by
  obtain ⟨represents, basic, admissible⟩ := build_spec built
  refine ⟨represents.infeasibility_eq admissible.canonical, ?_,
    fun names => within_solveNamed options names start⟩
  intro state reached
  obtain ⟨⟨basic, admissible⟩, meaning⟩ := reached.orderly noTolerance ⟨basic, admissible⟩
  refine ⟨admissible.targets_nonneg, ?_, ?_⟩
  · intro first
    obtain ⟨equivalent, sense⟩ := meaning first
    exact (represents.of_equivalent equivalent sense).infeasibility_eq admissible.canonical
  · intro entering leaving move
    rw [noTolerance] at move ⊢
    have chosen := chosen_of_nextMove move
    have increases := admissible.driving_target_le_exchange chosen
    have stays := Admissible.driving_target_exchange_eq_iff chosen
    have nonneg := admissible.targets_nonneg leaving
    refine ⟨increases, ?_⟩
    calc state.tableau.driving.target <
          (state.tableau.exchange entering leaving 0).driving.target
        ↔ (state.tableau.exchange entering leaving 0).driving.target ≠
            state.tableau.driving.target := increases.lt_iff_ne.trans ne_comm
      _ ↔ (state.tableau.rows leaving).target ≠ 0 := not_congr stays
      _ ↔ 0 < (state.tableau.rows leaving).target := ne_comm.trans nonneg.lt_iff_ne.symm

/-- Two variables with at least two in all, and a difference of at most three. -/
def covering : List (Constraint ℚ) :=
  [.linear 1 [1] .atLeast 2, .linear 1 [-1] .atMost 3]

theorem solve_progresses_covering :
    ∃ L, ∃ start : Tableau L ℚ, build covering [1, 2] .minimise = .ok ⟨L, start⟩ ∧
      start.infeasibility = 2 ∧ start.artificialMass = 2 ∧
        ∀ state : PhaseState L ℚ, start.Reaches (Options.sharpened .standard) (.within state) →
          ∀ row, 0 ≤ (state.tableau.rows row).target := by
  have nonempty : covering ≠ [] := List.cons_ne_nil _ _
  obtain ⟨L, start, built⟩ := exists_build nonempty [1, 2] .minimise
  have noTolerance : (Options.sharpened .standard).tolerance = 0 := rfl
  obtain ⟨mass, within, _⟩ := solve_progresses noTolerance built
  have residual : (build covering [1, 2] .minimise).map (fun start => start.2.infeasibility) =
      .ok 2 := by decide +kernel
  rw [built] at residual
  have two := Except.ok.inj residual
  exact ⟨L, start, built, two, mass.symm.trans two, fun state reached => (within state reached).1⟩

end TableauSimplex.Tableau
