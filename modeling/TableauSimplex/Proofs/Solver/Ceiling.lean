import TableauSimplex.Proofs.Solver.Solve
import TableauSimplex.Proofs.Solver.Phase
import TableauSimplex.Proofs.Program.Feasible

/-!
# The ceiling of exchanges

A phase makes no more exchanges than its budget allows, and the second phase gets what the first
one and the hand-over leave of the ceiling.  The hand-over itself has no budget: it makes up to one
exchange for every row.  So the exchanges of a solve are within its ceiling unless those of the
hand-over are what exceeds it, and then the second phase makes none.
-/

set_option autoImplicit false

namespace TableauSimplex

namespace Tableau

variable {L : Layout} {α : Type} [Scalar α] {options : Options α} {tableau final : Tableau L α}

theorem pivots_of_endsIn_optimiseFrom {limit : Int} {budget streak pivots : Nat}
    {outcome : PhaseOutcome L}
    (ends : (optimiseFrom options limit budget streak pivots tableau).EndsIn outcome final) :
    pivots ≤ outcome.pivots ∧ outcome.pivots ≤ pivots + budget := by
  induction budget generalizing streak pivots tableau with
  | zero =>
      rcases endsIn_optimiseFrom.mp ends with ⟨_, counted, _⟩ | ⟨_, _, _, impossible, _⟩
      · omega
      · cases impossible
  | succ budget induction =>
      rcases endsIn_optimiseFrom.mp ends with ⟨_, counted, _⟩ | ⟨_, _, _, same, _, _, _, rest⟩
      · omega
      · obtain rfl := Nat.succ.inj same
        have bounds := induction rest
        omega

theorem pivots_le_of_endsIn_optimise {limit : Int} {outcome : PhaseOutcome L}
    (ends : (optimise options limit tableau).EndsIn outcome final) :
    outcome.pivots ≤ limit.toNat := by
  have bounds := pivots_of_endsIn_optimiseFrom ends
  omega

theorem count_le_of_endsIn_expelArtificials {rows : List (Fin L.constraints)}
    {pivots count : Nat}
    (ends : (expelArtificials options rows pivots tableau).EndsIn count final) :
    count ≤ pivots + rows.length := by
  induction rows generalizing pivots tableau with
  | nil => exact (Run.endsIn_done.mp ends).1.ge
  | cons row rest induction =>
      rw [expelArtificials] at ends
      rw [List.length_cons]
      split at ends
      · simp only at ends
        split at ends
        · have bound := induction ends
          omega
        · obtain ⟨_, _, _, expelled⟩ := Run.endsIn_andThen.mp ends
          have bound := induction expelled
          omega
      · have bound := induction ends
        omega

theorem count_le_of_endsIn_handOver {count : Nat}
    (ends : (handOver options tableau).EndsIn (some count) final) : count ≤ L.constraints := by
  rw [handOver] at ends
  split at ends
  · simp at ends
  · obtain ⟨_, _, expelled, rest⟩ := Run.endsIn_andThen.mp ends
    obtain ⟨same, _⟩ := Run.endsIn_done.mp rest
    obtain rfl := Option.some.inj same
    simpa [Layout.constraintRows] using count_le_of_endsIn_expelArtificials expelled

/-! ## The exchanges of a solution -/

variable {names : List String} {solution : Solution α}

theorem pivots_of_endsIn_secondPhase {ceiling : Int} {phaseOnePivots : Nat}
    (ends : (secondPhase options names ceiling phaseOnePivots tableau).EndsIn solution final) :
    solution.phaseOnePivots = phaseOnePivots ∧ solution.phaseOnePivots ≤ solution.pivots ∧
      solution.pivots ≤ max ceiling phaseOnePivots := by
  obtain ⟨outcome, optimised, reports⟩ := endsIn_secondPhase.mp ends
  obtain ⟨_, first, all, _⟩ := reports.spec
  have bound := pivots_le_of_endsIn_optimise optimised
  omega

end Tableau

namespace LinearProgram

/-- The exchanges of a solution are within the ceiling, or the hand-over made those beyond it. -/
theorem solve_overspends_only_expelling {α : Type} [Scalar α] {program : LinearProgram α}
    {options : Options α} {ceiling : Nat} (limited : options.maxPivots = some (ceiling : Int))
    {solution : Solution α} (solves : program.solve options = .ok solution) :
    0 ≤ solution.phaseOnePivots ∧ solution.phaseOnePivots ≤ solution.pivots ∧
      (solution.pivots ≤ ceiling ∨
        ∃ (L : Layout) (start optimised handed : Tableau L α) (outcome : PhaseOutcome L)
            (expelled : Nat),
          Tableau.build program.system program.objective program.sense = .ok ⟨L, start⟩ ∧
          (Tableau.optimise options ceiling start).EndsIn outcome optimised ∧
          (Tableau.handOver options optimised).EndsIn (some expelled) handed ∧
          outcome.pivots ≤ ceiling ∧ expelled ≤ L.constraints ∧
          solution.phaseOnePivots = (outcome.pivots + expelled : Nat) ∧
          solution.pivots = solution.phaseOnePivots) := by
  obtain ⟨L, start, used, final, built, _, ends⟩ := solveSystem_eq_ok.mp solves
  have limit : (options.maxPivots.getD L.pivotCeiling : Int) = ceiling := by rw [limited]; rfl
  rw [Tableau.endsIn_solveNamed, limit] at ends
  rcases ends with ⟨_, firstEnds⟩ | ⟨_, secondEnds⟩
  · obtain ⟨outcome, optimised, phaseEnds, rest⟩ := Tableau.endsIn_firstPhase.mp firstEnds
    have walked : outcome.pivots ≤ ceiling := Tableau.pivots_le_of_endsIn_optimise phaseEnds
    rcases rest with ⟨_, rfl⟩ | ⟨expelled, handed, handsOver, secondEnds⟩
    · simp only [Tableau.infeasibleSolution]
      omega
    · have few := Tableau.count_le_of_endsIn_handOver handsOver
      obtain ⟨first, le, bound⟩ := Tableau.pivots_of_endsIn_secondPhase secondEnds
      refine ⟨by omega, le, ?_⟩
      by_cases within : outcome.pivots + expelled ≤ ceiling
      · exact .inl (by omega)
      · exact .inr ⟨L, start, optimised, handed, outcome, expelled, built, phaseEnds, handsOver,
          walked, few, first, by omega⟩
  · obtain ⟨first, le, bound⟩ := Tableau.pivots_of_endsIn_secondPhase secondEnds
    exact ⟨by omega, le, .inl (by omega)⟩

/-- Two variables that cancel each other.  Only the hand-over can exchange the artificial variable
of their equation. -/
def opposingProgram : LinearProgram ℚ where
  objective := [1]
  constraints :=
    [{ Constraint.linear (-1) [-1] .equal 0 with name := none },
      { Constraint.linear 1 [] .atMost 3 with name := none }]

def noExchanges : Options ℚ :=
  { Options.standard with maxPivots := some 0 }

theorem solve_exceeds_ceiling_opposing :
    ∃ solution, opposingProgram.solve noExchanges = .ok solution ∧
      noExchanges.maxPivots = some 0 ∧ ¬ solution.pivots ≤ 0 := by
  obtain ⟨solution, solved, pivots⟩ := exists_of_map_eq_ok
    (show (opposingProgram.solve noExchanges).map Solution.pivots = .ok 1 by decide +kernel)
  exact ⟨solution, solved, rfl, by omega⟩

theorem solve_overspends_only_expelling_opposing :
    ∃ solution, opposingProgram.solve noExchanges = .ok solution ∧
      solution.pivots = 1 ∧ solution.phaseOnePivots = 1 := by
  obtain ⟨solution, solved, pivots⟩ := exists_of_map_eq_ok
    (show (opposingProgram.solve noExchanges).map Solution.pivots = .ok 1 by decide +kernel)
  have limited : noExchanges.maxPivots = some ((0 : Nat) : Int) := rfl
  refine ⟨solution, solved, pivots, ?_⟩
  rcases (solve_overspends_only_expelling limited solved).2.2 with
    within | ⟨_, _, _, _, _, _, _, _, _, _, _, _, same⟩
  · omega
  · omega

end LinearProgram

end TableauSimplex
