import TableauSimplex.Proofs.Solver.Course
import TableauSimplex.Proofs.Tableau.Encoding

/-!
# Solving a solved tableau

Whatever the arithmetic, a solve that has ended at an optimum or with a residual has nothing left
to do.  The phase may have ended under Bland's rule and starts again under the configured one, but
where the first rule finds no column that improves the other finds none either.  So a second solve
makes no exchange and gives the same solution, apart from the number of exchanges.
-/

set_option autoImplicit false

namespace TableauSimplex

/-- Also where elements do not compare well the best one is one of them. -/
theorem mem_of_firstBest {β : Type} {noWorse : β → β → Bool} {items : List β} {best : β}
    (found : firstBest noWorse items = some best) : best ∈ items := by
  cases items with
  | nil => cases found
  | cons first rest =>
      obtain rfl := Option.some.inj found
      clear found
      induction rest generalizing first with
      | nil => exact List.mem_cons_self
      | cons next rest induction =>
          rw [List.foldl_cons]
          split
          · exact List.mem_cons_of_mem _ (induction next)
          · rcases List.mem_cons.mp (induction first) with same | later
            · exact List.mem_cons.mpr (.inl same)
            · exact List.mem_cons_of_mem _ (List.mem_cons_of_mem _ later)

variable {L : Layout} {α : Type} [Scalar α]

namespace Tableau

variable {tableau final : Tableau L α} {options : Options α} {names : List String}
  {solution : Solution α}

/-! ## Nothing enters again -/

theorem nextMove_eq_optimal_iff {tolerance : α} {rule : ExchangeRule} :
    tableau.nextMove tolerance rule = .optimal ↔ tableau.entering? tolerance rule = none := by
  unfold nextMove
  cases tableau.entering? tolerance rule with
  | none => simp
  | some entering =>
      cases leaves : tableau.leaving? (.entry entering) tolerance rule <;> simp [leaves]

theorem entering_eq_none_of_bland {tolerance : α}
    (missing : tableau.entering? tolerance .bland = none) (rule : ExchangeRule) :
    tableau.entering? tolerance rule = none := by
  cases rule with
  | bland => exact missing
  | dantzig =>
      -- The steepest candidate is one of those that Bland's rule has looked at.
      apply Option.filter_eq_none_iff.mpr
      intro steepest found
      exact List.find?_eq_none.mp missing steepest (mem_of_firstBest found)

theorem nextMove_eq_optimal_of_ruleAfter {tolerance : α} {rule : ExchangeRule} {streak : Nat}
    (optimal : tableau.nextMove tolerance (ruleAfter rule streak) = .optimal) :
    tableau.nextMove tolerance rule = .optimal := by
  rw [nextMove_eq_optimal_iff] at optimal ⊢
  unfold ruleAfter at optimal
  split at optimal
  · exact entering_eq_none_of_bland optimal rule
  · exact optimal

/-! ## Phases without an exchange -/

section Still

variable (optimal : tableau.nextMove options.tolerance options.rule = .optimal)

include optimal

theorem optimise_of_optimal (limit : Int) :
    optimise options limit tableau = .done { pivots := 0, ray := none } tableau := by
  have start : tableau.nextMove options.tolerance (ruleAfter options.rule 0) = .optimal := optimal
  unfold optimise optimiseFrom
  rw [start]

theorem secondPhase_of_optimal (ceiling : Int)
    (reads : tableau.optimalSolution options.tolerance names 0 0 = .ok solution) :
    secondPhase options names ceiling 0 tableau =
      { outcome := .ok solution
        tableau
        events := [.shown (.start .second) tableau, .ended .finished] } := by
  simp only [secondPhase, Run.note, Run.andThen, optimise_of_optimal optimal, Run.done, Run.settle,
    reads, Except.mapError, List.nil_append, List.append_nil, List.cons_append]

theorem firstPhase_of_optimal (ceiling : Int)
    (residual : options.feasibilityTolerance < tableau.infeasibility) :
    firstPhase options names ceiling tableau =
      { outcome := .ok (tableau.infeasibleSolution options.tolerance 0)
        tableau
        events := [.shown (.start .first) tableau, .ended .infeasible] } := by
  simp only [firstPhase, Run.note, Run.andThen, optimise_of_optimal optimal, Run.done, Run.settle,
    handOver, if_pos residual, List.nil_append, List.append_nil, List.cons_append]

end Still

/-! ## The same solution again -/

/-- The numbers of exchanges are all that a solution does not read off the tableau. -/
theorem optimalSolution_without_pivots {tolerance : α} {phaseOnePivots pivots : Nat}
    (reads : tableau.optimalSolution tolerance names phaseOnePivots pivots = .ok solution) :
    tableau.optimalSolution tolerance names 0 0 =
      .ok { solution with pivots := 0, phaseOnePivots := 0 } := by
  unfold optimalSolution at reads ⊢
  cases read : tableau.point tolerance with
  | error error =>
      rw [read] at reads
      cases reads
  | ok point =>
      rw [read] at reads
      obtain rfl := Except.ok.inj reads
      rfl

theorem solveNamed_of_concludes {state : PhaseState L α}
    (concludes : Concludes options names state solution)
    (settled : solution.status = .optimal ∨ solution.status = .infeasible) :
    ∃ ending, state.tableau.solveNamed options names =
      { outcome := .ok { solution with pivots := 0, phaseOnePivots := 0 }
        tableau := state.tableau
        events := [.shown (.start state.tableau.phase) state.tableau, .ended ending] } := by
  unfold solveNamed
  rcases settled with optimal | infeasible
  · obtain ⟨second, still, _, _, reads⟩ := concludes.of_optimal optimal
    rw [second]
    exact ⟨.finished, secondPhase_of_optimal (nextMove_eq_optimal_of_ruleAfter still) _
      (optimalSolution_without_pivots reads)⟩
  · obtain ⟨first, still, residual, pivots, rfl⟩ := concludes.of_infeasible infeasible
    rw [first]
    exact ⟨.infeasible, firstPhase_of_optimal (nextMove_eq_optimal_of_ruleAfter still) _ residual⟩

/-- A second solve of the tableau in which a solve ended, at an optimum or with a residual, makes no
exchange.  It leaves the tableau as it is and gives the same solution, without exchanges. -/
theorem solve_again {names : Option (List String)} {run : Run L α (Solution α)}
    (solved : tableau.solve options names = .ok run) (succeeds : run.outcome = .ok solution)
    (settled : solution.status = .optimal ∨ solution.status = .infeasible) :
    ∃ again, run.tableau.solve options names = .ok again ∧
      again.outcome = .ok { solution with pivots := 0, phaseOnePivots := 0 } ∧
      again.tableau = run.tableau ∧
      ∀ leaving row entering, Event.exchanged leaving row entering ∉ again.events := by
  obtain ⟨used, named, rfl⟩ := exists_of_map_eq_ok solved
  obtain ⟨state, _, same, concludes⟩ := exists_concluding_state (Run.endsIn_of_ok succeeds)
  obtain ⟨ending, repeated⟩ := solveNamed_of_concludes concludes settled
  rw [same] at repeated
  refine ⟨(tableau.solveNamed options used).tableau.solveNamed options used, ?_, ?_, ?_, ?_⟩
  · rw [solve, named]
    rfl
  · rw [repeated]
  · rw [repeated]
  · intro leaving row entering
    rw [repeated]
    simp

/-- Four variables that are pinned at zero.  No exchange moves the objective, so that the phase ends
under Bland's rule. -/
def pinned : List (Constraint ℚ) :=
  [.linear 1 [] .atMost 0, .linear 0 [1] .atMost 0, .linear 0 [0, 1] .atMost 0,
    .linear 0 [0, 0, 1] .atMost 0]

theorem solve_again_pinned :
    ∃ L, ∃ start : Tableau L ℚ, ∃ run solution again,
      build pinned [1, 1, 1, 1] .maximise = .ok ⟨L, start⟩ ∧
        start.solve .standard none = .ok run ∧ run.outcome = .ok solution ∧ solution.pivots = 4 ∧
        run.tableau.solve .standard none = .ok again ∧
        again.outcome = .ok { solution with pivots := 0, phaseOnePivots := 0 } ∧
        again.tableau = run.tableau := by
  have nonempty : pinned ≠ [] := List.cons_ne_nil _ _
  obtain ⟨L, start, built⟩ := exists_build nonempty [1, 1, 1, 1] .maximise
  have first : (build pinned [1, 1, 1, 1] .maximise).map (fun start =>
      (start.2.solve .standard none).map fun run =>
        run.outcome.map fun solution => (solution.status, solution.pivots)) =
      .ok (.ok (.ok (.optimal, 4))) := by decide +kernel
  rw [built] at first
  obtain ⟨run, solved, reads⟩ := exists_of_map_eq_ok (Except.ok.inj first)
  obtain ⟨solution, succeeds, read⟩ := exists_of_map_eq_ok reads
  obtain ⟨optimal, pivots⟩ := Prod.mk.inj read
  obtain ⟨again, repeats, outcome, same, _⟩ := solve_again solved succeeds (.inl optimal)
  exact ⟨L, start, run, solution, again, built, solved, succeeds, pivots, repeats, outcome, same⟩

end Tableau

end TableauSimplex
