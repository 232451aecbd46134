import TableauSimplex.Proofs.Solver.Trace

/-!
# Counting the exchanges of a solve

A solve reaches a state after a number of exchanges, those of the hand-over included.  The number
that a solution reports is the one after which the state is reached that it is concluded from.
-/

set_option autoImplicit false

namespace TableauSimplex

variable {L : Layout} {α : Type} [Scalar α] {options : Options α}

namespace SolveState

/-- In a state in which a solve makes an exchange that is its only step. -/
theorem Exchanges.tableau_of_step {state next : SolveState L α} {tableau : Tableau L α}
    {entering : Fin L.width} {leaving : Fin L.constraints}
    (exchanges : state.Exchanges options tableau entering leaving)
    (step : state.Step options next) :
    next.tableau = tableau.exchange entering leaving options.tolerance := by
  cases exchanges with
  | phase move =>
      cases step with
      | exchange taken =>
          obtain ⟨rfl, rfl⟩ := Tableau.Move.exchange.inj (taken.symm.trans move)
          rfl
      | leave optimal _ _ => cases optimal.symm.trans move
  | handOver artificial chosen =>
      cases step with
      | skip structural => exact absurd artificial structural
      | keep _ missing => cases missing.symm.trans chosen
      | expel _ taken =>
          obtain rfl := Option.some.inj (taken.symm.trans chosen)
          rfl

def Rests (options : Options α) (state : SolveState L α) : Prop :=
  ∀ tableau entering leaving, ¬ state.Exchanges options tableau entering leaving

end SolveState

namespace Tableau

/-- The states that a solve from a tableau reaches after a number of exchanges. -/
inductive ReachesAfter (start : Tableau L α) (options : Options α) :
    Nat → SolveState L α → Prop where
  | start : ReachesAfter start options 0 (.within ⟨start, 0⟩)
  | exchange {count : Nat} {state next : SolveState L α} {tableau : Tableau L α}
      {entering : Fin L.width} {leaving : Fin L.constraints}
      (earlier : ReachesAfter start options count state)
      (exchanges : state.Exchanges options tableau entering leaving)
      (step : state.Step options next) : ReachesAfter start options (count + 1) next
  | rest {count : Nat} {state next : SolveState L α}
      (earlier : ReachesAfter start options count state) (rests : state.Rests options)
      (step : state.Step options next) : ReachesAfter start options count next

variable {start tableau final : Tableau L α}

namespace ReachesAfter

theorem reaches {count : Nat} {state : SolveState L α}
    (reached : start.ReachesAfter options count state) : start.Reaches options state := by
  induction reached with
  | start => exact .start
  | exchange _ _ step induction => exact induction.step step
  | rest _ _ step induction => exact induction.step step

theorem exists_of_reaches {state : SolveState L α} (reached : start.Reaches options state) :
    ∃ count, start.ReachesAfter options count state := by
  induction reached with
  | start => exact ⟨0, .start⟩
  | @step state next _ step induction =>
      obtain ⟨count, earlier⟩ := induction
      by_cases rests : state.Rests options
      · exact ⟨count, earlier.rest rests step⟩
      · simp only [SolveState.Rests, not_forall, not_not] at rests
        obtain ⟨_, _, _, exchanges⟩ := rests
        exact ⟨count + 1, earlier.exchange exchanges step⟩

theorem phaseRun {state later : PhaseState L α} {before count : Nat}
    (run : PhaseRun options.tolerance options.rule state count later)
    (reached : start.ReachesAfter options before (.within state)) :
    start.ReachesAfter options (before + count) (.within later) := by
  induction run generalizing before with
  | stop => exact reached
  | @step state final entering leaving count move _ induction =>
      have later := induction (reached.exchange (.phase move) (.exchange move))
      rwa [Nat.add_assoc, Nat.add_comm 1] at later

theorem optimise {limit : Int} {before : Nat} {outcome : PhaseOutcome L}
    (reached : start.ReachesAfter options before (.within ⟨tableau, 0⟩))
    (ends : (optimise options limit tableau).EndsIn outcome final) :
    ∃ state : PhaseState L α,
      start.ReachesAfter options (before + outcome.pivots) (.within state) ∧
        state.tableau = final ∧ state.tableau.phase = tableau.phase ∧
          state.Finished options.tolerance options.rule outcome.ray := by
  obtain ⟨count, state, run, finished, same, counted⟩ := phaseRun_of_endsIn ends
  rw [← counted, Nat.zero_add]
  exact ⟨state, reached.phaseRun run, same, run.phase_eq, finished⟩

theorem expelArtificials {rows : List (Fin L.constraints)} {before pivots count : Nat}
    (reached : start.ReachesAfter options (before + pivots) (.between rows tableau))
    (ends : (expelArtificials options rows pivots tableau).EndsIn count final) :
    start.ReachesAfter options (before + count) (.between [] final) := by
  induction rows generalizing pivots tableau with
  | nil =>
      obtain ⟨rfl, rfl⟩ := Run.endsIn_done.mp ends
      exact reached
  | cons row rest induction =>
      rw [Tableau.expelArtificials] at ends
      split at ends
      · rename_i artificial
        simp only at ends
        split at ends
        · rename_i missing
          refine induction (reached.rest ?_ (.keep artificial missing)) ends
          rintro _ _ _ (_ | ⟨_, chosen⟩)
          cases missing.symm.trans chosen
        · rename_i entering chosen
          obtain ⟨_, _, exchanged, rest⟩ := Run.endsIn_andThen.mp ends
          obtain ⟨_, _, rfl⟩ := endsIn_checkedExchange.mp exchanged
          exact induction (reached.exchange (.handOver artificial chosen)
            (.expel artificial chosen)) rest
      · rename_i structural
        refine induction (reached.rest ?_ (.skip structural)) ends
        rintro _ _ _ (_ | ⟨artificial, _⟩)
        exact structural artificial

theorem handOver {state : PhaseState L α} {before count : Nat}
    (reached : start.ReachesAfter options before (.within state))
    (optimal : state.nextMove options.tolerance options.rule = .optimal)
    (first : state.tableau.phase = .first)
    (ends : (handOver options state.tableau).EndsIn (some count) final) :
    start.ReachesAfter options (before + count) (.within ⟨final, 0⟩) := by
  rw [Tableau.handOver] at ends
  split at ends
  · simp at ends
  · rename_i small
    obtain ⟨pivots, cleaned, expelled, rest⟩ := Run.endsIn_andThen.mp ends
    obtain ⟨same, rfl⟩ := Run.endsIn_done.mp rest
    obtain rfl := Option.some.inj same
    have left : start.ReachesAfter options (before + 0)
        (.between L.constraintRows state.tableau.clearResidual) := by
      refine reached.rest ?_ (.leave optimal first small)
      rintro _ _ _ (move | _)
      cases optimal.symm.trans move
    refine (left.expelArtificials expelled).rest ?_ (.enter _)
    rintro _ _ _ (_ | _)

end ReachesAfter

variable {names : List String} {solution : Solution α}

theorem ReachesAfter.secondPhase {ceiling : Int} {phaseOnePivots : Nat}
    (reached : start.ReachesAfter options phaseOnePivots (.within ⟨tableau, 0⟩))
    (second : tableau.phase = .second)
    (ends : (secondPhase options names ceiling phaseOnePivots tableau).EndsIn solution final) :
    ∃ count : Nat, ∃ state : PhaseState L α, solution.pivots = count ∧
      start.ReachesAfter options count (.within state) ∧ state.tableau = final ∧
        Concludes options names state solution := by
  obtain ⟨outcome, optimised, reports⟩ := endsIn_secondPhase.mp ends
  obtain ⟨state, finalReached, rfl, phase, finished⟩ := reached.optimise optimised
  refine ⟨_, state, reports.spec.2.2.1, finalReached, rfl, ?_⟩
  rw [Concludes, phase, second]
  exact ⟨phaseOnePivots, outcome, finished, reports⟩

/-- Every solution is concluded from a state that the solve reaches after the exchanges that the
solution reports. -/
theorem exists_concluding_state_after
    (ends : (start.solveNamed options names).EndsIn solution final) :
    ∃ count : Nat, ∃ state : PhaseState L α, solution.pivots = count ∧
      start.ReachesAfter options count (.within state) ∧ state.tableau = final ∧
        Concludes options names state solution := by
  rcases endsIn_solveNamed.mp ends with ⟨first, firstEnds⟩ | ⟨second, secondEnds⟩
  · obtain ⟨outcome, optimised, phaseEnds, rest⟩ := endsIn_firstPhase.mp firstEnds
    obtain ⟨state, reached, rfl, phase, finished⟩ := ReachesAfter.start.optimise phaseEnds
    rw [Nat.zero_add] at reached
    have stillFirst := phase.trans first
    have optimal := PhaseState.optimal_of_finished finished stillFirst
    rcases rest with ⟨handsOver, rfl⟩ | ⟨extra, handed, handsOver, secondEnds⟩
    · obtain ⟨residual, rfl⟩ := endsIn_handOver_none_iff.mp handsOver
      refine ⟨_, state, rfl, reached, rfl, ?_⟩
      rw [Concludes, stillFirst]
      exact ⟨optimal, residual, outcome.pivots, rfl⟩
    · exact (reached.handOver optimal stillFirst handsOver).secondPhase
        (phase_of_handOver handsOver) secondEnds
  · exact ReachesAfter.start.secondPhase second secondEnds

end Tableau

end TableauSimplex
