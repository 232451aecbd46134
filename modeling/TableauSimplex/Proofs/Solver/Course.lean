import TableauSimplex.Proofs.Solver.Handover
import TableauSimplex.Proofs.Solver.Phase
import TableauSimplex.Proofs.Solver.Solve

/-!
# The course of a solve

A solve is within a phase, or between the phases with rows that the hand-over has not looked at
yet.  It goes from state to state by an exchange of the phase, or by what the hand-over does to its
next row.  Where a phase or the hand-over ends well is a state that the solve reaches, and every
solution is concluded from one.  Two solves under different options are the same run if the options
agree in every state that one of them reaches.
-/

set_option autoImplicit false

namespace TableauSimplex

variable {L : Layout} {α : Type}

inductive SolveState (L : Layout) (α : Type) where
  | within (state : PhaseState L α)
  | between (pending : List (Fin L.constraints)) (tableau : Tableau L α)

namespace SolveState

def tableau : SolveState L α → Tableau L α
  | .within state => state.tableau
  | .between _ tableau => tableau

/-- What a solve does next.  It leaves the first phase only if the residual is within its
tolerance, and the second phase not at all. -/
inductive Step [Scalar α] (options : Options α) : SolveState L α → SolveState L α → Prop where
  | exchange {state : PhaseState L α} {entering : Fin L.width} {leaving : Fin L.constraints}
      (move : state.nextMove options.tolerance options.rule = .exchange entering leaving) :
      Step options (.within state) (.within (state.exchanged options.tolerance entering leaving))
  | leave {state : PhaseState L α}
      (optimal : state.nextMove options.tolerance options.rule = .optimal)
      (first : state.tableau.phase = .first)
      (small : ¬ options.feasibilityTolerance < state.tableau.infeasibility) :
      Step options (.within state) (.between L.constraintRows state.tableau.clearResidual)
  | skip {row : Fin L.constraints} {rest : List (Fin L.constraints)} {tableau : Tableau L α}
      (structural : ¬ tableau.isArtificialRow row = true) :
      Step options (.between (row :: rest) tableau) (.between rest tableau)
  | keep {row : Fin L.constraints} {rest : List (Fin L.constraints)} {tableau : Tableau L α}
      (artificial : tableau.isArtificialRow row = true)
      (missing : (tableau.clearTarget row).replacement? row options.tolerance = none) :
      Step options (.between (row :: rest) tableau) (.between rest (tableau.clearTarget row))
  | expel {row : Fin L.constraints} {rest : List (Fin L.constraints)} {tableau : Tableau L α}
      {entering : Fin L.width} (artificial : tableau.isArtificialRow row = true)
      (chosen : (tableau.clearTarget row).replacement? row options.tolerance = some entering) :
      Step options (.between (row :: rest) tableau)
        (.between rest ((tableau.clearTarget row).exchange entering row options.tolerance))
  | enter (tableau : Tableau L α) :
      Step options (.between [] tableau) (.within ⟨tableau.leaveFirstPhase, 0⟩)

end SolveState

section Phases

variable [Scalar α]

theorem PhaseRun.phase_eq {tolerance : α} {rule : ExchangeRule} {state final : PhaseState L α}
    {count : Nat} (run : PhaseRun tolerance rule state count final) :
    final.tableau.phase = state.tableau.phase :=
  run.invariant (fun later => later.tableau.phase = state.tableau.phase)
    (fun _ _ _ same _ => same) rfl

theorem PhaseState.optimal_of_finished {state : PhaseState L α} {tolerance : α}
    {rule : ExchangeRule} {ray : Option (Fin L.width)}
    (finished : state.Finished tolerance rule ray) (first : state.tableau.phase = .first) :
    state.nextMove tolerance rule = .optimal := by
  cases ray with
  | none => exact finished
  | some column =>
      have second := finished.2
      rw [first] at second
      cases second

end Phases

namespace Tableau

variable [Scalar α]

/-- The states that a solve from a tableau reaches, whatever its ceiling. -/
inductive Reaches (start : Tableau L α) (options : Options α) : SolveState L α → Prop where
  | start : Reaches start options (.within ⟨start, 0⟩)
  | step {state next : SolveState L α} (earlier : Reaches start options state)
      (step : state.Step options next) : Reaches start options next

variable {options : Options α} {start tableau final : Tableau L α}

namespace Reaches

theorem invariant (holds : SolveState L α → Prop) (first : holds (.within ⟨start, 0⟩))
    (kept : ∀ state next, start.Reaches options state → holds state → state.Step options next →
      holds next)
    {state : SolveState L α} (reached : start.Reaches options state) : holds state := by
  induction reached with
  | start => exact first
  | step earlier step induction => exact kept _ _ earlier induction step

theorem phaseRun {state later : PhaseState L α} {count : Nat}
    (run : PhaseRun options.tolerance options.rule state count later)
    (reached : start.Reaches options (.within state)) :
    start.Reaches options (.within later) := by
  induction run with
  | stop => exact reached
  | step move _ induction => exact induction (reached.step (.exchange move))

theorem optimiseFrom {limit : Int} {budget streak pivots : Nat} {outcome : PhaseOutcome L}
    (reached : start.Reaches options (.within ⟨tableau, streak⟩))
    (ends : (optimiseFrom options limit budget streak pivots tableau).EndsIn outcome final) :
    ∃ state : PhaseState L α, start.Reaches options (.within state) ∧ state.tableau = final ∧
      state.tableau.phase = tableau.phase ∧
        state.Finished options.tolerance options.rule outcome.ray := by
  obtain ⟨count, state, run, finished, same, _⟩ := phaseRun_of_endsIn ends
  exact ⟨state, reached.phaseRun run, same, run.phase_eq, finished⟩

theorem expelArtificials {rows : List (Fin L.constraints)} {pivots count : Nat}
    (reached : start.Reaches options (.between rows tableau))
    (ends : (expelArtificials options rows pivots tableau).EndsIn count final) :
    start.Reaches options (.between [] final) := by
  induction rows generalizing pivots tableau with
  | nil =>
      obtain ⟨_, rfl⟩ := Run.endsIn_done.mp ends
      exact reached
  | cons row rest induction =>
      rw [Tableau.expelArtificials] at ends
      split at ends
      · rename_i artificial
        simp only at ends
        split at ends
        · rename_i missing
          exact induction (reached.step (.keep artificial missing)) ends
        · rename_i entering chosen
          obtain ⟨_, _, exchanged, rest⟩ := Run.endsIn_andThen.mp ends
          obtain ⟨_, _, rfl⟩ := endsIn_checkedExchange.mp exchanged
          exact induction (reached.step (.expel artificial chosen)) rest
      · rename_i structural
        exact induction (reached.step (.skip structural)) ends

theorem handOver {state : PhaseState L α} {count : Nat}
    (reached : start.Reaches options (.within state))
    (optimal : state.nextMove options.tolerance options.rule = .optimal)
    (first : state.tableau.phase = .first)
    (ends : (handOver options state.tableau).EndsIn (some count) final) :
    start.Reaches options (.within ⟨final, 0⟩) := by
  rw [Tableau.handOver] at ends
  split at ends
  · simp at ends
  · rename_i small
    obtain ⟨pivots, cleaned, expelled, rest⟩ := Run.endsIn_andThen.mp ends
    obtain ⟨_, rfl⟩ := Run.endsIn_done.mp rest
    exact ((reached.step (.leave optimal first small)).expelArtificials expelled).step (.enter _)

end Reaches

theorem endsIn_handOver_none_iff : (handOver options tableau).EndsIn none final ↔
    options.feasibilityTolerance < tableau.infeasibility ∧ tableau = final := by
  rw [handOver]
  split
  · rename_i residual
    simp [residual]
  · rename_i small
    refine iff_of_false ?_ fun exceeds => small exceeds.1
    intro ends
    obtain ⟨_, _, _, rest⟩ := Run.endsIn_andThen.mp ends
    simp at rest

theorem phase_of_handOver {count : Nat}
    (ends : (handOver options tableau).EndsIn (some count) final) : final.phase = .second := by
  rw [handOver] at ends
  split at ends
  · simp at ends
  · obtain ⟨_, _, _, rest⟩ := Run.endsIn_andThen.mp ends
    obtain ⟨_, rfl⟩ := Run.endsIn_done.mp rest
    rfl

/-! ## Where a solve ends -/

/-- Whether a solution is what a solve reads off a state without a move: in the first phase it has a
residual, and in the second phase it is at an optimum or on a ray. -/
def Concludes (options : Options α) (names : List String) (state : PhaseState L α)
    (solution : Solution α) : Prop :=
  match state.tableau.phase with
  | .first =>
      state.nextMove options.tolerance options.rule = .optimal ∧
        options.feasibilityTolerance < state.tableau.infeasibility ∧
          ∃ pivots, state.tableau.infeasibleSolution options.tolerance pivots = solution
  | .second =>
      ∃ phaseOnePivots outcome, state.Finished options.tolerance options.rule outcome.ray ∧
        state.tableau.Reports options names phaseOnePivots outcome solution

variable {names : List String} {solution : Solution α}

theorem Reaches.secondPhase {ceiling : Int} {phaseOnePivots : Nat}
    (reached : start.Reaches options (.within ⟨tableau, 0⟩)) (second : tableau.phase = .second)
    (ends : (secondPhase options names ceiling phaseOnePivots tableau).EndsIn solution final) :
    ∃ state : PhaseState L α, start.Reaches options (.within state) ∧ state.tableau = final ∧
      Concludes options names state solution := by
  obtain ⟨outcome, optimised, reports⟩ := endsIn_secondPhase.mp ends
  obtain ⟨state, finalReached, rfl, phase, finished⟩ := reached.optimiseFrom optimised
  refine ⟨state, finalReached, rfl, ?_⟩
  rw [Concludes, phase, second]
  exact ⟨phaseOnePivots, outcome, finished, reports⟩

/-- Every solution is concluded from a state that the solve reaches. -/
theorem exists_concluding_state (ends : (start.solveNamed options names).EndsIn solution final) :
    ∃ state : PhaseState L α, start.Reaches options (.within state) ∧ state.tableau = final ∧
      Concludes options names state solution := by
  rcases endsIn_solveNamed.mp ends with ⟨first, firstEnds⟩ | ⟨second, secondEnds⟩
  · obtain ⟨outcome, optimised, phaseEnds, rest⟩ := endsIn_firstPhase.mp firstEnds
    obtain ⟨state, reached, rfl, phase, finished⟩ := Reaches.start.optimiseFrom phaseEnds
    have stillFirst := phase.trans first
    have optimal := PhaseState.optimal_of_finished finished stillFirst
    rcases rest with ⟨handsOver, reads⟩ | ⟨extra, handed, handsOver, secondEnds⟩
    · obtain ⟨residual, rfl⟩ := endsIn_handOver_none_iff.mp handsOver
      refine ⟨state, reached, rfl, ?_⟩
      rw [Concludes, stillFirst]
      exact ⟨optimal, residual, outcome.pivots, reads⟩
    · exact (reached.handOver optimal stillFirst handsOver).secondPhase
        (phase_of_handOver handsOver) secondEnds
  · exact Reaches.start.secondPhase second secondEnds

/-- An optimal solution is read off a state of the second phase without a move. -/
theorem Concludes.of_optimal {state : PhaseState L α}
    (concludes : Concludes options names state solution) (optimal : solution.status = .optimal) :
    state.tableau.phase = .second ∧
      state.nextMove options.tolerance options.rule = .optimal ∧
      ∃ phaseOnePivots pivots,
        state.tableau.optimalSolution options.tolerance names phaseOnePivots pivots =
          .ok solution := by
  unfold Concludes at concludes
  cases phase : state.tableau.phase with
  | first =>
      rw [phase] at concludes
      obtain ⟨_, _, pivots, rfl⟩ := concludes
      cases optimal
  | second =>
      rw [phase] at concludes
      obtain ⟨phaseOnePivots, outcome, finished, reports⟩ := concludes
      unfold Reports at reports
      cases ray : outcome.ray with
      | some column =>
          simp only [ray] at reports
          obtain rfl := reports
          cases optimal
      | none =>
          simp only [ray] at reports finished
          exact ⟨rfl, finished, phaseOnePivots, _, reports⟩

/-- A program is called infeasible in a state of the first phase without a move but with a
residual. -/
theorem Concludes.of_infeasible {state : PhaseState L α}
    (concludes : Concludes options names state solution)
    (infeasible : solution.status = .infeasible) :
    state.tableau.phase = .first ∧
      state.nextMove options.tolerance options.rule = .optimal ∧
      options.feasibilityTolerance < state.tableau.infeasibility ∧
      ∃ pivots, state.tableau.infeasibleSolution options.tolerance pivots = solution := by
  unfold Concludes at concludes
  cases phase : state.tableau.phase with
  | first =>
      rw [phase] at concludes
      exact ⟨rfl, concludes⟩
  | second =>
      rw [phase] at concludes
      obtain ⟨phaseOnePivots, outcome, _, reports⟩ := concludes
      unfold Reports at reports
      cases ray : outcome.ray with
      | some column =>
          simp only [ray] at reports
          obtain rfl := reports
          cases infeasible
      | none =>
          simp only [ray] at reports
          obtain ⟨point, _, rfl⟩ := exists_of_map_eq_ok reports
          cases infeasible

theorem length_values_of_optimalSolution {tolerance : α} {phaseOnePivots pivots : Nat}
    (reads : tableau.optimalSolution tolerance names phaseOnePivots pivots = .ok solution)
    {values : List α} (given : solution.values = some values) : values.length = L.decisions := by
  obtain ⟨point, _, rfl⟩ := exists_of_map_eq_ok reads
  obtain rfl := Option.some.inj given
  rw [Family.toList_eq_ofFn, List.length_ofFn]

theorem Reaches.sense_eq {state : SolveState L α} (reached : start.Reaches options state) :
    state.tableau.sense = start.sense :=
  reached.invariant (fun later => later.tableau.sense = start.sense) rfl
    fun _ _ _ same step => by cases step <;> exact same

end Tableau

/-! ## Two options for one run -/

theorem Run.andThen_congr {β γ : Type} {run : Run L α β} {next other : β → Tableau L α → Run L α γ}
    (same : ∀ value tableau, run.EndsIn value tableau → next value tableau = other value tableau) :
    run.andThen next = run.andThen other := by
  unfold andThen
  cases succeeds : run.outcome with
  | error error => rfl
  | ok value => simp only [same value run.tableau (endsIn_of_ok succeeds)]

namespace Tableau

variable [Scalar α]

/-- Whether two tolerances read the same solution off a tableau. -/
structure ReadsAlike (tableau : Tableau L α) (first second : α) : Prop where
  basisReport : tableau.basisReport first = tableau.basisReport second
  point : tableau.point first = tableau.point second
  hasAlternative : tableau.hasAlternative first = tableau.hasAlternative second

/-- Whether two options agree in every state that a solve under the first of them reaches. -/
structure Agrees (start : Tableau L α) (first second : Options α) : Prop where
  maxPivots : first.maxPivots = second.maxPivots
  nextMove : ∀ state : PhaseState L α, start.Reaches first (.within state) →
    state.nextMove first.tolerance first.rule = state.nextMove second.tolerance second.rule
  exchange : ∀ (state : PhaseState L α) (entering : Fin L.width) (leaving : Fin L.constraints),
    start.Reaches first (.within state) →
      state.nextMove first.tolerance first.rule = .exchange entering leaving →
        checkedExchange first state.tableau entering leaving =
            checkedExchange second state.tableau entering leaving ∧
          state.tableau.isDegenerateAt first.tolerance leaving =
            state.tableau.isDegenerateAt second.tolerance leaving
  residual : ∀ state : PhaseState L α, start.Reaches first (.within state) →
    state.tableau.phase = .first →
      state.nextMove first.tolerance first.rule = .optimal →
        (first.feasibilityTolerance < state.tableau.infeasibility ↔
          second.feasibilityTolerance < state.tableau.infeasibility)
  replacement : ∀ (row : Fin L.constraints) (rest : List (Fin L.constraints))
    (tableau : Tableau L α), start.Reaches first (.between (row :: rest) tableau) →
      tableau.isArtificialRow row = true →
        (tableau.clearTarget row).replacement? row first.tolerance =
          (tableau.clearTarget row).replacement? row second.tolerance
  expel : ∀ (row : Fin L.constraints) (rest : List (Fin L.constraints)) (tableau : Tableau L α)
    (entering : Fin L.width), start.Reaches first (.between (row :: rest) tableau) →
      tableau.isArtificialRow row = true →
        (tableau.clearTarget row).replacement? row first.tolerance = some entering →
          checkedExchange first (tableau.clearTarget row) entering row =
            checkedExchange second (tableau.clearTarget row) entering row
  reads : ∀ state : PhaseState L α, start.Reaches first (.within state) →
    state.tableau.ReadsAlike first.tolerance second.tolerance

namespace Agrees

variable {first second : Options α} {start tableau : Tableau L α}

theorem optimiseFrom (agrees : start.Agrees first second) (limit : Int) {budget streak : Nat}
    (pivots : Nat) (reached : start.Reaches first (.within ⟨tableau, streak⟩)) :
    optimiseFrom first limit budget streak pivots tableau =
      optimiseFrom second limit budget streak pivots tableau := by
  have move : tableau.nextMove second.tolerance (ruleAfter second.rule streak) =
      tableau.nextMove first.tolerance (ruleAfter first.rule streak) :=
    (agrees.nextMove _ reached).symm
  induction budget generalizing streak pivots tableau with
  | zero =>
      unfold Tableau.optimiseFrom
      rw [move]
  | succ budget induction =>
      unfold Tableau.optimiseFrom
      rw [move]
      cases chosen : tableau.nextMove first.tolerance (ruleAfter first.rule streak) with
      | optimal => rfl
      | unbounded column => rfl
      | exchange entering leaving =>
          obtain ⟨exchanged, degenerate⟩ := agrees.exchange _ entering leaving reached chosen
          simp only at exchanged degenerate ⊢
          rw [← exchanged, ← degenerate]
          apply Run.andThen_congr
          intro _ next ends
          obtain ⟨_, _, exchanges, noted⟩ := Run.endsIn_andThen.mp ends
          obtain ⟨_, _, rfl⟩ := endsIn_checkedExchange.mp exchanges
          obtain rfl := Run.endsIn_note.mp noted
          have later := reached.step (.exchange chosen)
          exact induction _ later (agrees.nextMove _ later).symm

theorem expelArtificials (agrees : start.Agrees first second)
    {rows : List (Fin L.constraints)} (pivots : Nat)
    (reached : start.Reaches first (.between rows tableau)) :
    expelArtificials first rows pivots tableau = expelArtificials second rows pivots tableau := by
  induction rows generalizing pivots tableau with
  | nil => rfl
  | cons row rest induction =>
      rw [Tableau.expelArtificials, Tableau.expelArtificials]
      split
      · rename_i artificial
        simp only
        rw [← agrees.replacement row rest tableau reached artificial]
        cases chosen : (tableau.clearTarget row).replacement? row first.tolerance with
        | none => exact induction pivots (reached.step (.keep artificial chosen))
        | some entering =>
            simp only
            rw [← agrees.expel row rest tableau entering reached artificial chosen]
            apply Run.andThen_congr
            intro _ next ends
            obtain ⟨_, _, rfl⟩ := endsIn_checkedExchange.mp ends
            exact induction _ (reached.step (.expel artificial chosen))
      · rename_i structural
        exact induction pivots (reached.step (.skip structural))

theorem handOver (agrees : start.Agrees first second) {state : PhaseState L α}
    (reached : start.Reaches first (.within state))
    (optimal : state.nextMove first.tolerance first.rule = .optimal)
    (isFirst : state.tableau.phase = .first) :
    handOver first state.tableau = handOver second state.tableau := by
  have residual := agrees.residual state reached isFirst optimal
  rw [Tableau.handOver, Tableau.handOver]
  by_cases exceeds : first.feasibilityTolerance < state.tableau.infeasibility
  · rw [if_pos exceeds, if_pos (residual.mp exceeds)]
  · rw [if_neg exceeds, if_neg (mt residual.mpr exceeds),
      agrees.expelArtificials 0 (reached.step (.leave optimal isFirst exceeds))]

theorem secondPhase (agrees : start.Agrees first second) (names : List String) (ceiling : Int)
    (phaseOnePivots : Nat) (reached : start.Reaches first (.within ⟨tableau, 0⟩)) :
    secondPhase first names ceiling phaseOnePivots tableau =
      secondPhase second names ceiling phaseOnePivots tableau := by
  apply Run.andThen_congr
  intro _ shown noted
  obtain rfl := Run.endsIn_note.mp noted
  rw [optimise, optimise, ← agrees.optimiseFrom _ 0 reached]
  apply Run.andThen_congr
  intro outcome final ends
  apply Run.andThen_congr
  intro _ same noted
  obtain rfl := Run.endsIn_note.mp noted
  obtain ⟨state, finalReached, rfl, _⟩ := reached.optimiseFrom ends
  have reads := agrees.reads state finalReached
  simp only [unboundedSolution, optimalSolution, reads.basisReport, reads.point,
    reads.hasAlternative]

theorem firstPhase (agrees : start.Agrees first second) (names : List String) (ceiling : Int)
    (isFirst : start.phase = .first) :
    firstPhase first names ceiling start = firstPhase second names ceiling start := by
  apply Run.andThen_congr
  intro _ shown noted
  obtain rfl := Run.endsIn_note.mp noted
  rw [optimise, optimise, ← agrees.optimiseFrom _ 0 .start]
  apply Run.andThen_congr
  intro outcome final ends
  obtain ⟨state, reached, rfl, phase, finished⟩ := Reaches.start.optimiseFrom ends
  have stillFirst := phase.trans isFirst
  have optimal := PhaseState.optimal_of_finished finished stillFirst
  rw [← agrees.handOver reached optimal stillFirst]
  apply Run.andThen_congr
  intro cleanUp handed handsOver
  cases cleanUp with
  | none =>
      obtain ⟨_, rfl⟩ := endsIn_handOver_none_iff.mp handsOver
      apply Run.andThen_congr
      intro _ final noted
      obtain rfl := Run.endsIn_note.mp noted
      simp only [infeasibleSolution, (agrees.reads state reached).basisReport]
  | some extra =>
      exact agrees.secondPhase names ceiling _ (reached.handOver optimal stillFirst handsOver)

/-- Options that agree in every state make the same run: the same outcome, tableau and events. -/
theorem solveNamed (agrees : start.Agrees first second) (names : List String) :
    solveNamed first names start = solveNamed second names start := by
  unfold Tableau.solveNamed
  rw [← agrees.maxPivots]
  cases phase : start.phase with
  | first => exact agrees.firstPhase names _ phase
  | second => exact agrees.secondPhase names _ 0 .start

end Agrees

end Tableau

end TableauSimplex
