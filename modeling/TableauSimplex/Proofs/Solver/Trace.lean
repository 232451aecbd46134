import TableauSimplex.Proofs.Solver.Course

/-!
# What a solve shows and how it fails

Every tableau that a solve shows is that of a state it reaches, and every exchange that it records
is one that it makes in such a state.  A solve fails because a column would replace itself, because
the check of the basis fails, because the first phase has no row to leave, because its ceiling is
reached, or because no point can be read off the last tableau; each time in a state it reaches.
-/

set_option autoImplicit false

namespace TableauSimplex

variable {L : Layout} {α β γ : Type}

/-! ## Events and errors of a run -/

namespace Run

/-- Whether all events of a run, and the error it ends with if it fails, are as described. -/
structure Within (run : Run L α β) (shows : Event L α → Prop) (fails : RunError → Prop) :
    Prop where
  event : ∀ event ∈ run.events, shows event
  error : ∀ error, run.outcome = .error error → fails error

variable {shows : Event L α → Prop} {fails : RunError → Prop}

theorem within_settle {outcome : Except RunError β} {tableau : Tableau L α}
    (error : ∀ error, outcome = .error error → fails error) :
    (settle outcome tableau).Within shows fails where
  event _ member := by cases member
  error := error

theorem within_done (value : β) (tableau : Tableau L α) :
    (done value tableau).Within shows fails :=
  within_settle fun _ impossible => by cases impossible

theorem within_fail [Scalar α] {fault : Fault} {tableau : Tableau L α}
    (failure : fails (.invariant (tableau.failure fault))) :
    (fail fault tableau : Run L α β).Within shows fails := by
  apply within_settle
  rintro error same
  cases same
  exact failure

theorem within_note {event : Event L α} (tableau : Tableau L α) (shown : shows event) :
    (note event tableau).Within shows fails where
  event other member := by
    obtain rfl := List.mem_singleton.mp member
    exact shown
  error _ impossible := by cases impossible

theorem Within.andThen {run : Run L α β} {next : β → Tableau L α → Run L α γ}
    (within : run.Within shows fails)
    (later : ∀ value tableau, run.EndsIn value tableau → (next value tableau).Within shows fails) :
    (run.andThen next).Within shows fails := by
  unfold Run.andThen
  cases ends : run.outcome with
  | error error =>
      refine ⟨within.event, ?_⟩
      rintro _ same
      cases same
      exact within.error error ends
  | ok value =>
      have rest := later value run.tableau (endsIn_of_ok ends)
      refine ⟨?_, rest.error⟩
      intro event member
      rcases List.mem_append.mp member with earlier | after
      · exact within.event event earlier
      · exact rest.event event after

end Run

variable [Scalar α]

/-! ## The exchanges of a solve -/

/-- The exchange that a solve makes in a state.  The hand-over makes it after it has cleared the
target of the row. -/
inductive SolveState.Exchanges (options : Options α) :
    SolveState L α → Tableau L α → Fin L.width → Fin L.constraints → Prop where
  | phase {state : PhaseState L α} {entering : Fin L.width} {leaving : Fin L.constraints}
      (move : state.nextMove options.tolerance options.rule = .exchange entering leaving) :
      Exchanges options (.within state) state.tableau entering leaving
  | handOver {row : Fin L.constraints} {rest : List (Fin L.constraints)} {tableau : Tableau L α}
      {entering : Fin L.width} (artificial : tableau.isArtificialRow row = true)
      (chosen : (tableau.clearTarget row).replacement? row options.tolerance = some entering) :
      Exchanges options (.between (row :: rest) tableau) (tableau.clearTarget row) entering row

theorem SolveState.Exchanges.exists_step {options : Options α} {state : SolveState L α}
    {tableau : Tableau L α} {entering : Fin L.width} {leaving : Fin L.constraints}
    (exchanges : state.Exchanges options tableau entering leaving) :
    ∃ next : SolveState L α, state.Step options next ∧
      next.tableau = tableau.exchange entering leaving options.tolerance := by
  cases exchanges with
  | phase move => exact ⟨_, .exchange move, rfl⟩
  | handOver artificial chosen => exact ⟨_, .expel artificial chosen, rfl⟩

namespace Tableau

/-- The events that a solve can record. -/
inductive Shows (start : Tableau L α) (options : Options α) : Event L α → Prop where
  | tableau (stage : Stage) {state : PhaseState L α}
      (reached : start.Reaches options (.within state)) :
      Shows start options (.shown stage state.tableau)
  | exchange {state : SolveState L α} {tableau : Tableau L α} {entering : Fin L.width}
      {leaving : Fin L.constraints} (reached : start.Reaches options state)
      (exchanges : state.Exchanges options tableau entering leaving) :
      Shows start options (.exchanged (tableau.basis leaving) (leaving.val + 2) entering.val)
  | ending (ending : Ending) : Shows start options (.ended ending)

/-- The errors that a solve can end with. -/
inductive Fails (start : Tableau L α) (options : Options α) : RunError → Prop where
  | sameVariable {state : SolveState L α} {tableau : Tableau L α} {entering : Fin L.width}
      {leaving : Fin L.constraints} (reached : start.Reaches options state)
      (exchanges : state.Exchanges options tableau entering leaving)
      (same : tableau.basis leaving = entering.val) :
      Fails start options (.invariant (tableau.failure .sameVariable))
  | check {state : SolveState L α} {error : RunError} (reached : start.Reaches options state)
      (broken : state.tableau.checkBasis options.tolerance = .error error) :
      Fails start options error
  | noLeavingRow {state : PhaseState L α} {column : Fin L.width}
      (reached : start.Reaches options (.within state)) (first : state.tableau.phase = .first)
      (move : state.nextMove options.tolerance options.rule = .unbounded column) :
      Fails start options
        (.invariant (state.tableau.failure (.noLeavingRow (L.columnName column.val))))
  | pivotCeiling (limit : Int) {state : PhaseState L α} {entering : Fin L.width}
      {leaving : Fin L.constraints} (reached : start.Reaches options (.within state))
      (move : state.nextMove options.tolerance options.rule = .exchange entering leaving) :
      Fails start options
        (.invariant (state.tableau.failure (.pivotCeiling state.tableau.phase limit)))
  | point {state : PhaseState L α} {error : PositionError}
      (reached : start.Reaches options (.within state))
      (unreadable : state.tableau.point options.tolerance = .error error) :
      Fails start options (.position error)

variable {options : Options α} {start tableau : Tableau L α}

theorem within_checkedExchange {state : SolveState L α} {entering : Fin L.width}
    {leaving : Fin L.constraints} (reached : start.Reaches options state)
    (exchanges : state.Exchanges options tableau entering leaving) :
    (checkedExchange options tableau entering leaving).Within (start.Shows options)
      (start.Fails options) := by
  apply Run.Within.andThen
  · unfold exchangeStep
    split
    · rename_i same
      exact Run.within_fail (.sameVariable reached exchanges same)
    · refine ⟨?_, fun _ impossible => by cases impossible⟩
      intro event member
      obtain rfl := List.mem_singleton.mp member
      exact .exchange reached exchanges
  · intro _ next ends
    obtain ⟨_, rfl⟩ := endsIn_exchangeStep.mp ends
    obtain ⟨after, step, same⟩ := exchanges.exists_step
    apply Run.within_settle
    intro error broken
    split at broken
    · rw [← same] at broken
      exact .check (reached.step step) broken
    · cases broken

theorem within_optimiseFrom_of_rest (limit : Int) {budget streak : Nat} (pivots : Nat)
    (reached : start.Reaches options (.within ⟨tableau, streak⟩))
    (rest : ∀ less entering leaving, budget = less + 1 →
      tableau.nextMove options.tolerance (ruleAfter options.rule streak) =
          .exchange entering leaving →
        (optimiseFrom options limit less
          (if tableau.isDegenerateAt options.tolerance leaving then streak + 1 else 0)
          (pivots + 1) (tableau.exchange entering leaving options.tolerance)).Within
            (start.Shows options) (start.Fails options)) :
    (optimiseFrom options limit budget streak pivots tableau).Within (start.Shows options)
      (start.Fails options) := by
  unfold optimiseFrom
  cases move : tableau.nextMove options.tolerance (ruleAfter options.rule streak) with
  | optimal => exact Run.within_done _ _
  | unbounded column =>
      cases phase : tableau.phase with
      | first =>
          have failure := Fails.noLeavingRow reached phase move
          exact Run.within_fail failure
      | second => exact Run.within_done _ _
  | exchange entering leaving =>
      cases budget with
      | zero =>
          have failure := Fails.pivotCeiling limit reached move
          exact Run.within_fail failure
      | succ less =>
          have shown := Shows.tableau (.step tableau.phase) (reached.step (.exchange move))
          apply Run.Within.andThen
          · apply (within_checkedExchange reached (.phase move)).andThen
            intro _ next ends
            obtain ⟨_, _, rfl⟩ := endsIn_checkedExchange.mp ends
            exact Run.within_note _ shown
          · intro _ next ends
            obtain ⟨_, _, exchanges, noted⟩ := Run.endsIn_andThen.mp ends
            obtain ⟨_, _, rfl⟩ := endsIn_checkedExchange.mp exchanges
            obtain rfl := Run.endsIn_note.mp noted
            exact rest less entering leaving rfl move

theorem within_optimiseFrom (limit : Int) {budget streak : Nat} (pivots : Nat)
    (reached : start.Reaches options (.within ⟨tableau, streak⟩)) :
    (optimiseFrom options limit budget streak pivots tableau).Within (start.Shows options)
      (start.Fails options) := by
  induction budget generalizing streak pivots tableau with
  | zero =>
      exact within_optimiseFrom_of_rest limit pivots reached fun _ _ _ impossible => by
        cases impossible
  | succ budget induction =>
      apply within_optimiseFrom_of_rest limit pivots reached
      rintro less entering leaving same move
      obtain rfl := Nat.succ.inj same
      exact induction _ (reached.step (.exchange move))

theorem within_expelArtificials {rows : List (Fin L.constraints)} (pivots : Nat)
    (reached : start.Reaches options (.between rows tableau)) :
    (expelArtificials options rows pivots tableau).Within (start.Shows options)
      (start.Fails options) := by
  induction rows generalizing pivots tableau with
  | nil => exact Run.within_done _ _
  | cons row rest induction =>
      rw [expelArtificials]
      split
      · rename_i artificial
        simp only
        split
        · rename_i missing
          exact induction pivots (reached.step (.keep artificial missing))
        · rename_i entering chosen
          apply (within_checkedExchange reached (.handOver artificial chosen)).andThen
          intro _ next ends
          obtain ⟨_, _, rfl⟩ := endsIn_checkedExchange.mp ends
          exact induction _ (reached.step (.expel artificial chosen))
      · rename_i structural
        exact induction pivots (reached.step (.skip structural))

theorem within_handOver {state : PhaseState L α} (reached : start.Reaches options (.within state))
    (optimal : state.nextMove options.tolerance options.rule = .optimal)
    (first : state.tableau.phase = .first) :
    (handOver options state.tableau).Within (start.Shows options) (start.Fails options) := by
  rw [handOver]
  split
  · exact Run.within_done _ _
  · rename_i small
    apply (within_expelArtificials 0 (reached.step (.leave optimal first small))).andThen
    exact fun _ _ _ => Run.within_done _ _

theorem within_secondPhase (names : List String) (ceiling : Int) (phaseOnePivots : Nat)
    (reached : start.Reaches options (.within ⟨tableau, 0⟩)) :
    (secondPhase options names ceiling phaseOnePivots tableau).Within (start.Shows options)
      (start.Fails options) := by
  apply (Run.within_note _ (.tableau _ reached)).andThen
  intro _ shown noted
  obtain rfl := Run.endsIn_note.mp noted
  apply (within_optimiseFrom _ 0 reached).andThen
  intro outcome final ends
  obtain ⟨state, finalReached, rfl, _⟩ := reached.optimiseFrom ends
  apply (Run.within_note _ (.ending .finished)).andThen
  intro _ same noted
  obtain rfl := Run.endsIn_note.mp noted
  simp only
  split
  · exact Run.within_done _ _
  · apply Run.within_settle
    intro error failed
    cases read : state.tableau.point options.tolerance with
    | ok values =>
        rw [optimalSolution, read] at failed
        cases failed
    | error unreadable =>
        rw [optimalSolution, read] at failed
        cases failed
        exact .point finalReached read

theorem within_firstPhase (names : List String) (ceiling : Int) (isFirst : start.phase = .first) :
    (firstPhase options names ceiling start).Within (start.Shows options)
      (start.Fails options) := by
  apply (Run.within_note _ (.tableau _ (.start : start.Reaches options _))).andThen
  intro _ shown noted
  obtain rfl := Run.endsIn_note.mp noted
  apply (within_optimiseFrom _ 0 .start).andThen
  intro outcome final ends
  obtain ⟨state, reached, rfl, phase, finished⟩ := Reaches.start.optimiseFrom ends
  have stillFirst := phase.trans isFirst
  have optimal := PhaseState.optimal_of_finished finished stillFirst
  apply (within_handOver reached optimal stillFirst).andThen
  intro cleanUp handed handsOver
  cases cleanUp with
  | none =>
      apply (Run.within_note _ (.ending .infeasible)).andThen
      exact fun _ _ _ => Run.within_done _ _
  | some extra =>
      exact within_secondPhase names ceiling _ (reached.handOver optimal stillFirst handsOver)

/-- All that a solve records and every error of it stem from states that it reaches. -/
theorem within_solveNamed (options : Options α) (names : List String) (start : Tableau L α) :
    (start.solveNamed options names).Within (start.Shows options) (start.Fails options) := by
  unfold solveNamed
  cases phase : start.phase with
  | first => exact within_firstPhase names _ phase
  | second => exact within_secondPhase names _ 0 .start

end Tableau

/-! ## Errors of a solve -/

/-- Whether an answer is the error of a fault. -/
def StopsAt (answer : Except SolveError β) (fault : Fault) : Prop :=
  ∃ snapshot, answer = .error (.run (.invariant { fault, snapshot }))

def SolveError.fault? : SolveError → Option Fault
  | .run (.invariant error) => some error.fault
  | _ => none

theorem stopsAt_iff {answer : Except SolveError β} {fault : Fault} :
    StopsAt answer fault ↔
      (answer.mapError SolveError.fault?).map (fun _ => ()) = .error (some fault) := by
  constructor
  · rintro ⟨snapshot, rfl⟩
    rfl
  · intro stops
    match answer, stops with
    | .error (.run (.invariant { fault := found, snapshot })), same =>
        obtain rfl : found = fault := Option.some.inj (Except.error.inj same)
        exact ⟨snapshot, rfl⟩

/-- The error of a solve stems from a state that it reaches. -/
theorem exists_fails_of_solveSystem {options : Options α} {constraints : List (Constraint α)}
    {objective : List α} {sense : Sense} {names : Option (List String)} {error : RunError}
    (failed : solveSystem options constraints objective sense names = .error (.run error)) :
    ∃ L, ∃ start : Tableau L α, Tableau.build constraints objective sense = .ok ⟨L, start⟩ ∧
      start.Fails options error := by
  rcases rejected_or_runs constraints objective sense names with
    ⟨reason, rejected⟩ | ⟨L, start, used, built, _, runs⟩
  · rw [solveSystem_of_rejected (rejected options)] at failed
    cases failed
  · rw [solveSystem_of_run (runs options), ProgramRun.outcome] at failed
    have within := Tableau.within_solveNamed options used start
    cases ended : (start.solveNamed options used).outcome with
    | ok solution => simp [ended, Except.mapError] at failed
    | error early =>
        have same : early = error := by simpa [ended, Except.mapError] using failed
        exact ⟨L, start, built, same ▸ within.error early ended⟩

end TableauSimplex
