import TableauSimplex.Proofs.Machine
import TableauSimplex.Proofs.Solver.Solve

/-!
# Minimising and maximising

The sense of a tableau tells only how its objective value is read and shown.  No choice, exchange or
check looks at it, so a run over tableaux of the opposite sense makes the same exchanges and finds
the same solution, up to the sign of its value, or fails with the same error.  The least value of an
objective and the greatest value of its negation have the same costs, so their first tableaux are
opposite.
-/

set_option autoImplicit false

namespace TableauSimplex

/-! ## Opposites -/

def Sense.opposite : Sense → Sense
  | .minimise => .maximise
  | .maximise => .minimise

variable {L : Layout} {α β γ : Type}

def Tableau.opposed (tableau : Tableau L α) : Tableau L α :=
  { tableau with sense := tableau.sense.opposite }

def Event.opposed : Event L α → Event L α
  | .shown stage tableau => .shown stage tableau.opposed
  | .exchanged leaving row entering => .exchanged leaving row entering
  | .ended ending => .ended ending

/-- The solution with the opposite objective value. -/
def Solution.opposed [Scalar α] (solution : Solution α) : Solution α :=
  { solution with objectiveValue := solution.objectiveValue.map fun value => -value }

namespace Run

/-- The run over opposite tableaux, with its value read in another way. -/
def opposed (read : β → β) (run : Run L α β) : Run L α β where
  outcome := run.outcome.map read
  tableau := run.tableau.opposed
  events := run.events.map Event.opposed

/-- The exchanges of a run: the leaving column, the row and the entering column of each. -/
def exchanges (run : Run L α β) : List (Int × Int × Int) :=
  run.events.filterMap fun
    | .exchanged leaving row entering => some (leaving, row, entering)
    | .shown _ _ | .ended _ => none

theorem exchanges_opposed (read : β → β) (run : Run L α β) :
    (run.opposed read).exchanges = run.exchanges := by
  rw [exchanges, opposed, List.filterMap_map]
  congr 1
  funext event
  cases event <;> rfl

theorem settle_opposed (outcome : Except RunError β) (tableau : Tableau L α) :
    settle outcome tableau.opposed = (settle outcome tableau).opposed id := by
  cases outcome <;> rfl

/-- A run in sequence is opposed if its beginning is, and whatever follows. -/
theorem andThen_opposed {run : Run L α β} {next later : β → Tableau L α → Run L α γ}
    {read : β → β} {readLast : γ → γ}
    (follows : ∀ value tableau,
      later (read value) tableau.opposed = (next value tableau).opposed readLast) :
    (run.opposed read).andThen later = (run.andThen next).opposed readLast := by
  unfold andThen
  cases outcome : run.outcome with
  | error error => simp only [opposed, outcome, Except.map]
  | ok value => simp only [opposed, outcome, Except.map, follows, List.map_append]

theorem note_andThen_opposed (event : Event L α) {tableau : Tableau L α}
    {next later : Unit → Tableau L α → Run L α γ} {readLast : γ → γ}
    (follows : later () tableau.opposed = (next () tableau).opposed readLast) :
    (note event.opposed tableau.opposed).andThen later =
      ((note event tableau).andThen next).opposed readLast := by
  simp only [andThen, note, follows, opposed, List.map_append, List.map_cons, List.map_nil]

end Run

/-! ## What the sense leaves as it is -/

namespace Tableau

variable [Scalar α] (options : Options α) (tableau : Tableau L α)

omit [Scalar α] in
@[simp] theorem phase_opposed : tableau.opposed.phase = tableau.phase :=
  rfl

omit [Scalar α] in
@[simp] theorem basis_opposed : tableau.opposed.basis = tableau.basis :=
  rfl

@[simp] theorem infeasibility_opposed : tableau.opposed.infeasibility = tableau.infeasibility :=
  rfl

@[simp] theorem nextMove_opposed (tolerance : α) (rule : ExchangeRule) :
    tableau.opposed.nextMove tolerance rule = tableau.nextMove tolerance rule :=
  rfl

omit [Scalar α] in
@[simp] theorem isArtificialRow_opposed (row : Fin L.constraints) :
    tableau.opposed.isArtificialRow row = tableau.isArtificialRow row :=
  rfl

@[simp] theorem replacement_opposed (row : Fin L.constraints) (tolerance : α) :
    tableau.opposed.replacement? row tolerance = tableau.replacement? row tolerance :=
  rfl

@[simp] theorem point_opposed (tolerance : α) :
    tableau.opposed.point tolerance = tableau.point tolerance :=
  rfl

theorem clearTarget_opposed (row : Fin L.constraints) :
    tableau.opposed.clearTarget row = (tableau.clearTarget row).opposed :=
  rfl

theorem clearResidual_opposed : tableau.opposed.clearResidual = tableau.clearResidual.opposed :=
  rfl

/-! ## Opposite runs -/

theorem exchangeStep_opposed (entering : Fin L.width) (leaving : Fin L.constraints)
    (tolerance : α) :
    tableau.opposed.exchangeStep entering leaving tolerance =
      (tableau.exchangeStep entering leaving tolerance).opposed id := by
  unfold exchangeStep
  rw [basis_opposed]
  split <;> rfl

theorem checkedExchange_opposed (entering : Fin L.width) (leaving : Fin L.constraints) :
    checkedExchange options tableau.opposed entering leaving =
      (checkedExchange options tableau entering leaving).opposed id := by
  rw [checkedExchange, exchangeStep_opposed]
  exact Run.andThen_opposed fun _ next => Run.settle_opposed _ next

theorem optimiseFrom_opposed (limit : Int) (budget streak pivots : Nat) :
    optimiseFrom options limit budget streak pivots tableau.opposed =
      (optimiseFrom options limit budget streak pivots tableau).opposed id := by
  induction budget generalizing streak pivots tableau with
  | zero =>
      unfold optimiseFrom
      rw [nextMove_opposed]
      cases tableau.nextMove options.tolerance (ruleAfter options.rule streak) with
      | optimal => rfl
      | unbounded column =>
          rw [phase_opposed]
          cases tableau.phase <;> rfl
      | exchange entering leaving => rfl
  | succ budget induction =>
      unfold optimiseFrom
      rw [nextMove_opposed]
      cases tableau.nextMove options.tolerance (ruleAfter options.rule streak) with
      | optimal => rfl
      | unbounded column =>
          rw [phase_opposed]
          cases tableau.phase <;> rfl
      | exchange entering leaving =>
          simp only
          rw [checkedExchange_opposed]
          -- The tableau is shown with its own sense, so the note is opposed and not kept.
          have shown (value : Unit) (next : Tableau L α) :
              Run.note (.shown (.step tableau.phase) next.opposed) next.opposed =
                (Run.note (.shown (.step tableau.phase) next) next).opposed id := rfl
          rw [phase_opposed, Run.andThen_opposed shown]
          exact Run.andThen_opposed fun _ next => induction next _ _

theorem expelArtificials_opposed (rows : List (Fin L.constraints)) (pivots : Nat) :
    expelArtificials options rows pivots tableau.opposed =
      (expelArtificials options rows pivots tableau).opposed id := by
  induction rows generalizing pivots tableau with
  | nil => rfl
  | cons row rest induction =>
      rw [expelArtificials, expelArtificials, isArtificialRow_opposed]
      split
      · simp only [clearTarget_opposed, replacement_opposed]
        cases (tableau.clearTarget row).replacement? row options.tolerance with
        | none => exact induction _ pivots
        | some entering =>
            simp only
            rw [checkedExchange_opposed]
            exact Run.andThen_opposed fun _ next => induction next _
      · exact induction tableau pivots

theorem handOver_opposed :
    handOver options tableau.opposed = (handOver options tableau).opposed id := by
  unfold handOver
  rw [infeasibility_opposed]
  split
  · rfl
  · rw [clearResidual_opposed, expelArtificials_opposed]
    exact Run.andThen_opposed fun _ _ => rfl

/-! ## Opposite solutions -/

variable (involutive : ∀ x : α, - -x = x)

include involutive

theorem objectiveValue_opposed : tableau.opposed.objectiveValue = -tableau.objectiveValue := by
  unfold objectiveValue opposed
  cases tableau.sense with
  | minimise => exact (involutive _).symm
  | maximise => rfl

theorem optimalSolution_opposed (tolerance : α) (names : List String)
    (phaseOnePivots pivots : Nat) :
    tableau.opposed.optimalSolution tolerance names phaseOnePivots pivots =
      (tableau.optimalSolution tolerance names phaseOnePivots pivots).map Solution.opposed := by
  unfold optimalSolution
  rw [point_opposed]
  cases tableau.point tolerance with
  | error error => rfl
  | ok point =>
      simp only [Except.map, Solution.opposed, Option.map_some,
        tableau.objectiveValue_opposed involutive]
      rfl

theorem secondPhase_opposed (names : List String) (ceiling : Int) (phaseOnePivots : Nat) :
    secondPhase options names ceiling phaseOnePivots tableau.opposed =
      (secondPhase options names ceiling phaseOnePivots tableau).opposed Solution.opposed := by
  refine Run.note_andThen_opposed (.shown (.start .second) tableau) ?_
  rw [optimise, optimiseFrom_opposed]
  apply Run.andThen_opposed
  intro outcome final
  refine Run.note_andThen_opposed (.ended .finished) ?_
  simp only [id]
  cases outcome.ray with
  | some ray => rfl
  | none =>
      simp only [final.optimalSolution_opposed involutive]
      cases final.optimalSolution options.tolerance names phaseOnePivots
        (phaseOnePivots + outcome.pivots) <;> rfl

theorem firstPhase_opposed (names : List String) (ceiling : Int) :
    firstPhase options names ceiling tableau.opposed =
      (firstPhase options names ceiling tableau).opposed Solution.opposed := by
  refine Run.note_andThen_opposed (.shown (.start .first) tableau) ?_
  rw [optimise, optimiseFrom_opposed]
  apply Run.andThen_opposed
  intro outcome optimised
  rw [handOver_opposed]
  apply Run.andThen_opposed
  intro cleanUp handed
  cases cleanUp with
  | none => rfl
  | some extra => exact secondPhase_opposed options handed involutive names ceiling _

theorem solveNamed_opposed (names : List String) :
    solveNamed options names tableau.opposed =
      (solveNamed options names tableau).opposed Solution.opposed := by
  unfold solveNamed
  rw [phase_opposed]
  cases tableau.phase with
  | first => exact firstPhase_opposed options tableau involutive names _
  | second => exact secondPhase_opposed options tableau involutive names _ 0

end Tableau

/-! ## Solves of systems -/

namespace Tableau

variable [Scalar α]

/-- The greatest value of an objective's negation has the first tableau of the objective's least
value, up to its sense. -/
theorem build_negated (involutive : ∀ x : α, - -x = x) (constraints : List (Constraint α))
    (objective : List α) :
    build constraints (objective.map fun coefficient => -coefficient) .maximise =
      (build constraints objective .minimise).map fun ⟨L, tableau⟩ => ⟨L, tableau.opposed⟩ := by
  have same : costs .maximise (objective.map fun coefficient => -coefficient) = objective := by
    simp [costs, Function.comp_def, involutive]
  unfold build
  rw [same]
  dsimp only
  split <;> rfl

end Tableau

/-- The run of a system over opposite tableaux. -/
def ProgramRun.opposed [Scalar α] (solved : ProgramRun α) : ProgramRun α where
  layout := solved.layout
  run := solved.run.opposed Solution.opposed

/-- The exchanges of a run on a system.  A system that is turned away has none. -/
def exchangesOf (answer : Except ProblemError (ProgramRun α)) : List (Int × Int × Int) :=
  match answer with
  | .error _ => []
  | .ok solved => solved.run.exchanges

section Systems

variable [Scalar α]

theorem runSystem_negated (involutive : ∀ x : α, - -x = x) (options : Options α)
    (constraints : List (Constraint α)) (objective : List α) (names : Option (List String)) :
    runSystem options constraints (objective.map fun coefficient => -coefficient) .maximise names =
      (runSystem options constraints objective .minimise names).map ProgramRun.opposed := by
  unfold runSystem
  rw [Tableau.build_negated involutive]
  cases Tableau.build constraints objective .minimise with
  | error error => rfl
  | ok first =>
      obtain ⟨L, tableau⟩ := first
      simp only [Except.map, bind, Except.bind, Tableau.solve]
      cases Tableau.decisionNames L names with
      | error error => rfl
      | ok used =>
          simp only [tableau.solveNamed_opposed options involutive]
          rfl

/-- The greatest value of an objective's negation is found by the exchanges that find its least
value.  Both solves fail with the same error and snapshot, or their solutions are the same up to the
sign of the objective value. -/
theorem solveSystem_maximise_negated (involutive : ∀ x : α, - -x = x) (options : Options α)
    (constraints : List (Constraint α)) (objective : List α) (names : Option (List String)) :
    let negation := objective.map fun coefficient => -coefficient
    exchangesOf (runSystem options constraints negation .maximise names) =
        exchangesOf (runSystem options constraints objective .minimise names) ∧
      solveSystem options constraints negation .maximise names =
        (solveSystem options constraints objective .minimise names).map fun solution =>
          { solution with objectiveValue := solution.objectiveValue.map fun value => -value } := by
  intro negation
  have opposed := runSystem_negated involutive options constraints objective names
  unfold solveSystem
  rw [opposed]
  cases runSystem options constraints objective .minimise names with
  | error error => exact ⟨rfl, rfl⟩
  | ok solved =>
      refine ⟨solved.run.exchanges_opposed _, ?_⟩
      simp only [Except.map, ProgramRun.outcome, ProgramRun.opposed, Run.opposed]
      cases solved.run.outcome <;> rfl

end Systems

/-- Two of one thing or another, of the first at most five. -/
def cover : List (Constraint Float) :=
  [⟨[1.0, 1.0], .atLeast, 2.0, by decide⟩, ⟨[1.0, 0.0], .atMost, 5.0, by decide⟩]

theorem solveSystem_maximise_negated_cover :
    (∀ x : Float, - -x = x) ∧
      exchangesOf (runSystem .standard cover [-3.0, -2.0] .maximise none) =
        [(4, 2, 0), (0, 2, 1)] ∧
      (solveSystem .standard cover [3.0, 2.0] .minimise none).map Solution.objectiveValue =
        .ok (some 4.0) ∧
      (solveSystem .standard cover [-3.0, -2.0] .maximise none).map Solution.objectiveValue =
        .ok (some (-4.0)) := by
  have exchanged : exchangesOf (runSystem .standard cover [3.0, 2.0] .minimise none) =
      [(4, 2, 0), (0, 2, 1)] := by decide +kernel
  have least : (solveSystem .standard cover [3.0, 2.0] .minimise none).map
      Solution.objectiveValue = .ok (some 4.0) := by decide +kernel
  obtain ⟨sameExchanges, opposed⟩ :=
    solveSystem_maximise_negated Float64.neg_neg .standard cover [3.0, 2.0] none
  refine ⟨Float64.neg_neg, sameExchanges.trans exchanged, least, ?_⟩
  obtain ⟨solution, solved, value⟩ := exists_of_map_eq_ok least
  rw [solved] at opposed
  refine (congrArg (Except.map Solution.objectiveValue) opposed).trans ?_
  simp only [Except.map, value, Option.map_some]

end TableauSimplex
