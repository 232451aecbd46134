import TableauSimplex.Proofs.Solver.Run
import TableauSimplex.Proofs.Solver.Step

/-!
# Runs of a phase

A phase is in a state: a tableau and the number of exchanges since the objective last moved.  It
runs from state to state by the exchanges it chooses, and is finished when it chooses none.  What
`optimise` returns is the end of such a run, and without tolerance it returns the end of every
such run that its budget allows.
-/

set_option autoImplicit false

namespace TableauSimplex

variable {L : Layout}

/-- A tableau within a phase and the number of exchanges since the objective last moved. -/
structure PhaseState (L : Layout) (α : Type) where
  tableau : Tableau L α
  streak : Nat

namespace PhaseState

variable {α : Type} [Scalar α]

def nextMove (state : PhaseState L α) (tolerance : α) (rule : ExchangeRule) : Tableau.Move L :=
  state.tableau.nextMove tolerance (Tableau.ruleAfter rule state.streak)

def exchanged (state : PhaseState L α) (tolerance : α) (entering : Fin L.width)
    (leaving : Fin L.constraints) : PhaseState L α where
  tableau := state.tableau.exchange entering leaving tolerance
  streak := if state.tableau.isDegenerateAt tolerance leaving then state.streak + 1 else 0

/-- Whether a phase ends in a state, along a ray or at an optimum.  A first phase has no rays. -/
def Finished (state : PhaseState L α) (tolerance : α) (rule : ExchangeRule) :
    Option (Fin L.width) → Prop
  | none => state.nextMove tolerance rule = .optimal
  | some column =>
      state.nextMove tolerance rule = .unbounded column ∧ state.tableau.phase = .second

end PhaseState

/-- A number of exchanges that a phase chooses one after the other. -/
inductive PhaseRun {α : Type} [Scalar α] (tolerance : α) (rule : ExchangeRule) :
    PhaseState L α → Nat → PhaseState L α → Prop where
  | stop (state : PhaseState L α) : PhaseRun tolerance rule state 0 state
  | step {state final : PhaseState L α} {entering : Fin L.width} {leaving : Fin L.constraints}
      {count : Nat} (move : state.nextMove tolerance rule = .exchange entering leaving)
      (rest : PhaseRun tolerance rule (state.exchanged tolerance entering leaving) count final) :
      PhaseRun tolerance rule state (count + 1) final

namespace PhaseRun

variable {α : Type} [Scalar α] {tolerance : α} {rule : ExchangeRule}

theorem invariant (holds : PhaseState L α → Prop)
    (kept : ∀ state entering leaving, holds state →
      state.nextMove tolerance rule = .exchange entering leaving →
        holds (state.exchanged tolerance entering leaving))
    {state final : PhaseState L α} {count : Nat} (run : PhaseRun tolerance rule state count final)
    (start : holds state) : holds final := by
  induction run with
  | stop => exact start
  | step move _ induction => exact induction (kept _ _ _ start move)

theorem append {state middle final : PhaseState L α} {first second : Nat}
    (run : PhaseRun tolerance rule state first middle)
    (rest : PhaseRun tolerance rule middle second final) :
    PhaseRun tolerance rule state (first + second) final := by
  induction run with
  | stop => rwa [Nat.zero_add]
  | step move _ induction =>
      rw [Nat.succ_add]
      exact .step move (induction rest)

end PhaseRun

namespace Tableau

section Optimise

variable {α : Type} [Scalar α] {options : Options α} {limit : Int}
  {budget streak pivots : Nat} {tableau final : Tableau L α} {outcome : PhaseOutcome L}

/-- A phase returns at once if it is finished, and otherwise what it returns after one exchange. -/
theorem endsIn_optimiseFrom :
    (optimiseFrom options limit budget streak pivots tableau).EndsIn outcome final ↔
      (PhaseState.Finished ⟨tableau, streak⟩ options.tolerance options.rule outcome.ray ∧
          pivots = outcome.pivots ∧ tableau = final) ∨
        ∃ less entering leaving, budget = less + 1 ∧
          tableau.nextMove options.tolerance (ruleAfter options.rule streak) =
            .exchange entering leaving ∧
          tableau.basis leaving ≠ entering.val ∧
          (options.checksBasis = true →
            (tableau.exchange entering leaving options.tolerance).checkBasis options.tolerance =
              .ok ()) ∧
          (optimiseFrom options limit less
            (if tableau.isDegenerateAt options.tolerance leaving then streak + 1 else 0)
            (pivots + 1) (tableau.exchange entering leaving options.tolerance)).EndsIn
              outcome final := by
  obtain ⟨outcomePivots, ray⟩ := outcome
  conv_lhs => unfold optimiseFrom
  cases move : tableau.nextMove options.tolerance (ruleAfter options.rule streak) with
  | optimal => cases ray <;> simp [PhaseState.Finished, PhaseState.nextMove, move]
  | unbounded column =>
      cases phase : tableau.phase <;> cases ray <;>
        simp [PhaseState.Finished, PhaseState.nextMove, move, phase, and_assoc, and_comm,
          and_left_comm]
  | exchange entering leaving =>
      have unfinished : ¬ PhaseState.Finished ⟨tableau, streak⟩ options.tolerance
          options.rule ray := by
        cases ray <;> simp [PhaseState.Finished, PhaseState.nextMove, move]
      cases budget with
      | zero => simp [unfinished]
      | succ budget =>
          simp only [Run.endsIn_andThen, endsIn_checkedExchange, Run.endsIn_note, unfinished,
            false_and, false_or]
          constructor
          · rintro ⟨_, _, ⟨_, _, ⟨other, checked, rfl⟩, rfl⟩, ends⟩
            exact ⟨budget, entering, leaving, rfl, rfl, other, checked, ends⟩
          · rintro ⟨_, _, _, same, chosen, other, checked, ends⟩
            obtain rfl := Nat.succ.inj same
            obtain ⟨rfl, rfl⟩ := Move.exchange.inj chosen
            exact ⟨(), _, ⟨(), _, ⟨other, checked, rfl⟩, rfl⟩, ends⟩

theorem phaseRun_of_endsIn
    (ends : (optimiseFrom options limit budget streak pivots tableau).EndsIn outcome final) :
    ∃ count state, PhaseRun options.tolerance options.rule ⟨tableau, streak⟩ count state ∧
      state.Finished options.tolerance options.rule outcome.ray ∧ state.tableau = final ∧
        pivots + count = outcome.pivots := by
  induction budget generalizing streak pivots tableau with
  | zero =>
      rcases endsIn_optimiseFrom.mp ends with ⟨finished, counted, rfl⟩ | ⟨_, _, _, impossible, _⟩
      · exact ⟨0, _, .stop _, finished, rfl, counted⟩
      · cases impossible
  | succ budget induction =>
      rcases endsIn_optimiseFrom.mp ends with
        ⟨finished, counted, rfl⟩ | ⟨_, _, _, same, move, _, _, rest⟩
      · exact ⟨0, _, .stop _, finished, rfl, counted⟩
      · obtain rfl := Nat.succ.inj same
        obtain ⟨count, state, run, finished, reached, counted⟩ := induction rest
        exact ⟨count + 1, state, .step move run, finished, reached, by omega⟩

end Optimise

end Tableau

/-! ## Exact runs -/

namespace PhaseRun

variable {rule : ExchangeRule} {state final : PhaseState L ℚ} {count : Nat}

theorem preserves (run : PhaseRun 0 rule state count final)
    {basic : Fin L.constraints → Fin L.width} (admissible : state.tableau.Admissible basic) :
    (∃ basic, final.tableau.Admissible basic) ∧ state.tableau.Equivalent final.tableau ∧
      final.tableau.phase = state.tableau.phase ∧ final.tableau.sense = state.tableau.sense := by
  refine run.invariant
    (fun later => (∃ basic, later.tableau.Admissible basic) ∧
      state.tableau.Equivalent later.tableau ∧ later.tableau.phase = state.tableau.phase ∧
        later.tableau.sense = state.tableau.sense)
    ?_ ⟨⟨basic, admissible⟩, .refl _, rfl, rfl⟩
  rintro later entering leaving ⟨⟨laterBasic, laterAdmissible⟩, equivalent, phase, sense⟩ move
  have chosen := Tableau.chosen_of_nextMove move
  exact ⟨⟨_, laterAdmissible.exchange chosen⟩,
    equivalent.trans (Tableau.equivalent_exchange _ chosen.positive.ne'), phase, sense⟩

theorem endsIn_optimiseFrom (run : PhaseRun 0 rule state count final)
    {basic : Fin L.constraints → Fin L.width} (admissible : state.tableau.Admissible basic)
    {ray : Option (Fin L.width)} (finished : final.Finished 0 rule ray) {options : Options ℚ}
    (noTolerance : options.tolerance = 0) (configured : options.rule = rule) (limit : Int)
    {budget : Nat} (enough : count ≤ budget) (pivots : Nat) :
    (Tableau.optimiseFrom options limit budget state.streak pivots state.tableau).EndsIn
      { pivots := pivots + count, ray } final.tableau := by
  subst configured
  induction run generalizing basic budget pivots with
  | stop state =>
      refine Tableau.endsIn_optimiseFrom.mpr (.inl ⟨?_, rfl, rfl⟩)
      rw [noTolerance]
      exact finished
  | @step state final entering leaving count move rest induction =>
      obtain ⟨less, rfl⟩ : ∃ less, budget = less + 1 := ⟨budget - 1, by omega⟩
      have chosen := Tableau.chosen_of_nextMove move
      have next := admissible.exchange chosen
      refine Tableau.endsIn_optimiseFrom.mpr (.inr ⟨less, entering, leaving, rfl, ?_, ?_, ?_, ?_⟩)
      · rw [noTolerance]
        exact move
      · rw [admissible.canonical.basis_eq leaving]
        exact fun same => admissible.ne_entering chosen leaving (Fin.ext (Int.ofNat.inj same))
      · rw [noTolerance]
        exact fun _ => next.canonical.checkBasis_eq_ok 0
      · have ends := induction next (Nat.le_of_succ_le_succ enough) (pivots + 1) finished
        rw [noTolerance]
        rwa [Nat.add_assoc, Nat.add_comm 1] at ends

theorem endsIn_optimise {tableau : Tableau L ℚ} (run : PhaseRun 0 rule ⟨tableau, 0⟩ count final)
    {basic : Fin L.constraints → Fin L.width} (admissible : tableau.Admissible basic)
    {ray : Option (Fin L.width)} (finished : final.Finished 0 rule ray) {options : Options ℚ}
    (noTolerance : options.tolerance = 0) (configured : options.rule = rule) {limit : Int}
    (enough : count ≤ limit) :
    (Tableau.optimise options limit tableau).EndsIn { pivots := count, ray } final.tableau := by
  have ends := run.endsIn_optimiseFrom admissible finished noTolerance configured limit
    (show count ≤ limit.toNat by omega) 0
  rwa [Nat.zero_add] at ends

end PhaseRun

end TableauSimplex
