import Mathlib.Order.WellFounded
import TableauSimplex.Proofs.Solver.Bland
import TableauSimplex.Proofs.Solver.Certificate
import TableauSimplex.Proofs.Solver.Handover
import TableauSimplex.Proofs.Solver.Solve
import TableauSimplex.Proofs.Tableau.Encoding
import TableauSimplex.Proofs.Tableau.Point

/-!
# Every solve ends

Because no run of a phase without tolerance is endless, the state in which a phase starts is
accessible, and by induction over its successors there is a run that finishes.  A ceiling that
leaves room for the runs of both phases and for the hand-over is never reached, and nothing else
stops a solve: the first phase has no rays, a chosen column is not basic, and the basis passes its
check.
-/

set_option autoImplicit false

namespace TableauSimplex

variable {L : Layout}

namespace PhaseState

/-- Whether a state comes right after another in a phase without tolerance. -/
def Follows (rule : ExchangeRule) (later earlier : PhaseState L ℚ) : Prop :=
  ∃ entering leaving, earlier.nextMove 0 rule = .exchange entering leaving ∧
    later = earlier.exchanged 0 entering leaving

theorem acc_follows (rule : ExchangeRule) {state : PhaseState L ℚ}
    {basic : Fin L.constraints → Fin L.width} (admissible : state.tableau.Admissible basic) :
    Acc (Follows rule) state := by
  by_contra inaccessible
  obtain ⟨states, start, follows⟩ := not_acc_iff_exists_descending_chain.mp inaccessible
  choose entering leaving move next using follows
  have everAdmissible (time : ℕ) : ∃ basic, (states time).tableau.Admissible basic := by
    induction time with
    | zero => exact ⟨basic, start ▸ admissible⟩
    | succ time induction =>
        obtain ⟨current, currentAdmissible⟩ := induction
        rw [next time]
        exact ⟨_, currentAdmissible.exchange (Tableau.chosen_of_nextMove (move time))⟩
  choose bases basesAdmissible using everAdmissible
  exact EndlessRun.impossible ⟨states, bases, entering, leaving, basesAdmissible, move, next⟩

theorem exists_finished (rule : ExchangeRule) {state : PhaseState L ℚ}
    {basic : Fin L.constraints → Fin L.width} (admissible : state.tableau.Admissible basic)
    (residual : state.tableau.ResidualNonneg) :
    ∃ count final ray, PhaseRun 0 rule state count final ∧ final.Finished 0 rule ray := by
  induction acc_follows rule admissible generalizing basic with
  | intro state _ induction =>
      cases move : state.nextMove 0 rule with
      | optimal => exact ⟨0, state, none, .stop state, move⟩
      | unbounded column =>
          cases phase : state.tableau.phase with
          | first =>
              obtain ⟨_, improves, blocked⟩ := Tableau.unbounded_of_nextMove move
              exact absurd blocked (residual.not_blocked admissible phase improves)
          | second => exact ⟨0, state, some column, .stop state, move, phase⟩
      | exchange entering leaving =>
          have chosen := Tableau.chosen_of_nextMove move
          have next := Tableau.equivalent_exchange state.tableau chosen.positive.ne'
          obtain ⟨count, final, ray, run, finished⟩ :=
            induction (state.exchanged 0 entering leaving) ⟨entering, leaving, move, rfl⟩
              (admissible.exchange chosen) (residual.of_equivalent next (Tableau.phase_exchange ..))
          exact ⟨count + 1, final, ray, .step move run, finished⟩

end PhaseState

namespace Tableau

variable {tableau : Tableau L ℚ} {basic : Fin L.constraints → Fin L.width}

theorem exists_endsIn_optimise (rule : ExchangeRule) (admissible : Admissible tableau basic)
    (residual : tableau.ResidualNonneg) :
    ∃ count : Nat, ∃ ray final, (∃ basic, Admissible final basic) ∧ final.phase = tableau.phase ∧
      ∀ options : Options ℚ, options.tolerance = 0 → options.rule = rule →
        ∀ limit : Int, count ≤ limit →
          (optimise options limit tableau).EndsIn { pivots := count, ray } final := by
  let start : PhaseState L ℚ := ⟨tableau, 0⟩
  have startAdmissible : start.tableau.Admissible basic := admissible
  obtain ⟨count, final, ray, run, finished⟩ :=
    PhaseState.exists_finished rule startAdmissible residual
  obtain ⟨finalAdmissible, _, phase, _⟩ := run.preserves admissible
  exact ⟨count, ray, final.tableau, finalAdmissible, phase,
    fun _ noTolerance configured _ enough =>
      run.endsIn_optimise admissible finished noTolerance configured enough⟩

theorem exists_endsIn_secondPhase (rule : ExchangeRule) (admissible : Admissible tableau basic)
    (second : tableau.phase = .second) (names : List String) (phaseOnePivots : Nat) :
    ∃ count : Nat, ∃ solution final, ∀ options : Options ℚ, options.tolerance = 0 →
      options.rule = rule → ∀ ceiling : Int, (phaseOnePivots + count : Nat) ≤ ceiling →
        (secondPhase options names ceiling phaseOnePivots tableau).EndsIn solution final := by
  have residual : tableau.ResidualNonneg := fun first => by simp [second] at first
  obtain ⟨count, ray, final, ⟨finalBasic, finalAdmissible⟩, _, ends⟩ :=
    exists_endsIn_optimise rule admissible residual
  obtain ⟨solution, reports⟩ : ∃ solution, ∀ options : Options ℚ, options.tolerance = 0 →
      final.Reports options names phaseOnePivots { pivots := count, ray } solution := by
    cases ray with
    | some column =>
        exact ⟨_, fun options noTolerance => by rw [Reports, noTolerance]⟩
    | none =>
        obtain ⟨values, read, _⟩ := finalAdmissible.canonical.point_exact
        obtain ⟨solution, solved⟩ : ∃ solution, final.optimalSolution 0 names phaseOnePivots
            (phaseOnePivots + count) = .ok solution := by
          rw [optimalSolution, read]
          exact ⟨_, rfl⟩
        exact ⟨solution, fun options noTolerance => by rw [Reports, noTolerance]; exact solved⟩
  refine ⟨count, solution, final, ?_⟩
  intro options noTolerance configured ceiling enough
  exact endsIn_secondPhase.mpr
    ⟨_, ends options noTolerance configured _ (by omega), reports options noTolerance⟩

theorem exists_endsIn_firstPhase (rule : ExchangeRule) (admissible : Admissible tableau basic)
    (residual : tableau.ResidualNonneg) (names : List String) (allowance : ℚ) :
    ∃ count : Nat, ∃ solution final, ∀ options : Options ℚ, options.tolerance = 0 →
      options.rule = rule → options.feasibilityTolerance = allowance →
        ∀ ceiling : Int, count ≤ ceiling →
          (firstPhase options names ceiling tableau).EndsIn solution final := by
  obtain ⟨count, ray, optimised, ⟨optimisedBasic, optimisedAdmissible⟩, _, ends⟩ :=
    exists_endsIn_optimise rule admissible residual
  rcases lt_or_ge allowance optimised.infeasibility with exceeds | within
  · refine ⟨count, optimised.infeasibleSolution 0 count, optimised, ?_⟩
    intro options noTolerance configured allowed ceiling enough
    refine endsIn_firstPhase.mpr ⟨_, optimised, ends options noTolerance configured ceiling enough,
      .inl ⟨endsIn_handOver_none (allowed ▸ exceeds), ?_⟩⟩
    rw [noTolerance]
  · obtain ⟨extra, handed, handedBasic, handedAdmissible, second, _, _, handsOver⟩ :=
      exists_endsIn_handOver optimisedAdmissible within
    obtain ⟨more, solution, final, secondEnds⟩ :=
      exists_endsIn_secondPhase rule handedAdmissible second names (count + extra)
    refine ⟨count + extra + more, solution, final, ?_⟩
    intro options noTolerance configured allowed ceiling enough
    refine endsIn_firstPhase.mpr ⟨_, optimised,
      ends options noTolerance configured ceiling (by omega), .inr ⟨extra, handed,
        handsOver options noTolerance allowed,
        secondEnds options noTolerance configured ceiling enough⟩⟩

end Tableau

theorem decisionNames_eq_ok {names : Option (List String)}
    (fits : ∀ given, names = some given → given.length = L.decisions) :
    ∃ used, Tableau.decisionNames L names = .ok used := by
  cases names with
  | none => exact ⟨_, rfl⟩
  | some given => exact ⟨given, if_pos (fits given rfl)⟩

/-- Without tolerance every program with constraints has a solution, the same under every ceiling
that is high enough. -/
theorem solveSystem_terminates {options : Options ℚ} (noTolerance : options.tolerance = 0)
    {constraints : List (Constraint ℚ)} (nonempty : constraints ≠ []) (objective : List ℚ)
    (sense : Sense) {names : Option (List String)}
    (fits : ∀ given, names = some given →
      given.length = max (variableCount constraints) objective.length) :
    ∃ ceiling : Nat, ∃ solution, ∀ limit : Int, ceiling ≤ limit →
      solveSystem { options with maxPivots := some limit } constraints objective sense names =
        .ok solution := by
  obtain ⟨L, tableau, built⟩ := Tableau.exists_build nonempty objective sense
  obtain ⟨represents, basic, admissible⟩ := Tableau.build_spec built
  obtain ⟨used, named⟩ := decisionNames_eq_ok fun given isGiven =>
    (fits given isGiven).trans represents.size_eq.symm
  cases phase : tableau.phase with
  | first =>
      obtain ⟨count, solution, final, ends⟩ := Tableau.exists_endsIn_firstPhase options.rule
        admissible represents.residualNonneg used options.feasibilityTolerance
      refine ⟨count, solution, fun limit enough => solveSystem_eq_ok.mpr
        ⟨L, tableau, used, final, built, named, Tableau.endsIn_solveNamed.mpr (.inl ⟨phase, ?_⟩)⟩⟩
      exact ends { options with maxPivots := some limit } noTolerance rfl rfl limit enough
  | second =>
      obtain ⟨count, solution, final, ends⟩ :=
        Tableau.exists_endsIn_secondPhase options.rule admissible phase used 0
      refine ⟨count, solution, fun limit enough => solveSystem_eq_ok.mpr
        ⟨L, tableau, used, final, built, named, Tableau.endsIn_solveNamed.mpr (.inr ⟨phase, ?_⟩)⟩⟩
      exact ends { options with maxPivots := some limit } noTolerance rfl limit
        (by rwa [Nat.zero_add])

/-- Beale's program, on which the steepest column alone cycles. -/
def beale : List (Constraint ℚ) :=
  [⟨[1 / 4, -8, -1, 9], .atMost, 0, by decide⟩, ⟨[1 / 2, -12, -1 / 2, 3], .atMost, 0, by decide⟩,
    ⟨[0, 0, 1], .atMost, 1, by decide⟩]

theorem solveSystem_terminates_beale :
    ∃ ceiling : Nat, ∃ solution, ∀ limit : Int, ceiling ≤ limit →
      solveSystem { Options.exact with maxPivots := some limit } beale [3 / 4, -20, 1 / 2, -6]
        .maximise none = .ok solution :=
  solveSystem_terminates rfl (List.cons_ne_nil _ _) _ _ fun _ impossible => by cases impossible

end TableauSimplex
