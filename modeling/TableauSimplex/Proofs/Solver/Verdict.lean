import TableauSimplex.Proofs.Solver.Certificate
import TableauSimplex.Proofs.Solver.Handover
import TableauSimplex.Proofs.Solver.Phase
import TableauSimplex.Proofs.Solver.Solve
import TableauSimplex.Proofs.Tableau.Encoding
import TableauSimplex.Proofs.Tableau.Point

/-!
# Every verdict is right

Without tolerance a solution answers its program.  A phase keeps what its tableau represents, the
end of the first phase decides whether there are feasible points, the hand-over loses none of them,
and the end of the second phase is a certificate of optimality or of unboundedness.
-/

set_option autoImplicit false

namespace TableauSimplex

/-- What a solution says about a program. -/
def Solution.Answers (solution : Solution ℚ) (constraints : List (Constraint ℚ))
    (objective : List ℚ) (sense : Sense) : Prop :=
  let size := programSize constraints objective
  match solution.status with
  | .optimal =>
      ∃ values, solution.values = some values ∧
        solution.objectiveValue = some (dot objective values) ∧
          Feasible constraints size values ∧
            ∀ point, Feasible constraints size point →
              ¬ sense.Better (dot objective point) (dot objective values)
  | .infeasible => ∀ point, ¬ Feasible constraints size point
  | .unbounded =>
      ∀ bound, ∃ point, Feasible constraints size point ∧
        sense.Better (dot objective point) bound

namespace Tableau

variable {L : Layout} {constraints : List (Constraint ℚ)} {objective : List ℚ} {sense : Sense}
  {options : Options ℚ} {tableau final : Tableau L ℚ} {basic : Fin L.constraints → Fin L.width}

theorem optimise_spec (represents : Represents tableau constraints objective sense)
    (admissible : Admissible tableau basic) (noTolerance : options.tolerance = 0) {limit : Int}
    {outcome : PhaseOutcome L} (ends : (optimise options limit tableau).EndsIn outcome final) :
    Represents final constraints objective sense ∧ (∃ basic, Admissible final basic) ∧
      final.phase = tableau.phase ∧
        ∃ rule, match outcome.ray with
          | none => final.nextMove 0 rule = .optimal
          | some column => final.nextMove 0 rule = .unbounded column ∧ final.phase = .second := by
  obtain ⟨count, state, run, finished, rfl, _⟩ := phaseRun_of_endsIn ends
  rw [noTolerance] at run finished
  obtain ⟨stillAdmissible, equivalent, phase, sameSense⟩ := run.preserves admissible
  refine ⟨represents.of_equivalent equivalent sameSense, stillAdmissible, phase, ?_⟩
  refine ⟨ruleAfter options.rule state.streak, ?_⟩
  cases ray : outcome.ray <;> rw [ray] at finished <;> exact finished

/-! ## The second phase -/

theorem Canonical.optimalSolution_exact (canonical : Canonical tableau basic) {names : List String}
    {phaseOnePivots pivots : Nat} {solution : Solution ℚ}
    (reads : tableau.optimalSolution 0 names phaseOnePivots pivots = .ok solution) :
    solution.status = .optimal ∧
      solution.values = some (L.decisionPart (tableau.basicSolution basic)) ∧
        solution.objectiveValue = some tableau.objectiveValue := by
  obtain ⟨values, read, decisions⟩ := canonical.point_exact
  rw [optimalSolution, read] at reads
  obtain rfl := Except.ok.inj reads
  rw [← decisions]
  exact ⟨rfl, rfl, rfl⟩

theorem optimalSolution_spec (represents : Represents tableau constraints objective sense)
    (admissible : Admissible tableau basic) (second : tableau.phase = .second)
    {names : List String} {phaseOnePivots pivots : Nat} {solution : Solution ℚ}
    (reads : tableau.optimalSolution 0 names phaseOnePivots pivots = .ok solution) :
    solution.status = .optimal ∧
      solution.values = some (L.decisionPart (tableau.basicSolution basic)) ∧
        solution.objectiveValue =
          some (dot objective (L.decisionPart (tableau.basicSolution basic))) := by
  rw [← objectiveValue_eq_dot represents admissible second]
  exact admissible.canonical.optimalSolution_exact reads

theorem answers_of_secondPhase (represents : Represents tableau constraints objective sense)
    (admissible : Admissible tableau basic) (second : tableau.phase = .second)
    (noTolerance : options.tolerance = 0) {names : List String} {ceiling : Int}
    {phaseOnePivots : Nat} {solution : Solution ℚ}
    (ends : (secondPhase options names ceiling phaseOnePivots tableau).EndsIn solution final) :
    solution.Answers constraints objective sense := by
  obtain ⟨outcome, optimised, reports⟩ := endsIn_secondPhase.mp ends
  obtain ⟨finalRepresents, ⟨finalBasic, finalAdmissible⟩, phase, rule, finished⟩ :=
    optimise_spec represents admissible noTolerance optimised
  have finalSecond := phase.trans second
  rw [Reports, noTolerance] at reports
  cases ray : outcome.ray with
  | some column =>
      rw [ray] at reports finished
      obtain ⟨candidate, improves, blocked⟩ := unbounded_of_nextMove finished.1
      obtain rfl := reports
      intro bound
      rw [← represents.size_eq]
      exact exists_better_of_unbounded finalRepresents finalAdmissible finalSecond candidate
        improves blocked bound
  | none =>
      rw [ray] at reports finished
      obtain ⟨status, values, value⟩ :=
        optimalSolution_spec finalRepresents finalAdmissible finalSecond reports
      rw [Solution.Answers, status, ← represents.size_eq]
      exact ⟨_, values, value, feasible_basicSolution finalRepresents finalAdmissible finalSecond,
        fun _ => not_better_of_optimal finalRepresents finalAdmissible finalSecond fun _ =>
          optimal_of_nextMove finished⟩

/-! ## The first phase -/

theorem infeasibility_of_optimise (represents : Represents tableau constraints objective sense)
    (admissible : Admissible tableau basic) (first : tableau.phase = .first)
    (noTolerance : options.tolerance = 0) {limit : Int} {outcome : PhaseOutcome L}
    (ends : (optimise options limit tableau).EndsIn outcome final) :
    final.infeasibility = 0 ↔
      ∃ point, Feasible constraints (programSize constraints objective) point := by
  obtain ⟨finalRepresents, ⟨finalBasic, finalAdmissible⟩, phase, rule, finished⟩ :=
    optimise_spec represents admissible noTolerance ends
  have finalFirst := phase.trans first
  rw [← represents.size_eq]
  apply infeasibility_eq_zero_iff finalRepresents finalAdmissible finalFirst
  intro column
  cases ray : outcome.ray with
  | none =>
      rw [ray] at finished
      exact optimal_of_nextMove finished
  | some growing =>
      rw [ray, finalFirst] at finished
      cases finished.2

theorem artificialsVanish_of_infeasibility
    (represents : Represents tableau constraints objective sense)
    (admissible : Admissible tableau basic) (first : tableau.phase = .first)
    (zero : tableau.infeasibility = 0) : tableau.ArtificialsVanish basic := by
  intro row isArtificial
  have vanishes := (genuine_of_infeasibility represents admissible first zero).artificial
    (basic row) isArtificial
  rwa [basicSolution, spread_basic _ admissible.canonical.injective] at vanishes

/-- Without tolerance the hand-over tells whether there is a residual, and if there is none it
keeps what the tableau represents. -/
theorem handOver_spec (represents : Represents tableau constraints objective sense)
    (admissible : Admissible tableau basic) (first : tableau.phase = .first)
    (noTolerance : options.tolerance = 0) (noAllowance : options.feasibilityTolerance = 0)
    {cleanUp : Option Nat} (ends : (handOver options tableau).EndsIn cleanUp final) :
    (cleanUp = none ∧ tableau.infeasibility ≠ 0) ∨
      (cleanUp.isSome ∧ tableau.infeasibility = 0 ∧
        Represents final constraints objective sense ∧ (∃ basic, Admissible final basic) ∧
          final.phase = .second) := by
  have nonneg := infeasibility_nonneg represents admissible first
  rcases nonneg.eq_or_lt with zero | positive
  · obtain ⟨count, handed, handedBasic, handedAdmissible, second, sameSense, equivalent, returns⟩ :=
      exists_endsIn_handOver admissible zero.symm.le
    obtain ⟨rfl, rfl⟩ := ends.unique (returns options noTolerance noAllowance)
    have noResidual : tableau.residual.target = 0 := neg_eq_zero.mp zero.symm
    have vanish := artificialsVanish_of_infeasibility represents admissible first zero.symm
    exact .inr ⟨rfl, zero.symm, represents.of_equivalent (equivalent noResidual vanish) sameSense,
      ⟨handedBasic, handedAdmissible⟩, second⟩
  · have returns : (handOver options tableau).EndsIn none tableau :=
      endsIn_handOver_none (by rw [noAllowance]; exact positive)
    exact .inl ⟨(ends.unique returns).1, positive.ne'⟩

theorem answers_of_firstPhase (represents : Represents tableau constraints objective sense)
    (admissible : Admissible tableau basic) (first : tableau.phase = .first)
    (noTolerance : options.tolerance = 0) (noAllowance : options.feasibilityTolerance = 0)
    {names : List String} {ceiling : Int} {solution : Solution ℚ}
    (ends : (firstPhase options names ceiling tableau).EndsIn solution final) :
    solution.Answers constraints objective sense := by
  obtain ⟨outcome, optimised, phaseEnds, rest⟩ := endsIn_firstPhase.mp ends
  have decides := infeasibility_of_optimise represents admissible first noTolerance phaseEnds
  obtain ⟨midRepresents, ⟨midBasic, midAdmissible⟩, phase, _⟩ :=
    optimise_spec represents admissible noTolerance phaseEnds
  have stillFirst := phase.trans first
  rcases rest with ⟨handsOver, rfl⟩ | ⟨extra, handed, handsOver, secondEnds⟩
  · rcases handOver_spec midRepresents midAdmissible stillFirst noTolerance noAllowance handsOver
      with ⟨_, residual⟩ | ⟨impossible, _⟩
    · exact fun point feasible => residual (decides.mpr ⟨point, feasible⟩)
    · cases impossible
  · rcases handOver_spec midRepresents midAdmissible stillFirst noTolerance noAllowance handsOver
      with ⟨impossible, _⟩ | ⟨_, _, handedRepresents, ⟨_, handedAdmissible⟩, second⟩
    · cases impossible
    · exact answers_of_secondPhase handedRepresents handedAdmissible second noTolerance secondEnds

end Tableau

/-- Without tolerance every solution answers its program. -/
theorem answers_of_solveSystem {options : Options ℚ} (noTolerance : options.tolerance = 0)
    (noAllowance : options.feasibilityTolerance = 0) {constraints : List (Constraint ℚ)}
    {objective : List ℚ} {sense : Sense} {names : Option (List String)} {solution : Solution ℚ}
    (solved : solveSystem options constraints objective sense names = .ok solution) :
    solution.Answers constraints objective sense := by
  obtain ⟨L, tableau, used, final, built, _, ends⟩ := solveSystem_eq_ok.mp solved
  obtain ⟨represents, basic, admissible⟩ := Tableau.build_spec built
  rcases Tableau.endsIn_solveNamed.mp ends with ⟨first, firstEnds⟩ | ⟨second, secondEnds⟩
  · exact Tableau.answers_of_firstPhase represents admissible first noTolerance noAllowance
      firstEnds
  · exact Tableau.answers_of_secondPhase represents admissible second noTolerance secondEnds

end TableauSimplex
