import TableauSimplex.Proofs.Solver.Run
import TableauSimplex.Solver.Basic

/-!
# What a solve is made of

A solve that gives a solution has built a tableau, has run its phases one after the other, and has
read the solution off the tableau in which the last of them ended.
-/

set_option autoImplicit false

namespace TableauSimplex

namespace Tableau

variable {L : Layout} {α : Type} [Scalar α] {options : Options α} {names : List String}
  {ceiling : Int} {tableau final : Tableau L α} {solution : Solution α}

/-- Whether a solution is the one that the end of the second phase gives. -/
def Reports (final : Tableau L α) (options : Options α) (names : List String)
    (phaseOnePivots : Nat) (outcome : PhaseOutcome L) (solution : Solution α) : Prop :=
  let pivots := phaseOnePivots + outcome.pivots
  match outcome.ray with
  | some ray =>
      final.unboundedSolution options.tolerance ray phaseOnePivots pivots = solution
  | none =>
      final.optimalSolution options.tolerance names phaseOnePivots pivots = .ok solution

/-- What a report says of the exchanges and the basis. -/
theorem Reports.spec {phaseOnePivots : Nat} {outcome : PhaseOutcome L}
    (reports : final.Reports options names phaseOnePivots outcome solution) :
    solution.status ≠ .infeasible ∧ solution.phaseOnePivots = phaseOnePivots ∧
      solution.pivots = (phaseOnePivots + outcome.pivots : Nat) ∧
      solution.basis = outcome.ray.elim (final.basisReport options.tolerance) fun ray =>
        (final.basisReport options.tolerance).put (L.columnName ray.val) "unbounded" := by
  unfold Reports at reports
  cases ray : outcome.ray with
  | some column =>
      simp only [ray] at reports
      obtain rfl := reports
      exact ⟨nofun, rfl, rfl, rfl⟩
  | none =>
      simp only [ray] at reports
      obtain ⟨point, _, rfl⟩ := exists_of_map_eq_ok reports
      exact ⟨nofun, rfl, rfl, rfl⟩

theorem endsIn_secondPhase {phaseOnePivots : Nat} :
    (secondPhase options names ceiling phaseOnePivots tableau).EndsIn solution final ↔
      ∃ outcome,
        (optimise options (max (ceiling - phaseOnePivots) 0) tableau).EndsIn outcome final ∧
          final.Reports options names phaseOnePivots outcome solution := by
  have read (outcome : PhaseOutcome L) (reached : Tableau L α) :
      (match outcome.ray with
        | some ray =>
            Run.done (reached.unboundedSolution options.tolerance ray phaseOnePivots
              (phaseOnePivots + outcome.pivots)) reached
        | none =>
            Run.settle ((reached.optimalSolution options.tolerance names phaseOnePivots
              (phaseOnePivots + outcome.pivots)).mapError .position) reached).EndsIn
          solution final ↔
        reached = final ∧ reached.Reports options names phaseOnePivots outcome solution := by
    unfold Reports
    cases outcome.ray with
    | some ray => simp [and_comm]
    | none =>
        simp only [Run.endsIn_settle]
        rw [and_comm]
        apply and_congr_right
        intro _
        cases reached.optimalSolution options.tolerance names phaseOnePivots
          (phaseOnePivots + outcome.pivots) <;> simp [Except.mapError]
  simp only [secondPhase, Run.endsIn_andThen, Run.endsIn_note]
  constructor
  · rintro ⟨_, _, rfl, outcome, reached, optimised, _, _, rfl, ends⟩
    obtain ⟨rfl, reports⟩ := (read outcome reached).mp ends
    exact ⟨outcome, optimised, reports⟩
  · rintro ⟨outcome, optimised, reports⟩
    have ends := (read outcome final).mpr ⟨rfl, reports⟩
    exact ⟨(), _, rfl, outcome, final, optimised, (), _, rfl, ends⟩

theorem endsIn_firstPhase :
    (firstPhase options names ceiling tableau).EndsIn solution final ↔
      ∃ outcome optimised, (optimise options ceiling tableau).EndsIn outcome optimised ∧
        (((handOver options optimised).EndsIn none final ∧
            final.infeasibleSolution options.tolerance outcome.pivots = solution) ∨
          ∃ extra handed, (handOver options optimised).EndsIn (some extra) handed ∧
            (secondPhase options names ceiling (outcome.pivots + extra) handed).EndsIn
              solution final) := by
  simp only [firstPhase, Run.endsIn_andThen, Run.endsIn_note]
  constructor
  · rintro ⟨_, _, rfl, outcome, optimised, ends, cleanUp, handed, handsOver, rest⟩
    refine ⟨outcome, optimised, ends, ?_⟩
    cases cleanUp with
    | none =>
        simp only [Run.endsIn_andThen, Run.endsIn_note, Run.endsIn_done] at rest
        obtain ⟨_, _, rfl, reads, rfl⟩ := rest
        exact .inl ⟨handsOver, reads⟩
    | some extra => exact .inr ⟨extra, handed, handsOver, rest⟩
  · rintro ⟨outcome, optimised, ends, ⟨handsOver, reads⟩ | ⟨extra, handed, handsOver, rest⟩⟩
    · refine ⟨(), _, rfl, outcome, optimised, ends, none, final, handsOver, ?_⟩
      simp only [Run.endsIn_andThen, Run.endsIn_note, Run.endsIn_done]
      exact ⟨(), final, rfl, reads, rfl⟩
    · exact ⟨(), _, rfl, outcome, optimised, ends, some extra, handed, handsOver, rest⟩

theorem endsIn_solveNamed :
    (tableau.solveNamed options names).EndsIn solution final ↔
      let ceiling : Int := options.maxPivots.getD L.pivotCeiling
      (tableau.phase = .first ∧ (firstPhase options names ceiling tableau).EndsIn solution final) ∨
        (tableau.phase = .second ∧
          (secondPhase options names ceiling 0 tableau).EndsIn solution final) := by
  unfold solveNamed
  cases tableau.phase <;> simp

end Tableau

variable {α : Type} [Scalar α]

/-- A system is turned away whatever the options, or it has a run under all of them. -/
theorem rejected_or_runs (constraints : List (Constraint α)) (objective : List α) (sense : Sense)
    (names : Option (List String)) :
    (∃ error, ∀ options : Options α,
        runSystem options constraints objective sense names = .error error) ∨
      ∃ L start used, Tableau.build constraints objective sense = .ok ⟨L, start⟩ ∧
        Tableau.decisionNames L names = .ok used ∧
        ∀ options : Options α, runSystem options constraints objective sense names =
          .ok { layout := L, run := start.solveNamed options used } := by
  cases built : Tableau.build constraints objective sense with
  | error error =>
      refine .inl ⟨error, fun options => ?_⟩
      simp [runSystem, built, bind, Except.bind]
  | ok first =>
      obtain ⟨L, start⟩ := first
      cases named : Tableau.decisionNames L names with
      | error error =>
          refine .inl ⟨error, fun options => ?_⟩
          simp [runSystem, built, Tableau.solve, named, bind, Except.bind, Except.map]
      | ok used =>
          refine .inr ⟨L, start, used, rfl, named, fun options => ?_⟩
          simp [runSystem, built, Tableau.solve, named, bind, Except.bind, Except.map, pure,
            Except.pure]

theorem solveSystem_of_run {options : Options α} {constraints : List (Constraint α)}
    {objective : List α} {sense : Sense} {names : Option (List String)} {solved : ProgramRun α}
    (ran : runSystem options constraints objective sense names = .ok solved) :
    solveSystem options constraints objective sense names = solved.outcome := by
  rw [solveSystem, ran]

omit [Scalar α] in
theorem ProgramRun.endsIn_of_outcome {solved : ProgramRun α} {solution : Solution α}
    (succeeds : solved.outcome = .ok solution) :
    solved.run.EndsIn solution solved.run.tableau := by
  apply Run.endsIn_of_ok
  unfold ProgramRun.outcome at succeeds
  cases ended : solved.run.outcome with
  | error error => simp [ended, Except.mapError] at succeeds
  | ok value => simpa [ended, Except.mapError] using succeeds

theorem solveSystem_of_rejected {options : Options α} {constraints : List (Constraint α)}
    {objective : List α} {sense : Sense} {names : Option (List String)} {error : ProblemError}
    (rejected : runSystem options constraints objective sense names = .error error) :
    solveSystem options constraints objective sense names = .error (.problem error) := by
  rw [solveSystem, rejected]

theorem solveSystem_eq_ok {options : Options α} {constraints : List (Constraint α)}
    {objective : List α} {sense : Sense} {names : Option (List String)} {solution : Solution α} :
    solveSystem options constraints objective sense names = .ok solution ↔
      ∃ L tableau used final, Tableau.build constraints objective sense = .ok ⟨L, tableau⟩ ∧
        Tableau.decisionNames L names = .ok used ∧
          (tableau.solveNamed options used).EndsIn solution final := by
  unfold solveSystem runSystem
  cases built : Tableau.build constraints objective sense with
  | error error => simp [bind, Except.bind]
  | ok start =>
      obtain ⟨L, tableau⟩ := start
      cases named : Tableau.decisionNames L names with
      | error error =>
          simp only [Tableau.solve, named, bind, Except.bind, Except.map]
          constructor
          · intro impossible
            cases impossible
          · rintro ⟨_, _, _, _, same, used, _⟩
            cases same
            rw [named] at used
            cases used
      | ok used =>
          simp only [Tableau.solve, named, bind, Except.bind, Except.map, pure, Except.pure,
            ProgramRun.outcome]
          constructor
          · intro succeeds
            refine ⟨L, tableau, used, _, rfl, named, Run.endsIn_of_ok ?_⟩
            cases outcome : (tableau.solveNamed options used).outcome <;>
              simp_all [Except.mapError]
          · rintro ⟨_, _, _, _, same, alsoNamed, succeeds, _⟩
            cases same
            obtain rfl := Except.ok.inj (named.symm.trans alsoNamed)
            rw [succeeds]
            rfl

end TableauSimplex
