import TableauSimplex.Proofs.Solver.Budget
import TableauSimplex.Proofs.Solver.Termination
import TableauSimplex.Proofs.Solver.Trace

/-!
# How high a ceiling has to be

Without tolerance a system has a solution under every ceiling that is high enough, and a higher
ceiling changes no solution.  So there is a least ceiling that gives one, and under any lower
ceiling a solve stops there and for no other reason.
-/

set_option autoImplicit false

namespace TableauSimplex

/-- Whether an answer is the error of a phase that has used up its ceiling. -/
def StopsAtCeiling {β : Type} (answer : Except SolveError β) : Prop :=
  ∃ phase limit, StopsAt answer (.pivotCeiling phase limit)

theorem not_stopsAtCeiling_ok {β : Type} (value : β) :
    ¬ StopsAtCeiling (.ok value : Except SolveError β) := by
  rintro ⟨_, _, _, impossible⟩
  cases impossible

theorem RunError.stopsAtCeiling {β : Type} {error : RunError}
    (exceeds : error.exceedsCeiling = true) :
    StopsAtCeiling (.error (.run error) : Except SolveError β) := by
  match error, exceeds with
  | .invariant { fault := .pivotCeiling phase limit, snapshot }, _ =>
      exact ⟨phase, limit, snapshot, rfl⟩

def Options.limited {α : Type} (options : Options α) (limit : Option Int) : Options α :=
  { options with maxPivots := limit }

/-- How high the ceiling has to be for a system to be solved, and what it is solved by.  Without a
ceiling of their own the options take that of the layout. -/
structure NeedsCeiling (options : Options ℚ) (constraints : List (Constraint ℚ))
    (objective : List ℚ) (sense : Sense) (names : Option (List String)) (L : Layout) (needed : Nat)
    (solution : Solution ℚ) : Prop where
  enough : ∀ limit : Option Int, needed ≤ limit.getD L.pivotCeiling →
    solveSystem (options.limited limit) constraints objective sense names = .ok solution
  short : ∀ limit : Option Int, (limit.getD L.pivotCeiling).toNat < needed →
    StopsAtCeiling (solveSystem (options.limited limit) constraints objective sense names)

section System

variable {options : Options ℚ} {constraints : List (Constraint ℚ)} {objective : List ℚ}
  {sense : Sense} {names : Option (List String)} {L : Layout} {start : Tableau L ℚ}
  (built : Tableau.build constraints objective sense = .ok ⟨L, start⟩)

include built

theorem solveSystem_eq_or_stopsAtCeiling (options : Options ℚ) (names : Option (List String))
    (lower higher : Option Int) (le : lower.getD L.pivotCeiling ≤ higher.getD L.pivotCeiling) :
    solveSystem (options.limited lower) constraints objective sense names =
        solveSystem (options.limited higher) constraints objective sense names ∨
      StopsAtCeiling (solveSystem (options.limited lower) constraints objective sense names) := by
  rcases rejected_or_runs constraints objective sense names with
    ⟨reason, rejected⟩ | ⟨_, _, used, alsoBuilt, _, runs⟩
  · exact .inl ((solveSystem_of_rejected (rejected _)).trans
      (solveSystem_of_rejected (rejected _)).symm)
  · cases built.symm.trans alsoBuilt
    rw [solveSystem_of_run (runs (options.limited lower)),
      solveSystem_of_run (runs (options.limited higher)), ProgramRun.outcome, ProgramRun.outcome]
    rcases Tableau.solveNamed_prolongedBy (options.limited lower) higher used start le with
      same | ⟨⟨error, fails, exceeds⟩, _⟩
    · exact .inl (congrArg (fun run => run.outcome.mapError SolveError.run) same)
    · rw [fails]
      exact .inr (RunError.stopsAtCeiling exceeds)

theorem needsCeiling_of_least {needed : Nat} {solution : Solution ℚ}
    (solves : solveSystem (options.limited (some needed)) constraints objective sense names =
      .ok solution)
    (least : ∀ limit : Nat, limit < needed →
      solveSystem (options.limited (some limit)) constraints objective sense names ≠
        .ok solution) :
    NeedsCeiling options constraints objective sense names L needed solution where
  enough limit le := by
    rcases solveSystem_eq_or_stopsAtCeiling built options names (some needed) limit le with
      same | stops
    · exact same.symm.trans solves
    · rw [solves] at stops
      exact absurd stops (not_stopsAtCeiling_ok solution)
  short limit below := by
    have lower := solveSystem_eq_or_stopsAtCeiling built options names
      (some (limit.getD L.pivotCeiling).toNat) (some needed) (Int.ofNat_le.mpr below.le)
    rcases solveSystem_eq_or_stopsAtCeiling built options names limit
        (some (limit.getD L.pivotCeiling).toNat) (Int.self_le_toNat _) with same | stops
    · rw [same]
      exact lower.resolve_left fun solved => least _ below (solved.trans solves)
    · exact stops

theorem exists_needsCeiling (noTolerance : options.tolerance = 0) (nonempty : constraints ≠ [])
    (fits : ∀ given, names = some given →
      given.length = max (variableCount constraints) objective.length) :
    ∃ needed solution,
      NeedsCeiling options constraints objective sense names L needed solution := by
  classical
  obtain ⟨ceiling, solution, solves⟩ :=
    solveSystem_terminates noTolerance nonempty objective sense fits
  have sometime : ∃ limit : Nat, solveSystem (options.limited (some limit)) constraints objective
      sense names = .ok solution := ⟨ceiling, solves ceiling le_rfl⟩
  exact ⟨Nat.find sometime, solution, needsCeiling_of_least built (Nat.find_spec sometime)
    fun _ => Nat.find_min sometime⟩

end System

end TableauSimplex
