import Mathlib.Data.List.Infix
import TableauSimplex.Proofs.Program.Feasible
import TableauSimplex.Proofs.Solver.Logged

/-!
# Raising the ceiling

A phase looks at its budget only when it is about to make an exchange.  So a run under a higher
ceiling is the same run, unless the one under the lower ceiling fails for its ceiling; then it does
what the lower one did and goes on.
-/

set_option autoImplicit false

namespace TableauSimplex

def RunError.exceedsCeiling : RunError → Bool
  | .invariant { fault := .pivotCeiling _ _, snapshot := _ } => true
  | _ => false

def SolveError.exceedsCeiling : SolveError → Bool
  | .problem _ => false
  | .run error => error.exceedsCeiling

namespace Run

variable {L : Layout} {α β γ : Type}

/-- Whether a second run is the first one, or goes on where the first one fails for its ceiling. -/
def ProlongedBy (short long : Run L α β) : Prop :=
  short = long ∨
    (∃ error, short.outcome = .error error ∧ error.exceedsCeiling = true) ∧
      short.events <+: long.events

theorem ProlongedBy.refl (run : Run L α β) : run.ProlongedBy run :=
  .inl rfl

theorem events_prefix_andThen (run : Run L α β) (next : β → Tableau L α → Run L α γ) :
    run.events <+: (run.andThen next).events := by
  unfold andThen
  cases run.outcome with
  | error error => exact List.prefix_rfl
  | ok value => exact List.prefix_append _ _

theorem ProlongedBy.andThen {short long : Run L α β} {next later : β → Tableau L α → Run L α γ}
    (prolonged : short.ProlongedBy long)
    (rest : ∀ value tableau, (next value tableau).ProlongedBy (later value tableau)) :
    (short.andThen next).ProlongedBy (long.andThen later) := by
  rcases prolonged with rfl | ⟨⟨error, fails, exceeds⟩, sofar⟩
  · unfold Run.andThen
    cases short.outcome with
    | error error => exact .refl _
    | ok value =>
        rcases rest value short.tableau with same | ⟨failure, sofar⟩
        · exact .inl (by simp only [same])
        · exact .inr ⟨failure, (List.prefix_append_right_inj _).mpr sofar⟩
  · refine .inr ⟨⟨error, ?_, exceeds⟩, ?_⟩
    · simp only [Run.andThen, fails]
    · have stops : (short.andThen next).events = short.events := by
        simp only [Run.andThen, fails]
      rw [stops]
      exact sofar.trans (long.events_prefix_andThen later)

end Run

namespace Tableau

variable {L : Layout} {α : Type} [Scalar α] (options : Options α) (raised : Option Int)

theorem optimiseFrom_prolongedBy (limit higher : Int) {budget more : Nat} (le : budget ≤ more)
    (streak pivots : Nat) (tableau : Tableau L α) :
    (optimiseFrom options limit budget streak pivots tableau).ProlongedBy
      (optimiseFrom { options with maxPivots := raised } higher more streak pivots tableau) := by
  induction budget generalizing more streak pivots tableau with
  | zero =>
      unfold optimiseFrom
      cases tableau.nextMove options.tolerance (ruleAfter options.rule streak) with
      | optimal => exact .refl _
      | unbounded column => exact .refl _
      | exchange entering leaving => exact .inr ⟨⟨_, rfl, rfl⟩, List.nil_prefix⟩
  | succ budget induction =>
      obtain ⟨more, rfl⟩ : ∃ less, more = less + 1 := ⟨more - 1, by omega⟩
      unfold optimiseFrom
      cases tableau.nextMove options.tolerance (ruleAfter options.rule streak) with
      | optimal => exact .refl _
      | unbounded column => exact .refl _
      | exchange entering leaving =>
          -- Both make the same exchange, whatever their ceilings.
          apply Run.ProlongedBy.andThen (.refl _)
          intro _ next
          exact induction (Nat.le_of_succ_le_succ le) _ _ next

theorem optimise_prolongedBy {limit higher : Int} (le : limit ≤ higher) (tableau : Tableau L α) :
    (optimise options limit tableau).ProlongedBy
      (optimise { options with maxPivots := raised } higher tableau) :=
  optimiseFrom_prolongedBy options raised limit higher (Int.toNat_le_toNat le) 0 0 tableau

/-- The hand-over has no budget. -/
theorem expelArtificials_maxPivots (rows : List (Fin L.constraints)) (pivots : Nat)
    (tableau : Tableau L α) :
    expelArtificials { options with maxPivots := raised } rows pivots tableau =
      expelArtificials options rows pivots tableau := by
  induction rows generalizing pivots tableau with
  | nil => rfl
  | cons row rest induction =>
      rw [expelArtificials, expelArtificials]
      simp only [induction]
      rfl

theorem handOver_maxPivots (tableau : Tableau L α) :
    handOver { options with maxPivots := raised } tableau = handOver options tableau := by
  rw [handOver, handOver, expelArtificials_maxPivots]

theorem secondPhase_prolongedBy (names : List String) {ceiling higher : Int}
    (le : ceiling ≤ higher) (phaseOnePivots : Nat) (tableau : Tableau L α) :
    (secondPhase options names ceiling phaseOnePivots tableau).ProlongedBy
      (secondPhase { options with maxPivots := raised } names higher phaseOnePivots tableau) := by
  apply Run.ProlongedBy.andThen (.refl _)
  intro _ tableau
  apply Run.ProlongedBy.andThen
  · exact optimise_prolongedBy options raised (by omega) tableau
  · exact fun _ _ => .refl _

theorem firstPhase_prolongedBy (names : List String) {ceiling higher : Int}
    (le : ceiling ≤ higher) (tableau : Tableau L α) :
    (firstPhase options names ceiling tableau).ProlongedBy
      (firstPhase { options with maxPivots := raised } names higher tableau) := by
  apply Run.ProlongedBy.andThen (.refl _)
  intro _ tableau
  apply (optimise_prolongedBy options raised le tableau).andThen
  intro outcome tableau
  rw [handOver_maxPivots options raised]
  apply Run.ProlongedBy.andThen (.refl _)
  intro cleanUp handed
  cases cleanUp with
  | none => exact .refl _
  | some extra => exact secondPhase_prolongedBy options raised names le _ handed

/-- A solve under a higher ceiling is the same run or a longer one. -/
theorem solveNamed_prolongedBy (names : List String) (start : Tableau L α)
    (le : options.maxPivots.getD L.pivotCeiling ≤ raised.getD L.pivotCeiling) :
    (start.solveNamed options names).ProlongedBy
      (start.solveNamed { options with maxPivots := raised } names) := by
  unfold solveNamed
  cases start.phase with
  | first => exact firstPhase_prolongedBy options raised names le start
  | second => exact secondPhase_prolongedBy options raised names le 0 start

end Tableau

namespace LinearProgram

variable {α : Type} [Scalar α]

/-- A higher ceiling changes neither a solution nor an error that is not the ceiling's, and the log
of a solve that fails for its ceiling is how the log under the higher one begins. -/
theorem solveTraced_of_higher_ceiling (program : LinearProgram α) (options : Options α)
    (raised : Option Int)
    (higher : ∀ (L : Layout) (start : Tableau L α),
      Tableau.build program.system program.objective program.sense = .ok ⟨L, start⟩ →
        options.maxPivots.getD L.pivotCeiling ≤ raised.getD L.pivotCeiling) :
    let short := program.solveTraced options
    let long := program.solveTraced { options with maxPivots := raised }
    (∀ solution, short.1 = .ok solution → long = short) ∧
      (∀ error, short.1 = .error error → error.exceedsCeiling = false → long = short) ∧
      ∀ error, short.1 = .error error → error.exceedsCeiling = true → short.2 <+: long.2 := by
  simp only [solveTraced_eq, solve, run]
  rcases rejected_or_runs program.system program.objective program.sense program.variableNames with
    ⟨reason, rejected⟩ | ⟨L, start, used, built, _, runs⟩
  · -- A system is turned away before any ceiling is looked at.
    simp only [solveSystem_of_rejected (rejected _), rejected]
    simp
  · simp only [solveSystem_of_run (runs _), runs, ProgramRun.outcome, messagesOf,
      ProgramRun.messages]
    rcases Tableau.solveNamed_prolongedBy options raised used start (higher L start built) with
      same | ⟨⟨ceiling, fails, exceeds⟩, sofar⟩
    · simp [same]
    · have messages : (start.solveNamed options used).messages <+:
          (start.solveNamed { options with maxPivots := raised } used).messages :=
        sofar.flatMap _
      simp [fails, Except.mapError, SolveError.exceedsCeiling, exceeds, messages]

/-- One exchange away from its optimum. -/
def sharedProgram : LinearProgram ℚ where
  objective := [1, 1]
  constraints := [{ Constraint.linear 1 [1] .atMost 4 with name := none }]

def limitedTo (ceiling : Int) : Options ℚ :=
  { Options.standard with maxPivots := some ceiling }

theorem solveTraced_of_higher_ceiling_shared :
    (∃ error, (sharedProgram.solveTraced (limitedTo 0)).1 = .error error ∧
        error.exceedsCeiling = true ∧
          (sharedProgram.solveTraced (limitedTo 0)).2 <+:
            (sharedProgram.solveTraced .standard).2) ∧
      ∃ solution, (sharedProgram.solveTraced (limitedTo 1)).1 = .ok solution ∧
        sharedProgram.solveTraced .standard = sharedProgram.solveTraced (limitedTo 1) := by
  have positive (L : Layout) : 0 < L.pivotCeiling := by
    simp [Layout.pivotCeiling, Layout.rowCount, Layout.columnCount]
  obtain ⟨_, _, fromNone⟩ := solveTraced_of_higher_ceiling sharedProgram (limitedTo 0) none
    fun L _ _ => Int.natCast_nonneg L.pivotCeiling
  obtain ⟨fromOne, _⟩ := solveTraced_of_higher_ceiling sharedProgram (limitedTo 1) none
    fun L _ _ => Int.ofNat_le.mpr (positive L)
  constructor
  · have exceeds : ((sharedProgram.solveTraced (limitedTo 0)).1.mapError
        SolveError.exceedsCeiling).map Solution.pivots = .error true := by decide +kernel
    cases outcome : (sharedProgram.solveTraced (limitedTo 0)).1 with
    | ok solution => simp [outcome, Except.mapError, Except.map] at exceeds
    | error error =>
        have ceiling : error.exceedsCeiling = true := by
          simpa [outcome, Except.mapError, Except.map] using exceeds
        exact ⟨error, rfl, ceiling, fromNone error outcome ceiling⟩
  · obtain ⟨solution, solved, _⟩ := exists_of_map_eq_ok
      (show (sharedProgram.solveTraced (limitedTo 1)).1.map Solution.pivots = .ok 1 by
        decide +kernel)
    exact ⟨solution, solved, fromOne solution solved⟩

end LinearProgram

end TableauSimplex
