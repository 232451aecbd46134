import TableauSimplex.Proofs.Solver.Basis
import TableauSimplex.Proofs.Tableau.Clearance

/-!
# Solves that their tolerances do not disturb

The exact solve is the one under the same options without tolerance.  If no number that it compares
with the tolerance is taken for zero that is not, the solve with the tolerance is the same run.  In
the same way the allowance for the residual of the first phase makes no difference if no residual is
taken for zero that is not.
-/

set_option autoImplicit false

namespace TableauSimplex

open Scalar (ClearOf)

variable {L : Layout} {options : Options ℚ}

/-- Whether no number that a solve looks at in a state is taken for zero that is not: the cells of
the objective rows, the targets, and either the positive entries of the entering column with the
differences of their ratios or the entries of the artificial row that comes next. -/
def SolveState.Clear (options : Options ℚ) : SolveState L ℚ → Prop
  | .within state =>
      state.tableau.Clear options.tolerance ∧
        ∀ entering,
          state.tableau.entering? 0 (Tableau.ruleAfter options.rule state.streak) = some entering →
            state.tableau.ClearColumn options.tolerance entering
  | .between pending tableau =>
      tableau.Clear options.tolerance ∧
        ∀ row ∈ pending.head?, tableau.isArtificialRow row = true →
          ∀ column : Fin L.width, column.val < L.structural →
            ClearOf options.tolerance ((tableau.rows row).entries column)

theorem SolveState.Clear.tableau {state : SolveState L ℚ} (clear : state.Clear options) :
    state.tableau.Clear options.tolerance := by
  cases state with
  | within state => exact clear.1
  | between pending tableau => exact clear.1

namespace Tableau

variable {start : Tableau L ℚ}

/-! ## The tolerance -/

def Undisturbed (start : Tableau L ℚ) (options : Options ℚ) : Prop :=
  ∀ state, start.Reaches options.sharpened state → state.Clear options

theorem Clear.readsAlike {tableau : Tableau L ℚ} {tolerance : ℚ} (clear : tableau.Clear tolerance)
    (tolerant : 0 ≤ tolerance) : tableau.ReadsAlike 0 tolerance where
  basisReport := by simp only [basisReport, clear.basicValue_eq tolerant]
  point := by
    have rows : tableau.withRowValue 0 = tableau.withRowValue tolerance := by
      funext values row
      simp only [withRowValue, clear.basicValue_eq tolerant]
    simp only [Tableau.point, rows]
  hasAlternative := (clear.hasAlternative_eq tolerant).symm

namespace Undisturbed

variable (undisturbed : start.Undisturbed options) (canonical : ∃ basic, start.Canonical basic)

include undisturbed canonical

omit canonical in
theorem clear_exchange {state : SolveState L ℚ} {tableau : Tableau L ℚ}
    {entering : Fin L.width} {leaving : Fin L.constraints}
    (reached : start.Reaches options.sharpened state)
    (exchanges : state.Exchanges options.sharpened tableau entering leaving) :
    (tableau.exchange entering leaving 0).Clear options.tolerance := by
  -- The snapping acts on the exchanged tableau, so it is the next state that has to be clear.
  obtain ⟨next, step, same⟩ := exchanges.exists_step
  have clear := (undisturbed next (reached.step step)).tableau
  rwa [same] at clear

omit canonical in
theorem exchange_eq {state : SolveState L ℚ} {tableau : Tableau L ℚ}
    {entering : Fin L.width} {leaving : Fin L.constraints}
    (reached : start.Reaches options.sharpened state)
    (exchanges : state.Exchanges options.sharpened tableau entering leaving) :
    tableau.exchange entering leaving options.tolerance = tableau.exchange entering leaving 0 :=
  Tableau.exchange_eq (exchanges.pivot_ne_zero le_rfl)
    (undisturbed.clear_exchange reached exchanges)

theorem checkedExchange_eq {state : SolveState L ℚ} {tableau : Tableau L ℚ}
    {entering : Fin L.width} {leaving : Fin L.constraints}
    (reached : start.Reaches options.sharpened state)
    (exchanges : state.Exchanges options.sharpened tableau entering leaving) :
    checkedExchange options.sharpened tableau entering leaving =
      checkedExchange options tableau entering leaving := by
  obtain ⟨basic, canonical⟩ := reached.exists_canonical le_rfl canonical
  have pivot := exchanges.pivot_ne_zero le_rfl
  have other := exchanges.basic_ne_entering le_rfl canonical
  rw [(exchanges.canonical canonical).checkedExchange_eq pivot other,
    (exchanges.canonical canonical).checkedExchange_eq pivot other,
    undisturbed.exchange_eq reached exchanges]
  rfl

variable (tolerant : 0 ≤ options.tolerance)

include tolerant

theorem agrees : start.Agrees options.sharpened options where
  maxPivots := rfl
  nextMove state reached := by
    obtain ⟨clear, column⟩ := undisturbed _ reached
    exact (clear.nextMove_eq tolerant column).symm
  exchange state entering leaving reached move := by
    have clear := (undisturbed _ reached).tableau
    exact ⟨undisturbed.checkedExchange_eq canonical reached (.phase move),
      (clear.isDegenerateAt_eq tolerant leaving).symm⟩
  residual _ _ _ _ := Iff.rfl
  replacement row rest tableau reached artificial := by
    obtain ⟨_, entries⟩ := undisturbed _ reached
    apply (replacement_eq tolerant _).symm
    intro column structural
    have entry := entries row rfl artificial column structural
    rwa [show ((tableau.clearTarget row).rows row).entries = (tableau.rows row).entries from
      entries_clearTarget tableau row (.constraint row)]
  expel _ _ _ _ reached artificial chosen :=
    undisturbed.checkedExchange_eq canonical reached (.handOver artificial chosen)
  reads state reached := (undisturbed _ reached).tableau.readsAlike tolerant

theorem solveNamed_sharpened (names : List String) :
    start.solveNamed options.sharpened names = start.solveNamed options names :=
  (undisturbed.agrees canonical tolerant).solveNamed names

/-- The states of the solve with the tolerance are states of the exact one. -/
theorem reaches_sharpened {state : SolveState L ℚ} (reached : start.Reaches options state) :
    start.Reaches options.sharpened state := by
  have agrees := undisturbed.agrees canonical tolerant
  refine reached.invariant (fun state => start.Reaches options.sharpened state) .start ?_
  intro state next _ earlier step
  cases step with
  | @exchange state entering leaving move =>
      rw [← agrees.nextMove state earlier] at move
      have degenerate : state.tableau.isDegenerateAt options.tolerance leaving =
          state.tableau.isDegenerateAt 0 leaving :=
        (undisturbed _ earlier).tableau.isDegenerateAt_eq tolerant leaving
      have same : state.exchanged options.tolerance entering leaving =
          state.exchanged 0 entering leaving := by
        rw [PhaseState.exchanged, undisturbed.exchange_eq earlier (.phase move), degenerate]
        rfl
      rw [same]
      exact earlier.step (.exchange move)
  | leave optimal first small =>
      rw [← agrees.nextMove _ earlier] at optimal
      exact earlier.step (.leave optimal first small)
  | skip structural => exact earlier.step (.skip structural)
  | keep artificial missing =>
      rw [← agrees.replacement _ _ _ earlier artificial] at missing
      exact earlier.step (.keep artificial missing)
  | @expel row rest tableau entering artificial chosen =>
      rw [← agrees.replacement _ _ _ earlier artificial] at chosen
      rw [undisturbed.exchange_eq earlier (.handOver artificial chosen)]
      exact earlier.step (.expel artificial chosen)
  | enter tableau => exact earlier.step (.enter tableau)

/-- An exchange of the solve with the tolerance is one of the exact solve. -/
theorem exchanges_sharpened {state : SolveState L ℚ} {tableau : Tableau L ℚ}
    {entering : Fin L.width} {leaving : Fin L.constraints}
    (reached : start.Reaches options state)
    (exchanges : state.Exchanges options tableau entering leaving) :
    state.Exchanges options.sharpened tableau entering leaving := by
  have agrees := undisturbed.agrees canonical tolerant
  have earlier := undisturbed.reaches_sharpened canonical tolerant reached
  cases exchanges with
  | phase move =>
      rw [← agrees.nextMove _ earlier] at move
      exact .phase move
  | handOver artificial chosen =>
      rw [← agrees.replacement _ _ _ earlier artificial] at chosen
      exact .handOver artificial chosen

end Undisturbed

/-! ## The allowance -/

/-- Whether no residual at the end of the first phase is taken for zero that is not. -/
def ResidualClear (start : Tableau L ℚ) (options : Options ℚ) : Prop :=
  ∀ state : PhaseState L ℚ, start.Reaches options (.within state) → state.tableau.phase = .first →
    state.nextMove options.tolerance options.rule = .optimal →
      ClearOf options.feasibilityTolerance state.tableau.infeasibility

theorem ResidualClear.agrees (clear : start.ResidualClear options)
    (allowing : 0 ≤ options.feasibilityTolerance) :
    start.Agrees options { options with feasibilityTolerance := 0 } where
  maxPivots := rfl
  nextMove _ _ := rfl
  exchange _ _ _ _ _ := ⟨rfl, rfl⟩
  residual state reached first optimal := (clear state reached first optimal).lt_iff allowing
  replacement _ _ _ _ _ := rfl
  expel _ _ _ _ _ _ _ := rfl
  reads _ _ := ⟨rfl, rfl, rfl⟩

theorem ResidualClear.solveNamed_eq (clear : start.ResidualClear options)
    (allowing : 0 ≤ options.feasibilityTolerance) (names : List String) :
    start.solveNamed options names =
      start.solveNamed { options with feasibilityTolerance := 0 } names :=
  (clear.agrees allowing).solveNamed names

end Tableau

end TableauSimplex
