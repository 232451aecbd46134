import TableauSimplex.Proofs.Solver.Allowance
import TableauSimplex.Proofs.Solver.Clearance
import TableauSimplex.Proofs.Tableau.Determinant

/-!
# Solves over whole numbers

If the hand-over lets no residual through, every tableau of a solve without tolerance is equivalent
to the first one.  So if the first tableau holds whole numbers with bounded determinants, a
tolerance that is small against these does not disturb the solve.  The first tableau of a program
in whole numbers is of this kind.
-/

set_option autoImplicit false

namespace TableauSimplex

open Scalar (ClearOf)

variable {L : Layout} {options : Options ℚ}

namespace Tableau

variable {start tableau : Tableau L ℚ} {basic : Fin L.constraints → Fin L.width}
  {constraints : List (Constraint ℚ)} {objective : List ℚ} {sense : Sense}

/-! ## Solves that let no residual through -/

/-- Whether a state still has the solutions of the first tableau.  Between the phases no artificial
variable is left above zero. -/
def Intact (start : Tableau L ℚ) : SolveState L ℚ → Prop
  | .within state => start.Equivalent state.tableau
  | .between _ tableau =>
      start.Equivalent tableau ∧
        ∃ basic, tableau.Canonical basic ∧ tableau.ArtificialsVanish basic

theorem Intact.step (represents : Represents start constraints objective sense)
    (noTolerance : options.tolerance = 0) (allowing : 0 ≤ options.feasibilityTolerance)
    (residualClear : start.ResidualClear options) {state next : SolveState L ℚ}
    (reached : start.Reaches options state) (orderly : start.Orderly state)
    (intact : start.Intact state) (step : state.Step options next) : start.Intact next := by
  cases step with
  | exchange move =>
      rw [noTolerance] at move ⊢
      have chosen := chosen_of_nextMove move
      exact intact.trans (equivalent_exchange _ chosen.positive.ne')
  | @leave state optimal first small =>
      obtain ⟨⟨basic, admissible⟩, meaning⟩ := orderly
      have represented := represents.of_equivalent intact (meaning first).2
      have clear := residualClear state reached first optimal
      have zero : state.tableau.infeasibility = 0 :=
        le_antisymm (not_lt.mp (mt (clear.lt_iff allowing).mpr small))
          (infeasibility_nonneg represented admissible first)
      have vanish := artificialsVanish_of_infeasibility represented admissible first zero
      have noTarget : state.tableau.residual.target = 0 := neg_eq_zero.mp zero
      rw [clearResidual_eq_self noTarget]
      exact ⟨intact, basic, admissible.canonical, vanish⟩
  | skip _ => exact intact
  | keep artificial _ =>
      obtain ⟨equivalent, basic, canonical, vanish⟩ := intact
      rw [vanish.clearTarget_eq canonical artificial]
      exact ⟨equivalent, basic, canonical, vanish⟩
  | @expel row _ tableau _ artificial chosen =>
      obtain ⟨equivalent, basic, canonical, vanish⟩ := intact
      have zero := vanish row ((isArtificialRow_iff canonical row).mp artificial)
      rw [vanish.clearTarget_eq canonical artificial, noTolerance] at chosen ⊢
      have pivot : (tableau.rows row).entries _ ≠ 0 := abs_pos.mp (replacement_spec chosen).2
      exact ⟨equivalent.trans (equivalent_exchange _ pivot), _, canonical.exchange pivot 0,
        vanish.exchange zero pivot⟩
  | enter tableau => exact intact.1.trans (equivalent_leaveFirstPhase tableau)

theorem Reaches.equivalent {state : SolveState L ℚ} (reached : start.Reaches options state)
    (represents : Represents start constraints objective sense)
    (admissible : ∃ basic, start.Admissible basic) (noTolerance : options.tolerance = 0)
    (allowing : 0 ≤ options.feasibilityTolerance) (residualClear : start.ResidualClear options) :
    start.Equivalent state.tableau := by
  have intact : start.Intact state :=
    reached.invariant start.Intact (.refl start) fun _ _ earlier intact step =>
      intact.step represents noTolerance allowing residualClear earlier
        (earlier.orderly noTolerance admissible) step
  cases state with
  | within state => exact intact
  | between pending tableau => exact intact.1

/-! ## Whole numbers are not disturbed -/

section WholeNumbers

variable {bound : ℚ} (whole : start.WholeWithin bound)
  (represents : Represents start constraints objective sense)
  (admissible : ∃ basic, start.Admissible basic)

include whole admissible

theorem residualClear_of_whole (noTolerance : options.tolerance = 0)
    (smallAllowance : options.feasibilityTolerance * bound < 1) :
    start.ResidualClear options := by
  intro state reached first _
  obtain ⟨⟨basic, stateAdmissible⟩, meaning⟩ := reached.orderly noTolerance admissible
  obtain ⟨startBasic, startAdmissible⟩ := admissible
  exact (whole.clearOf_cell stateAdmissible.canonical (meaning first).1 startAdmissible.canonical
    smallAllowance .residual .target).neg

include represents

theorem undisturbed_of_whole (tolerant : 0 ≤ options.tolerance)
    (small : options.tolerance * bound ^ 2 < 1) (allowing : 0 ≤ options.feasibilityTolerance)
    (smallAllowance : options.feasibilityTolerance * bound < 1) :
    start.Undisturbed options := by
  have residualClear : start.ResidualClear options.sharpened :=
    residualClear_of_whole whole admissible rfl smallAllowance
  intro state reached
  have equivalent := reached.equivalent represents admissible rfl allowing residualClear
  obtain ⟨startBasic, startAdmissible⟩ := admissible
  have startCanonical := startAdmissible.canonical
  obtain ⟨basic, canonical⟩ := reached.exists_canonical le_rfl ⟨startBasic, startCanonical⟩
  have large := whole.one_le_bound canonical equivalent startCanonical
  have smaller : options.tolerance * bound < 1 :=
    (mul_le_mul_of_nonneg_left (le_self_pow₀ large two_ne_zero) tolerant).trans_lt small
  have clear := whole.clear canonical equivalent startCanonical smaller
  cases state with
  | within state =>
      exact ⟨clear, fun entering _ =>
        whole.clearColumn canonical equivalent startCanonical tolerant small entering⟩
  | between pending tableau =>
      exact ⟨clear, fun row _ _ column _ =>
        whole.clearOf_cell canonical equivalent startCanonical smaller (.constraint row)
          (.entry column)⟩

end WholeNumbers

end Tableau

end TableauSimplex
