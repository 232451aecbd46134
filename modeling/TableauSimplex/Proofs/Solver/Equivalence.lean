import TableauSimplex.Proofs.Tableau.Equation
import TableauSimplex.Solver.Optimise

/-!
# An exchange as an equivalence of systems

An exchange without tolerance is a step between equivalent systems: it keeps the solutions of the
constraint rows, the gaps of the objective rows at them, and every column in which the leaving row
holds nothing, the target among them.  A tolerance changes nothing about that step except the cells
that it rounds: targets and cells of the objective rows closer to zero than the tolerance.
-/

set_option autoImplicit false

namespace TableauSimplex.Tableau

variable {L : Layout}

/-- Whether a column, of a variable or the target, holds a one in a constraint row and zeros in the
other constraint rows. -/
def UnitAmongConstraints (tableau : Tableau L ℚ) (column : CellIndex L.width)
    (row : Fin L.constraints) : Prop :=
  ∀ other, (tableau.rows other).cell column = if other = row then 1 else 0

/-- The cells that a tolerance rounds: the targets, and whatever stands in an objective row. -/
def Rounds (index : RowIndex L) (column : CellIndex L.width) : Prop :=
  column = .target ∨ ∀ row, index ≠ .constraint row

/-- Whether a tableau is another one with zeros in place of the cells that a tolerance rounds and
that are closer to zero than it. -/
structure RoundedFrom (rounded exact : Tableau L ℚ) (tolerance : ℚ) : Prop where
  sense_eq : rounded.sense = exact.sense
  phase_eq : rounded.phase = exact.phase
  basic_eq : ∀ index, rounded.basic index = exact.basic index
  small : ∀ index column, Rounds index column →
    |(exact.row index).cell column| < tolerance → (rounded.row index).cell column = 0
  kept : ∀ index column, ¬ (Rounds index column ∧ |(exact.row index).cell column| < tolerance) →
    (rounded.row index).cell column = (exact.row index).cell column

section Exchange

variable (tableau : Tableau L ℚ) {entering : Fin L.width} {leaving : Fin L.constraints}

/-! ## No tolerance -/

theorem cell_exchange_of_zero (pivot : (tableau.rows leaving).entries entering ≠ 0)
    {column : CellIndex L.width} (zero : (tableau.rows leaving).cell column = 0)
    (index : RowIndex L) :
    ((tableau.exchange entering leaving 0).row index).cell column =
      (tableau.row index).cell column := by
  rw [row_exchange_exact tableau entering leaving pivot]
  simp only
  split
  · rename_i isLeaving
    rw [isLeaving, Row.cell_divide, zero, zero_div]
    exact zero.symm
  · rw [Row.cell_eliminate, Row.cell_divide, zero, zero_div, mul_zero, sub_zero]

theorem basic_exchange (tolerance : ℚ) (index : RowIndex L) :
    (tableau.exchange entering leaving tolerance).basic index =
      if index = .constraint leaving then (entering.val : Int) else tableau.basic index := by
  cases index with
  | residual => rfl
  | objective => rfl
  | constraint row =>
      refine (basis_exchange tableau entering leaving tolerance row).trans (if_congr ?_ rfl rfl)
      rw [RowIndex.constraint.injEq, eq_comm]

/-! ## Any tolerance -/

theorem cell_exchange_of_rounds (entering : Fin L.width) (leaving : Fin L.constraints)
    (tolerance : ℚ) {index : RowIndex L} {column : CellIndex L.width}
    (rounds : Rounds index column) :
    ((tableau.exchange entering leaving tolerance).row index).cell column =
      Scalar.snap tolerance (((tableau.exchange entering leaving 0).row index).cell column) := by
  cases column with
  | target => exact target_exchange_snap ..
  | entry column =>
      have objective : ∀ row, index ≠ .constraint row := rounds.resolve_left nofun
      exact entries_exchange_snap tableau entering leaving tolerance objective column

theorem cell_exchange_of_not_rounds (entering : Fin L.width) (leaving : Fin L.constraints)
    (tolerance : ℚ) {index : RowIndex L} {column : CellIndex L.width}
    (exempt : ¬ Rounds index column) :
    ((tableau.exchange entering leaving tolerance).row index).cell column =
      ((tableau.exchange entering leaving 0).row index).cell column := by
  obtain ⟨variableColumn, constraint⟩ := not_or.mp exempt
  obtain ⟨row, isConstraint⟩ := not_forall.mp constraint
  cases column with
  | target => exact absurd rfl variableColumn
  | entry column =>
      obtain rfl := not_not.mp isConstraint
      exact entries_exchange_constraint ..

theorem roundedFrom_exchange (entering : Fin L.width) (leaving : Fin L.constraints)
    (tolerance : ℚ) :
    (tableau.exchange entering leaving tolerance).RoundedFrom
      (tableau.exchange entering leaving 0) tolerance where
  sense_eq := by rw [sense_exchange, sense_exchange]
  phase_eq := by rw [phase_exchange, phase_exchange]
  basic_eq index := by rw [basic_exchange, basic_exchange]
  small index column rounds small := by
    rw [cell_exchange_of_rounds tableau entering leaving tolerance rounds, Scalar.snap_of_lt small]
  kept index column exempt := by
    by_cases rounds : Rounds index column
    · rw [cell_exchange_of_rounds tableau entering leaving tolerance rounds]
      have large := not_lt.mp fun small => exempt ⟨rounds, small⟩
      exact Scalar.snap_eq_self_iff.mpr (.inr large)
    · exact cell_exchange_of_not_rounds tableau entering leaving tolerance rounds

/-! ## The step -/

theorem exchangeStep_of_ne (tolerance : ℚ) (replaced : tableau.basis leaving ≠ entering.val) :
    (tableau.exchangeStep entering leaving tolerance).outcome = .ok () ∧
      (tableau.exchangeStep entering leaving tolerance).tableau =
        tableau.exchange entering leaving tolerance := by
  rw [exchangeStep, if_neg replaced]
  exact ⟨rfl, rfl⟩

end Exchange

/-- An exchange on an entry that is not zero, whose column is not the one it replaces, succeeds with
every tolerance.  Without tolerance it keeps the solutions and, at a solution, the gap of every row;
its column becomes the unit column of the leaving row; the unit columns of other constraint rows
stay as they are, in the objective rows too; and of the basis only the column of the leaving row is
another.  With a tolerance the result is this one, rounded. -/
theorem exchangeStep_equivalence {tableau : Tableau L ℚ} {entering : Fin L.width}
    {leaving : Fin L.constraints} (pivot : (tableau.rows leaving).entries entering ≠ 0)
    (replaced : tableau.basis leaving ≠ entering.val) :
    (∀ tolerance, (tableau.exchangeStep entering leaving tolerance).outcome = .ok ()) ∧
    ∃ exact, (tableau.exchangeStep entering leaving 0).tableau = exact ∧
      (∀ vector, exact.Solves vector ↔ tableau.Solves vector) ∧
      (∀ vector, tableau.Solves vector → ∀ index,
        (exact.row index).gap vector = (tableau.row index).gap vector) ∧
      exact.UnitColumn entering leaving ∧
      (∀ row column, row ≠ leaving → tableau.UnitAmongConstraints column row → ∀ index,
        (exact.row index).cell column = (tableau.row index).cell column) ∧
      (∀ index, exact.basic index =
        if index = .constraint leaving then (entering.val : Int) else tableau.basic index) ∧
      exact.sense = tableau.sense ∧ exact.phase = tableau.phase ∧
      ∀ tolerance, 0 < tolerance →
        (tableau.exchangeStep entering leaving tolerance).tableau.RoundedFrom exact tolerance := by
  have steps (tolerance : ℚ) := exchangeStep_of_ne tableau tolerance replaced
  have equivalent := equivalent_exchange tableau pivot
  refine ⟨fun tolerance => (steps tolerance).1, _, (steps 0).2, equivalent.solves_iff,
    equivalent.gap_eq, ?_, ?_, basic_exchange tableau 0, sense_exchange .., phase_exchange .., ?_⟩
  · exact entries_exchange_entering tableau entering leaving 0
  · intro row column other unit index
    have zero : (tableau.rows leaving).cell column = 0 := by
      rw [unit leaving, if_neg other.symm]
    exact cell_exchange_of_zero tableau pivot zero index
  · intro tolerance _
    rw [(steps tolerance).2]
    exact roundedFrom_exchange tableau entering leaving tolerance

abbrev faintLayout : Layout where
  decisions := 2
  surplus := 2
  artificial := 0
  constraints := 2
  decisions_pos := by decide
  constraints_pos := by decide

def faintCells : Tableau faintLayout ℚ where
  sense := .maximise
  phase := .second
  residual := .zero
  objective := ⟨⟨#v[-1, 1 / 10 ^ 12, 0, 0]⟩, 0⟩
  rows := ⟨#v[⟨⟨#v[1, 0, 1, 0]⟩, 2⟩, ⟨⟨#v[1, 1 / 10 ^ 12, 0, 1]⟩, 2 + 1 / 10 ^ 12⟩]⟩
  basis := ⟨#v[2, 3]⟩

theorem exchangeStep_equivalence_faintCells :
    (faintCells.rows (0 : Fin 2)).entries (0 : Fin 4) ≠ 0 ∧
      faintCells.basis (0 : Fin 2) ≠ ((0 : Fin 4).val : Int) ∧
      ∃ exact rounded : Tableau faintLayout ℚ,
        (faintCells.exchangeStep (0 : Fin 4) (0 : Fin 2) 0).tableau = exact ∧
        (faintCells.exchangeStep (0 : Fin 4) (0 : Fin 2) (1 / 10 ^ 9)).tableau = rounded ∧
        exact.Solves ![1, 0, 1, 1 + 1 / 10 ^ 12] ∧
        exact.objective.gap ![1, 0, 1, 1 + 1 / 10 ^ 12] = -1 ∧
        (exact.rows (1 : Fin 2)).entries (3 : Fin 4) = 1 ∧
        (exact.rows (1 : Fin 2)).target = 1 / 10 ^ 12 ∧ (rounded.rows (1 : Fin 2)).target = 0 ∧
        exact.objective.entries (1 : Fin 4) = 1 / 10 ^ 12 ∧
        rounded.objective.entries (1 : Fin 4) = 0 ∧
        (rounded.rows (1 : Fin 2)).entries (1 : Fin 4) = 1 / 10 ^ 12 := by
  have pivot : (faintCells.rows (0 : Fin 2)).entries (0 : Fin 4) ≠ 0 := by decide +kernel
  have replaced : faintCells.basis (0 : Fin 2) ≠ ((0 : Fin 4).val : Int) := by decide
  obtain ⟨_, exact, isExact, solves, gaps, _, units, _, _, _, rounding⟩ :=
    exchangeStep_equivalence pivot replaced
  have before : faintCells.Solves ![1, 0, 1, 1 + 1 / 10 ^ 12] := by
    unfold Solves
    decide +kernel
  have cost : (faintCells.row .objective).gap ![1, 0, 1, 1 + 1 / 10 ^ 12] = -1 := by
    decide +kernel
  have unit : faintCells.UnitAmongConstraints (.entry (3 : Fin 4)) (1 : Fin 2) := by
    unfold UnitAmongConstraints
    decide +kernel
  have rounded := rounding (1 / 10 ^ 9) (by norm_num)
  have target : (exact.rows (1 : Fin 2)).target = 1 / 10 ^ 12 := by
    rw [← isExact]
    decide +kernel
  have entry : exact.objective.entries (1 : Fin 4) = 1 / 10 ^ 12 := by
    rw [← isExact]
    decide +kernel
  have faint : |(1 / 10 ^ 12 : ℚ)| < 1 / 10 ^ 9 := by
    rw [abs_of_pos (by norm_num)]
    norm_num
  have exempt : ¬ Rounds (.constraint (1 : Fin 2) : RowIndex faintLayout) (.entry (1 : Fin 4)) := by
    rintro (isTarget | objective)
    · cases isTarget
    · exact objective _ rfl
  refine ⟨pivot, replaced, exact, _, isExact, rfl, (solves _).mpr before,
    (gaps _ before .objective).trans cost, ?_, target, ?_, entry, ?_, ?_⟩
  · exact units (1 : Fin 2) (.entry (3 : Fin 4)) (by decide) unit (.constraint (1 : Fin 2))
  · have small := rounded.small (.constraint (1 : Fin 2)) .target (.inl rfl)
    exact small (lt_of_eq_of_lt (congrArg _ target) faint)
  · have small := rounded.small .objective (.entry (1 : Fin 4)) (.inr nofun)
    exact small (lt_of_eq_of_lt (congrArg _ entry) faint)
  · have kept := rounded.kept (.constraint (1 : Fin 2)) (.entry (1 : Fin 4))
      fun both => exempt both.1
    refine kept.trans ?_
    rw [← isExact]
    decide +kernel

end TableauSimplex.Tableau
