import TableauSimplex.Proofs.Tableau.Choice
import TableauSimplex.Proofs.Tableau.Equation
import TableauSimplex.Solver.Optimise

/-!
# One exchange of a phase

An admissible tableau is in canonical form, has no negative target and, in its second phase, holds
its artificial basic columns at zero in rows that no structural column meets.  Without tolerance
the exchange that a phase chooses keeps a tableau admissible.  It moves the target of the driving
row up by the decrease of the entering entry times the ratio of the leaving row.
-/

set_option autoImplicit false

namespace TableauSimplex.Tableau

variable {L : Layout}

/-! ## The choice of a phase -/

/-- What holds of an exchange that a phase chooses without tolerance. -/
structure Chosen (tableau : Tableau L ℚ) (rule : ExchangeRule) (entering : Fin L.width)
    (leaving : Fin L.constraints) : Prop where
  candidate : entering ∈ tableau.candidates
  improves : tableau.driving.entries entering < 0
  positive : 0 < (tableau.rows leaving).entries entering
  least : ∀ row, 0 < (tableau.rows row).entries entering →
    tableau.ratio (.entry entering) leaving ≤ tableau.ratio (.entry entering) row
  firstEntering : rule = .bland → ∀ column ∈ tableau.candidates, column < entering →
    0 ≤ tableau.driving.entries column
  firstLeaving : rule = .bland → ∀ row, 0 < (tableau.rows row).entries entering →
    tableau.ratio (.entry entering) row = tableau.ratio (.entry entering) leaving →
      tableau.basis leaving ≤ tableau.basis row

section Move

variable {tableau : Tableau L ℚ} {rule : ExchangeRule}

theorem choices_of_exchange {tolerance : ℚ} {entering : Fin L.width} {leaving : Fin L.constraints}
    (move : tableau.nextMove tolerance rule = .exchange entering leaving) :
    tableau.entering? tolerance rule = some entering ∧
      tableau.leaving? (.entry entering) tolerance rule = some leaving := by
  unfold nextMove at move
  cases enters : tableau.entering? tolerance rule with
  | none => simp [enters] at move
  | some column =>
      cases leaves : tableau.leaving? (.entry column) tolerance rule with
      | none => simp [enters, leaves] at move
      | some row =>
          obtain ⟨rfl, rfl⟩ : column = entering ∧ row = leaving := by
            simpa [enters, leaves] using move
          exact ⟨rfl, leaves⟩

/-- A column that is reported unbounded enters, and finds no row to leave. -/
theorem choices_of_unbounded {tolerance : ℚ} {column : Fin L.width}
    (move : tableau.nextMove tolerance rule = .unbounded column) :
    tableau.entering? tolerance rule = some column ∧
      tableau.leaving? (.entry column) tolerance rule = none := by
  unfold nextMove at move
  cases enters : tableau.entering? tolerance rule with
  | none => simp [enters] at move
  | some entering =>
      cases leaves : tableau.leaving? (.entry entering) tolerance rule with
      | some row => simp [enters, leaves] at move
      | none =>
          obtain rfl : entering = column := by simpa [enters, leaves] using move
          exact ⟨rfl, leaves⟩

theorem chosen_of_nextMove {entering : Fin L.width} {leaving : Fin L.constraints}
    (move : tableau.nextMove 0 rule = .exchange entering leaving) :
    tableau.Chosen rule entering leaving := by
  obtain ⟨enters, leaves⟩ := choices_of_exchange move
  obtain ⟨candidate, improves⟩ := entering_spec enters
  have best := tableau.bestAmong_leaving entering rule
  rw [leaves] at best
  have all (other : Fin L.constraints) : other ∈ L.constraintRows := List.mem_finRange other
  refine ⟨candidate, by simpa using improves, best.1, ?_, ?_, ?_⟩
  · exact fun other positive => (best.2 other (all other) positive).1
  · rintro rfl earlier earlierCandidate before
    simpa using not_improving_before_entering enters earlierCandidate before
  · exact fun isBland other positive => (best.2 other (all other) positive).2 isBland

/-- Under the steepest rule no candidate improves more than the one that enters. -/
theorem steepest_of_nextMove {tolerance : ℚ} {entering : Fin L.width}
    {leaving : Fin L.constraints}
    (move : tableau.nextMove tolerance .dantzig = .exchange entering leaving) :
    ∀ column ∈ tableau.candidates,
      tableau.driving.entries entering ≤ tableau.driving.entries column := by
  obtain ⟨enters, _⟩ := choices_of_exchange move
  obtain ⟨steepest, _⟩ := Option.filter_eq_some_iff.mp enters
  exact (steepest_least steepest).2

/-- With any tolerance the entering column improves by more than it, and the entry on which the
exchange is made exceeds it. -/
theorem exceeds_of_nextMove {tolerance : ℚ} {entering : Fin L.width} {leaving : Fin L.constraints}
    (move : tableau.nextMove tolerance rule = .exchange entering leaving) :
    tableau.driving.entries entering < -tolerance ∧
      tolerance < (tableau.rows leaving).entries entering := by
  obtain ⟨enters, leaves⟩ := choices_of_exchange move
  exact ⟨(entering_spec enters).2, exceeds_of_leaving leaves⟩

/-- With any tolerance a column without a leaving row improves by more than it and has no entry that
exceeds it. -/
theorem blocked_of_nextMove {tolerance : ℚ} {column : Fin L.width}
    (move : tableau.nextMove tolerance rule = .unbounded column) :
    tableau.driving.entries column < -tolerance ∧
      ∀ row, (tableau.rows row).entries column ≤ tolerance := by
  obtain ⟨enters, blocked⟩ := choices_of_unbounded move
  exact ⟨(entering_spec enters).2, not_exceeds_of_leaving_none blocked⟩

theorem optimal_of_nextMove (move : tableau.nextMove 0 rule = .optimal) {column : Fin L.width}
    (candidate : column ∈ tableau.candidates) : 0 ≤ tableau.driving.entries column := by
  unfold nextMove at move
  cases enters : tableau.entering? 0 rule with
  | none => simpa using not_improving_of_entering_none enters candidate
  | some entering =>
      cases leaves : tableau.leaving? (.entry entering) 0 rule <;> simp [enters, leaves] at move

/-- A column that is reported unbounded improves, and nothing stops it from growing. -/
theorem unbounded_of_nextMove {column : Fin L.width}
    (move : tableau.nextMove 0 rule = .unbounded column) :
    column ∈ tableau.candidates ∧ tableau.driving.entries column < 0 ∧
      ∀ row, (tableau.rows row).entries column ≤ 0 := by
  obtain ⟨enters, blocked⟩ := choices_of_unbounded move
  obtain ⟨candidate, improves⟩ := entering_spec enters
  exact ⟨candidate, by simpa using improves, not_exceeds_of_leaving_none blocked⟩

end Move

/-! ## Rows after an exchange -/

section Rows

variable {tableau : Tableau L ℚ} {entering : Fin L.width} {leaving : Fin L.constraints}

theorem target_exchange_leaving (pivot : (tableau.rows leaving).entries entering ≠ 0) :
    ((tableau.exchange entering leaving 0).rows leaving).target =
      tableau.ratio (.entry entering) leaving := by
  have row := row_exchange_exact tableau entering leaving pivot (.constraint leaving)
  simp only [if_true] at row
  exact congrArg Row.target row

theorem rows_exchange_of_ne (pivot : (tableau.rows leaving).entries entering ≠ 0)
    {row : Fin L.constraints} (other : row ≠ leaving) :
    (tableau.exchange entering leaving 0).rows row =
      (tableau.rows row).eliminate ((tableau.rows row).entries entering)
        ((tableau.rows leaving).divide ((tableau.rows leaving).entries entering)) := by
  have equation := row_exchange_exact tableau entering leaving pivot (.constraint row)
  simp only [RowIndex.constraint.injEq, if_neg other] at equation
  exact equation

theorem target_exchange_of_ne (pivot : (tableau.rows leaving).entries entering ≠ 0)
    {row : Fin L.constraints} (other : row ≠ leaving) :
    ((tableau.exchange entering leaving 0).rows row).target =
      (tableau.rows row).target -
        (tableau.rows row).entries entering * tableau.ratio (.entry entering) leaving := by
  rw [rows_exchange_of_ne pivot other]
  rfl

theorem rows_exchange_of_zero (pivot : (tableau.rows leaving).entries entering ≠ 0)
    {row : Fin L.constraints} (other : row ≠ leaving)
    (zero : (tableau.rows row).entries entering = 0) :
    (tableau.exchange entering leaving 0).rows row = tableau.rows row := by
  rw [rows_exchange_of_ne pivot other, zero, Row.eliminate_zero]

theorem target_exchange_of_zero (zero : (tableau.rows leaving).target = 0)
    (pivot : (tableau.rows leaving).entries entering ≠ 0) (row : Fin L.constraints) :
    ((tableau.exchange entering leaving 0).rows row).target = (tableau.rows row).target := by
  have ratio : tableau.ratio (.entry entering) leaving = 0 := by rw [ratio_entry, zero, zero_div]
  by_cases isLeaving : row = leaving
  · rw [isLeaving, target_exchange_leaving pivot, ratio, zero]
  · rw [target_exchange_of_ne pivot isLeaving, ratio, mul_zero, sub_zero]

theorem drivingIndex_eq {other : Tableau L ℚ} (phase : other.phase = tableau.phase) :
    other.drivingIndex = tableau.drivingIndex := by
  rw [drivingIndex, drivingIndex, phase]

theorem objective_target_exchange (index : RowIndex L)
    (objective : ∀ row, index ≠ .constraint row)
    (pivot : (tableau.rows leaving).entries entering ≠ 0) :
    ((tableau.exchange entering leaving 0).row index).target =
      (tableau.row index).target -
        (tableau.row index).entries entering * tableau.ratio (.entry entering) leaving := by
  have equation := row_exchange_exact tableau entering leaving pivot index
  simp only [if_neg (objective leaving)] at equation
  exact congrArg Row.target equation

theorem driving_target_exchange (pivot : (tableau.rows leaving).entries entering ≠ 0) :
    (tableau.exchange entering leaving 0).driving.target =
      tableau.driving.target -
        tableau.driving.entries entering * tableau.ratio (.entry entering) leaving :=
  objective_target_exchange _ drivingIndex_ne_constraint pivot

end Rows

/-! ## Admissible tableaux -/

/-- Whether a row says nothing about the decision and surplus variables. -/
def Idle (tableau : Tableau L ℚ) (row : Fin L.constraints) : Prop :=
  (tableau.rows row).target = 0 ∧
    ∀ column : Fin L.width, column.val < L.structural → (tableau.rows row).entries column = 0

theorem Idle.of_rows_eq {tableau other : Tableau L ℚ} {row : Fin L.constraints}
    (idle : tableau.Idle row) (kept : other.rows row = tableau.rows row) : other.Idle row := by
  rw [Idle, kept]
  exact idle

structure Admissible (tableau : Tableau L ℚ) (basic : Fin L.constraints → Fin L.width) :
    Prop where
  canonical : tableau.Canonical basic
  targets_nonneg : ∀ row, 0 ≤ (tableau.rows row).target
  idle : tableau.phase = .second → ∀ row, L.structural ≤ (basic row).val → tableau.Idle row

namespace Admissible

variable {tableau : Tableau L ℚ} {basic : Fin L.constraints → Fin L.width}
  {rule : ExchangeRule} {entering : Fin L.width} {leaving : Fin L.constraints}

theorem ratio_nonneg (admissible : Admissible tableau basic)
    (chosen : tableau.Chosen rule entering leaving) :
    0 ≤ tableau.ratio (.entry entering) leaving :=
  div_nonneg (admissible.targets_nonneg leaving) chosen.positive.le

theorem target_exchange_nonneg (admissible : Admissible tableau basic)
    (chosen : tableau.Chosen rule entering leaving) (row : Fin L.constraints) :
    0 ≤ ((tableau.exchange entering leaving 0).rows row).target := by
  have ratioNonneg := admissible.ratio_nonneg chosen
  by_cases isLeaving : row = leaving
  · subst isLeaving
    rw [target_exchange_leaving chosen.positive.ne']
    exact ratioNonneg
  · rw [target_exchange_of_ne chosen.positive.ne' isLeaving]
    have targetNonneg := admissible.targets_nonneg row
    rcases le_or_gt ((tableau.rows row).entries entering) 0 with nonpositive | positive
    · have product := mul_nonpos_of_nonpos_of_nonneg nonpositive ratioNonneg
      linarith
    · have bound := chosen.least row positive
      rw [ratio_entry row, le_div_iff₀ positive, mul_comm] at bound
      linarith

theorem exchange (admissible : Admissible tableau basic)
    (chosen : tableau.Chosen rule entering leaving) :
    Admissible (tableau.exchange entering leaving 0) (Function.update basic leaving entering) where
  canonical := admissible.canonical.exchange chosen.positive.ne' 0
  targets_nonneg := admissible.target_exchange_nonneg chosen
  idle := by
    intro second row artificial
    have structural := mem_candidates.mp chosen.candidate second
    have other : row ≠ leaving := by
      rintro rfl
      rw [Function.update_self] at artificial
      omega
    rw [Function.update_of_ne other] at artificial
    have idle := admissible.idle second row artificial
    exact idle.of_rows_eq
      (rows_exchange_of_zero chosen.positive.ne' other (idle.2 entering structural))

theorem ne_entering (admissible : Admissible tableau basic)
    (chosen : tableau.Chosen rule entering leaving) (row : Fin L.constraints) :
    basic row ≠ entering :=
  admissible.canonical.ne_basic_of_driving_ne_zero chosen.improves.ne row

theorem driving_target_le_exchange (admissible : Admissible tableau basic)
    (chosen : tableau.Chosen rule entering leaving) :
    tableau.driving.target ≤ (tableau.exchange entering leaving 0).driving.target := by
  rw [driving_target_exchange chosen.positive.ne']
  have product := mul_nonpos_of_nonpos_of_nonneg chosen.improves.le (admissible.ratio_nonneg chosen)
  linarith

/-- The objective stays where it is exactly if the leaving row has a zero target. -/
theorem driving_target_exchange_eq_iff (chosen : tableau.Chosen rule entering leaving) :
    (tableau.exchange entering leaving 0).driving.target = tableau.driving.target ↔
      (tableau.rows leaving).target = 0 := by
  rw [driving_target_exchange chosen.positive.ne', sub_eq_self, mul_eq_zero, ratio_entry,
    div_eq_zero_iff]
  simp [chosen.improves.ne, chosen.positive.ne']

end Admissible

end TableauSimplex.Tableau
