import TableauSimplex.Proofs.Solver.Step
import TableauSimplex.Proofs.Tableau.Meaning

/-!
# What the last tableau of a phase proves

The basic solution of an admissible tableau without artificial part is a feasible point.  A
driving row without negative entries bounds the objective of every feasible point, and a column
that improves without end gives feasible points of every value.
-/

set_option autoImplicit false

namespace TableauSimplex

theorem Row.form_nonneg {width : Nat} {row : Row width ℚ} {vector : Fin width → ℚ}
    (summands : ∀ column, vector column = 0 ∨ 0 ≤ row.entries column)
    (nonneg : ∀ column, 0 ≤ vector column) : 0 ≤ row.form vector := by
  apply Finset.sum_nonneg
  intro column _
  rcases summands column with zero | entry
  · rw [zero, mul_zero]
  · exact mul_nonneg entry (nonneg column)

namespace Tableau

variable {L : Layout} {tableau : Tableau L ℚ} {basic : Fin L.constraints → Fin L.width}
  {constraints : List (Constraint ℚ)} {objective : List ℚ} {sense : Sense}

theorem driving_of_first (first : tableau.phase = .first) :
    tableau.driving = tableau.residual := by
  rw [driving, drivingIndex, first]
  rfl

theorem driving_of_second (second : tableau.phase = .second) :
    tableau.driving = tableau.objective := by
  rw [driving, drivingIndex, second]
  rfl

theorem Admissible.basicSolution_nonneg (admissible : Admissible tableau basic)
    (column : Fin L.width) : 0 ≤ tableau.basicSolution basic column :=
  spread_nonneg _ admissible.targets_nonneg column

/-! ## Unbounded rays -/

theorem Canonical.driving_gap_travelled (canonical : Canonical tableau basic)
    (growing : Fin L.width) (distance : ℚ) :
    tableau.driving.gap (tableau.travelled basic growing distance) =
      -tableau.driving.target + distance * tableau.driving.entries growing := by
  unfold travelled
  rw [Row.gap_along, canonical.driving_gap_basicSolution, canonical.driving_form_ray]

/-- Along a column that improves and meets no positive entry, solutions without negative values
take the driving gap below every bound. -/
theorem Admissible.exists_gap_lt (admissible : Admissible tableau basic) {growing : Fin L.width}
    (improves : tableau.driving.entries growing < 0)
    (blocked : ∀ row, (tableau.rows row).entries growing ≤ 0) (bound : ℚ) :
    ∃ distance, (∀ column, 0 ≤ tableau.travelled basic growing distance column) ∧
      tableau.driving.gap (tableau.travelled basic growing distance) < bound := by
  -- The gap falls at the rate of the entry, so this distance takes it below the bound.
  let excess := |-tableau.driving.target - bound| + 1
  let distance := excess / -tableau.driving.entries growing
  have distanceNonneg : 0 ≤ distance :=
    div_nonneg (add_nonneg (abs_nonneg _) zero_le_one) (neg_pos.mpr improves).le
  refine ⟨distance, ?_, ?_⟩
  · intro column
    exact add_nonneg (admissible.basicSolution_nonneg column)
      (mul_nonneg distanceNonneg (Canonical.ray_nonneg blocked column))
  · have covered : distance * -tableau.driving.entries growing = excess :=
      div_mul_cancel₀ excess (neg_pos.mpr improves).ne'
    have below : -tableau.driving.target - bound < excess :=
      (le_abs_self _).trans_lt (lt_add_one _)
    rw [admissible.canonical.driving_gap_travelled]
    linarith

/-! ## The first phase -/

/-- Whether the first phase has something to end at: the residual of a solution without negative
values is not negative. -/
def ResidualNonneg (tableau : Tableau L ℚ) : Prop :=
  tableau.phase = .first → ∀ vector, tableau.Solves vector → (∀ column, 0 ≤ vector column) →
    0 ≤ tableau.residual.gap vector

theorem Represents.residualNonneg (represents : Represents tableau constraints objective sense) :
    tableau.ResidualNonneg := by
  intro _ vector solves nonneg
  rw [represents.residual_gap vector solves]
  exact Layout.artificialSum_nonneg nonneg

theorem ResidualNonneg.of_equivalent {other : Tableau L ℚ} (residual : tableau.ResidualNonneg)
    (equivalent : Equivalent tableau other) (phase : other.phase = tableau.phase) :
    other.ResidualNonneg := by
  intro first vector solves nonneg
  have original := (equivalent.solves_iff vector).mp solves
  rw [show other.residual.gap vector = tableau.residual.gap vector from
    equivalent.gap_eq vector original .residual]
  exact residual (phase.symm.trans first) vector original nonneg

/-- A column that improves in the first phase meets a positive entry. -/
theorem ResidualNonneg.not_blocked (residual : tableau.ResidualNonneg)
    (admissible : Admissible tableau basic) (first : tableau.phase = .first)
    {growing : Fin L.width} (improves : tableau.driving.entries growing < 0) :
    ¬ ∀ row, (tableau.rows row).entries growing ≤ 0 := by
  intro blocked
  obtain ⟨distance, nonneg, below⟩ := admissible.exists_gap_lt improves blocked 0
  rw [driving_of_first first] at below
  exact absurd (residual first _ (admissible.canonical.solves_travelled growing distance) nonneg)
    (not_le.mpr below)

section First

variable (represents : Represents tableau constraints objective sense)
  (admissible : Admissible tableau basic) (first : tableau.phase = .first)

include represents admissible first

theorem artificialSum_basicSolution :
    L.artificialSum (tableau.basicSolution basic) = tableau.infeasibility := by
  have gap := admissible.canonical.driving_gap_basicSolution
  rw [driving_of_first first,
    represents.residual_gap _ admissible.canonical.solves_basicSolution] at gap
  exact gap

theorem infeasibility_nonneg : 0 ≤ tableau.infeasibility := by
  rw [← artificialSum_basicSolution represents admissible first]
  exact Layout.artificialSum_nonneg admissible.basicSolution_nonneg

theorem genuine_of_infeasibility (zero : tableau.infeasibility = 0) :
    L.Genuine (tableau.basicSolution basic) :=
  Layout.genuine_of_artificialSum_eq_zero admissible.basicSolution_nonneg
    ((artificialSum_basicSolution represents admissible first).trans zero)

theorem infeasibility_eq_zero_iff
    (optimal : ∀ column ∈ tableau.candidates, 0 ≤ tableau.driving.entries column) :
    tableau.infeasibility = 0 ↔ ∃ point, Feasible constraints L.decisions point := by
  constructor
  · intro zero
    exact ⟨_, represents.sound _ admissible.canonical.solves_basicSolution
      (genuine_of_infeasibility represents admissible first zero)⟩
  · rintro ⟨point, feasible⟩
    obtain ⟨vector, solves, genuine, _⟩ := represents.complete point feasible
    have gap := represents.residual_gap vector solves
    rw [genuine.artificialSum_eq_zero, Row.gap, sub_eq_zero] at gap
    have formNonneg : 0 ≤ tableau.residual.form vector := by
      rw [← driving_of_first first]
      refine Row.form_nonneg (fun column => .inr (optimal column ?_)) genuine.nonneg
      exact mem_candidates.mpr fun second => by simp [first] at second
    refine le_antisymm ?_ (infeasibility_nonneg represents admissible first)
    rw [gap] at formNonneg
    exact neg_nonpos.mpr formNonneg

end First

/-! ## The second phase -/

theorem objectiveValue_eq_of_cost {value : ℚ} (sameSense : tableau.sense = sense)
    (cost : sense.cost value = -tableau.objective.target) : tableau.objectiveValue = value := by
  rw [← sense.cost_cost value, cost, objectiveValue, sameSense]
  cases sense with
  | minimise => rfl
  | maximise => exact (neg_neg _).symm

section Second

variable (represents : Represents tableau constraints objective sense)
  (admissible : Admissible tableau basic) (second : tableau.phase = .second)

include admissible second

theorem genuine_basicSolution : L.Genuine (tableau.basicSolution basic) where
  nonneg := admissible.basicSolution_nonneg
  artificial column isArtificial := by
    by_cases isBasic : ∃ row, basic row = column
    · obtain ⟨row, rfl⟩ := isBasic
      rw [basicSolution, spread_basic _ admissible.canonical.injective]
      exact (admissible.idle second row isArtificial).1
    · exact spread_of_ne _ fun row same => isBasic ⟨row, same⟩

theorem ray_artificial {growing : Fin L.width} (candidate : growing ∈ tableau.candidates)
    (nonbasic : ∀ row, basic row ≠ growing) {column : Fin L.width}
    (isArtificial : L.structural ≤ column.val) : tableau.ray basic growing column = 0 := by
  have structural := mem_candidates.mp candidate second
  by_cases isBasic : ∃ row, basic row = column
  · obtain ⟨row, rfl⟩ := isBasic
    rw [admissible.canonical.ray_basic nonbasic,
      (admissible.idle second row isArtificial).2 growing structural, neg_zero]
  · refine Canonical.ray_of_ne ?_ fun row same => isBasic ⟨row, same⟩
    rintro rfl
    omega

include represents

theorem feasible_basicSolution :
    Feasible constraints L.decisions (L.decisionPart (tableau.basicSolution basic)) :=
  represents.sound _ admissible.canonical.solves_basicSolution
    (genuine_basicSolution admissible second)

theorem cost_basicSolution :
    sense.cost (dot objective (L.decisionPart (tableau.basicSolution basic))) =
      -tableau.objective.target := by
  rw [← represents.objective_gap _ admissible.canonical.solves_basicSolution,
    ← driving_of_second second]
  exact admissible.canonical.driving_gap_basicSolution

theorem objectiveValue_eq_dot :
    tableau.objectiveValue = dot objective (L.decisionPart (tableau.basicSolution basic)) :=
  objectiveValue_eq_of_cost represents.sense_eq (cost_basicSolution represents admissible second)

theorem not_better_of_optimal
    (optimal : ∀ column ∈ tableau.candidates, 0 ≤ tableau.driving.entries column)
    {point : List ℚ} (feasible : Feasible constraints L.decisions point) :
    ¬ sense.Better (dot objective point)
      (dot objective (L.decisionPart (tableau.basicSolution basic))) := by
  obtain ⟨vector, solves, genuine, rfl⟩ := represents.complete point feasible
  rw [← sense.cost_lt_cost_iff, not_lt, cost_basicSolution represents admissible second,
    ← represents.objective_gap vector solves, Row.gap]
  have formNonneg : 0 ≤ tableau.objective.form vector := by
    rw [← driving_of_second second]
    apply Row.form_nonneg _ genuine.nonneg
    intro column
    by_cases structural : column.val < L.structural
    · exact .inr (optimal column (mem_candidates.mpr fun _ => structural))
    · exact .inl (genuine.artificial column (not_lt.mp structural))
  linarith

/-- Along a candidate that improves and meets no positive entry every value is surpassed. -/
theorem exists_better_of_unbounded {growing : Fin L.width}
    (candidate : growing ∈ tableau.candidates) (improves : tableau.driving.entries growing < 0)
    (blocked : ∀ row, (tableau.rows row).entries growing ≤ 0) (bound : ℚ) :
    ∃ point, Feasible constraints L.decisions point ∧
      sense.Better (dot objective point) bound := by
  have canonical := admissible.canonical
  have nonbasic := canonical.ne_basic_of_driving_ne_zero improves.ne
  obtain ⟨distance, nonneg, below⟩ := admissible.exists_gap_lt improves blocked (sense.cost bound)
  have solves := canonical.solves_travelled growing distance
  have genuine : L.Genuine (tableau.travelled basic growing distance) := by
    refine ⟨nonneg, ?_⟩
    intro column isArtificial
    rw [travelled, (genuine_basicSolution admissible second).artificial column isArtificial,
      ray_artificial admissible second candidate nonbasic isArtificial, mul_zero, add_zero]
  refine ⟨_, represents.sound _ solves genuine, ?_⟩
  rwa [driving_of_second second, represents.objective_gap _ solves, sense.cost_lt_cost_iff] at below

end Second

end Tableau

end TableauSimplex
