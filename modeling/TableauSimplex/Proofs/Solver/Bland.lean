import Mathlib.Data.Fintype.Pigeonhole
import Mathlib.Data.Fintype.Pi
import Mathlib.Data.Finset.Max
import Mathlib.Order.Interval.Finset.Nat
import TableauSimplex.Proofs.Solver.Phase

/-!
# Bland's rule

A phase without tolerance cannot go on for ever.  There are finitely many bases, so one of them
would come back again and again.  The driving target is determined by the basis and never falls,
so from there on it would stand still, the streak would grow, and Bland's rule would stay in
force.  Between two visits of that basis every column that enters also leaves.  Take the greatest
such column: where it leaves, Bland's rule would have let a smaller one go.
-/

set_option autoImplicit false

namespace TableauSimplex

namespace Tableau

variable {L : Layout} {tableau : Tableau L ℚ} {basic : Fin L.constraints → Fin L.width}

theorem Equivalent.driving_target_eq {other : Tableau L ℚ} (equivalent : Equivalent tableau other)
    (phase : other.phase = tableau.phase) (canonical : Canonical tableau basic)
    (otherCanonical : Canonical other basic) : other.driving.target = tableau.driving.target := by
  have index := drivingIndex_eq phase
  have solves := (equivalent.solves_iff _).mp otherCanonical.solves_basicSolution
  have gaps := equivalent.gap_eq _ solves tableau.drivingIndex
  rw [← index] at gaps
  have otherGap := otherCanonical.driving_gap_basicSolution
  have gap : tableau.driving.gap (other.basicSolution basic) = -tableau.driving.target := by
    rw [Row.gap, basicSolution, canonical.form_spread_driving, zero_sub]
  rw [driving, ← index] at gap
  rw [driving] at otherGap
  rw [driving, driving, ← index]
  linarith

/-- An exchange at a row with a zero target does not move the basic solution. -/
theorem basicSolution_exchange {entering : Fin L.width} {leaving : Fin L.constraints}
    (pivot : (tableau.rows leaving).entries entering ≠ 0)
    (zero : (tableau.rows leaving).target = 0) :
    (tableau.exchange entering leaving 0).basicSolution (Function.update basic leaving entering) =
      tableau.basicSolution basic := by
  funext column
  simp only [basicSolution, spread, target_exchange_of_zero zero pivot]
  apply Finset.sum_congr rfl
  intro row _
  by_cases isLeaving : row = leaving
  · rw [isLeaving, zero, ite_self, ite_self]
  · rw [Function.update_of_ne isLeaving]

end Tableau

variable {L : Layout}

/-- A run of a phase that never ends. -/
structure EndlessRun (L : Layout) (rule : ExchangeRule) where
  state : ℕ → PhaseState L ℚ
  basic : ℕ → Fin L.constraints → Fin L.width
  entering : ℕ → Fin L.width
  leaving : ℕ → Fin L.constraints
  admissible : ∀ time, (state time).tableau.Admissible (basic time)
  move : ∀ time, (state time).nextMove 0 rule = .exchange (entering time) (leaving time)
  next : ∀ time, state (time + 1) = (state time).exchanged 0 (entering time) (leaving time)

namespace EndlessRun

variable {rule : ExchangeRule} (run : EndlessRun L rule)

def tableau (time : ℕ) : Tableau L ℚ :=
  (run.state time).tableau

def ruleAt (time : ℕ) : ExchangeRule :=
  Tableau.ruleAfter rule (run.state time).streak

theorem chosen (time : ℕ) :
    (run.tableau time).Chosen (run.ruleAt time) (run.entering time) (run.leaving time) :=
  Tableau.chosen_of_nextMove (run.move time)

theorem canonical (time : ℕ) : (run.tableau time).Canonical (run.basic time) :=
  (run.admissible time).canonical

theorem tableau_next (time : ℕ) :
    run.tableau (time + 1) =
      (run.tableau time).exchange (run.entering time) (run.leaving time) 0 := by
  rw [tableau, run.next]
  rfl

theorem basic_next (time : ℕ) :
    run.basic (time + 1) =
      Function.update (run.basic time) (run.leaving time) (run.entering time) := by
  have exchanged := (run.canonical time).exchange (run.chosen time).positive.ne' 0
  rw [← tableau_next] at exchanged
  exact (run.canonical (time + 1)).basic_unique exchanged

theorem phase_eq_start (time : ℕ) : (run.tableau time).phase = (run.tableau 0).phase := by
  induction time with
  | zero => rfl
  | succ time induction => rw [tableau_next, Tableau.phase_exchange, induction]

theorem phase_eq (time later : ℕ) : (run.tableau later).phase = (run.tableau time).phase :=
  (run.phase_eq_start later).trans (run.phase_eq_start time).symm

theorem equivalent_start (time : ℕ) : (run.tableau 0).Equivalent (run.tableau time) := by
  induction time with
  | zero => exact .refl _
  | succ time induction =>
      rw [tableau_next]
      exact induction.trans (Tableau.equivalent_exchange _ (run.chosen time).positive.ne')

theorem equivalent (time later : ℕ) : (run.tableau time).Equivalent (run.tableau later) :=
  (run.equivalent_start time).symm.trans (run.equivalent_start later)

theorem candidate (time later : ℕ) : run.entering time ∈ (run.tableau later).candidates := by
  apply Tableau.mem_candidates.mpr
  intro second
  rw [run.phase_eq time later] at second
  exact Tableau.mem_candidates.mp (run.chosen time).candidate second

/-! ## The objective stands still -/

def Stalls (time : ℕ) : Prop :=
  ((run.tableau time).rows (run.leaving time)).target = 0

theorem monotone_target : Monotone fun time => (run.tableau time).driving.target := by
  apply monotone_nat_of_le_succ
  intro time
  rw [tableau_next]
  exact (run.admissible time).driving_target_le_exchange (run.chosen time)

theorem exists_recurrent : ∃ start, ∀ time, ∃ later, time < later ∧
    run.basic later = run.basic start := by
  obtain ⟨choice, infinite⟩ := Finite.exists_infinite_fiber run.basic
  have visits : (Set.preimage run.basic {choice}).Infinite := Set.infinite_coe_iff.mp infinite
  obtain ⟨start, startVisits⟩ := visits.nonempty
  refine ⟨start, ?_⟩
  intro time
  obtain ⟨later, laterVisits, after⟩ := visits.exists_gt time
  exact ⟨later, after, laterVisits.trans startVisits.symm⟩

theorem stalls_of_recurrent {start : ℕ}
    (recurs : ∀ time, ∃ later, time < later ∧ run.basic later = run.basic start) {time : ℕ}
    (after : start ≤ time) : run.Stalls time := by
  obtain ⟨later, beforeLater, same⟩ := recurs time
  have laterCanonical := run.canonical later
  rw [same] at laterCanonical
  have returned := (run.equivalent start later).driving_target_eq (run.phase_eq start later)
    (run.canonical start) laterCanonical
  have risen := run.monotone_target after
  have rising := run.monotone_target (Nat.le_succ time)
  have rises := run.monotone_target (Nat.succ_le_of_lt beforeLater)
  simp only at risen rising rises
  have still : (run.tableau (time + 1)).driving.target = (run.tableau time).driving.target := by
    linarith
  rw [tableau_next] at still
  exact (Tableau.Admissible.driving_target_exchange_eq_iff (run.chosen time)).mp still

theorem le_streak {start : ℕ} (stalls : ∀ time, start ≤ time → run.Stalls time) (count : ℕ) :
    count ≤ (run.state (start + count)).streak := by
  induction count with
  | zero => exact Nat.zero_le _
  | succ count induction =>
      have zero := stalls (start + count) (Nat.le_add_right start count)
      have degenerate : (run.state (start + count)).tableau.isDegenerateAt 0
          (run.leaving (start + count)) = true :=
        decide_eq_true ((Scalar.magnitude_le_zero_iff _).mpr zero)
      rw [← Nat.add_assoc, run.next, PhaseState.exchanged, if_pos degenerate]
      exact Nat.succ_le_succ induction

/-! ## The basis cycles -/

/-- A stretch between two visits of a basis, from the beginning of which on the objective stands
still and Bland's rule is in force. -/
structure Cycle (start finish : ℕ) : Prop where
  lt : start < finish
  closes : run.basic finish = run.basic start
  stalls : ∀ time, start ≤ time → run.Stalls time
  bland : ∀ time, start ≤ time → run.ruleAt time = .bland

theorem exists_cycle : ∃ start finish, run.Cycle start finish := by
  obtain ⟨first, recurs⟩ := run.exists_recurrent
  have stalls (time : ℕ) (after : first ≤ time) := run.stalls_of_recurrent recurs after
  obtain ⟨start, late, startBasic⟩ := recurs (first + Tableau.degenerateLimit)
  obtain ⟨finish, lt, finishBasic⟩ := recurs start
  refine ⟨start, finish, lt, finishBasic.trans startBasic.symm,
    fun time after => stalls time (by omega), ?_⟩
  intro time after
  obtain ⟨count, rfl⟩ := Nat.exists_eq_add_of_le (show first ≤ time by omega)
  have long := run.le_streak stalls count
  exact if_pos (by omega)

def InBasis (time : ℕ) (column : Fin L.width) : Prop :=
  ∃ row, run.basic time row = column

theorem not_inBasis_entering (time : ℕ) : ¬ run.InBasis time (run.entering time) :=
  fun ⟨row, same⟩ => (run.admissible time).ne_entering (run.chosen time) row same

theorem inBasis_next_entering (time : ℕ) : run.InBasis (time + 1) (run.entering time) :=
  ⟨run.leaving time, by rw [basic_next, Function.update_self]⟩

theorem inBasis_of_not_leaving {time later : ℕ} {column : Fin L.width} (before : time ≤ later)
    (inBasis : run.InBasis time column)
    (stays : ∀ between, time ≤ between → between < later →
      run.basic between (run.leaving between) ≠ column) : run.InBasis later column := by
  induction later, before using Nat.le_induction with
  | base => exact inBasis
  | succ later before induction =>
      obtain ⟨row, same⟩ := induction fun between after less => stays between after (by omega)
      have other : row ≠ run.leaving later := by
        rintro rfl
        exact stays later before (Nat.lt_succ_self later) same
      exact ⟨row, by rw [basic_next, Function.update_of_ne other, same]⟩

theorem not_inBasis_of_not_entering {time later : ℕ} {column : Fin L.width}
    (before : time ≤ later) (outside : ¬ run.InBasis time column)
    (never : ∀ between, time ≤ between → between < later → run.entering between ≠ column) :
    ¬ run.InBasis later column := by
  induction later, before using Nat.le_induction with
  | base => exact outside
  | succ later before induction =>
      rintro ⟨row, same⟩
      rw [basic_next] at same
      by_cases isLeaving : row = run.leaving later
      · rw [isLeaving, Function.update_self] at same
        exact never later before (Nat.lt_succ_self later) same
      · rw [Function.update_of_ne isLeaving] at same
        exact induction (fun between after less => never between after (by omega)) ⟨row, same⟩

namespace Cycle

variable {run} {start finish : ℕ} (cycle : run.Cycle start finish)

include cycle

theorem inBasis_closes (column : Fin L.width) :
    run.InBasis finish column ↔ run.InBasis start column := by
  rw [InBasis, cycle.closes, InBasis]

theorem exists_leaving {time : ℕ} (after : start ≤ time) (before : time < finish) :
    ∃ other, start ≤ other ∧ other < finish ∧
      run.basic other (run.leaving other) = run.entering time := by
  by_contra none
  have stays (other : ℕ) (otherAfter : start ≤ other) (otherBefore : other < finish) :
      run.basic other (run.leaving other) ≠ run.entering time := fun leaves =>
    none ⟨other, otherAfter, otherBefore, leaves⟩
  have atFinish := run.inBasis_of_not_leaving before (run.inBasis_next_entering time)
    fun other otherAfter otherBefore => stays other (by omega) otherBefore
  have atStart := (cycle.inBasis_closes _).mp atFinish
  exact run.not_inBasis_entering time <| run.inBasis_of_not_leaving after atStart
    fun other otherAfter otherBefore => stays other otherAfter (by omega)

theorem exists_entering {inside outside : ℕ} {column : Fin L.width}
    (insideAfter : start ≤ inside) (insideBefore : inside < finish)
    (outsideAfter : start ≤ outside) (outsideBefore : outside < finish)
    (isInside : run.InBasis inside column) (isOutside : ¬ run.InBasis outside column) :
    ∃ time, start ≤ time ∧ time < finish ∧ run.entering time = column := by
  by_contra none
  have never (time : ℕ) (after : start ≤ time) (before : time < finish) :
      run.entering time ≠ column := fun enters => none ⟨time, after, before, enters⟩
  have atFinish := run.not_inBasis_of_not_entering outsideBefore.le isOutside
    fun time after before => never time (by omega) before
  have atStart := mt (cycle.inBasis_closes column).mpr atFinish
  exact run.not_inBasis_of_not_entering insideAfter atStart
    (fun time after before => never time after (by omega)) isInside

theorem basicSolution_eq {time : ℕ} (after : start ≤ time) :
    (run.tableau time).basicSolution (run.basic time) =
      (run.tableau start).basicSolution (run.basic start) := by
  induction time, after using Nat.le_induction with
  | base => rfl
  | succ time after induction =>
      rw [tableau_next, basic_next,
        Tableau.basicSolution_exchange (run.chosen time).positive.ne' (cycle.stalls time after),
        induction]

/-- A row is at zero if its basic column is outside the basis at another time of the cycle. -/
theorem target_eq_zero {time outside : ℕ} (after : start ≤ time) (outsideAfter : start ≤ outside)
    {row : Fin L.constraints} (isOutside : ¬ run.InBasis outside (run.basic time row)) :
    ((run.tableau time).rows row).target = 0 := by
  have same := congrFun
    ((cycle.basicSolution_eq after).trans (cycle.basicSolution_eq outsideAfter).symm)
    (run.basic time row)
  rw [Tableau.basicSolution, Tableau.spread_basic _ (run.canonical time).injective,
    Tableau.basicSolution,
    Tableau.spread_of_ne _ fun other equal => isOutside ⟨other, equal⟩] at same
  exact same

/-! ## The greatest column of a cycle -/

section Greatest

variable {last : ℕ} (lastAfter : start ≤ last) (lastBefore : last < finish)
  (greatest : ∀ time, start ≤ time → time < finish → run.entering time ≤ run.entering last)

include lastAfter greatest

/-- Where the greatest column enters, no other column that enters in the cycle improves. -/
theorem driving_entering_nonneg {time : ℕ} (after : start ≤ time) (before : time < finish)
    (other : run.entering time ≠ run.entering last) :
    0 ≤ (run.tableau last).driving.entries (run.entering time) :=
  (run.chosen last).firstEntering (cycle.bland last lastAfter) _ (run.candidate time last)
    (lt_of_le_of_ne (greatest time after before) other)

include lastBefore

theorem driving_nonneg_of_inBasis {time : ℕ} {column : Fin L.width} (after : start ≤ time)
    (before : time < finish) (inBasis : run.InBasis time column)
    (other : column ≠ run.entering last) : 0 ≤ (run.tableau last).driving.entries column := by
  by_cases still : run.InBasis last column
  · obtain ⟨row, rfl⟩ := still
    exact ((run.canonical last).driving_basic row).ge
  · obtain ⟨enters, entersAfter, entersBefore, rfl⟩ :=
      cycle.exists_entering after before lastAfter lastBefore inBasis still
    exact cycle.driving_entering_nonneg lastAfter greatest entersAfter entersBefore other

/-- Where the greatest column leaves, a row whose basic column is outside the basis when the
greatest column enters does not take part in the ratio test.  Its ratio would be zero too, and its
column comes first. -/
theorem entries_nonpos {time : ℕ} (after : start ≤ time) (before : time < finish)
    (leaves : run.basic time (run.leaving time) = run.entering last) {row : Fin L.constraints}
    (other : row ≠ run.leaving time) (outside : ¬ run.InBasis last (run.basic time row)) :
    ((run.tableau time).rows row).entries (run.entering time) ≤ 0 := by
  refine not_lt.mp fun positive => other ?_
  have zero := cycle.target_eq_zero after lastAfter outside
  have tie : (run.tableau time).ratio (.entry (run.entering time)) row =
      (run.tableau time).ratio (.entry (run.entering time)) (run.leaving time) := by
    rw [Tableau.ratio_entry, Tableau.ratio_entry, zero, cycle.stalls time after, zero_div, zero_div]
  have first := (run.chosen time).firstLeaving (cycle.bland time after) row positive tie
  rw [(run.canonical time).basis_eq, (run.canonical time).basis_eq, leaves] at first
  obtain ⟨enters, entersAfter, entersBefore, same⟩ :=
    cycle.exists_entering after before lastAfter lastBefore ⟨row, rfl⟩ outside
  have bound := greatest enters entersAfter entersBefore
  rw [same] at bound
  have equal := le_antisymm bound (Int.ofNat_le.mp first)
  exact (run.canonical time).injective (equal.trans leaves.symm)

/-- Along the ray of the column that drives out the greatest one, no term of the driving row at
the entrance of the greatest column is negative. -/
theorem driving_ray_nonneg {time : ℕ} (after : start ≤ time) (before : time < finish)
    (leaves : run.basic time (run.leaving time) = run.entering last) (column : Fin L.width) :
    0 ≤ (run.tableau last).driving.entries column *
      (run.tableau time).ray (run.basic time) (run.entering time) column := by
  have nonbasic := (run.admissible time).ne_entering (run.chosen time)
  by_cases growing : run.entering time = column
  · subst growing
    rw [Tableau.Canonical.ray_growing nonbasic, mul_one]
    apply cycle.driving_entering_nonneg lastAfter greatest after before
    intro same
    exact nonbasic _ (leaves.trans same.symm)
  · by_cases inBasis : run.InBasis time column
    · obtain ⟨row, rfl⟩ := inBasis
      rw [(run.canonical time).ray_basic nonbasic]
      by_cases isLeaving : row = run.leaving time
      · subst isLeaving
        rw [leaves]
        exact mul_nonneg_of_nonpos_of_nonpos (run.chosen last).improves.le
          (neg_nonpos.mpr (run.chosen time).positive.le)
      · by_cases still : run.InBasis last (run.basic time row)
        · obtain ⟨lastRow, same⟩ := still
          rw [← same, (run.canonical last).driving_basic, zero_mul]
        · have other : run.basic time row ≠ run.entering last := fun same =>
            isLeaving ((run.canonical time).injective (same.trans leaves.symm))
          exact mul_nonneg
            (cycle.driving_nonneg_of_inBasis lastAfter lastBefore greatest after before
              ⟨row, rfl⟩ other)
            (neg_nonneg.mpr (cycle.entries_nonpos lastAfter lastBefore greatest after before
              leaves isLeaving still))
    · rw [Tableau.Canonical.ray_of_ne growing fun row same => inBasis ⟨row, same⟩, mul_zero]

end Greatest

/-- Under Bland's rule a basis does not come back. -/
theorem impossible : False := by
  obtain ⟨last, lastIn, isGreatest⟩ := Finset.exists_max_image (Finset.Ico start finish)
    run.entering ⟨start, Finset.mem_Ico.mpr ⟨le_rfl, cycle.lt⟩⟩
  obtain ⟨lastAfter, lastBefore⟩ := Finset.mem_Ico.mp lastIn
  have greatest (time : ℕ) (after : start ≤ time) (before : time < finish) :=
    isGreatest time (Finset.mem_Ico.mpr ⟨after, before⟩)
  obtain ⟨time, after, before, leaves⟩ := cycle.exists_leaving lastAfter lastBefore
  let direction := (run.tableau time).ray (run.basic time) (run.entering time)
  have rises : 0 ≤ (run.tableau last).driving.form direction :=
    Finset.sum_nonneg fun column _ =>
      cycle.driving_ray_nonneg lastAfter lastBefore greatest after before leaves column
  have falls : (run.tableau last).driving.form direction < 0 := by
    have forms := (run.equivalent time last).form_eq (run.canonical time).solves_basicSolution
      ((run.canonical time).form_ray (run.entering time)) (run.tableau last).drivingIndex
    rw [Tableau.driving, forms, Tableau.drivingIndex_eq (run.phase_eq time last)]
    exact ((run.canonical time).driving_form_ray _).trans_lt (run.chosen time).improves
  exact absurd rises (not_le.mpr falls)

end Cycle

/-- No run of a phase without tolerance is endless. -/
theorem impossible (run : EndlessRun L rule) : False := by
  obtain ⟨start, finish, cycle⟩ := run.exists_cycle
  exact cycle.impossible

end EndlessRun

end TableauSimplex
