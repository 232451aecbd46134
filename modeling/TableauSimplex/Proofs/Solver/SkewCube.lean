import TableauSimplex.Proofs.Solver.Ceiling
import TableauSimplex.Proofs.Solver.Need
import TableauSimplex.Proofs.Tableau.SkewCube

/-!
# Every corner of a skew cube

Under the steepest rule a run in a skew cube turns the first side that is not turned yet, and those
before it back, as a binary counter turns its digits.  So it visits every corner before it reaches
the optimum, and needs a ceiling that doubles with every side, while the ceiling of a layout grows
with the square of the number of sides.
-/

set_option autoImplicit false

namespace TableauSimplex

namespace Tableau

open SkewCube

variable {L : Layout}

namespace Corner

variable {tableau : Tableau L ℚ} {turned : Nat → Bool}
  {inside outside : Fin L.constraints → Fin L.width}
  (corner : Corner tableau turned inside outside)

include corner

/-! ## The choice at a corner -/

theorem exists_entries_eq_one (column : Fin L.width) :
    ∃ row, (tableau.rows row).entries column = 1 := by
  rcases corner.cover column with ⟨row, rfl⟩ | ⟨row, rfl⟩
  · exact ⟨row, by rw [corner.canonical.entries_basic, if_pos rfl]⟩
  · exact ⟨row, corner.pivot row⟩

theorem nextMove_ne_unbounded {rule : ExchangeRule} (column : Fin L.width) :
    tableau.nextMove 0 rule ≠ .unbounded column := by
  intro move
  obtain ⟨row, one⟩ := corner.exists_entries_eq_one column
  have small := (unbounded_of_nextMove move).2.2 row
  rw [one] at small
  exact absurd small (not_le.mpr one_pos)

theorem driving (side : Fin L.constraints) :
    tableau.driving.entries (outside side) = cost turned L.constraints side := by
  rw [driving_of_second corner.second, corner.objective]

theorem nextMove_eq_optimal {rule : ExchangeRule}
    (turnedAll : ∀ side < L.constraints, turned side = true) :
    tableau.nextMove 0 rule = .optimal := by
  cases move : tableau.nextMove 0 rule with
  | optimal => rfl
  | unbounded column => exact absurd move (corner.nextMove_ne_unbounded column)
  | exchange entering leaving =>
      have improves := (chosen_of_nextMove move).improves
      rcases corner.cover entering with ⟨row, rfl⟩ | ⟨side, rfl⟩
      · rw [corner.canonical.driving_basic] at improves
        exact absurd improves (lt_irrefl 0)
      · have positive : (0 : ℚ) < 2 ^ L.constraints / 2 ^ side.val := by positivity
        rw [corner.driving, cost_of_turned turned _ (turnedAll side side.isLt)] at improves
        exact absurd improves (lt_asymm positive)

section Choice

variable {side : Fin L.constraints} (unturned : turned side = false)
  (earlier : ∀ before < side.val, turned before = true)

include unturned

theorem driving_neg : tableau.driving.entries (outside side) < 0 := by
  have positive : (0 : ℚ) < 2 ^ L.constraints / 2 ^ side.val := by positivity
  rw [corner.driving, cost_of_unturned turned _ unturned]
  exact neg_neg_of_pos positive

include earlier

theorem eq_outside_of_least {column : Fin L.width}
    (least : tableau.driving.entries column ≤ tableau.driving.entries (outside side)) :
    column = outside side := by
  have negative := corner.driving_neg unturned
  rcases corner.cover column with ⟨row, rfl⟩ | ⟨other, rfl⟩
  · rw [corner.canonical.driving_basic] at least
    exact absurd negative (not_lt.mpr least)
  · by_contra distinct
    have steeper := cost_lt turned L.constraints unturned earlier
      (Fin.val_ne_of_ne fun same => distinct (congrArg outside same))
    rw [corner.driving, corner.driving] at least
    exact absurd steeper (not_lt.mpr least)

omit unturned earlier in
theorem eq_of_least_ratio {leaving : Fin L.constraints}
    (positive : 0 < (tableau.rows leaving).entries (outside side))
    (least : tableau.ratio (.entry (outside side)) leaving ≤
      tableau.ratio (.entry (outside side)) side) : leaving = side := by
  by_contra other
  rcases lt_or_gt_of_ne other with before | after
  · rw [corner.entries, entry_of_lt _ before] at positive
    exact absurd positive (lt_irrefl 0)
  · -- The target of a row after it stays positive across the exchange.
    have height := (height_bounds (turn turned side) leaving).1
    rw [height_turn_of_gt turned after] at height
    rw [ratio_entry, ratio_entry, corner.pivot, div_one, div_le_iff₀ positive, corner.target,
      corner.target, corner.entries, mul_comm] at least
    linarith

/-- The steepest column is that of the first unturned side, and its row leaves. -/
theorem nextMove_eq_exchange (whole : L.artificial = 0) :
    tableau.nextMove 0 .dantzig = .exchange (outside side) side := by
  have candidate : outside side ∈ tableau.candidates := by
    have bound : (outside side).val < L.structural + L.artificial := (outside side).isLt
    rw [mem_candidates]
    intro _
    rwa [whole, Nat.add_zero] at bound
  cases move : tableau.nextMove 0 .dantzig with
  | optimal =>
      exact absurd (corner.driving_neg unturned)
        (not_lt.mpr (optimal_of_nextMove move candidate))
  | unbounded column => exact absurd move (corner.nextMove_ne_unbounded column)
  | exchange entering leaving =>
      have chosen := chosen_of_nextMove move
      obtain rfl : entering = outside side :=
        corner.eq_outside_of_least unturned earlier (steepest_of_nextMove move _ candidate)
      have positive : 0 < (tableau.rows side).entries (outside side) := by
        rw [corner.pivot]
        exact one_pos
      rw [corner.eq_of_least_ratio chosen.positive (chosen.least side positive)]

end Choice

/-! ## Every corner in turn -/

/-- No target is zero at a corner, so the rule never changes. -/
theorem exchanged (side : Fin L.constraints) :
    (⟨tableau, 0⟩ : PhaseState L ℚ).exchanged 0 (outside side) side =
      ⟨tableau.exchange (outside side) side 0, 0⟩ := by
  have positive := (height_bounds turned side).1
  have moves : tableau.isDegenerateAt 0 side = false := by
    apply decide_eq_false
    rw [corner.target, Scalar.magnitude_le_zero_iff]
    exact positive.ne'
  rw [PhaseState.exchanged, moves]
  rfl

end Corner

/-- Turning the first sides of a cube takes a run through all corners that differ in them: once for
the sides before the last of them, across the last, and once more for those before it. -/
theorem Corner.exists_run (whole : L.artificial = 0) {count : Nat} (within : count ≤ L.constraints)
    {tableau : Tableau L ℚ} {turned : Nat → Bool} {inside outside : Fin L.constraints → Fin L.width}
    (corner : Corner tableau turned inside outside)
    (unturned : ∀ side < count, turned side = false) :
    ∃ (final : Tableau L ℚ) (after : Nat → Bool)
      (afterInside afterOutside : Fin L.constraints → Fin L.width),
      Corner final after afterInside afterOutside ∧ (∀ side < count, after side = true) ∧
        (∀ side, count ≤ side → after side = turned side) ∧
          PhaseRun 0 .dantzig ⟨tableau, 0⟩ (2 ^ count - 1) ⟨final, 0⟩ := by
  induction count generalizing tableau turned inside outside with
  | zero => exact ⟨tableau, turned, inside, outside, corner, nofun, fun _ _ => rfl, .stop _⟩
  | succ count induction =>
      have fits : count < L.constraints := within
      obtain ⟨middle, before, middleInside, middleOutside, middleCorner, earlier, later, front⟩ :=
        induction fits.le corner fun side less => unturned side (Nat.lt_succ_of_lt less)
      have last : before count = false := by
        rw [later count le_rfl]
        exact unturned count (Nat.lt_succ_self count)
      have move : (⟨middle, 0⟩ : PhaseState L ℚ).nextMove 0 .dantzig =
          .exchange (middleOutside ⟨count, fits⟩) ⟨count, fits⟩ :=
        middleCorner.nextMove_eq_exchange last earlier whole
      have back (side : Nat) (less : side < count) : turn before count side = false := by
        rw [turn_of_le before less.le, earlier side less]
        rfl
      obtain ⟨final, after, finalInside, finalOutside, finalCorner, turnedAll, kept, rest⟩ :=
        induction fits.le (middleCorner.exchange ⟨count, fits⟩) back
      refine ⟨final, after, finalInside, finalOutside, finalCorner, ?_, ?_, ?_⟩
      · intro side less
        rcases (Nat.lt_succ_iff.mp less).lt_or_eq with strictly | rfl
        · exact turnedAll side strictly
        · rw [kept side le_rfl, turn_of_le before le_rfl, last]
          rfl
      · intro side atLeast
        rw [kept side (Nat.le_of_succ_le atLeast), turn_of_gt before atLeast]
        exact later side (Nat.le_of_succ_le atLeast)
      · have crossing : PhaseRun 0 .dantzig ⟨middle, 0⟩ (2 ^ count - 1 + 1) ⟨final, 0⟩ := by
          refine .step move ?_
          rw [middleCorner.exchanged]
          exact rest
        have length : 2 ^ (count + 1) - 1 = 2 ^ count - 1 + (2 ^ count - 1 + 1) := by
          have positive := Nat.two_pow_pos count
          rw [pow_succ]
          omega
        rw [length]
        exact front.append crossing

end Tableau

namespace SkewCube

variable {sides : Nat} (positive : 0 < sides)

/-! ## The ceiling that a cube needs -/

theorem pivotCeiling_layout :
    (layout positive).pivotCeiling = 50 * (sides + 2) * (sides + sides + 1) := by
  rw [Layout.pivotCeiling, Layout.rowCount, Layout.columnCount, constraints_layout, width_layout]

include positive

/-- From the solution of no variable a run leads through all corners to an optimum. -/
theorem exists_run_start :
    ∃ final : Tableau (layout positive) ℚ, (∃ basic, final.Canonical basic) ∧
      PhaseRun 0 .dantzig ⟨start positive, 0⟩ (2 ^ sides - 1) ⟨final, 0⟩ ∧
        (⟨final, 0⟩ : PhaseState _ ℚ).Finished 0 .dantzig none := by
  have all := constraints_layout positive
  obtain ⟨final, turned, inside, outside, corner, turnedAll, _, run⟩ :=
    (corner_start positive).exists_run (artificial_layout positive) all.ge fun _ _ => rfl
  exact ⟨final, ⟨inside, corner.canonical⟩, run,
    corner.nextMove_eq_optimal fun side less => turnedAll side (less.trans_eq all)⟩

theorem exists_solution {options : Options ℚ} (noTolerance : options.tolerance = 0)
    (steepest : options.rule = .dantzig) :
    ∃ solution : Solution ℚ, solution.status = .optimal ∧ solution.pivots = (2 ^ sides - 1 : Nat) ∧
      solveSystem (options.limited (some (2 ^ sides - 1 : Nat))) (faces sides) (gains sides)
        .maximise none = .ok solution := by
  obtain ⟨final, ⟨_, canonical⟩, run, finished⟩ := exists_run_start positive
  obtain ⟨_, _, admissible⟩ := Tableau.build_spec (build_faces positive)
  have exactly : (options.limited (some (2 ^ sides - 1 : Nat))).tolerance = 0 := noTolerance
  have enough : ((2 ^ sides - 1 : Nat) : Int) ≤
      max (((2 ^ sides - 1 : Nat) : Int) - (0 : Nat)) 0 := by omega
  have ends := run.endsIn_optimise admissible finished exactly steepest enough
  obtain ⟨values, read, _⟩ := canonical.point_exact
  obtain ⟨used, named⟩ : ∃ used, Tableau.decisionNames (layout positive) none = .ok used :=
    decisionNames_eq_ok nofun
  obtain ⟨solution, reports, optimal, counted⟩ : ∃ solution,
      final.optimalSolution options.tolerance used 0 (0 + (2 ^ sides - 1)) = .ok solution ∧
        solution.status = .optimal ∧ solution.pivots = (0 + (2 ^ sides - 1) : Nat) := by
    rw [Tableau.optimalSolution, noTolerance, read]
    exact ⟨_, rfl, rfl, rfl⟩
  rw [Nat.zero_add] at counted
  have second := Tableau.endsIn_secondPhase.mpr ⟨_, ends, reports⟩
  exact ⟨solution, optimal, counted, solveSystem_eq_ok.mpr ⟨_, _, used, final, build_faces positive,
    named, Tableau.endsIn_solveNamed.mpr (.inr ⟨(corner_start positive).second, second⟩)⟩⟩

theorem pivots_le {options : Options ℚ} {limit : Nat} {solution : Solution ℚ}
    (solves : solveSystem (options.limited (some limit)) (faces sides) (gains sides) .maximise
      none = .ok solution) : solution.pivots ≤ limit := by
  obtain ⟨_, _, _, _, built, _, ends⟩ := solveSystem_eq_ok.mp solves
  cases (build_faces positive).symm.trans built
  rcases Tableau.endsIn_solveNamed.mp ends with ⟨first, _⟩ | ⟨_, secondEnds⟩
  · cases first.symm.trans (corner_start positive).second
  · have bound := (Tableau.pivots_of_endsIn_secondPhase secondEnds).2.2
    simpa [Options.limited] using bound

theorem exists_needsCeiling_faces {options : Options ℚ} (noTolerance : options.tolerance = 0)
    (steepest : options.rule = .dantzig) :
    ∃ solution : Solution ℚ, solution.status = .optimal ∧ solution.pivots = (2 ^ sides - 1 : Nat) ∧
      NeedsCeiling options (faces sides) (gains sides) .maximise none (layout positive)
        (2 ^ sides - 1) solution := by
  obtain ⟨solution, optimal, counted, solves⟩ := exists_solution positive noTolerance steepest
  refine ⟨solution, optimal, counted, needsCeiling_of_least (build_faces positive) solves ?_⟩
  intro limit below early
  have bound := pivots_le positive early
  omega

omit positive in
theorem pivotCeiling_lt_corners (many : 15 ≤ sides) :
    50 * (sides + 2) * (sides + sides + 1) < 2 ^ sides - 1 := by
  suffices 50 * (sides + 2) * (sides + sides + 1) + 1 < 2 ^ sides by omega
  induction sides, many using Nat.le_induction with
  | base => norm_num
  | succ sides many induction =>
      rw [pow_succ]
      nlinarith

omit positive in
theorem stopsAtCeiling_faces {options : Options ℚ} (noTolerance : options.tolerance = 0)
    (steepest : options.rule = .dantzig) (many : 15 ≤ sides) :
    StopsAtCeiling
      (solveSystem (options.limited none) (faces sides) (gains sides) .maximise none) := by
  have positive : 0 < sides := by omega
  obtain ⟨_, _, _, needs⟩ := exists_needsCeiling_faces positive noTolerance steepest
  apply needs.short
  rw [Option.getD_none, Int.toNat_natCast, pivotCeiling_layout]
  exact pivotCeiling_lt_corners many

end SkewCube

open SkewCube

/-- Without tolerance a system is solved under every ceiling that is high enough for it, and under
any other one, that of the layout included, a solve stops there.  A cube needs a ceiling of its
number of corners less one, and from fifteen sides on that of the layout is too low. -/
theorem solveSystem_needsCeiling {options : Options ℚ} (noTolerance : options.tolerance = 0) :
    (∀ (constraints : List (Constraint ℚ)) (objective : List ℚ) (sense : Sense)
        (names : Option (List String)), constraints ≠ [] →
      (∀ given, names = some given →
        given.length = max (variableCount constraints) objective.length) →
      ∃ (L : Layout) (start : Tableau L ℚ) (needed : Nat) (solution : Solution ℚ),
        Tableau.build constraints objective sense = .ok ⟨L, start⟩ ∧
          NeedsCeiling options constraints objective sense names L needed solution) ∧
    (options.rule = .dantzig →
      (∀ (sides : Nat) (positive : 0 < sides), ∃ solution : Solution ℚ,
        solution.status = .optimal ∧ solution.pivots = (2 ^ sides - 1 : Nat) ∧
          Tableau.build (faces sides) (gains sides) .maximise =
            .ok ⟨layout positive, start positive⟩ ∧
          NeedsCeiling options (faces sides) (gains sides) .maximise none (layout positive)
            (2 ^ sides - 1) solution) ∧
      ∀ sides, 15 ≤ sides →
        StopsAtCeiling
          (solveSystem (options.limited none) (faces sides) (gains sides) .maximise none)) := by
  refine ⟨?_, fun steepest => ⟨?_, fun _ => stopsAtCeiling_faces noTolerance steepest⟩⟩
  · intro constraints objective sense names nonempty fits
    obtain ⟨L, start, built⟩ := Tableau.exists_build nonempty objective sense
    obtain ⟨needed, solution, needs⟩ := exists_needsCeiling built noTolerance nonempty fits
    exact ⟨L, start, needed, solution, built, needs⟩
  · intro sides positive
    obtain ⟨solution, optimal, counted, needs⟩ :=
      exists_needsCeiling_faces positive noTolerance steepest
    exact ⟨solution, optimal, counted, build_faces positive, needs⟩

/-- The cube of fifteen sides has 32768 corners, and its layout a ceiling of 26350 exchanges. -/
theorem solveSystem_stopsAtCeiling_fifteen :
    StopsAtCeiling (solveSystem Options.exact (faces 15) (gains 15) .maximise none) := by
  have noTolerance : Options.exact.tolerance = 0 := rfl
  have noCeiling : Options.exact.limited none = Options.exact := rfl
  have stops := stopsAtCeiling_faces noTolerance rfl (le_refl 15)
  rwa [noCeiling] at stops

theorem solveSystem_needsCeiling_three :
    ∃ solution : Solution ℚ, solution.pivots = 7 ∧
      solveSystem (Options.exact.limited (some 7)) (faces 3) (gains 3) .maximise none =
        .ok solution ∧
      StopsAtCeiling
        (solveSystem (Options.exact.limited (some 6)) (faces 3) (gains 3) .maximise none) := by
  have noTolerance : Options.exact.tolerance = 0 := rfl
  have three : 0 < 3 := by decide
  obtain ⟨cubes, _⟩ := (solveSystem_needsCeiling noTolerance).2 rfl
  obtain ⟨solution, _, counted, _, needs⟩ := cubes 3 three
  have less : 6 < 2 ^ 3 - 1 := by decide
  exact ⟨solution, counted, needs.enough (some 7) le_rfl, needs.short (some 6) less⟩

end TableauSimplex
