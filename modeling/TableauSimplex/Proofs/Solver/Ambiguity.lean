import TableauSimplex.Proofs.Log.Reader
import TableauSimplex.Proofs.Solver.Uniqueness
import TableauSimplex.Proofs.Table
import TableauSimplex.Proofs.Tableau.Ownership

/-!
# Optima with an alternative

A column outside the basis that leaves the objective as it is makes a solution look ambiguous.  The
program has another optimum exactly if such columns can grow together so that no row whose target
is zero has to give way.  One column alone need not do this, but it does if no structural variable
is reported as degenerate.
-/

set_option autoImplicit false

namespace TableauSimplex

namespace Tableau

variable {L : Layout} {start final tableau : Tableau L ℚ} {basic : Fin L.constraints → Fin L.width}
  {constraints : List (Constraint ℚ)} {objective : List ℚ} {sense : Sense}
  {solution : Solution ℚ} {growth : Fin L.width → ℚ}

/-- Growth of free columns that takes nothing from the rows with a zero target. -/
structure Opening (tableau : Tableau L ℚ) (basic : Fin L.constraints → Fin L.width)
    (growth : Fin L.width → ℚ) : Prop where
  nonneg : ∀ column, 0 ≤ growth column
  free : ∀ column, growth column ≠ 0 → tableau.Free basic column
  grows : ∃ column, growth column ≠ 0
  unblocked : ∀ row, (tableau.rows row).target = 0 → (tableau.rows row).form growth ≤ 0

/-! ## The direction of growing columns -/

/-- The direction in which the columns grow and the basic columns make up for it. -/
def sweep (tableau : Tableau L ℚ) (basic : Fin L.constraints → Fin L.width)
    (growth : Fin L.width → ℚ) : Fin L.width → ℚ :=
  fun column => growth column +
    -1 * spread basic (fun row => (tableau.rows row).form growth) column

theorem sweep_of_ne {column : Fin L.width} (nonbasic : ∀ row, basic row ≠ column) :
    tableau.sweep basic growth column = growth column := by
  rw [sweep, spread_of_ne _ nonbasic, mul_zero, add_zero]

namespace Canonical

theorem sweep_basic (canonical : tableau.Canonical basic) (row : Fin L.constraints) :
    tableau.sweep basic growth (basic row) =
      growth (basic row) - (tableau.rows row).form growth := by
  rw [sweep, spread_basic _ canonical.injective]
  ring

theorem form_sweep (canonical : tableau.Canonical basic) (row : Fin L.constraints) :
    (tableau.rows row).form (tableau.sweep basic growth) = 0 := by
  unfold sweep
  rw [Row.form_along, canonical.form_spread_constraint]
  ring

theorem driving_form_sweep (canonical : tableau.Canonical basic) :
    tableau.driving.form (tableau.sweep basic growth) = tableau.driving.form growth := by
  unfold sweep
  rw [Row.form_along, canonical.form_spread_driving, mul_zero, add_zero]

end Canonical

/-! ## From growth to another optimum -/

/-- Where no demand is made on an empty supply, some share of all demands can be met at once. -/
theorem exists_share {count : Nat} {supply demand : Fin count → ℚ}
    (supplied : ∀ index, 0 ≤ supply index)
    (unblocked : ∀ index, supply index = 0 → demand index ≤ 0) :
    ∃ share : ℚ, 0 < share ∧ ∀ index, share * demand index ≤ supply index := by
  -- With an empty supply the quotient is zero by convention, and nothing is asked of it.
  let total := ∑ index, |demand index| / supply index
  have summand_nonneg (index : Fin count) : 0 ≤ |demand index| / supply index :=
    div_nonneg (abs_nonneg _) (supplied index)
  have totalNonneg : 0 ≤ total := Finset.sum_nonneg fun index _ => summand_nonneg index
  have positive : 0 < 1 + total := add_pos_of_pos_of_nonneg one_pos totalNonneg
  refine ⟨1 / (1 + total), one_div_pos.mpr positive, ?_⟩
  intro index
  rw [one_div_mul_eq_div, div_le_iff₀ positive]
  rcases (supplied index).eq_or_lt with empty | some
  · rw [← empty, zero_mul]
    exact unblocked index empty.symm
  · have one_of_many : |demand index| / supply index ≤ total :=
      Finset.single_le_sum (fun index _ => summand_nonneg index) (Finset.mem_univ index)
    calc demand index
        ≤ |demand index| := le_abs_self _
      _ = supply index * (|demand index| / supply index) := (mul_div_cancel₀ _ some.ne').symm
      _ ≤ supply index * (1 + total) :=
        mul_le_mul_of_nonneg_left (one_of_many.trans (le_add_of_nonneg_left zero_le_one)) some.le

namespace Opening

variable (opening : tableau.Opening basic growth)

include opening

theorem growth_basic (row : Fin L.constraints) : growth (basic row) = 0 := by
  by_contra grows
  exact (opening.free _ grows).2.1 row rfl

theorem growth_artificial {column : Fin L.width} (isArtificial : L.structural ≤ column.val) :
    growth column = 0 := by
  by_contra grows
  exact absurd (opening.free column grows).1 (not_lt.mpr isArtificial)

theorem driving_form : tableau.driving.form growth = 0 := by
  apply Finset.sum_eq_zero
  intro column _
  by_cases grows : growth column = 0
  · rw [grows, mul_zero]
  · rw [(opening.free column grows).2.2, zero_mul]

theorem exists_vector (admissible : Admissible tableau basic) (second : tableau.phase = .second) :
    ∃ vector, tableau.Solves vector ∧ L.Genuine vector ∧
      tableau.driving.gap vector = -tableau.driving.target ∧
      vector ≠ tableau.basicSolution basic := by
  have canonical := admissible.canonical
  obtain ⟨share, positive, met⟩ := exists_share admissible.targets_nonneg opening.unblocked
  -- From the basic solution along the sweep, as far as no basic variable falls below zero.
  refine ⟨fun column => tableau.basicSolution basic column +
    share * tableau.sweep basic growth column, ?_, ⟨?_, ?_⟩, ?_, ?_⟩
  · intro row
    rw [Row.gap_along, canonical.solves_basicSolution row, canonical.form_sweep, mul_zero, add_zero]
  · intro column
    by_cases isBasic : ∃ row, basic row = column
    · obtain ⟨row, rfl⟩ := isBasic
      rw [basicSolution, spread_basic _ canonical.injective, canonical.sweep_basic,
        opening.growth_basic row]
      linarith [met row]
    · have nonbasic (row : Fin L.constraints) : basic row ≠ column := fun same =>
        isBasic ⟨row, same⟩
      rw [sweep_of_ne nonbasic]
      exact add_nonneg (admissible.basicSolution_nonneg column)
        (mul_nonneg positive.le (opening.nonneg column))
  · intro column isArtificial
    rw [(genuine_basicSolution admissible second).artificial column isArtificial, zero_add]
    by_cases isBasic : ∃ row, basic row = column
    · obtain ⟨row, rfl⟩ := isBasic
      -- An artificial basic column stands in a row that the growing columns do not meet.
      have idle := (admissible.idle second row isArtificial).2
      have form : (tableau.rows row).form growth = 0 := by
        apply Finset.sum_eq_zero
        intro column _
        by_cases structural : column.val < L.structural
        · rw [idle column structural, zero_mul]
        · rw [opening.growth_artificial (not_lt.mp structural), mul_zero]
      rw [canonical.sweep_basic, opening.growth_basic, form, sub_zero, mul_zero]
    · rw [sweep_of_ne fun row same => isBasic ⟨row, same⟩,
        opening.growth_artificial isArtificial, mul_zero]
  · rw [Row.gap_along, canonical.driving_gap_basicSolution, canonical.driving_form_sweep,
      opening.driving_form, mul_zero, add_zero]
  · intro same
    obtain ⟨column, grows⟩ := opening.grows
    have nonbasic := (opening.free column grows).2.1
    have unchanged := congrFun same column
    rw [sweep_of_ne nonbasic] at unchanged
    exact mul_ne_zero positive.ne' grows (left_eq_add.mp unchanged.symm)

end Opening

/-! ## From another optimum to growth -/

theorem exists_opening_of_level (canonical : tableau.Canonical basic)
    (optimal : ∀ column : Fin L.width, column.val < L.structural →
      0 ≤ tableau.driving.entries column)
    {vector : Fin L.width → ℚ} (solves : tableau.Solves vector) (genuine : L.Genuine vector)
    (level : tableau.driving.gap vector = -tableau.driving.target)
    (differs : vector ≠ tableau.basicSolution basic) :
    ∃ growth, tableau.Opening basic growth := by
  let within : Fin L.width → ℚ := spread basic fun row => vector (basic row)
  let outside : Fin L.width → ℚ := fun column => vector column + -1 * within column
  have outside_basic (row : Fin L.constraints) : outside (basic row) = 0 := by
    simp only [outside, within, spread_basic _ canonical.injective]
    ring
  have outside_of_ne {column : Fin L.width} (nonbasic : ∀ row, basic row ≠ column) :
      outside column = vector column := by
    simp only [outside, within, spread_of_ne _ nonbasic]
    ring
  refine ⟨outside, ?_, ?_, ?_, ?_⟩
  · intro column
    by_cases isBasic : ∃ row, basic row = column
    · obtain ⟨row, rfl⟩ := isBasic
      rw [outside_basic]
    · rw [outside_of_ne fun row same => isBasic ⟨row, same⟩]
      exact genuine.nonneg column
  · intro column grows
    have nonbasic (row : Fin L.constraints) : basic row ≠ column := by
      rintro rfl
      exact grows (outside_basic row)
    rw [outside_of_ne nonbasic] at grows
    have structural : column.val < L.structural := by
      by_contra isArtificial
      exact grows (genuine.artificial column (not_lt.mp isArtificial))
    have product := canonical.driving_mul_eq_zero_of_level
      (fun column structural _ => optimal column structural) genuine level column
    exact ⟨structural, nonbasic, (mul_eq_zero.mp product).resolve_right grows⟩
  · by_contra still
    push Not at still
    apply differs
    apply canonical.eq_basicSolution solves
    intro column nonbasic
    rw [← outside_of_ne nonbasic]
    exact still column
  · intro row empty
    have form : (tableau.rows row).form outside = -vector (basic row) := by
      simp only [outside, within]
      rw [Row.form_along, canonical.form_spread_constraint, sub_eq_zero.mp (solves row), empty]
      ring
    rw [form]
    exact neg_nonpos.mpr (genuine.nonneg _)

/-! ## The report of the basis -/

theorem Canonical.target_ne_zero_of_report (canonical : tableau.Canonical basic)
    {row : Fin L.constraints}
    (unreported : (L.columnName (basic row).val, BasicKind.degenerate.name) ∉
      (tableau.basisReport 0).entries) :
    (tableau.rows row).target ≠ 0 := by
  intro zero
  have rowName (row : Fin L.constraints) : tableau.rowName row = L.columnName (basic row).val := by
    rw [Tableau.rowName, canonical.basis_eq]
    rfl
  have kind : (tableau.basicValue 0 (tableau.basis row)).1 = .degenerate := by
    rw [canonical.basis_eq, basicValue, canonical.rowOf_basic row]
    simp [zero, Scalar.magnitude_le_zero_iff]
  obtain ⟨reported, member⟩ := Table.exists_mem_ofList
    (List.mem_map_of_mem (List.mem_finRange row) : (tableau.rowName row, _) ∈
      L.constraintRows.map fun row =>
        (tableau.rowName row, (tableau.basicValue 0 (tableau.basis row)).1.name))
  obtain ⟨other, _, listed⟩ := List.mem_map.mp (Table.mem_of_mem_ofList member)
  obtain ⟨sameName, sameKind⟩ := Prod.mk.inj listed
  -- Distinct columns have distinct names, so the entry is that of the row itself.
  have same : other = row := by
    rw [rowName, rowName] at sameName
    exact canonical.injective (Fin.ext
      (L.columnName_injective (basic other).isLt (basic row).isLt sameName))
  subst same
  apply unreported
  rw [kind] at sameKind
  rw [sameKind, ← rowName]
  exact member

theorem Admissible.opening_of_report (admissible : Admissible tableau basic)
    (second : tableau.phase = .second) {column : Fin L.width} (free : tableau.Free basic column)
    (unreported : ∀ column : Fin L.width, column.val < L.structural →
      (L.columnName column.val, BasicKind.degenerate.name) ∉ (tableau.basisReport 0).entries) :
    tableau.Opening basic fun other => if column = other then 1 else 0 where
  nonneg other := by split <;> norm_num
  free other grows := by
    obtain rfl : column = other := by
      by_contra differs
      exact grows (if_neg differs)
    exact free
  grows := ⟨column, by simp⟩
  unblocked row zero := by
    rw [Canonical.form_growing]
    by_cases structural : (basic row).val < L.structural
    · exact absurd zero (admissible.canonical.target_ne_zero_of_report
        (unreported (basic row) structural))
    · exact ((admissible.idle second row (not_lt.mp structural)).2 column free.1).le

/-! ## Optimal solutions -/

namespace Optimum

variable (optimum : Optimum start final basic constraints objective sense solution)

include optimum

theorem basis_eq : solution.basis = final.basisReport 0 := by
  obtain ⟨_, _, _, reads⟩ := optimum.reads
  obtain ⟨_, _, rfl⟩ := exists_of_map_eq_ok reads
  rfl

/-- There is another optimum exactly if the last tableau has an opening. -/
theorem exists_other_iff (built : build constraints objective sense = .ok ⟨L, start⟩) :
    (∃ point, Feasible constraints L.decisions point ∧
        dot objective point = dot objective (L.decisionPart (final.basicSolution basic)) ∧
        point ≠ L.decisionPart (final.basicSolution basic)) ↔
      ∃ growth, final.Opening basic growth := by
  have canonical := optimum.admissible.canonical
  constructor
  · rintro ⟨_, feasible, level, differs⟩
    obtain ⟨vector, solves, genuine, rfl⟩ := optimum.represents.complete _ feasible
    refine exists_opening_of_level canonical optimum.optimal solves genuine
      ((optimum.gap_eq_iff solves).mpr level) ?_
    rintro rfl
    exact differs rfl
  · rintro ⟨growth, opening⟩
    obtain ⟨vector, solves, genuine, level, differs⟩ :=
      opening.exists_vector optimum.admissible optimum.second
    refine ⟨_, optimum.represents.sound vector solves genuine,
      (optimum.gap_eq_iff solves).mp level, ?_⟩
    intro same
    exact differs ((handsOut_surplus_of_build built).eq_of_decisionPart_eq
      ((optimum.equivalent.solves_iff _).mp solves)
      ((optimum.equivalent.solves_iff _).mp canonical.solves_basicSolution) genuine
      (genuine_basicSolution optimum.admissible optimum.second) same)

end Optimum

end Tableau

/-- Without tolerance, let an optimal solution mention an alternative.  The program has another
optimum exactly if free columns of the last tableau can grow together and no row with a zero target
gives way.  It has one whenever no structural variable is reported as degenerate. -/
theorem solveSystem_ambiguous_iff_opening {options : Options ℚ}
    (noTolerance : options.tolerance = 0) (noAllowance : options.feasibilityTolerance = 0)
    {constraints : List (Constraint ℚ)} {objective : List ℚ} {sense : Sense}
    {names : Option (List String)} {solution : Solution ℚ}
    (solved : solveSystem options constraints objective sense names = .ok solution)
    (optimal : solution.status = .optimal) (flagged : solution.alternateOptima = true) :
    ∃ values value, solution.values = some values ∧ solution.objectiveValue = some value ∧
      Feasible constraints (programSize constraints objective) values ∧
      dot objective values = value ∧
      ∃ L, ∃ start final : Tableau L ℚ, ∃ used basic,
        Tableau.build constraints objective sense = .ok ⟨L, start⟩ ∧
        (start.solveNamed options used).EndsIn solution final ∧ final.Canonical basic ∧
        ((∃ point, Feasible constraints (programSize constraints objective) point ∧
            dot objective point = value ∧ point ≠ values) ↔
          ∃ growth, final.Opening basic growth) ∧
        ((∀ column, column < L.structural →
            (L.columnName column, BasicKind.degenerate.name) ∉ solution.basis.entries) →
          ∃ point, Feasible constraints (programSize constraints objective) point ∧
            dot objective point = value ∧ point ≠ values) := by
  obtain ⟨L, start, final, used, basic, built, ends, optimum⟩ :=
    exists_optimum_of_optimal noTolerance noAllowance solved optimal
  obtain ⟨values, value⟩ := optimum.values_eq
  have admissible := optimum.admissible
  have other_iff := optimum.exists_other_iff built
  rw [optimum.alternateOptima_eq] at flagged
  obtain ⟨column, free⟩ := (admissible.canonical.hasAlternative_iff optimum.plain).mp flagged
  rw [← optimum.represents.size_eq]
  refine ⟨_, _, values, value, optimum.feasible, rfl, L, start, final, used, basic, built, ends,
    admissible.canonical, other_iff, ?_⟩
  intro unreported
  rw [optimum.basis_eq] at unreported
  exact other_iff.mpr ⟨_, admissible.opening_of_report optimum.second free fun column =>
    unreported column.val⟩

/-- A box that a level of the objective meets in an edge. -/
def flatTop : List (Constraint ℚ) :=
  [.linear 1 [1] .atMost 4, .linear 1 [] .atMost 3, .linear 0 [1] .atMost 2]

theorem solveSystem_ambiguous_iff_opening_flatTop :
    ∃ solution, solveSystem .exact flatTop [1, 1] .maximise none = .ok solution ∧
      solution.values = some [3, 1] ∧
      ∃ point, Feasible flatTop 2 point ∧ dot [1, 1] point = 4 ∧ point ≠ [3, 1] := by
  have solved : solveSystem .exact flatTop [1, 1] .maximise none = .ok {
      status := .optimal
      objectiveValue := some 4
      values := some [3, 1]
      point := some ⟨[("x1", 3), ("x2", 1)]⟩
      basis := ⟨[("x2", "unique"), ("x1", "unique"), ("s3", "unique")]⟩
      alternateOptima := true
      pivots := 2
      phaseOnePivots := 0
      message := "Optimal solution is not unique." } := by decide +kernel
  obtain ⟨values, value, given, reported, _, _, L, _, _, _, _, _, _, _, _, ambiguous⟩ :=
    solveSystem_ambiguous_iff_opening rfl rfl solved rfl rfl
  obtain rfl := Option.some.inj given
  obtain rfl := Option.some.inj reported
  refine ⟨_, solved, rfl, ambiguous fun column _ listed => ?_⟩
  have kinds : ∀ entry ∈ [("x2", "unique"), ("x1", "unique"), ("s3", "unique")],
      entry.2 ≠ BasicKind.degenerate.name := by decide
  exact kinds _ listed rfl

/-- A corner in which the bound of the first variable leaves nothing for the second. -/
def tightCorner : List (Constraint ℚ) :=
  [.linear 1 [] .atMost 1, .linear 1 [1] .atMost 1]

theorem solveSystem_alternateOptima_tightCorner :
    (∃ solution, solveSystem .exact tightCorner [1] .maximise none = .ok solution ∧
      solution.status = .optimal ∧ solution.alternateOptima = true ∧
      solution.message = "Optimal solution is not unique." ∧
      solution.values = some [1, 0] ∧ solution.objectiveValue = some 1) ∧
    ∀ point, Feasible tightCorner (programSize tightCorner [1]) point →
      dot [1] point = 1 → point = [1, 0] := by
  constructor
  · have solved : solveSystem .exact tightCorner [1] .maximise none = .ok {
        status := .optimal
        objectiveValue := some 1
        values := some [1, 0]
        point := some ⟨[("x1", 1), ("x2", 0)]⟩
        basis := ⟨[("x1", "unique"), ("s2", "degenerate")]⟩
        alternateOptima := true
        pivots := 1
        phaseOnePivots := 0
        message := "Optimal solution is not unique." } := by decide +kernel
    exact ⟨_, solved, rfl, rfl, rfl, rfl, rfl⟩
  · intro point feasible level
    obtain ⟨first, second, rfl⟩ := List.length_eq_two.mp
      (feasible.length_eq.trans (show programSize tightCorner [1] = 2 by decide))
    have together := feasible.holds _ (List.mem_cons_of_mem _ List.mem_cons_self)
    have nonneg := feasible.nonneg second (List.mem_cons_of_mem _ List.mem_cons_self)
    simp only [Constraint.Holds, Constraint.linear, Relation.Compares, dot] at together level
    have isOne : first = 1 := by linarith
    have isZero : second = 0 := by linarith
    rw [isOne, isZero]

end TableauSimplex
