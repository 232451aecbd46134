import Mathlib.Tactic.LinearCombination
import Mathlib.Tactic.Positivity
import TableauSimplex.Proofs.Tableau.Build

/-!
# Corners of a skew cube

The sides of a skew cube are tilted so that the steepest column always belongs to the first side
that is not turned.  In a tableau at a corner every row has one column inside the basis and one
outside.  Up to signs its entries are those of the first tableau: every row has a sign, and an entry
has the product of the signs of two rows.  Exchanging the two columns of a row turns its sign and
those of all rows before it.
-/

set_option autoImplicit false

namespace TableauSimplex

namespace SkewCube

def sign (turned : Bool) : ℚ :=
  if turned then -1 else 1

@[simp] theorem sign_not (turned : Bool) : sign (!turned) = -sign turned := by
  cases turned <;> simp [sign]

theorem sign_mul_self (turned : Bool) : sign turned * sign turned = 1 := by
  cases turned <;> simp [sign]

/-- The coefficient of a variable in a row. -/
def slope (row side : Nat) : ℚ :=
  if row < side then 0 else if row = side then 1 else 2 ^ (row + 1) / 2 ^ side

theorem slope_of_lt {row side : Nat} (before : row < side) : slope row side = 0 :=
  if_pos before

theorem slope_of_gt {row side : Nat} (after : side < row) :
    slope row side = 2 ^ (row + 1) / 2 ^ side := by
  rw [slope, if_neg after.not_gt, if_neg after.ne']

theorem slope_mul_slope {row middle side : Nat} (after : middle < row) (before : side < middle) :
    slope row middle * slope middle side = 2 * slope row side := by
  rw [slope_of_gt after, slope_of_gt before, slope_of_gt (before.trans after), pow_succ 2 middle]
  field_simp

/-! ## The numbers at a corner -/

section Corner

variable (turned : Nat → Bool)

def entry (row side : Nat) : ℚ :=
  sign (turned row) * sign (turned side) * slope row side

/-- The entry of the objective row for a cube with a number of sides. -/
def cost (sides side : Nat) : ℚ :=
  -(sign (turned side) * (2 ^ sides / 2 ^ side))

def height : Nat → ℚ
  | 0 => 1
  | row + 1 => 3 * 5 ^ row + 2 * (sign (turned row) * sign (turned (row + 1))) * height row

theorem entry_self (row : Nat) : entry turned row row = 1 := by
  rw [entry, sign_mul_self, slope, if_neg (lt_irrefl row), if_pos rfl, mul_one]

theorem entry_of_lt {row side : Nat} (before : row < side) : entry turned row side = 0 := by
  rw [entry, slope_of_lt before, mul_zero]

theorem height_bounds (row : Nat) : 0 < height turned row ∧ height turned row ≤ 5 ^ row := by
  induction row with
  | zero => simp [height]
  | succ row induction =>
      obtain ⟨positive, bounded⟩ := induction
      have power : (0 : ℚ) < 5 ^ row := by positivity
      rw [height, pow_succ]
      cases turned row <;> cases turned (row + 1) <;>
        simp only [sign, if_true, Bool.false_eq_true, if_false] <;> constructor <;> linarith

theorem cost_of_turned {side : Nat} (sides : Nat) (isTurned : turned side = true) :
    cost turned sides side = 2 ^ sides / 2 ^ side := by
  simp [cost, sign, isTurned]

theorem cost_of_unturned {side : Nat} (sides : Nat) (unturned : turned side = false) :
    cost turned sides side = -(2 ^ sides / 2 ^ side) := by
  simp [cost, sign, unturned]

theorem neg_le_cost (sides side : Nat) : -(2 ^ sides / 2 ^ side) ≤ cost turned sides side := by
  have positive : (0 : ℚ) < 2 ^ sides / 2 ^ side := by positivity
  cases isTurned : turned side with
  | true =>
      rw [cost_of_turned turned sides isTurned]
      linarith
  | false => rw [cost_of_unturned turned sides isTurned]

/-- The first unturned side has the steepest column. -/
theorem cost_lt {side other : Nat} (sides : Nat) (unturned : turned side = false)
    (earlier : ∀ before < side, turned before = true) (distinct : other ≠ side) :
    cost turned sides side < cost turned sides other := by
  have positive : (0 : ℚ) < 2 ^ sides / 2 ^ side := by positivity
  rw [cost_of_unturned turned sides unturned]
  rcases lt_or_gt_of_ne distinct with before | after
  · have otherPositive : (0 : ℚ) < 2 ^ sides / 2 ^ other := by positivity
    rw [cost_of_turned turned sides (earlier other before)]
    linarith
  · have grows : (2 : ℚ) ^ side < 2 ^ other := pow_lt_pow_right₀ one_lt_two after
    have flatter : (2 : ℚ) ^ sides / 2 ^ other < 2 ^ sides / 2 ^ side :=
      div_lt_div_of_pos_left (by positivity) (by positivity) grows
    have bound := neg_le_cost turned sides other
    linarith

end Corner

theorem entry_unturned (row side : Nat) : entry (fun _ => false) row side = slope row side := by
  simp [entry, sign]

theorem height_unturned (row : Nat) : height (fun _ => false) row = 5 ^ row := by
  induction row with
  | zero => rfl
  | succ row induction =>
      rw [height, induction, pow_succ]
      simp only [sign, Bool.false_eq_true, if_false]
      ring

/-! ## Crossing a side -/

/-- The signs after the columns of a row are exchanged. -/
def turn (turned : Nat → Bool) (row : Nat) : Nat → Bool :=
  fun other => if other ≤ row then !turned other else turned other

section Turn

variable (turned : Nat → Bool) {row side crossed : Nat}

theorem turn_of_le (before : row ≤ crossed) : turn turned crossed row = !turned row :=
  if_pos before

theorem turn_of_gt (after : crossed < row) : turn turned crossed row = turned row :=
  if_neg after.not_ge

theorem entry_turn_row (other : side ≠ crossed) :
    entry (turn turned crossed) crossed side = entry turned crossed side := by
  rcases lt_or_gt_of_ne other with before | after
  · rw [entry, turn_of_le turned le_rfl, turn_of_le turned before.le, sign_not, sign_not,
      neg_mul_neg, entry]
  · rw [entry_of_lt _ after, entry_of_lt _ after]

theorem entry_turn_side (other : row ≠ crossed) :
    entry (turn turned crossed) row crossed = -entry turned row crossed := by
  rcases lt_or_gt_of_ne other with before | after
  · rw [entry_of_lt _ before, entry_of_lt _ before, neg_zero]
  · rw [entry, turn_of_gt turned after, turn_of_le turned le_rfl, sign_not, entry]
    ring

theorem entry_mul_entry (row middle side : Nat) :
    entry turned row middle * entry turned middle side =
      sign (turned row) * sign (turned side) * (slope row middle * slope middle side) := by
  have square := sign_mul_self (turned middle)
  rw [entry, entry]
  linear_combination sign (turned row) * sign (turned side) *
    (slope row middle * slope middle side) * square

theorem entry_turn (otherRow : row ≠ crossed) (otherSide : side ≠ crossed) :
    entry (turn turned crossed) row side =
      entry turned row side - entry turned row crossed * entry turned crossed side := by
  rw [entry_mul_entry, entry, entry]
  rcases lt_or_gt_of_ne otherRow with rowBefore | rowAfter
  · rw [slope_of_lt rowBefore, turn_of_le turned rowBefore.le, sign_not]
    rcases lt_or_gt_of_ne otherSide with sideBefore | sideAfter
    · rw [turn_of_le turned sideBefore.le, sign_not]
      ring
    · rw [slope_of_lt (rowBefore.trans sideAfter)]
      ring
  · rw [turn_of_gt turned rowAfter]
    rcases lt_or_gt_of_ne otherSide with sideBefore | sideAfter
    · rw [turn_of_le turned sideBefore.le, sign_not, slope_mul_slope rowAfter sideBefore]
      ring
    · rw [turn_of_gt turned sideAfter, slope_of_lt sideAfter]
      ring

theorem cost_turn_crossed (sides crossed : Nat) :
    cost (turn turned crossed) sides crossed = -cost turned sides crossed := by
  rw [cost, turn_of_le turned le_rfl, sign_not, cost, neg_mul]

theorem cost_turn (sides : Nat) (other : side ≠ crossed) :
    cost (turn turned crossed) sides side =
      cost turned sides side - cost turned sides crossed * entry turned crossed side := by
  have square := sign_mul_self (turned crossed)
  rcases lt_or_gt_of_ne other with before | after
  · rw [cost, turn_of_le turned before.le, sign_not, cost, cost, entry, slope_of_gt before,
      pow_succ]
    field_simp
    linear_combination (-2) * sign (turned side) * square
  · rw [cost, turn_of_gt turned after, entry_of_lt _ after, mul_zero, sub_zero, cost]

theorem height_turn_of_le (before : row ≤ crossed) :
    height (turn turned crossed) row = height turned row := by
  induction row with
  | zero => rfl
  | succ row induction =>
      have earlier := Nat.le_of_succ_le before
      rw [height, height, induction earlier, turn_of_le turned before, turn_of_le turned earlier,
        sign_not, sign_not, neg_mul_neg]

theorem height_turn_of_gt (after : crossed < row) :
    height (turn turned crossed) row =
      height turned row - entry turned row crossed * height turned crossed := by
  induction row, after using Nat.le_induction with
  | base =>
      have after := Nat.lt_succ_self crossed
      rw [height, height, height_turn_of_le turned le_rfl, turn_of_le turned le_rfl,
        turn_of_gt turned after, sign_not, entry, slope_of_gt after, pow_succ, pow_succ]
      field_simp
      ring
  | succ row after induction =>
      have square := sign_mul_self (turned row)
      have later : crossed < row + 1 := Nat.lt_succ_of_lt after
      rw [height, height, induction, turn_of_gt turned after, turn_of_gt turned later, entry, entry,
        slope_of_gt after, slope_of_gt later, pow_succ 2 (row + 1)]
      linear_combination (-2 * sign (turned (row + 1)) * sign (turned crossed) *
        (2 ^ (row + 1) / 2 ^ crossed) * height turned crossed) * square

theorem height_turn (other : row ≠ crossed) :
    height (turn turned crossed) row =
      height turned row - entry turned row crossed * height turned crossed := by
  rcases lt_or_gt_of_ne other with before | after
  · rw [height_turn_of_le turned before.le, entry_of_lt _ before, zero_mul, sub_zero]
  · exact height_turn_of_gt turned after

end Turn

end SkewCube

/-! ## Tableaux at a corner -/

namespace Tableau

open SkewCube

variable {L : Layout}

structure Corner (tableau : Tableau L ℚ) (turned : Nat → Bool)
    (inside outside : Fin L.constraints → Fin L.width) : Prop where
  canonical : tableau.Canonical inside
  second : tableau.phase = .second
  cover : ∀ column, (∃ row, inside row = column) ∨ ∃ row, outside row = column
  entries : ∀ row side : Fin L.constraints,
    (tableau.rows row).entries (outside side) = entry turned row side
  objective : ∀ side : Fin L.constraints,
    tableau.objective.entries (outside side) = cost turned L.constraints side
  target : ∀ row : Fin L.constraints, (tableau.rows row).target = height turned row

namespace Corner

variable {tableau : Tableau L ℚ} {turned : Nat → Bool}
  {inside outside : Fin L.constraints → Fin L.width}
  (corner : Corner tableau turned inside outside)

include corner

theorem pivot (side : Fin L.constraints) : (tableau.rows side).entries (outside side) = 1 := by
  rw [corner.entries, entry_self]

theorem pivot_ne_zero (side : Fin L.constraints) :
    (tableau.rows side).entries (outside side) ≠ 0 := by
  rw [corner.pivot side]
  exact one_ne_zero

/-- The crossed row stays as it is. -/
theorem rows_exchange_self (side : Fin L.constraints) :
    (tableau.exchange (outside side) side 0).rows side = tableau.rows side := by
  have row := row_exchange_exact tableau (outside side) side (corner.pivot_ne_zero side)
    (.constraint side)
  simp only [if_true, corner.pivot side] at row
  exact row.trans (Row.ext_cells (fun column => by simp) (by simp))

/-- Any other row loses a multiple of the crossed one. -/
theorem row_exchange_of_ne (side : Fin L.constraints) (index : RowIndex L)
    (other : index ≠ .constraint side) :
    (tableau.exchange (outside side) side 0).row index =
      (tableau.row index).eliminate ((tableau.row index).entries (outside side))
        (tableau.rows side) := by
  have unit : (tableau.rows side).divide 1 = tableau.rows side :=
    Row.ext_cells (fun column => by simp) (by simp)
  rw [row_exchange_exact tableau (outside side) side (corner.pivot_ne_zero side)]
  simp only [if_neg other, corner.pivot side, unit]

theorem rows_exchange_of_ne (side : Fin L.constraints) {row : Fin L.constraints}
    (other : row ≠ side) :
    (tableau.exchange (outside side) side 0).rows row =
      (tableau.rows row).eliminate (entry turned row side) (tableau.rows side) := by
  rw [← corner.entries row side]
  exact corner.row_exchange_of_ne side (.constraint row) (by simpa using other)

/-- Exchanging the columns of a row leads to another corner. -/
theorem exchange (side : Fin L.constraints) :
    Corner (tableau.exchange (outside side) side 0) (turn turned side)
      (Function.update inside side (outside side))
      (Function.update outside side (inside side)) where
  canonical := corner.canonical.exchange (corner.pivot_ne_zero side) 0
  second := corner.second
  cover column := by
    rcases corner.cover column with ⟨row, rfl⟩ | ⟨row, rfl⟩
    · by_cases crossed : row = side
      · subst crossed
        exact .inr ⟨row, Function.update_self ..⟩
      · exact .inl ⟨row, Function.update_of_ne crossed ..⟩
    · by_cases crossed : row = side
      · subst crossed
        exact .inl ⟨row, Function.update_self ..⟩
      · exact .inr ⟨row, Function.update_of_ne crossed ..⟩
  entries row other := by
    by_cases crossedRow : row = side
    · subst crossedRow
      rw [corner.rows_exchange_self row]
      by_cases crossed : other = row
      · subst crossed
        rw [Function.update_self, corner.canonical.entries_basic, if_pos rfl, entry_self]
      · rw [Function.update_of_ne crossed, corner.entries,
          entry_turn_row turned (Fin.val_ne_of_ne crossed)]
    · have otherRow := Fin.val_ne_of_ne crossedRow
      rw [corner.rows_exchange_of_ne side crossedRow, Row.entries_eliminate]
      by_cases crossed : other = side
      · subst crossed
        rw [Function.update_self, corner.canonical.entries_basic, if_neg crossedRow,
          corner.canonical.entries_basic, if_pos rfl, entry_turn_side turned otherRow]
        ring
      · rw [Function.update_of_ne crossed, corner.entries, corner.entries,
          entry_turn turned otherRow (Fin.val_ne_of_ne crossed)]
  objective other := by
    have row := corner.row_exchange_of_ne side .objective (by simp)
    have costs (column : Fin L.width) :
        (tableau.exchange (outside side) side 0).objective.entries column =
          tableau.objective.entries column -
            cost turned L.constraints side * (tableau.rows side).entries column := by
      rw [← corner.objective side, ← Row.entries_eliminate]
      exact congrArg (fun row => row.entries column) row
    rw [costs]
    by_cases crossed : other = side
    · subst crossed
      have zero : tableau.objective.entries (inside other) = 0 :=
        corner.canonical.entries_basic_of_ne .objective (by simp)
      rw [Function.update_self, zero, corner.canonical.entries_basic, if_pos rfl,
        cost_turn_crossed]
      ring
    · rw [Function.update_of_ne crossed, corner.objective, corner.entries,
        cost_turn turned _ (Fin.val_ne_of_ne crossed)]
  target row := by
    by_cases crossed : row = side
    · subst crossed
      rw [corner.rows_exchange_self row, corner.target, height_turn_of_le turned le_rfl]
    · rw [corner.rows_exchange_of_ne side crossed, Row.target_eliminate, corner.target,
        corner.target, height_turn turned (Fin.val_ne_of_ne crossed)]

end Corner

end Tableau

/-! ## The program of a skew cube -/

namespace SkewCube

/-- The side of a row: no more than its height along its own axis, with the axes before it counted
twice or more. -/
def face (row : Nat) : Constraint ℚ where
  coefficients := (List.range (row + 1)).map (slope row)
  relation := .atMost
  target := 5 ^ row
  coefficients_ne_nil := by simp

def faces (sides : Nat) : List (Constraint ℚ) :=
  (List.range sides).map face

def gains (sides : Nat) : List ℚ :=
  (List.range sides).map fun side => 2 ^ sides / 2 ^ side

theorem normalised_face (row : Nat) : (face row).normalised = face row := by
  have positive : (0 : ℚ) < 5 ^ row := by positivity
  exact if_pos (decide_eq_true positive.le)

theorem coefficients_face (row side : Nat) :
    (face row).coefficients[side]?.getD 0 = slope row side := by
  rcases Nat.lt_or_ge side (row + 1) with inside | outside
  · simp [face, inside]
  · rw [List.getElem?_eq_none (by simpa [face] using outside), slope_of_lt (by omega)]
    rfl

theorem faces_ne_nil {sides : Nat} (positive : 0 < sides) : faces sides ≠ [] := by
  rw [faces, Ne, List.map_eq_nil_iff, List.range_eq_nil]
  exact positive.ne'

theorem get_faces {sides : Nat} (row : Fin (faces sides).length) :
    (faces sides).get row = face row :=
  (List.getElem_map ..).trans (congrArg face (List.getElem_range ..))

theorem length_faces (sides : Nat) : (faces sides).length = sides := by
  simp [faces]

theorem countP_isInequality_take (sides row : Nat) (within : row ≤ sides) :
    ((faces sides).take row).countP Constraint.isInequality = row := by
  have all : ∀ constraint ∈ (faces sides).take row, constraint.isInequality = true := by
    intro constraint member
    obtain ⟨_, _, rfl⟩ := List.mem_map.mp (List.mem_of_mem_take member)
    rfl
  rw [List.countP_eq_length.mpr all, List.length_take, length_faces, min_eq_left within]

section Layout

variable {sides : Nat} (positive : 0 < sides)

/-- The first tableau of a skew cube. -/
def layout : Layout :=
  .ofConstraints (faces sides) (Tableau.costs .maximise (gains sides)).length
    (faces_ne_nil positive)

def start : Tableau (layout positive) ℚ :=
  .ofNormal .maximise (faces sides) (Tableau.costs .maximise (gains sides)) (faces_ne_nil positive)

theorem build_faces :
    Tableau.build (faces sides) (gains sides) .maximise =
      .ok ⟨layout positive, start positive⟩ := by
  have normal : (faces sides).map Constraint.normalised = faces sides := by
    rw [faces, List.map_map]
    exact List.map_congr_left fun row _ => normalised_face row
  have same : ∀ (constraints : List (Constraint ℚ)) (nonempty : constraints ≠ []),
      constraints = faces sides →
        (⟨_, Tableau.ofNormal .maximise constraints (Tableau.costs .maximise (gains sides))
          nonempty⟩ : Σ L : Layout, Tableau L ℚ) = ⟨layout positive, start positive⟩ := by
    rintro _ _ rfl
    rfl
  have nonempty : (faces sides).map Constraint.normalised ≠ [] := by
    rw [normal]
    exact faces_ne_nil positive
  exact (dif_neg nonempty).trans (congrArg Except.ok (same _ nonempty normal))

theorem constraints_layout : (layout positive).constraints = sides :=
  length_faces sides

theorem row_lt (row : Fin (layout positive).constraints) : row.val < sides :=
  row.isLt.trans_eq (constraints_layout positive)

theorem decisions_layout : (layout positive).decisions = sides := by
  have narrow : variableCount (faces sides) ≤ sides := by
    rw [variableCount_le_iff]
    intro constraint member
    obtain ⟨row, inside, rfl⟩ := List.mem_map.mp member
    have within := List.mem_range.mp inside
    simpa [face] using Nat.succ_le_of_lt within
  have costs : (Tableau.costs .maximise (gains sides)).length = sides := by
    simp [Tableau.costs, gains]
  rw [layout, Layout.ofConstraints, costs]
  exact max_eq_right narrow

theorem surplus_layout : (layout positive).surplus = sides := by
  have all := countP_isInequality_take sides sides le_rfl
  rwa [List.take_of_length_le (length_faces sides).le] at all

theorem artificial_layout : (layout positive).artificial = 0 := by
  apply List.countP_eq_zero.mpr
  intro constraint member
  obtain ⟨_, _, rfl⟩ := List.mem_map.mp member
  exact Bool.false_ne_true

theorem width_layout : (layout positive).width = sides + sides := by
  rw [Layout.width, Layout.structural, decisions_layout, surplus_layout, artificial_layout,
    Nat.add_zero]

def axis (side : Fin (layout positive).constraints) : Fin (layout positive).width :=
  ⟨side.val, by
    have within := row_lt positive side
    rw [width_layout]
    omega⟩

theorem firstBasic_val (row : Fin (layout positive).constraints) :
    (Tableau.firstBasic (faces sides) _ (faces_ne_nil positive) row).val = sides + row.val := by
  have needless : ((faces sides).get row).needsArtificial = false :=
    congrArg Constraint.needsArtificial (get_faces row)
  have position : Tableau.firstPosition (faces sides) (layout positive) row =
      (layout positive).surplusPosition (faces sides) row :=
    if_neg (Bool.not_eq_true _ ▸ needless)
  exact position.trans (by
    rw [Layout.surplusPosition, decisions_layout,
      countP_isInequality_take sides row (row_lt positive row).le])

theorem rows_start (row : Fin (layout positive).constraints) :
    (start positive).rows row =
      Row.ofConstraint (layout positive) (face row)
        ((layout positive).surplusPosition (faces sides) row)
        ((layout positive).artificialPosition (faces sides) row) :=
  (Tableau.rows_ofNormal .maximise _ _ (faces_ne_nil positive) row).trans
    (congrArg (fun constraint => Row.ofConstraint (layout positive) constraint _ _) (get_faces row))

theorem entries_start (row side : Fin (layout positive).constraints) :
    ((start positive).rows row).entries (axis positive side) = slope row side := by
  have inside : (axis positive side).val < (layout positive).decisions := by
    rw [decisions_layout]
    exact row_lt positive side
  rw [rows_start, Row.entries_ofConstraint, if_pos inside]
  exact coefficients_face row side

theorem objective_start (side : Fin (layout positive).constraints) :
    (start positive).objective.entries (axis positive side) = -(2 ^ sides / 2 ^ side.val) := by
  have entry : (start positive).objective.entries (axis positive side) =
      (Tableau.costs .maximise (gains sides))[side.val]?.getD 0 :=
    Tableau.entries_objective_ofNormal .maximise _ _ (faces_ne_nil positive) _
  rw [entry]
  simp [Tableau.costs, gains, row_lt positive side]

theorem target_start (row : Fin (layout positive).constraints) :
    ((start positive).rows row).target = 5 ^ row.val := by
  rw [rows_start]
  rfl

/-- The first tableau of a cube is at a corner where no side is turned. -/
theorem corner_start :
    (start positive).Corner (fun _ => false)
      (Tableau.firstBasic (faces sides) _ (faces_ne_nil positive)) (axis positive) where
  canonical := Tableau.canonical_ofNormal .maximise _ _ (faces_ne_nil positive)
  second := if_pos (artificial_layout positive)
  cover column := by
    have bound : column.val < sides + sides := column.isLt.trans_eq (width_layout positive)
    rcases Nat.lt_or_ge column sides with isAxis | isSurplus
    · exact .inr ⟨⟨column, isAxis.trans_eq (constraints_layout positive).symm⟩, rfl⟩
    · have row : column.val - sides < (layout positive).constraints := by
        rw [constraints_layout]
        omega
      refine .inl ⟨⟨column.val - sides, row⟩, Fin.ext ?_⟩
      rw [firstBasic_val positive]
      exact Nat.add_sub_of_le isSurplus
  entries row side := by rw [entries_start, entry_unturned]
  objective side := by
    rw [objective_start, cost_of_unturned _ _ rfl]
    simp only [constraints_layout]
  target row := by rw [target_start, height_unturned]

end Layout

end SkewCube

end TableauSimplex
