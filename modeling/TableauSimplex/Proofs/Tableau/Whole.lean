import TableauSimplex.Proofs.Tableau.Determinant
import TableauSimplex.Proofs.Tableau.Encoding

/-!
# The first tableau of a program in whole numbers

If a program is given in whole numbers, its first tableau holds whole numbers.  Its determinants are
bounded by the size of the coefficients and the number of the constraints.
-/

set_option autoImplicit false

namespace TableauSimplex

/-! ## Bounded whole numbers -/

theorem mem_wholeNumbers_of_den {x : ℚ} (whole : x.den = 1) : x ∈ wholeNumbers :=
  ⟨x.num, Rat.coe_int_num_of_den_eq_one whole⟩

def SmallWhole (size x : ℚ) : Prop :=
  x ∈ wholeNumbers ∧ |x| ≤ size

theorem SmallWhole.neg {size x : ℚ} (whole : SmallWhole size x) : SmallWhole size (-x) :=
  ⟨neg_mem whole.1, by rw [abs_neg]; exact whole.2⟩

section Large

variable {size : ℚ} (large : 1 ≤ size)

include large

theorem smallWhole_zero : SmallWhole size 0 :=
  ⟨zero_mem _, by rw [abs_zero]; exact zero_le_one.trans large⟩

theorem smallWhole_one : SmallWhole size 1 :=
  ⟨one_mem _, by rwa [abs_one]⟩

theorem smallWhole_getD {numbers : List ℚ} (whole : ∀ x ∈ numbers, SmallWhole size x)
    (position : Nat) : SmallWhole size (numbers[position]?.getD 0) := by
  cases found : numbers[position]? with
  | none => exact smallWhole_zero large
  | some x => exact whole x (List.mem_of_getElem? found)

end Large

/-- Whether the numbers of a constraint are whole and its coefficients bounded. -/
structure Constraint.Whole (constraint : Constraint ℚ) (size : ℚ) : Prop where
  coefficient : ∀ x ∈ constraint.coefficients, SmallWhole size x
  target : constraint.target ∈ wholeNumbers

theorem Constraint.Whole.normalised {constraint : Constraint ℚ} {size : ℚ}
    (whole : constraint.Whole size) : constraint.normalised.Whole size := by
  unfold Constraint.normalised
  split
  · exact whole
  · refine ⟨?_, neg_mem whole.target⟩
    intro x member
    obtain ⟨coefficient, isCoefficient, rfl⟩ := List.mem_map.mp member
    exact (whole.coefficient coefficient isCoefficient).neg

/-! ## Rows -/

namespace Row

variable {width : Nat}

def Whole (row : Row width ℚ) : Prop :=
  ∀ cell, row.cell cell ∈ wholeNumbers

theorem Whole.eliminate {row lead : Row width ℚ} (whole : row.Whole) (leadWhole : lead.Whole)
    {factor : ℚ} (factorWhole : factor ∈ wholeNumbers) : (row.eliminate factor lead).Whole := by
  intro cell
  cases cell with
  | entry column =>
      have entry : (row.eliminate factor lead).cell (.entry column) =
          row.entries column - factor * lead.entries column := entries_eliminate ..
      rw [entry]
      exact sub_mem (whole (.entry column)) (mul_mem factorWhole (leadWhole (.entry column)))
  | target => exact sub_mem (whole .target) (mul_mem factorWhole (leadWhole .target))

theorem whole_foldl_eliminate {β : Type} {lead : β → Row width ℚ} {column : β → Fin width}
    (leadWhole : ∀ item, (lead item).Whole) (items : List β) {row : Row width ℚ}
    (whole : row.Whole) :
    (items.foldl (fun row item => row.eliminate (row.entries (column item)) (lead item))
      row).Whole := by
  induction items generalizing row with
  | nil => exact whole
  | cons item rest induction =>
      exact induction (whole.eliminate (leadWhole item) (whole (.entry (column item))))

theorem smallWhole_ofConstraint {constraint : Constraint ℚ} {size : ℚ} (large : 1 ≤ size)
    (whole : constraint.Whole size) (L : Layout) (surplus artificial : Nat)
    (column : Fin L.width) :
    SmallWhole size ((ofConstraint L constraint surplus artificial).entries column) := by
  have zero := smallWhole_zero large
  have one := smallWhole_one large
  rw [entries_ofConstraint]
  split
  · exact smallWhole_getD large whole.coefficient column.val
  · split
    · split
      · cases constraint.relation with
        | atMost => exact one
        | equal => exact zero
        | atLeast => exact one.neg
      · exact zero
    · split
      · exact one
      · exact zero

theorem whole_ofConstraint {constraint : Constraint ℚ} {size : ℚ} (large : 1 ≤ size)
    (whole : constraint.Whole size) (L : Layout) (surplus artificial : Nat) :
    (ofConstraint L constraint surplus artificial).Whole := by
  intro cell
  cases cell with
  | entry column => exact (smallWhole_ofConstraint large whole L surplus artificial column).1
  | target => exact whole.target

end Row

/-! ## The first tableau -/

namespace Tableau

theorem whole_artificialCount (L : Layout) : (artificialCount L : Row L.width ℚ).Whole := by
  intro cell
  cases cell with
  | entry column =>
      simp only [Row.cell, artificialCount, Family.get_ofFn]
      split
      · exact one_mem _
      · exact zero_mem _
  | target => exact zero_mem _

section OfNormal

variable {size : ℚ} (large : 1 ≤ size) (sense : Sense) {constraints : List (Constraint ℚ)}
  (nonempty : constraints ≠ []) {costs : List ℚ}
  (whole : ∀ constraint ∈ constraints, constraint.Whole size)

include large whole

theorem smallWhole_rows_ofNormal
    (row : Fin (Layout.ofConstraints constraints costs.length nonempty).constraints)
    (column : Fin (Layout.ofConstraints constraints costs.length nonempty).width) :
    SmallWhole size (((ofNormal sense constraints costs nonempty).rows row).entries column) := by
  rw [rows_ofNormal]
  exact Row.smallWhole_ofConstraint large (whole _ (List.get_mem constraints row)) _ _ _ column

theorem whole_ofNormal (costsWhole : ∀ x ∈ costs, x ∈ wholeNumbers)
    (index : RowIndex (Layout.ofConstraints constraints costs.length nonempty)) :
    ((ofNormal sense constraints costs nonempty).row index).Whole := by
  have rows (row : Fin (Layout.ofConstraints constraints costs.length nonempty).constraints) :
      ((ofNormal sense constraints costs nonempty).rows row).Whole := by
    rw [rows_ofNormal]
    exact Row.whole_ofConstraint large (whole _ (List.get_mem constraints row)) _ _ _
  cases index with
  | constraint row => exact rows row
  | residual =>
      have residual := residual_ofNormal sense constraints costs nonempty
      rw [Tableau.row, residual]
      exact Row.whole_foldl_eliminate rows _ (whole_artificialCount _)
  | objective =>
      intro cell
      cases cell with
      | target => exact zero_mem _
      | entry column =>
          rw [Tableau.row, Row.cell, entries_objective_ofNormal]
          cases found : costs[column.val]? with
          | none => exact zero_mem _
          | some x => exact costsWhole x (List.mem_of_getElem? found)

/-- A determinant adds up one product of entries for every permutation. -/
theorem wholeWithin_ofNormal (costsWhole : ∀ x ∈ costs, x ∈ wholeNumbers) :
    (ofNormal sense constraints costs nonempty).WholeWithin
      (constraints.length.factorial * size ^ constraints.length) where
  cell := whole_ofNormal large sense nonempty whole costsWhole
  det_le chosen := by
    have entry (row position : Fin constraints.length) :
        AbsoluteValue.abs ((ofNormal sense constraints costs nonempty).columnMatrix chosen
          row position) ≤ size :=
      (smallWhole_rows_ofNormal large sense nonempty whole row (chosen position)).2
    have bound := Matrix.det_le entry
    rw [Fintype.card_fin, nsmul_eq_mul] at bound
    exact bound

end OfNormal

theorem costs_mem_wholeNumbers (sense : Sense) {objective : List ℚ}
    (whole : ∀ x ∈ objective, x ∈ wholeNumbers) :
    ∀ x ∈ costs sense objective, x ∈ wholeNumbers := by
  cases sense with
  | minimise => exact whole
  | maximise =>
      intro x member
      obtain ⟨coefficient, isCoefficient, rfl⟩ := List.mem_map.mp member
      exact neg_mem (whole coefficient isCoefficient)

theorem wholeWithin_of_build {size : ℚ} (large : 1 ≤ size) {constraints : List (Constraint ℚ)}
    {objective : List ℚ} {sense : Sense} {L : Layout} {start : Tableau L ℚ}
    (built : build constraints objective sense = .ok ⟨L, start⟩)
    (whole : ∀ constraint ∈ constraints, constraint.Whole size)
    (objectiveWhole : ∀ x ∈ objective, x ∈ wholeNumbers) :
    start.WholeWithin (constraints.length.factorial * size ^ constraints.length) := by
  have normal : ∀ constraint ∈ constraints.map Constraint.normalised, constraint.Whole size := by
    intro constraint member
    obtain ⟨original, isOriginal, rfl⟩ := List.mem_map.mp member
    exact (whole original isOriginal).normalised
  obtain ⟨nonempty, same⟩ := exists_ofNormal_of_build built
  cases same
  have within := wholeWithin_ofNormal large sense nonempty normal
    (costs_mem_wholeNumbers sense objectiveWhole)
  rwa [List.length_map] at within

end Tableau

end TableauSimplex
