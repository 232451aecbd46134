import Mathlib.Data.List.Basic
import TableauSimplex.Proofs.Solver.Step
import TableauSimplex.Proofs.Tableau.Meaning
import TableauSimplex.Tableau.Build

/-!
# The first tableau

The surplus and artificial columns of the rows do not meet, so the first tableau of normal
constraints is in canonical form.  It represents the program it was built from, and its targets
are those of the normal constraints.
-/

set_option autoImplicit false

namespace TableauSimplex

/-! ## Counting what stands before a position -/

section Counting

variable {β : Type} {marked : β → Bool} {items : List β}

theorem countP_take_lt {first second : Nat} (before : first < second)
    (bound : first < items.length) (isMarked : marked items[first] = true) :
    (items.take first).countP marked < (items.take second).countP marked := by
  have step : (items.take (first + 1)).countP marked = (items.take first).countP marked + 1 := by
    rw [List.take_succ_eq_append_getElem bound, List.countP_append]
    simp [isMarked]
  have sublist : (items.take (first + 1)).Sublist (items.take second) :=
    (List.take_prefix_take_left before).sublist
  have grows := sublist.countP_le (p := marked)
  omega

theorem countP_take_lt_countP {position : Nat} (bound : position < items.length)
    (isMarked : marked items[position] = true) :
    (items.take position).countP marked < items.countP marked := by
  have less := countP_take_lt bound bound isMarked
  rwa [List.take_length] at less

theorem countP_take_injective {first second : Fin items.length}
    (firstMarked : marked (items.get first) = true)
    (secondMarked : marked (items.get second) = true)
    (same : (items.take first).countP marked = (items.take second).countP marked) :
    first = second := by
  rcases lt_trichotomy first second with before | equal | after
  · exact absurd same (countP_take_lt before first.isLt firstMarked).ne
  · exact equal
  · exact absurd same (countP_take_lt after second.isLt secondMarked).ne'

end Counting

/-! ## Sums over the columns -/

section Sums

variable {width : Nat}

theorem sum_ite_val (position : Nat) (value : Fin width → ℚ) :
    (∑ column : Fin width, if column.val = position then value column else 0) =
      if bound : position < width then value ⟨position, bound⟩ else 0 := by
  split
  · rename_i bound
    have same (column : Fin width) : column.val = position ↔ column = ⟨position, bound⟩ := by
      rw [Fin.ext_iff]
    simp [same]
  · rename_i outside
    apply Finset.sum_eq_zero
    intro column _
    have inside := column.isLt
    exact if_neg (by omega)

theorem sum_ite_lt {size : Nat} (fits : size ≤ width) (value : Fin width → ℚ) :
    (∑ column : Fin width, if column.val < size then value column else 0) =
      ∑ index : Fin size, value (index.castLE fits) := by
  symm
  refine Finset.sum_of_injOn (Fin.castLE fits) (Fin.castLE_injective fits).injOn
    (fun _ _ => Finset.mem_univ _) ?_ (fun index _ => ?_)
  · intro column _ outside
    apply if_neg
    intro inside
    exact outside ⟨⟨column.val, inside⟩, by simp, rfl⟩
  · simp

end Sums

/-! ## The row of a constraint -/

namespace Constraint

theorem eq_equal_or_isInequality (constraint : Constraint ℚ) :
    constraint.relation = .equal ∨ constraint.isInequality = true := by
  cases relation : constraint.relation <;> simp [isInequality, relation]

theorem eq_atMost_of_not_needsArtificial {α : Type} {constraint : Constraint α}
    (needless : ¬ constraint.needsArtificial = true) : constraint.relation = .atMost := by
  simpa [needsArtificial] using needless

end Constraint

namespace Layout

variable (L : Layout)

def component (vector : Fin L.width → ℚ) (position : Nat) : ℚ :=
  if bound : position < L.width then vector ⟨position, bound⟩ else 0

end Layout

namespace Row

variable {L : Layout}

/-- Where the surplus and the artificial column of a constraint may stand. -/
structure Placed {α : Type} (L : Layout) (constraint : Constraint α) (surplus artificial : Nat) :
    Prop where
  fits : constraint.coefficients.length ≤ L.decisions
  surplus_ge : L.decisions ≤ surplus
  surplus_lt : constraint.isInequality = true → surplus < L.structural
  artificial_ge : L.structural ≤ artificial
  artificial_lt : constraint.needsArtificial = true → artificial < L.width

@[simp] theorem signEntry_atMost : (signEntry .atMost : ℚ) = 1 :=
  rfl

@[simp] theorem signEntry_equal : (signEntry .equal : ℚ) = 0 :=
  rfl

@[simp] theorem signEntry_atLeast : (signEntry .atLeast : ℚ) = -1 :=
  rfl

theorem entries_ofConstraint (L : Layout) (constraint : Constraint ℚ) (surplus artificial : Nat)
    (column : Fin L.width) :
    (ofConstraint L constraint surplus artificial).entries column =
      if column.val < L.decisions then constraint.coefficients[column.val]?.getD 0
      else if column.val < L.structural then
        if constraint.isInequality ∧ column.val = surplus then signEntry constraint.relation else 0
      else if constraint.needsArtificial ∧ column.val = artificial then 1
      else 0 := by
  simp only [ofConstraint, Family.get_ofFn, List.getElem?_toArray]

theorem entries_ofConstraint_mul {constraint : Constraint ℚ} {surplus artificial : Nat}
    (placed : Placed L constraint surplus artificial) (column : Fin L.width) (value : ℚ) :
    (ofConstraint L constraint surplus artificial).entries column * value =
      (if column.val < L.decisions then
          constraint.coefficients[column.val]?.getD 0 * value else 0) +
        (if column.val = surplus then signEntry constraint.relation * value else 0) +
          (if column.val = artificial then
            if constraint.needsArtificial then value else 0 else 0) := by
  have below := L.decisions_le_structural
  have surplusGe := placed.surplus_ge
  have artificialGe := placed.artificial_ge
  rw [entries_ofConstraint]
  rcases lt_or_ge column.val L.decisions with isDecision | notDecision
  · rw [if_pos isDecision, if_pos isDecision, if_neg (by omega), if_neg (by omega)]
    ring
  · rw [if_neg (not_lt.mpr notDecision), if_neg (not_lt.mpr notDecision)]
    rcases lt_or_ge column.val L.structural with isSurplus | notSurplus
    · rw [if_pos isSurplus, if_neg (by omega : ¬ column.val = artificial)]
      rcases constraint.eq_equal_or_isInequality with isEqual | isInequality
      · simp [isEqual, Constraint.isInequality]
      · simp [isInequality]
    · rw [if_neg (not_lt.mpr notSurplus)]
      have noSurplus : (if column.val = surplus then
          signEntry constraint.relation * value else 0) = 0 := by
        split
        · rename_i here
          rcases constraint.eq_equal_or_isInequality with isEqual | isInequality
          · simp [isEqual]
          · have bound := placed.surplus_lt isInequality
            omega
        · rfl
      rw [noSurplus]
      by_cases here : column.val = artificial <;> simp [here]

/-- The form of a constraint's row is the form of the constraint with the surplus and the
artificial variable added. -/
theorem form_ofConstraint {constraint : Constraint ℚ} {surplus artificial : Nat}
    (placed : Placed L constraint surplus artificial) (vector : Fin L.width → ℚ) :
    (ofConstraint L constraint surplus artificial).form vector =
      dot constraint.coefficients (L.decisionPart vector) +
        signEntry constraint.relation * L.component vector surplus +
          if constraint.needsArtificial then L.component vector artificial else 0 := by
  have decisionsLe := L.decisions_le_structural.trans L.structural_le_width
  simp only [form, entries_ofConstraint_mul placed, Finset.sum_add_distrib]
  rw [sum_ite_val, sum_ite_val, sum_ite_lt decisionsLe, Layout.decisionPart,
    dot_ofFn _ _ placed.fits]
  congr 1
  · congr 1
    rw [Layout.component]
    split <;> simp
  · rw [Layout.component]
    by_cases needs : constraint.needsArtificial <;> simp [needs]

end Row

/-! ## The basis of the first tableau -/

namespace Tableau

section OfNormal

variable {α : Type} (constraints : List (Constraint α)) (costs : Nat)
  (nonempty : constraints ≠ [])

theorem placed_ofConstraints (row : Fin constraints.length) :
    let L := Layout.ofConstraints constraints costs nonempty
    Row.Placed L (constraints.get row) (L.surplusPosition constraints row)
      (L.artificialPosition constraints row) where
  fits := (coefficients_length_le (List.get_mem _ _)).trans (le_max_left _ _)
  surplus_ge := Nat.le_add_right _ _
  surplus_lt isInequality :=
    Nat.add_lt_add_left (countP_take_lt_countP row.isLt isInequality) _
  artificial_ge := Nat.le_add_right _ _
  artificial_lt needs := Nat.add_lt_add_left (countP_take_lt_countP row.isLt needs) _

/-- A row starts with its artificial column in the basis if it needs one, and with its surplus
column otherwise. -/
def firstPosition (L : Layout) (row : Fin constraints.length) : Nat :=
  if (constraints.get row).needsArtificial then L.artificialPosition constraints row
  else L.surplusPosition constraints row

theorem firstPosition_lt (row : Fin constraints.length) :
    let L := Layout.ofConstraints constraints costs nonempty
    firstPosition constraints L row < L.width := by
  intro L
  have placed := placed_ofConstraints constraints costs nonempty row
  unfold firstPosition
  split
  · rename_i needs
    exact placed.artificial_lt needs
  · rename_i needless
    have isInequality : (constraints.get row).isInequality = true := by
      rw [Constraint.isInequality, Constraint.eq_atMost_of_not_needsArtificial needless]
      rfl
    exact (placed.surplus_lt isInequality).trans_le L.structural_le_width

def firstBasic :
    let L := Layout.ofConstraints constraints costs nonempty
    Fin L.constraints → Fin L.width :=
  fun row => ⟨firstPosition constraints _ row, firstPosition_lt constraints costs nonempty row⟩

theorem decisions_le_firstPosition (row : Fin constraints.length) :
    let L := Layout.ofConstraints constraints costs nonempty
    L.decisions ≤ firstPosition constraints L row := by
  intro L
  have placed := placed_ofConstraints constraints costs nonempty row
  unfold firstPosition
  split
  · exact L.decisions_le_structural.trans placed.artificial_ge
  · exact placed.surplus_ge

theorem basis_ofNormal [Scalar α] (sense : Sense) (costs : List α)
    (row : Fin (Layout.ofConstraints constraints costs.length nonempty).constraints) :
    (ofNormal sense constraints costs nonempty).basis row =
      (firstBasic constraints costs.length nonempty row).val :=
  (Family.get_map _ _ _).trans (congrArg Int.ofNat (Family.get_ofFn _ _))

end OfNormal

section OfNormal

variable (constraints : List (Constraint ℚ)) (costs : Nat) (nonempty : constraints ≠ [])

/-- Among the constraint rows the first basic columns are unit columns. -/
theorem entries_firstBasic (row other : Fin constraints.length) :
    let L := Layout.ofConstraints constraints costs nonempty
    (Row.ofConstraint L (constraints.get other) (L.surplusPosition constraints other)
      (L.artificialPosition constraints other)).entries
        (firstBasic constraints costs nonempty row) = if other = row then 1 else 0 := by
  intro L
  have placed := placed_ofConstraints constraints costs nonempty row
  have below := L.decisions_le_structural
  have position : (firstBasic constraints costs nonempty row).val =
      firstPosition constraints L row := rfl
  have decisionsLe := decisions_le_firstPosition constraints costs nonempty row
  rw [Row.entries_ofConstraint, position, if_neg (not_lt.mpr decisionsLe)]
  by_cases needs : (constraints.get row).needsArtificial
  · have here : firstPosition constraints L row = L.artificialPosition constraints row :=
      if_pos needs
    have artificialGe := placed.artificial_ge
    rw [here, if_neg (not_lt.mpr artificialGe)]
    by_cases same : other = row
    · subst same
      rw [if_pos ⟨needs, rfl⟩, if_pos rfl]
    · rw [if_neg same, if_neg]
      rintro ⟨otherNeeds, equal⟩
      exact same (countP_take_injective otherNeeds needs (Nat.add_left_cancel equal).symm)
  · have isAtMost := Constraint.eq_atMost_of_not_needsArtificial needs
    have isInequality : (constraints.get row).isInequality = true := by
      rw [Constraint.isInequality, isAtMost]
      rfl
    have here : firstPosition constraints L row = L.surplusPosition constraints row :=
      if_neg needs
    rw [here, if_pos (placed.surplus_lt isInequality)]
    by_cases same : other = row
    · subst same
      rw [if_pos ⟨isInequality, rfl⟩, isAtMost, if_pos rfl]
      rfl
    · rw [if_neg same, if_neg]
      rintro ⟨otherInequality, equal⟩
      exact same (countP_take_injective otherInequality isInequality
        (Nat.add_left_cancel equal).symm)

end OfNormal

/-! ## The residual row -/

section Residual

variable {L : Layout} (rows : Fin L.constraints → Row L.width ℚ)
  (basic : Fin L.constraints → Fin L.width)

theorem clearBasic_some (objective row : Row L.width ℚ) (column : Fin L.width) :
    clearBasic objective row (some column) =
      objective.eliminate (objective.entries column) row := by
  unfold clearBasic
  simp only
  split
  · rename_i isZero
    have zero : objective.entries column = 0 := of_decide_eq_true isZero
    exact Row.ext_cells (by simp [zero]) (by simp [zero])
  · rfl

/-- Clearing the basic columns row by row leaves zeros in those of the rows that were used. -/
theorem entries_foldl_eliminate
    (unit : ∀ row other, (rows other).entries (basic row) = if other = row then 1 else 0)
    (start : Row L.width ℚ) (used : List (Fin L.constraints)) (row : Fin L.constraints) :
    (used.foldl (fun objective next =>
        objective.eliminate (objective.entries (basic next)) (rows next)) start).entries
          (basic row) =
      if row ∈ used then 0 else start.entries (basic row) := by
  induction used generalizing start with
  | nil => simp
  | cons next rest induction =>
      rw [List.foldl_cons, induction, Row.entries_eliminate, unit]
      by_cases later : row ∈ rest
      · simp [later]
      · by_cases here : next = row
        · subst here
          simp [later]
        · simp [later, here, Ne.symm here]

theorem gap_foldl_eliminate {vector : Fin L.width → ℚ}
    (solves : ∀ row, (rows row).gap vector = 0) (start : Row L.width ℚ)
    (used : List (Fin L.constraints)) :
    (used.foldl (fun objective next =>
        objective.eliminate (objective.entries (basic next)) (rows next)) start).gap vector =
      start.gap vector := by
  induction used generalizing start with
  | nil => rfl
  | cons next rest induction =>
      rw [List.foldl_cons, induction, Row.gap_eliminate, solves next]
      ring

theorem gap_artificialCount (vector : Fin L.width → ℚ) :
    (artificialCount L).gap vector = L.artificialSum vector := by
  have target : (artificialCount L : Row L.width ℚ).target = 0 := rfl
  rw [Row.gap, target, sub_zero, Row.form, Layout.artificialSum]
  apply Finset.sum_congr rfl
  intro column _
  by_cases isArtificial : L.structural ≤ column.val <;>
    simp [artificialCount, Layout.isArtificial, isArtificial]

end Residual

/-! ## The tableau of normal constraints -/

section OfNormal

variable (sense : Sense) (constraints : List (Constraint ℚ)) (costs : List ℚ)
  (nonempty : constraints ≠ [])

theorem rows_ofNormal
    (row : Fin (Layout.ofConstraints constraints costs.length nonempty).constraints) :
    let L := Layout.ofConstraints constraints costs.length nonempty
    (ofNormal sense constraints costs nonempty).rows row =
      Row.ofConstraint L (constraints.get row) (L.surplusPosition constraints row)
        (L.artificialPosition constraints row) :=
  Family.get_ofFn _ _

theorem residual_ofNormal :
    (ofNormal sense constraints costs nonempty).residual =
      (Layout.ofConstraints constraints costs.length nonempty).constraintRows.foldl
        (fun objective next =>
          objective.eliminate
            (objective.entries (firstBasic constraints costs.length nonempty next))
            ((ofNormal sense constraints costs nonempty).rows next))
        (artificialCount _) := by
  apply congrArg fun step => List.foldl step _ _
  funext objective next
  have column : (Layout.ofConstraints constraints costs.length nonempty).column?
      (firstBasic constraints costs.length nonempty next).val =
        some (firstBasic constraints costs.length nonempty next) :=
    dif_pos (firstBasic constraints costs.length nonempty next).isLt
  rw [← clearBasic_some, ← column]
  exact congrArg (fun position => clearBasic objective _ (Layout.column? _ position))
    (Family.get_ofFn _ _)

theorem entries_objective_ofNormal
    (column : Fin (Layout.ofConstraints constraints costs.length nonempty).width) :
    (ofNormal sense constraints costs nonempty).objective.entries column =
      costs[column.val]?.getD 0 := by
  simp only [ofNormal, Family.get_ofFn, List.getElem?_toArray]

theorem canonical_ofNormal :
    Canonical (ofNormal sense constraints costs nonempty)
      (firstBasic constraints costs.length nonempty) where
  basis_eq := basis_ofNormal constraints nonempty sense costs
  unit row := by
    have unit (row other : Fin (Layout.ofConstraints constraints costs.length
        nonempty).constraints) :
        ((ofNormal sense constraints costs nonempty).rows other).entries
            (firstBasic constraints costs.length nonempty row) = if other = row then 1 else 0 := by
      rw [rows_ofNormal]
      exact entries_firstBasic constraints costs.length nonempty row other
    intro index
    cases index with
    | residual =>
        have cleared : (ofNormal sense constraints costs nonempty).residual.entries
            (firstBasic constraints costs.length nonempty row) = 0 := by
          rw [residual_ofNormal, entries_foldl_eliminate _ _ unit, if_pos]
          exact List.mem_finRange row
        simpa [Tableau.row] using cleared
    | objective =>
        have decisionsLe := decisions_le_firstPosition constraints costs.length nonempty row
        have behind : costs.length ≤ (firstBasic constraints costs.length nonempty row).val :=
          (le_max_right _ _).trans decisionsLe
        have zero := entries_objective_ofNormal sense constraints costs nonempty
          (firstBasic constraints costs.length nonempty row)
        rw [List.getElem?_eq_none behind] at zero
        simpa [Tableau.row] using zero
    | constraint other => simpa [Tableau.row] using unit row other

theorem admissible_ofNormal (normal : ∀ constraint ∈ constraints, 0 ≤ constraint.target) :
    Admissible (ofNormal sense constraints costs nonempty)
      (firstBasic constraints costs.length nonempty) where
  canonical := canonical_ofNormal sense constraints costs nonempty
  targets_nonneg row := by
    rw [rows_ofNormal]
    exact normal _ (List.get_mem constraints row)
  idle second row artificial := by
    have noArtificial :
        (Layout.ofConstraints constraints costs.length nonempty).artificial = 0 := by
      by_contra positive
      have first : (ofNormal sense constraints costs nonempty).phase = .first := if_neg positive
      rw [first] at second
      cases second
    have bound := (firstBasic constraints costs.length nonempty row).isLt
    simp only [Layout.width, noArtificial] at bound
    omega

theorem solves_ofNormal_iff
    (vector : Fin (Layout.ofConstraints constraints costs.length nonempty).width → ℚ) :
    let L := Layout.ofConstraints constraints costs.length nonempty
    (ofNormal sense constraints costs nonempty).Solves vector ↔
      ∀ row : Fin constraints.length,
        dot (constraints.get row).coefficients (L.decisionPart vector) +
            Row.signEntry (constraints.get row).relation *
              L.component vector (L.surplusPosition constraints row) +
              (if (constraints.get row).needsArtificial then
                L.component vector (L.artificialPosition constraints row) else 0) =
          (constraints.get row).target := by
  apply forall_congr'
  intro row
  rw [rows_ofNormal, Row.gap,
    Row.form_ofConstraint (placed_ofConstraints constraints costs.length nonempty row)]
  exact sub_eq_zero

end OfNormal

end Tableau

end TableauSimplex
