import TableauSimplex.Proofs.Tableau.Encoding

/-!
# How far a solution misses the constraints

The violation of a constraint at a point is what its form exceeds an upper bound by, what it is
short of a lower bound, or its distance from the target of an equation.  At the decision part of a
solution of the first tableau without negative values it is at most the artificial variable of the
constraint, so all violations together are at most the sum of the artificial variables.
-/

set_option autoImplicit false

namespace TableauSimplex

namespace Constraint

def violation (constraint : Constraint ℚ) (point : List ℚ) : ℚ :=
  match constraint.relation with
  | .atMost => max (dot constraint.coefficients point - constraint.target) 0
  | .equal => |dot constraint.coefficients point - constraint.target|
  | .atLeast => max (constraint.target - dot constraint.coefficients point) 0

/-- Whether a constraint holds at a point up to a margin. -/
def HoldsWithin (constraint : Constraint ℚ) (margin : ℚ) (point : List ℚ) : Prop :=
  match constraint.relation with
  | .atMost => dot constraint.coefficients point ≤ constraint.target + margin
  | .equal => |dot constraint.coefficients point - constraint.target| ≤ margin
  | .atLeast => constraint.target - margin ≤ dot constraint.coefficients point

theorem violation_nonneg (constraint : Constraint ℚ) (point : List ℚ) :
    0 ≤ constraint.violation point := by
  unfold violation
  cases constraint.relation with
  | atMost => exact le_max_right _ _
  | equal => exact abs_nonneg _
  | atLeast => exact le_max_right _ _

theorem holdsWithin_of_violation_le {constraint : Constraint ℚ} {margin : ℚ} {point : List ℚ}
    (bound : constraint.violation point ≤ margin) : constraint.HoldsWithin margin point := by
  unfold violation at bound
  unfold HoldsWithin
  cases relation : constraint.relation <;> simp only [relation] at bound ⊢
  · have excess := (le_max_left _ _).trans bound
    linarith
  · exact bound
  · have shortfall := (le_max_left _ _).trans bound
    linarith

theorem violation_negated (constraint : Constraint ℚ) (point : List ℚ) :
    constraint.negated.violation point = constraint.violation point := by
  unfold violation
  cases relation : constraint.relation <;>
    simp only [negated, relation, Relation.flip, dot_negated, neg_sub_neg]
  exact abs_sub_comm _ _

theorem violation_normalised (constraint : Constraint ℚ) (point : List ℚ) :
    constraint.normalised.violation point = constraint.violation point := by
  unfold normalised
  split
  · rfl
  · exact constraint.violation_negated point

/-- The artificial variable bounds what the surplus variable cannot make up for. -/
theorem violation_le_artificial {constraint : Constraint ℚ} {point : List ℚ}
    {surplus artificial : ℚ} (surplus_nonneg : 0 ≤ surplus) (artificial_nonneg : 0 ≤ artificial)
    (equation : dot constraint.coefficients point +
      Row.signEntry constraint.relation * surplus +
        (if constraint.needsArtificial then artificial else 0) = constraint.target) :
    constraint.violation point ≤ if constraint.needsArtificial then artificial else 0 := by
  unfold violation
  cases relation : constraint.relation <;>
    simp [needsArtificial, relation] at equation ⊢
  · linarith
  · rw [abs_le]
    constructor <;> linarith
  · exact ⟨by linarith, artificial_nonneg⟩

end Constraint

/-! ## All constraints together -/

theorem Layout.sum_le_artificialSum {L : Layout} {vector : Fin L.width → ℚ}
    (nonneg : ∀ column, 0 ≤ vector column) {count : Nat} {column : Fin count → Fin L.width}
    (injective : Function.Injective column) :
    (∑ index, if L.structural ≤ (column index).val then vector (column index) else 0) ≤
      L.artificialSum vector := by
  have summand (column : Fin L.width) :
      0 ≤ if L.structural ≤ column.val then vector column else 0 := by
    split
    · exact nonneg column
    · exact le_rfl
  have image := Finset.sum_image (s := Finset.univ) (g := column)
    (f := fun column => if L.structural ≤ column.val then vector column else 0)
    fun first _ second _ same => injective same
  rw [← image]
  exact Finset.sum_le_univ_sum_of_nonneg summand

namespace Tableau

theorem sum_violation_ofNormal (sense : Sense) (constraints : List (Constraint ℚ))
    (nonempty : constraints ≠ []) (costs : List ℚ)
    {vector : Fin (Layout.ofConstraints constraints costs.length nonempty).width → ℚ}
    (solves : (ofNormal sense constraints costs nonempty).Solves vector)
    (nonneg : ∀ column, 0 ≤ vector column) :
    (constraints.map fun constraint =>
        constraint.violation (Layout.decisionPart _ vector)).sum ≤
      Layout.artificialSum _ vector := by
  have injective := (canonical_ofNormal sense constraints costs nonempty).injective
  refine le_trans ?_ (Layout.sum_le_artificialSum nonneg injective)
  rw [← Fin.sum_univ_fun_getElem]
  apply Finset.sum_le_sum
  intro row _
  have equation := (solves_ofNormal_iff sense constraints costs nonempty vector).mp solves row
  have bound := Constraint.violation_le_artificial
    (Layout.component_nonneg nonneg _) (Layout.component_nonneg nonneg _) equation
  have placed := placed_ofConstraints constraints costs.length nonempty row
  refine bound.trans ?_
  split
  · rename_i needs
    have position : (firstBasic constraints costs.length nonempty row).val =
        Layout.artificialPosition _ constraints row := if_pos needs
    rw [position, if_pos placed.artificial_ge, Layout.component,
      dif_pos (placed.artificial_lt needs)]
    exact (congrArg vector (Fin.ext position)).symm.le
  · split
    · exact nonneg _
    · exact le_rfl

/-- At a solution of the first tableau the violations add up to at most the sum of the artificial
variables. -/
theorem sum_violation_of_build {constraints : List (Constraint ℚ)} {objective : List ℚ}
    {sense : Sense} {L : Layout} {start : Tableau L ℚ}
    (built : build constraints objective sense = .ok ⟨L, start⟩) {vector : Fin L.width → ℚ}
    (solves : start.Solves vector) (nonneg : ∀ column, 0 ≤ vector column) :
    (constraints.map fun constraint => constraint.violation (L.decisionPart vector)).sum ≤
      L.artificialSum vector := by
  obtain ⟨nonempty, same⟩ := exists_ofNormal_of_build built
  cases same
  have bound := sum_violation_ofNormal sense _ nonempty _ solves nonneg
  simpa only [List.map_map, Function.comp_def, Constraint.violation_normalised] using bound

end Tableau

end TableauSimplex
