import TableauSimplex.Proofs.Tableau.Build

/-!
# The first tableau represents its program

The surplus variable of a constraint is what its form is short of its target, counted with the
sign of its relation.  A point is feasible exactly if these are not negative, and together with
them it solves the first tableau.
-/

set_option autoImplicit false

namespace TableauSimplex

/-! ## Surplus variables -/

namespace Constraint

def slack (constraint : Constraint ℚ) (point : List ℚ) : ℚ :=
  Row.signEntry constraint.relation *
    (constraint.target - dot constraint.coefficients point)

theorem slack_nonneg {constraint : Constraint ℚ} {point : List ℚ}
    (holds : constraint.Holds point) : 0 ≤ constraint.slack point := by
  unfold Holds at holds
  unfold slack
  cases relation : constraint.relation <;> simp only [relation, Relation.Compares] at holds <;>
    simp <;> linarith

/-- A constraint holds if the surplus variable makes up for what is missing. -/
theorem holds_of_surplus {constraint : Constraint ℚ} {point : List ℚ} {surplus : ℚ}
    (nonneg : 0 ≤ surplus)
    (equation : dot constraint.coefficients point +
      Row.signEntry constraint.relation * surplus = constraint.target) :
    constraint.Holds point := by
  unfold Holds
  cases relation : constraint.relation <;> simp only [Relation.Compares] <;>
    simp [relation] at equation <;> linarith

theorem surplus_of_holds {constraint : Constraint ℚ} {point : List ℚ} {surplus : ℚ}
    (holds : constraint.Holds point)
    (chosen : constraint.isInequality = true → surplus = constraint.slack point) :
    dot constraint.coefficients point + Row.signEntry constraint.relation * surplus =
      constraint.target := by
  unfold Holds at holds
  unfold slack isInequality at chosen
  cases relation : constraint.relation with
  | equal => simpa [relation, Relation.Compares] using holds
  | atMost =>
      rw [relation] at chosen
      simp [chosen rfl]
  | atLeast =>
      rw [relation] at chosen
      simp [chosen rfl]

end Constraint

namespace Layout

variable {L : Layout}

theorem component_nonneg {vector : Fin L.width → ℚ} (nonneg : ∀ column, 0 ≤ vector column)
    (position : Nat) : 0 ≤ L.component vector position := by
  unfold component
  split
  · exact nonneg _
  · exact le_rfl

theorem Genuine.component_eq_zero {vector : Fin L.width → ℚ} (genuine : L.Genuine vector)
    {position : Nat} (isArtificial : L.structural ≤ position) :
    L.component vector position = 0 := by
  unfold component
  split
  · exact genuine.artificial _ isArtificial
  · rfl

/-- The vector of a point and its surplus variables. -/
def extend (L : Layout) (constraints : List (Constraint ℚ)) (point : List ℚ) :
    Fin L.width → ℚ :=
  fun column =>
    if column.val < L.decisions then point[column.val]?.getD 0
    else if column.val < L.structural then
      ∑ row : Fin constraints.length,
        if (constraints.get row).isInequality ∧ L.surplusPosition constraints row = column.val then
          (constraints.get row).slack point
        else 0
    else 0

theorem decisionPart_extend (constraints : List (Constraint ℚ)) {point : List ℚ}
    (length_eq : point.length = L.decisions) :
    L.decisionPart (L.extend constraints point) = point := by
  apply List.ext_getElem (by rw [length_decisionPart, length_eq])
  intro position _ bound
  have isDecision : position < L.decisions := length_eq ▸ bound
  simp [decisionPart, extend, decisionColumn, bound]

theorem genuine_extend {constraints : List (Constraint ℚ)} {point : List ℚ}
    (feasible : Feasible constraints L.decisions point) :
    L.Genuine (L.extend constraints point) where
  nonneg column := by
    unfold extend
    split
    · rename_i isDecision
      have bound : column.val < point.length := feasible.length_eq.symm ▸ isDecision
      rw [List.getElem?_eq_getElem bound]
      exact feasible.nonneg _ (List.getElem_mem bound)
    · split
      · apply Finset.sum_nonneg
        intro row _
        split
        · exact Constraint.slack_nonneg (feasible.holds _ (List.get_mem _ _))
        · exact le_rfl
      · exact le_rfl
  artificial column isArtificial := by
    have below := L.decisions_le_structural
    rw [extend, if_neg (by omega), if_neg (by omega)]

end Layout

/-! ## The first tableau -/

namespace Tableau

section OfNormal

variable (sense : Sense) (constraints : List (Constraint ℚ)) (nonempty : constraints ≠ [])

theorem component_extend (costs : Nat) (point : List ℚ) {row : Fin constraints.length}
    (isInequality : (constraints.get row).isInequality = true) :
    let L := Layout.ofConstraints constraints costs nonempty
    L.component (L.extend constraints point) (L.surplusPosition constraints row) =
      (constraints.get row).slack point := by
  intro L
  have placed := placed_ofConstraints constraints costs nonempty row
  have surplusLt := placed.surplus_lt isInequality
  have surplusGe := placed.surplus_ge
  have bound := surplusLt.trans_le (Layout.structural_le_width _)
  rw [Layout.component, dif_pos bound, Layout.extend, if_neg (not_lt.mpr surplusGe),
    if_pos surplusLt, Finset.sum_eq_single row]
  · rw [if_pos ⟨isInequality, rfl⟩]
  · intro other _ distinct
    refine if_neg ?_
    rintro ⟨otherInequality, same⟩
    exact distinct (countP_take_injective otherInequality isInequality
      (Nat.add_left_cancel same))
  · intro absent
    exact absurd (Finset.mem_univ row) absent

theorem gap_objective_ofNormal (costs : List ℚ)
    (vector : Fin (Layout.ofConstraints constraints costs.length nonempty).width → ℚ) :
    (ofNormal sense constraints costs nonempty).objective.gap vector =
      dot costs ((Layout.ofConstraints constraints costs.length nonempty).decisionPart vector) := by
  have target : (ofNormal sense constraints costs nonempty).objective.target = 0 := rfl
  have fits : costs.length ≤ (Layout.ofConstraints constraints costs.length nonempty).decisions :=
    le_max_right _ _
  have summand (column : Fin (Layout.ofConstraints constraints costs.length nonempty).width) :
      (ofNormal sense constraints costs nonempty).objective.entries column * vector column =
        if column.val < (Layout.ofConstraints constraints costs.length nonempty).decisions then
          costs[column.val]?.getD 0 * vector column
        else 0 := by
    rw [entries_objective_ofNormal]
    split
    · rfl
    · rename_i behind
      rw [List.getElem?_eq_none (fits.trans (not_lt.mp behind))]
      simp
  rw [Row.gap, target, sub_zero, Row.form, Finset.sum_congr rfl fun column _ => summand column,
    sum_ite_lt ((Layout.decisions_le_structural _).trans (Layout.structural_le_width _)),
    Layout.decisionPart, dot_ofFn _ _ fits]
  simp [Layout.decisionColumn]

theorem feasible_of_solves (costs : List ℚ)
    {vector : Fin (Layout.ofConstraints constraints costs.length nonempty).width → ℚ}
    (solves : (ofNormal sense constraints costs nonempty).Solves vector)
    (genuine : Layout.Genuine _ vector) :
    Feasible constraints (Layout.ofConstraints constraints costs.length nonempty).decisions
      (Layout.decisionPart _ vector) where
  length_eq := Layout.length_decisionPart vector
  nonneg value member := by
    obtain ⟨decision, rfl⟩ := List.mem_ofFn.mp member
    exact genuine.nonneg _
  holds constraint member := by
    obtain ⟨row, rfl⟩ := List.mem_iff_get.mp member
    have equation := (solves_ofNormal_iff sense constraints costs nonempty vector).mp solves row
    have placed := placed_ofConstraints constraints costs.length nonempty row
    rw [genuine.component_eq_zero placed.artificial_ge, ite_self, add_zero] at equation
    exact Constraint.holds_of_surplus (Layout.component_nonneg genuine.nonneg _) equation

theorem solves_extend (costs : List ℚ) {point : List ℚ}
    (feasible : Feasible constraints
      (Layout.ofConstraints constraints costs.length nonempty).decisions point) :
    (ofNormal sense constraints costs nonempty).Solves (Layout.extend _ constraints point) := by
  apply (solves_ofNormal_iff sense constraints costs nonempty _).mpr
  intro row
  have placed := placed_ofConstraints constraints costs.length nonempty row
  have genuine := Layout.genuine_extend feasible
  rw [genuine.component_eq_zero placed.artificial_ge, ite_self, add_zero,
    Layout.decisionPart_extend constraints feasible.length_eq]
  exact Constraint.surplus_of_holds (feasible.holds _ (List.get_mem _ _))
    (component_extend constraints nonempty costs.length point)

theorem represents_ofNormal (objective : List ℚ) :
    Represents (ofNormal sense constraints (costs sense objective) nonempty) constraints objective
      sense where
  sense_eq := rfl
  size_eq := by
    have length_eq : (costs sense objective).length = objective.length := by
      cases sense <;> simp [costs]
    exact congrArg (max (variableCount constraints)) length_eq
  sound vector solves genuine := feasible_of_solves sense constraints nonempty _ solves genuine
  complete point feasible :=
    ⟨_, solves_extend sense constraints nonempty _ feasible, Layout.genuine_extend feasible,
      Layout.decisionPart_extend constraints feasible.length_eq⟩
  residual_gap vector solves := by
    rw [residual_ofNormal, gap_foldl_eliminate _ _ solves, gap_artificialCount]
  objective_gap vector _ := by
    rw [gap_objective_ofNormal]
    cases sense with
    | minimise => rfl
    | maximise => exact dot_negated objective _

end OfNormal

theorem feasible_normalised_iff (constraints : List (Constraint ℚ)) (size : Nat)
    (point : List ℚ) :
    Feasible (constraints.map Constraint.normalised) size point ↔
      Feasible constraints size point := by
  constructor
  · intro feasible
    refine ⟨feasible.length_eq, feasible.nonneg, ?_⟩
    intro constraint member
    exact (constraint.holds_normalised point).mp
      (feasible.holds _ (List.mem_map_of_mem member))
  · intro feasible
    refine ⟨feasible.length_eq, feasible.nonneg, ?_⟩
    intro constraint member
    obtain ⟨original, originalMember, rfl⟩ := List.mem_map.mp member
    exact (original.holds_normalised point).mpr (feasible.holds original originalMember)

theorem Represents.of_normalised {L : Layout} {tableau : Tableau L ℚ}
    {constraints : List (Constraint ℚ)} {objective : List ℚ} {sense : Sense}
    (represents : Represents tableau (constraints.map Constraint.normalised) objective sense) :
    Represents tableau constraints objective sense where
  sense_eq := represents.sense_eq
  size_eq := by rw [represents.size_eq, programSize, variableCount_normalised, programSize]
  sound vector solves genuine :=
    (feasible_normalised_iff constraints _ _).mp (represents.sound vector solves genuine)
  complete point feasible :=
    represents.complete point ((feasible_normalised_iff constraints _ _).mpr feasible)
  residual_gap := represents.residual_gap
  objective_gap := represents.objective_gap

/-- The first tableau of a program is that of its normalised constraints. -/
theorem exists_ofNormal_of_build {constraints : List (Constraint ℚ)} {objective : List ℚ}
    {sense : Sense} {start : Σ L : Layout, Tableau L ℚ}
    (built : build constraints objective sense = .ok start) :
    ∃ nonempty, start =
      ⟨_, ofNormal sense (constraints.map Constraint.normalised) (costs sense objective)
        nonempty⟩ := by
  unfold build at built
  simp only at built
  split at built
  · cases built
  · rename_i nonempty
    exact ⟨nonempty, (Except.ok.inj built).symm⟩

/-- The first tableau of a program is admissible and represents the program. -/
theorem build_spec {constraints : List (Constraint ℚ)} {objective : List ℚ} {sense : Sense}
    {L : Layout} {tableau : Tableau L ℚ}
    (built : build constraints objective sense = .ok ⟨L, tableau⟩) :
    Represents tableau constraints objective sense ∧ ∃ basic, Admissible tableau basic := by
  obtain ⟨nonempty, same⟩ := exists_ofNormal_of_build built
  cases same
  refine ⟨(represents_ofNormal sense _ nonempty objective).of_normalised, _,
    admissible_ofNormal sense _ _ nonempty ?_⟩
  intro constraint member
  obtain ⟨original, _, rfl⟩ := List.mem_map.mp member
  exact original.normalised_target_nonneg

theorem exists_build {constraints : List (Constraint ℚ)} (nonempty : constraints ≠ [])
    (objective : List ℚ) (sense : Sense) :
    ∃ L tableau, build constraints objective sense = .ok ⟨L, tableau⟩ := by
  have normal : ¬ constraints.map Constraint.normalised = [] := by simpa using nonempty
  exact ⟨_, _, dif_neg normal⟩

end Tableau

end TableauSimplex
