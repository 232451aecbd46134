import TableauSimplex.Proofs.Tableau.Encoding

/-!
# The columns of the first tableau

The rows take their surplus and artificial columns in order, each from the cursor that the rows
before it have left.  The counts of the layout are those of the constraints, so that the cursors end
where the next kind of column begins: every inequality has a surplus column to itself, every normal
constraint that needs one has an artificial column to itself, and no such column is left over.
-/

set_option autoImplicit false

namespace TableauSimplex

theorem exists_countP_take_eq {β : Type} {marked : β → Bool} {items : List β} {rank : Nat}
    (bound : rank < items.countP marked) :
    ∃ position item, items[position]? = some item ∧ marked item = true ∧
      (items.take position).countP marked = rank := by
  induction items generalizing rank with
  | nil => simp at bound
  | cons head rest induction =>
      by_cases isMarked : marked head = true
      · cases rank with
        | zero => exact ⟨0, head, rfl, isMarked, rfl⟩
        | succ rank =>
            have less : rank < rest.countP marked := by
              simpa [List.countP_cons, isMarked] using bound
            obtain ⟨position, item, found, itemMarked, counted⟩ := induction less
            exact ⟨position + 1, item, found, itemMarked, by simp [isMarked, counted]⟩
      · have less : rank < rest.countP marked := by
          simpa [List.countP_cons, isMarked] using bound
        obtain ⟨position, item, found, itemMarked, counted⟩ := induction less
        exact ⟨position + 1, item, found, itemMarked, by simp [isMarked, counted]⟩

/-! ## Cursors -/

/-- The next surplus and the next artificial column. -/
structure Cursors where
  surplus : Nat
  artificial : Nat

namespace Cursors

def start (L : Layout) : Cursors where
  surplus := L.decisions
  artificial := L.structural

/-- A constraint takes the columns that it needs. -/
def advance (cursors : Cursors) (constraint : Constraint ℚ) : Cursors where
  surplus := if constraint.isInequality then cursors.surplus + 1 else cursors.surplus
  artificial := if constraint.needsArtificial then cursors.artificial + 1 else cursors.artificial

/-- The cursors behind a list of constraints. -/
def after (L : Layout) (constraints : List (Constraint ℚ)) : Cursors :=
  constraints.foldl advance (start L)

theorem foldl_advance (constraints : List (Constraint ℚ)) (cursors : Cursors) :
    constraints.foldl advance cursors =
      ⟨cursors.surplus + constraints.countP Constraint.isInequality,
        cursors.artificial + constraints.countP Constraint.needsArtificial⟩ := by
  induction constraints generalizing cursors with
  | nil => rfl
  | cons constraint rest induction =>
      rw [List.foldl_cons, induction, List.countP_cons, List.countP_cons]
      simp only [advance, mk.injEq]
      constructor <;> split <;> omega

theorem after_take (L : Layout) (constraints : List (Constraint ℚ)) (position : Nat) :
    after L (constraints.take position) =
      ⟨L.surplusPosition constraints position, L.artificialPosition constraints position⟩ :=
  foldl_advance _ _

theorem after_ofConstraints (constraints : List (Constraint ℚ)) (costs : Nat)
    (nonempty : constraints ≠ []) :
    let L := Layout.ofConstraints constraints costs nonempty
    after L constraints = ⟨L.structural, L.width⟩ :=
  foldl_advance _ _

end Cursors

/-! ## Ownership -/

namespace Constraint

theorem isInequality_normalised {α : Type} [Scalar α] (constraint : Constraint α) :
    constraint.normalised.isInequality = constraint.isInequality := by
  unfold normalised
  split
  · rfl
  · cases relation : constraint.relation <;>
      simp [isInequality, negated, Relation.flip, relation] <;> rfl

end Constraint

theorem surplusCount_normalised {α : Type} [Scalar α] (constraints : List (Constraint α)) :
    surplusCount (constraints.map Constraint.normalised) = surplusCount constraints := by
  rw [surplusCount, List.countP_map, surplusCount]
  exact congrArg (fun marked => constraints.countP marked)
    (funext Constraint.isInequality_normalised)

namespace Row

variable {L : Layout} {constraint : Constraint ℚ} {surplus artificial : Nat} {column : Fin L.width}

theorem entries_ofConstraint_surplus_ne_zero (after : L.decisions ≤ column.val)
    (before : column.val < L.structural) :
    (ofConstraint L constraint surplus artificial).entries column ≠ 0 ↔
      constraint.isInequality = true ∧ column.val = surplus := by
  rw [entries_ofConstraint, if_neg (not_lt.mpr after), if_pos before]
  cases relation : constraint.relation <;> simp [Constraint.isInequality, relation]

theorem entries_ofConstraint_artificial_ne_zero (after : L.structural ≤ column.val) :
    (ofConstraint L constraint surplus artificial).entries column ≠ 0 ↔
      constraint.needsArtificial = true ∧ column.val = artificial := by
  have behind := L.decisions_le_structural.trans after
  rw [entries_ofConstraint, if_neg (not_lt.mpr behind), if_neg (not_lt.mpr after)]
  simp

end Row

namespace Tableau

variable {L : Layout} {tableau : Tableau L ℚ} {constraints : List (Constraint ℚ)}
  {marked : Constraint ℚ → Bool} {first last : Nat}

/-- The rows are the equations of the constraints, each with its columns at the cursors behind the
constraints before it.  The last constraint leaves no column over. -/
structure LaidOut (tableau : Tableau L ℚ) (constraints : List (Constraint ℚ)) : Prop where
  rows_eq : ∀ (row : Fin L.constraints) constraint, constraints[row.val]? = some constraint →
    let cursors := Cursors.after L (constraints.take row)
    tableau.rows row = Row.ofConstraint L constraint cursors.surplus cursors.artificial
  ends : Cursors.after L constraints = ⟨L.structural, L.width⟩

/-- A row owns a column if it is the one constraint row with an entry there. -/
def Owns (tableau : Tableau L ℚ) (row : Fin L.constraints) (column : Fin L.width) : Prop :=
  ∀ other, (tableau.rows other).entries column ≠ 0 ↔ other = row

/-- The columns of a range are divided among the rows of the marked constraints, one for each. -/
structure HandsOut (tableau : Tableau L ℚ) (constraints : List (Constraint ℚ))
    (marked : Constraint ℚ → Bool) (first last : Nat) : Prop where
  owned : ∀ row : Fin L.constraints, ∀ constraint, constraints[row.val]? = some constraint →
    marked constraint = true →
      ∃! column : Fin L.width, (first ≤ column.val ∧ column.val < last) ∧ tableau.Owns row column
  owner : ∀ column : Fin L.width, first ≤ column.val → column.val < last →
    ∃ row : Fin L.constraints, ∃ constraint, constraints[row.val]? = some constraint ∧
      marked constraint = true ∧ tableau.Owns row column

theorem HandsOut.of_map {change : Constraint ℚ → Constraint ℚ}
    (handsOut : tableau.HandsOut (constraints.map change) marked first last) :
    tableau.HandsOut constraints (fun constraint => marked (change constraint)) first last where
  owned row constraint found isMarked :=
    handsOut.owned row (change constraint) (by simp [found]) isMarked
  owner column after before := by
    obtain ⟨row, changed, found, isMarked, owns⟩ := handsOut.owner column after before
    rw [List.getElem?_map, Option.map_eq_some_iff] at found
    obtain ⟨constraint, found, rfl⟩ := found
    exact ⟨row, constraint, found, isMarked, owns⟩

theorem HandsOut.entries_eq_zero_of_ne (handsOut : tableau.HandsOut constraints marked first last)
    {row : Fin L.constraints} {column other : Fin L.width}
    (inside : first ≤ column.val ∧ column.val < last) (owns : tableau.Owns row column)
    (otherInside : first ≤ other.val ∧ other.val < last) (differs : other ≠ column) :
    (tableau.rows row).entries other = 0 := by
  by_contra entry
  obtain ⟨owner, constraint, found, isMarked, ownerOwns⟩ :=
    handsOut.owner other otherInside.1 otherInside.2
  obtain rfl := (ownerOwns row).mp entry
  obtain ⟨_, _, unique⟩ := handsOut.owned row constraint found isMarked
  exact differs ((unique other ⟨otherInside, ownerOwns⟩).trans
    (unique column ⟨inside, owns⟩).symm)

theorem HandsOut.eq_of_decisionPart_eq
    (handsOut : tableau.HandsOut constraints marked L.decisions L.structural)
    {vector other : Fin L.width → ℚ} (solves : tableau.Solves vector)
    (otherSolves : tableau.Solves other) (genuine : L.Genuine vector)
    (otherGenuine : L.Genuine other) (same : L.decisionPart vector = L.decisionPart other) :
    vector = other := by
  have outside (column : Fin L.width) (notSurplus : ¬(L.decisions ≤ column.val ∧
      column.val < L.structural)) : vector column = other column := by
    by_cases isDecision : column.val < L.decisions
    · exact congrFun (List.ofFn_injective same) ⟨column.val, isDecision⟩
    · have isArtificial : L.structural ≤ column.val := by omega
      rw [genuine.artificial column isArtificial, otherGenuine.artificial column isArtificial]
  funext column
  by_cases isSurplus : L.decisions ≤ column.val ∧ column.val < L.structural
  · obtain ⟨row, _, _, _, owns⟩ := handsOut.owner column isSurplus.1 isSurplus.2
    -- In the equation of the owner the solutions can differ in no other column.
    have forms : (tableau.rows row).form vector = (tableau.rows row).form other :=
      sub_left_injective ((solves row).trans (otherSolves row).symm)
    have differences :
        ∑ each, (tableau.rows row).entries each * (vector each - other each) = 0 := by
      simp only [mul_sub, Finset.sum_sub_distrib]
      exact sub_eq_zero.mpr forms
    rw [Finset.sum_eq_single column] at differences
    · exact sub_eq_zero.mp ((mul_eq_zero.mp differences).resolve_left ((owns row).mpr rfl))
    · intro each _ differs
      by_cases eachSurplus : L.decisions ≤ each.val ∧ each.val < L.structural
      · rw [handsOut.entries_eq_zero_of_ne isSurplus owns eachSurplus differs, zero_mul]
      · rw [outside each eachSurplus, sub_self, mul_zero]
    · exact fun absent => absurd (Finset.mem_univ column) absent
  · exact outside column isSurplus

/-- Where the entries of a range of columns are: each marked constraint has one, at the position
that its rank among the marked constraints gives. -/
structure Ranks (tableau : Tableau L ℚ) (constraints : List (Constraint ℚ))
    (marked : Constraint ℚ → Bool) (first : Nat) : Prop where
  length_eq : constraints.length = L.constraints
  fits : first + constraints.countP marked ≤ L.width
  entries_ne_zero : ∀ (row : Fin L.constraints) constraint (column : Fin L.width),
    constraints[row.val]? = some constraint → first ≤ column.val →
      column.val < first + constraints.countP marked →
        ((tableau.rows row).entries column ≠ 0 ↔
          marked constraint = true ∧ column.val = first + (constraints.take row).countP marked)

namespace Ranks

theorem position_lt {row : Fin L.constraints} {constraint : Constraint ℚ}
    (found : constraints[row.val]? = some constraint) (isMarked : marked constraint = true) :
    first + (constraints.take row).countP marked < first + constraints.countP marked := by
  obtain ⟨bound, rfl⟩ := List.getElem?_eq_some_iff.mp found
  exact Nat.add_lt_add_left (countP_take_lt_countP bound isMarked) _

theorem owns (ranks : tableau.Ranks constraints marked first) {row : Fin L.constraints}
    {constraint : Constraint ℚ} {column : Fin L.width}
    (found : constraints[row.val]? = some constraint) (isMarked : marked constraint = true)
    (here : column.val = first + (constraints.take row).countP marked) :
    tableau.Owns row column := by
  intro other
  have before := here.trans_lt (position_lt found isMarked)
  obtain ⟨bound, rfl⟩ := List.getElem?_eq_some_iff.mp found
  have otherBound := other.isLt.trans_eq ranks.length_eq.symm
  rw [ranks.entries_ne_zero other _ column (List.getElem?_eq_getElem otherBound) (by omega) before]
  constructor
  · rintro ⟨otherMarked, there⟩
    have same : (⟨other.val, otherBound⟩ : Fin constraints.length) = ⟨row.val, bound⟩ :=
      countP_take_injective otherMarked isMarked (Nat.add_left_cancel (there.symm.trans here))
    exact Fin.ext (Fin.mk.inj same)
  · rintro rfl
    exact ⟨isMarked, here⟩

theorem handsOut (ranks : tableau.Ranks constraints marked first) :
    tableau.HandsOut constraints marked first (first + constraints.countP marked) where
  owned row constraint found isMarked := by
    have less : first + (constraints.take row).countP marked <
        first + constraints.countP marked := position_lt found isMarked
    refine ⟨⟨_, less.trans_le ranks.fits⟩, ⟨⟨Nat.le_add_right _ _, less⟩, ?_⟩, ?_⟩
    · exact ranks.owns found isMarked rfl
    · rintro column ⟨⟨after, before⟩, owned⟩
      have entry := (owned row).mpr rfl
      exact Fin.ext ((ranks.entries_ne_zero row _ column found after before).mp entry).2
  owner column after before := by
    -- The column's distance from the first is the rank of its owner.
    have bound : column.val - first < constraints.countP marked := by omega
    obtain ⟨position, constraint, found, isMarked, counted⟩ := exists_countP_take_eq bound
    have inside := (List.getElem?_eq_some_iff.mp found).1.trans_eq ranks.length_eq
    have here : column.val = first + (constraints.take position).countP marked := by omega
    exact ⟨⟨position, inside⟩, constraint, found, isMarked, ranks.owns found isMarked here⟩

end Ranks

section OfNormal

variable (sense : Sense) (constraints : List (Constraint ℚ)) (costs : List ℚ)
  (nonempty : constraints ≠ [])

theorem ranks_surplus_ofNormal :
    let L := Layout.ofConstraints constraints costs.length nonempty
    (ofNormal sense constraints costs nonempty).Ranks constraints Constraint.isInequality
      L.decisions where
  length_eq := rfl
  fits := Layout.structural_le_width _
  entries_ne_zero row constraint column found after before := by
    obtain ⟨_, rfl⟩ := List.getElem?_eq_some_iff.mp found
    rw [rows_ofNormal]
    exact Row.entries_ofConstraint_surplus_ne_zero after before

theorem ranks_artificial_ofNormal :
    let L := Layout.ofConstraints constraints costs.length nonempty
    (ofNormal sense constraints costs nonempty).Ranks constraints Constraint.needsArtificial
      L.structural where
  length_eq := rfl
  fits := le_rfl
  entries_ne_zero row constraint column found after _ := by
    obtain ⟨_, rfl⟩ := List.getElem?_eq_some_iff.mp found
    rw [rows_ofNormal]
    exact Row.entries_ofConstraint_artificial_ne_zero after

theorem laidOut_ofNormal : (ofNormal sense constraints costs nonempty).LaidOut constraints where
  rows_eq row constraint found := by
    obtain ⟨_, rfl⟩ := List.getElem?_eq_some_iff.mp found
    simp only [Cursors.after_take]
    exact rows_ofNormal sense constraints costs nonempty row
  ends := Cursors.after_ofConstraints constraints costs.length nonempty

end OfNormal

/-! ## The first tableau of a program -/

theorem handsOut_surplus_of_build {objective : List ℚ} {sense : Sense}
    (built : build constraints objective sense = .ok ⟨L, tableau⟩) :
    tableau.HandsOut constraints Constraint.isInequality L.decisions L.structural := by
  obtain ⟨normal, same⟩ := exists_ofNormal_of_build built
  cases same
  have ranks := ranks_surplus_ofNormal sense _ (costs sense objective) normal
  have handsOut := ranks.handsOut.of_map
  simp only [Constraint.isInequality_normalised] at handsOut
  exact handsOut

/-- A program with constraints has a first tableau.  The feasible points are the decision parts of
its non-negative solutions without artificial part; the residual row adds up the artificial part of
a solution and the objective row gives its cost; no target is negative.  The rows take their columns
at the cursors, which end where the next kind of column begins, so that every inequality owns one
surplus column, every constraint that is no upper bound when normalised owns one artificial column,
and no other row has an entry there. -/
theorem build_encodes {constraints : List (Constraint ℚ)} (nonempty : constraints ≠ [])
    (objective : List ℚ) (sense : Sense) :
    ∃ L, ∃ tableau : Tableau L ℚ, build constraints objective sense = .ok ⟨L, tableau⟩ ∧
      L.decisions = programSize constraints objective ∧ L.surplus = surplusCount constraints ∧
      L.constraints = constraints.length ∧
      (∀ point, Feasible constraints L.decisions point ↔
        ∃ vector, L.Genuine vector ∧ L.decisionPart vector = point ∧ tableau.Solves vector) ∧
      (∀ vector, tableau.Solves vector →
        tableau.residual.gap vector = L.artificialSum vector ∧
          tableau.objective.gap vector = sense.cost (dot objective (L.decisionPart vector))) ∧
      (∀ row, 0 ≤ (tableau.rows row).target) ∧
      tableau.LaidOut (constraints.map Constraint.normalised) ∧
      tableau.HandsOut constraints Constraint.isInequality L.decisions L.structural ∧
      tableau.HandsOut constraints (fun constraint => constraint.normalised.needsArtificial)
        L.structural L.width := by
  obtain ⟨L, tableau, built⟩ := exists_build nonempty objective sense
  obtain ⟨represents, basic, admissible⟩ := build_spec built
  obtain ⟨normal, same⟩ := exists_ofNormal_of_build built
  cases same
  refine ⟨_, _, built, represents.size_eq, surplusCount_normalised constraints, List.length_map _,
    fun point => ⟨?_, ?_⟩, ?_, admissible.targets_nonneg, laidOut_ofNormal _ _ _ normal, ?_,
    (ranks_artificial_ofNormal _ _ _ normal).handsOut.of_map⟩
  · intro feasible
    obtain ⟨vector, solves, genuine, same⟩ := represents.complete point feasible
    exact ⟨vector, genuine, same, solves⟩
  · rintro ⟨vector, genuine, rfl, solves⟩
    exact represents.sound vector solves genuine
  · exact fun vector solves =>
      ⟨represents.residual_gap vector solves, represents.objective_gap vector solves⟩
  · exact handsOut_surplus_of_build built

/-- Every relation, and targets of both signs.  All but the third are negated.  All but the second
have a surplus column, and the first two an artificial column. -/
def mixed : List (Constraint ℚ) :=
  [.linear (-1) [] .atMost (-1), .linear (-2) [-1] .equal (-3), .linear 1 [1] .atMost 4,
    .linear 0 [1] .atLeast (-2)]

theorem build_encodes_mixed :
    ∃ L, ∃ tableau : Tableau L ℚ, build mixed [1, 0, 1] .maximise = .ok ⟨L, tableau⟩ ∧
      L.decisions = 3 ∧ L.surplus = 3 ∧
      (∃ vector, L.Genuine vector ∧ L.decisionPart vector = [1, 1, 0] ∧ tableau.Solves vector) ∧
      Cursors.after L (mixed.map Constraint.normalised) = ⟨L.structural, L.width⟩ := by
  have nonempty : mixed ≠ [] := List.cons_ne_nil _ _
  obtain ⟨L, tableau, built, decisions, surplus, _, feasible_iff, _, _, laidOut, _⟩ :=
    build_encodes nonempty [1, 0, 1] .maximise
  have size : programSize mixed [1, 0, 1] = 3 := by decide
  have feasible : Feasible mixed L.decisions [1, 1, 0] :=
    { length_eq := (decisions.trans size).symm
      nonneg := by decide
      holds := by
        simp [mixed, Constraint.linear, Constraint.Holds, Relation.Compares, dot]
        norm_num }
  exact ⟨L, tableau, built, decisions.trans size, surplus.trans (by decide),
    (feasible_iff _).mp feasible, laidOut.ends⟩

end Tableau

end TableauSimplex
