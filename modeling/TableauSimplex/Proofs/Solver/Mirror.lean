import TableauSimplex.Proofs.Machine
import TableauSimplex.Proofs.Tableau.Ownership
import TableauSimplex.Solver.Logged

/-!
# Constraints written the other way round

A constraint and its negation say the same.  As long as the target has a sign, they are also one
constraint once they are normalised, number by number.  So a system has the same first tableau
whichever of its constraints are negated, and a solve of it cannot tell them apart.
-/

set_option autoImplicit false

namespace TableauSimplex

namespace Scalar

variable {α : Type} [Scalar α]

/-- A number other than zero.  What is no number does not equal itself. -/
def Signed (x : α) : Prop :=
  (x == x) = true ∧ (x == 0) = false

/-- Negation undoes itself and exchanges the two sides of zero.  Nothing is asked of zero, or of
what is no number. -/
structure Mirrors (α : Type) [Scalar α] : Prop where
  involutive : ∀ x : α, - -x = x
  opposite : ∀ x : α, Signed x → (0 ≤ -x ↔ ¬ 0 ≤ x)

theorem mirrors_float : Mirrors Float where
  involutive := Float64.neg_neg
  opposite _ signed := Float64.zero_le_neg_iff signed.1 signed.2

end Scalar

namespace Constraint

variable {α : Type} [Scalar α]

theorem negated_negated (involutive : ∀ x : α, - -x = x) (constraint : Constraint α) :
    constraint.negated.negated = constraint := by
  obtain ⟨coefficients, relation, target, nonempty⟩ := constraint
  simp only [negated, List.map_map, Function.comp_def, involutive, Relation.flip_flip,
    List.map_id']

theorem isNormal_negated (mirrors : Scalar.Mirrors α) {constraint : Constraint α}
    (signed : Scalar.Signed constraint.target) :
    constraint.negated.isNormal = !constraint.isNormal := by
  unfold isNormal
  rw [← decide_not]
  exact decide_eq_decide.mpr (mirrors.opposite _ signed)

theorem normalised_negated (mirrors : Scalar.Mirrors α) {constraint : Constraint α}
    (signed : Scalar.Signed constraint.target) :
    constraint.negated.normalised = constraint.normalised := by
  unfold normalised
  rw [isNormal_negated mirrors signed]
  -- The one of the two that is normal stays, and the other one is turned into it.
  cases constraint.isNormal with
  | true => exact constraint.negated_negated mirrors.involutive
  | false => rfl

end Constraint

/-! ## Systems -/

section Systems

variable {α : Type} [Scalar α]

def negatedAt (chosen : Nat → Bool) (constraints : List (Constraint α)) : List (Constraint α) :=
  constraints.mapIdx fun position constraint =>
    if chosen position then constraint.negated else constraint

variable {chosen : Nat → Bool} {constraints : List (Constraint α)}

theorem map_normalised_negatedAt (mirrors : Scalar.Mirrors α)
    (signed : ∀ position constraint, constraints[position]? = some constraint →
      chosen position = true → Scalar.Signed constraint.target) :
    (negatedAt chosen constraints).map Constraint.normalised =
      constraints.map Constraint.normalised := by
  apply List.ext_getElem?
  intro position
  rw [negatedAt, List.getElem?_map, List.getElem?_mapIdx, List.getElem?_map]
  cases found : constraints[position]? with
  | none => rfl
  | some constraint =>
      simp only [Option.map_some, Option.some_inj]
      split
      · next isChosen =>
          exact Constraint.normalised_negated mirrors (signed position constraint found isChosen)
      · rfl

/-- Whichever constraints are negated, a system has the same columns, the same first tableau, and
the same run with the same outcome and the same log.  Only the targets of negated constraints have
to be numbers other than zero. -/
theorem solveSystem_negatedAt (mirrors : Scalar.Mirrors α)
    (signed : ∀ position constraint, constraints[position]? = some constraint →
      chosen position = true → Scalar.Signed constraint.target)
    (options : Options α) (objective : List α) (sense : Sense) (names : Option (List String)) :
    variableCount (negatedAt chosen constraints) = variableCount constraints ∧
      surplusCount (negatedAt chosen constraints) = surplusCount constraints ∧
      Tableau.build (negatedAt chosen constraints) objective sense =
        Tableau.build constraints objective sense ∧
      solveSystem options (negatedAt chosen constraints) objective sense names =
        solveSystem options constraints objective sense names ∧
      runSystem options (negatedAt chosen constraints) objective sense names =
        runSystem options constraints objective sense names ∧
      ∀ (σ : Type) (writer : Writer σ),
        solveSystemLogged options (negatedAt chosen constraints) objective sense names writer =
          solveSystemLogged options constraints objective sense names writer := by
  have normal := map_normalised_negatedAt mirrors signed
  have built : Tableau.build (negatedAt chosen constraints) objective sense =
      Tableau.build constraints objective sense := by
    unfold Tableau.build
    rw [normal]
  have run : runSystem options (negatedAt chosen constraints) objective sense names =
      runSystem options constraints objective sense names := by
    simp only [runSystem, built]
  refine ⟨?_, ?_, built, ?_, run, ?_⟩
  · rw [← variableCount_normalised, normal, variableCount_normalised]
  · rw [← surplusCount_normalised, normal, surplusCount_normalised]
  · simp only [solveSystem, run]
  · intro σ writer
    simp only [solveSystemLogged, built]

end Systems

def mixedTargets : List (Constraint Float) :=
  [⟨[2.0, 2.0], .atLeast, 4.0, by decide⟩, ⟨[0.0, 1.0], .atMost, 5.0, by decide⟩,
    ⟨[1.0, -1.0], .equal, -1.0, by decide⟩, ⟨[1.0, -2.0], .atMost, 0.0, by decide⟩]

theorem solveSystem_negatedAt_mixedTargets :
    Scalar.Mirrors Float ∧
      (∀ position constraint, mixedTargets[position]? = some constraint →
        (position != 3) = true → Scalar.Signed constraint.target) ∧
      (solveSystem .standard mixedTargets [3.0, 2.0] .minimise none).map Solution.values =
        .ok (some [0.5, 1.5]) ∧
      (solveSystem .standard (negatedAt (fun position => position != 3) mixedTargets) [3.0, 2.0]
        .minimise none).map Solution.values = .ok (some [0.5, 1.5]) := by
  have signed : ∀ position constraint, mixedTargets[position]? = some constraint →
      (position != 3) = true → Scalar.Signed constraint.target := by
    rintro (_ | _ | _ | _ | position) constraint found isChosen
    · obtain rfl := Option.some.inj found
      exact ⟨by decide +kernel, by decide +kernel⟩
    · obtain rfl := Option.some.inj found
      exact ⟨by decide +kernel, by decide +kernel⟩
    · obtain rfl := Option.some.inj found
      exact ⟨by decide +kernel, by decide +kernel⟩
    · exact absurd isChosen (by decide)
    · exact nomatch found
  have solved : (solveSystem .standard mixedTargets [3.0, 2.0] .minimise none).map
      Solution.values = .ok (some [0.5, 1.5]) := by decide +kernel
  obtain ⟨_, _, _, same, _⟩ := solveSystem_negatedAt Scalar.mirrors_float signed .standard
    [3.0, 2.0] .minimise none
  exact ⟨Scalar.mirrors_float, signed, solved, same ▸ solved⟩

end TableauSimplex
