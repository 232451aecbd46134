import Mathlib.Algebra.BigOperators.Fin
import Mathlib.Tactic.Ring
import TableauSimplex.Program.Basic
import TableauSimplex.Proofs.Exact

/-!
# What a program asks for

A point is a list of values for the variables.  A constraint holds at a point if its linear form
compares with its target as the relation says; normalising a constraint does not change where it
holds.  A better point has a larger value if the sense asks for the largest one, and a smaller
value otherwise.
-/

set_option autoImplicit false

namespace TableauSimplex

/-- The value of a linear form.  Coefficients that are not given are zero. -/
def dot : List ℚ → List ℚ → ℚ
  | coefficient :: coefficients, value :: values =>
      coefficient * value + dot coefficients values
  | _, _ => 0

theorem dot_negated (coefficients point : List ℚ) :
    dot (coefficients.map fun coefficient => -coefficient) point = -dot coefficients point := by
  induction coefficients generalizing point with
  | nil => simp [dot]
  | cons coefficient rest induction =>
      cases point with
      | nil => simp [dot]
      | cons value values =>
          simp only [List.map_cons, dot, induction values]
          ring

/-- On a point that has a value for every coefficient, the form is the sum over the variables. -/
theorem dot_ofFn {size : Nat} (coefficients : List ℚ) (point : Fin size → ℚ)
    (fits : coefficients.length ≤ size) :
    dot coefficients (List.ofFn point) =
      ∑ index : Fin size, coefficients[index.val]?.getD 0 * point index := by
  induction coefficients generalizing size with
  | nil => simp [dot]
  | cons coefficient rest induction =>
      cases size with
      | zero => simp at fits
      | succ size =>
          have restFits : rest.length ≤ size := by simpa using fits
          rw [List.ofFn_succ, dot, induction (fun index => point index.succ) restFits,
            Fin.sum_univ_succ]
          simp

/-! ## Constraints -/

namespace Relation

def Compares : Relation → ℚ → ℚ → Prop
  | .atMost, value, target => value ≤ target
  | .equal, value, target => value = target
  | .atLeast, value, target => target ≤ value

theorem compares_flip_neg (relation : Relation) (value target : ℚ) :
    relation.flip.Compares (-value) (-target) ↔ relation.Compares value target := by
  cases relation <;> simp [flip, Compares]

end Relation

namespace Constraint

/-- The constraint with the given coefficients, the first of which stands apart. -/
def linear (first : ℚ) (rest : List ℚ) (relation : Relation) (target : ℚ) : Constraint ℚ where
  coefficients := first :: rest
  relation
  target
  coefficients_ne_nil := List.cons_ne_nil first rest

def Holds (constraint : Constraint ℚ) (point : List ℚ) : Prop :=
  constraint.relation.Compares (dot constraint.coefficients point) constraint.target

theorem holds_negated (constraint : Constraint ℚ) (point : List ℚ) :
    constraint.negated.Holds point ↔ constraint.Holds point := by
  simp only [Holds, negated, dot_negated]
  exact constraint.relation.compares_flip_neg _ _

theorem holds_normalised (constraint : Constraint ℚ) (point : List ℚ) :
    constraint.normalised.Holds point ↔ constraint.Holds point := by
  unfold normalised
  split
  · exact Iff.rfl
  · exact constraint.holds_negated point

theorem normalised_target_nonneg (constraint : Constraint ℚ) :
    0 ≤ constraint.normalised.target := by
  unfold normalised
  split
  · rename_i normal
    exact of_decide_eq_true normal
  · rename_i notNormal
    have negative : ¬ 0 ≤ constraint.target := fun nonneg => notNormal (decide_eq_true nonneg)
    exact neg_nonneg.mpr (not_le.mp negative).le

theorem length_normalised {α : Type} [Scalar α] (constraint : Constraint α) :
    constraint.normalised.coefficients.length = constraint.coefficients.length := by
  unfold normalised
  split
  · rfl
  · exact List.length_map _

end Constraint

theorem variableCount_fold_normalised {α : Type} [Scalar α] (constraints : List (Constraint α))
    (start : Nat) :
    (constraints.map Constraint.normalised).foldl
        (fun count constraint => max count constraint.coefficients.length) start =
      constraints.foldl (fun count constraint => max count constraint.coefficients.length)
        start := by
  induction constraints generalizing start with
  | nil => rfl
  | cons constraint rest induction =>
      simp only [List.map_cons, List.foldl_cons, constraint.length_normalised]
      exact induction _

theorem variableCount_normalised {α : Type} [Scalar α] (constraints : List (Constraint α)) :
    variableCount (constraints.map Constraint.normalised) = variableCount constraints :=
  variableCount_fold_normalised constraints 0

theorem variableCount_fold_le_iff {α : Type} (constraints : List (Constraint α))
    (start bound : Nat) :
    constraints.foldl (fun count constraint => max count constraint.coefficients.length) start ≤
        bound ↔
      start ≤ bound ∧ ∀ constraint ∈ constraints, constraint.coefficients.length ≤ bound := by
  induction constraints generalizing start with
  | nil => simp
  | cons constraint rest induction =>
      rw [List.foldl_cons, induction, List.forall_mem_cons, max_le_iff, and_assoc]

theorem variableCount_le_iff {α : Type} {constraints : List (Constraint α)} {bound : Nat} :
    variableCount constraints ≤ bound ↔
      ∀ constraint ∈ constraints, constraint.coefficients.length ≤ bound := by
  rw [variableCount, variableCount_fold_le_iff]
  exact and_iff_right bound.zero_le

theorem coefficients_length_le {α : Type} {constraints : List (Constraint α)}
    {constraint : Constraint α} (member : constraint ∈ constraints) :
    constraint.coefficients.length ≤ variableCount constraints :=
  variableCount_le_iff.mp le_rfl constraint member

/-- The variables of a program are those its constraints and its objective speak of. -/
def programSize (constraints : List (Constraint ℚ)) (objective : List ℚ) : Nat :=
  max (variableCount constraints) objective.length

/-- A point of the given size without negative values at which every constraint holds. -/
structure Feasible (constraints : List (Constraint ℚ)) (size : Nat) (point : List ℚ) : Prop where
  length_eq : point.length = size
  nonneg : ∀ value ∈ point, 0 ≤ value
  holds : ∀ constraint ∈ constraints, constraint.Holds point

/-! ## Objectives -/

namespace Sense

/-- Whether the first value is strictly better than the second. -/
def Better : Sense → ℚ → ℚ → Prop
  | .minimise, value, other => value < other
  | .maximise, value, other => other < value

/-- The sign under which the sense asks for the least value. -/
def cost : Sense → ℚ → ℚ
  | .minimise, value => value
  | .maximise, value => -value

theorem cost_lt_cost_iff (sense : Sense) (value other : ℚ) :
    sense.cost value < sense.cost other ↔ sense.Better value other := by
  cases sense <;> simp [cost, Better]

theorem cost_cost (sense : Sense) (value : ℚ) : sense.cost (sense.cost value) = value := by
  cases sense <;> simp [cost]

theorem abs_cost_sub_cost (sense : Sense) (value other : ℚ) :
    |sense.cost value - sense.cost other| = |value - other| := by
  cases sense with
  | minimise => rfl
  | maximise => rw [cost, cost, neg_sub_neg, abs_sub_comm]

end Sense

end TableauSimplex
