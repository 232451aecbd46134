import TableauSimplex.Tableau.Basic

/-!
# The first tableau of a program

The constraints are normalised first, so every target is non-negative and the surplus and
artificial variables form a basis.  The row of the first phase counts the artificial variables
and is reduced against that basis; the row of the second phase does not meet it.
-/

set_option autoImplicit false

namespace TableauSimplex

variable {α : Type}

theorem length_le_variableCount_fold (constraints : List (Constraint α)) (start : Nat) :
    start ≤ constraints.foldl
      (fun count constraint => max count constraint.coefficients.length) start := by
  induction constraints generalizing start with
  | nil => exact Nat.le_refl _
  | cons constraint rest induction =>
      exact Nat.le_trans (Nat.le_max_left _ _) (induction _)

theorem variableCount_pos {constraints : List (Constraint α)} (nonempty : constraints ≠ []) :
    0 < variableCount constraints := by
  cases constraints with
  | nil => exact absurd rfl nonempty
  | cons constraint rest =>
      have positive : 0 < constraint.coefficients.length :=
        List.length_pos_iff.mpr constraint.coefficients_ne_nil
      have bound := length_le_variableCount_fold rest
        (max 0 constraint.coefficients.length)
      simp only [variableCount, List.foldl_cons]
      omega

namespace Layout

/-- The layout of a list of constraints under an objective with the given number of
coefficients. -/
def ofConstraints (constraints : List (Constraint α)) (costs : Nat)
    (nonempty : constraints ≠ []) : Layout where
  decisions := max (variableCount constraints) costs
  surplus := surplusCount constraints
  artificial := constraints.countP Constraint.needsArtificial
  constraints := constraints.length
  decisions_pos := Nat.lt_of_lt_of_le (variableCount_pos nonempty) (Nat.le_max_left _ _)
  constraints_pos := List.length_pos_iff.mpr nonempty

/-- The surplus column of the constraint at a position follows those of the inequalities before
it. -/
def surplusPosition (L : Layout) (constraints : List (Constraint α)) (position : Nat) : Nat :=
  L.decisions + (constraints.take position).countP Constraint.isInequality

/-- The artificial column of the constraint at a position follows those before it. -/
def artificialPosition (L : Layout) (constraints : List (Constraint α)) (position : Nat) : Nat :=
  L.structural + (constraints.take position).countP Constraint.needsArtificial

end Layout

namespace Row

variable [Scalar α]

def signEntry (relation : Relation) : α :=
  match relation with
  | .atMost => 1
  | .equal => 0
  | .atLeast => -1

/-- The equation of a constraint: its coefficients padded with zeros, the sign of its relation in
its surplus column and a one in its artificial column. -/
def ofConstraint (L : Layout) (constraint : Constraint α) (surplus artificial : Nat) :
    Row L.width α :=
  let coefficients := constraint.coefficients.toArray
  { entries := .ofFn fun column =>
      if column.val < L.decisions then coefficients[column.val]?.getD 0
      else if column.val < L.structural then
        if constraint.isInequality ∧ column.val = surplus then signEntry constraint.relation
        else 0
      else if constraint.needsArtificial ∧ column.val = artificial then 1
      else 0
    target := constraint.target }

end Row

namespace Tableau

variable [Scalar α]

/-- The coefficients of the second objective row: that row always maximises, so the costs are
negated unless the sense asks for the least value. -/
def costs (sense : Sense) (objective : List α) : List α :=
  match sense with
  | .maximise => objective.map fun coefficient => -coefficient
  | .minimise => objective

def artificialCount (L : Layout) : Row L.width α where
  entries := .ofFn fun column => if L.isArtificial column then 1 else 0
  target := 0

/-- Takes the multiple of a constraint row away that clears its basic column, unless the entry
there is zero already. -/
def clearBasic {width : Nat} (objective row : Row width α) (basic : Option (Fin width)) :
    Row width α :=
  match basic with
  | none => objective
  | some column =>
      if objective.entries column == 0 then objective
      else objective.eliminate (objective.entries column) row

def ofNormal (sense : Sense) (constraints : List (Constraint α)) (costs : List α)
    (nonempty : constraints ≠ []) :
    Tableau (Layout.ofConstraints constraints costs.length nonempty) α :=
  let L := Layout.ofConstraints constraints costs.length nonempty
  let rows : Family L.constraints (Row L.width α) :=
    .ofFn fun row : Fin constraints.length =>
      Row.ofConstraint L (constraints.get row) (L.surplusPosition constraints row)
        (L.artificialPosition constraints row)
  let basic : Family L.constraints Nat :=
    .ofFn fun row : Fin constraints.length =>
      if (constraints.get row).needsArtificial then L.artificialPosition constraints row
      else L.surplusPosition constraints row
  let objective := costs.toArray
  { sense
    phase := if L.artificial = 0 then .second else .first
    residual := L.constraintRows.foldl
      (fun objective row => clearBasic objective (rows row) (L.column? (basic row)))
      (artificialCount L)
    objective :=
      { entries := .ofFn fun column => objective[column.val]?.getD 0
        target := 0 }
    rows
    basis := basic.map Int.ofNat }

def build (constraints : List (Constraint α)) (objective : List α) (sense : Sense) :
    Except ProblemError (Σ L : Layout, Tableau L α) :=
  let normal := constraints.map Constraint.normalised
  if nonempty : normal = [] then .error .noConstraints
  else .ok ⟨_, ofNormal sense normal (costs sense objective) nonempty⟩

end Tableau

end TableauSimplex
