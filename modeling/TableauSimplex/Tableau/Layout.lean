import TableauSimplex.Program.Basic

/-!
# The columns and rows of a tableau

The columns are the decision variables, one surplus variable for each inequality, one artificial
variable for each row that the origin does not satisfy, and the target.  Two objective rows stand
above the constraint rows: row 0 drives the first phase and row 1 the second.
-/

set_option autoImplicit false

namespace TableauSimplex

structure Layout where
  decisions : Nat
  surplus : Nat
  artificial : Nat
  constraints : Nat
  decisions_pos : 0 < decisions
  constraints_pos : 0 < constraints
  deriving DecidableEq, Repr

namespace Layout

/-- The layout with the given counts.  Without constraints, without variables, or with fewer than
no surplus or artificial variables, there is none. -/
def ofCounts? (decisions surplus artificial constraints : Int) : Except ProblemError Layout :=
  if constraints_pos : 0 < constraints.toNat then
    if decisions_pos : 0 < decisions.toNat then
      if surplus < 0 ∨ artificial < 0 then .error .negativeCount
      else
        .ok {
          decisions := decisions.toNat
          surplus := surplus.toNat
          artificial := artificial.toNat
          constraints := constraints.toNat
          decisions_pos
          constraints_pos }
    else .error .noVariables
  else .error .noConstraints

variable (L : Layout)

/-- The number of decision and surplus columns; the artificial columns follow them. -/
def structural : Nat :=
  L.decisions + L.surplus

/-- The number of variable columns; the target column follows them. -/
def width : Nat :=
  L.structural + L.artificial

def columnCount : Nat :=
  L.width + 1

def rowCount : Nat :=
  L.constraints + 2

theorem structural_le_width : L.structural ≤ L.width :=
  Nat.le_add_right _ _

theorem decisions_le_structural : L.decisions ≤ L.structural :=
  Nat.le_add_right _ _

theorem width_pos : 0 < L.width :=
  Nat.lt_of_lt_of_le L.decisions_pos
    (Nat.le_trans L.decisions_le_structural L.structural_le_width)

def column? (position : Nat) : Option (Fin L.width) :=
  if bound : position < L.width then some ⟨position, bound⟩ else none

def isArtificial (column : Fin L.width) : Bool :=
  decide (L.structural ≤ column.val)

def columns : List (Fin L.width) :=
  List.finRange L.width

/-- The decision and surplus columns. -/
def structuralColumns : List (Fin L.width) :=
  L.columns.filter fun column => !L.isArtificial column

def constraintRows : List (Fin L.constraints) :=
  List.finRange L.constraints

/-- Decision variables are `x1, x2, …`, surplus variables `s1, s2, …` and artificial variables
`a1, a2, …`; the column behind them is the target. -/
def columnName (position : Nat) : String :=
  if position < L.decisions then s!"x{position + 1}"
  else if position < L.structural then s!"s{position - L.decisions + 1}"
  else if position < L.width then s!"a{position - L.structural + 1}"
  else if position = L.width then "tgt"
  else "ERR"

/-- The name of the column that a row calls basic.  A number that is no column shows an error
label. -/
def basicName (basic : Int) : String :=
  match basic with
  | .ofNat position => L.columnName position
  | .negSucc _ => "ERR"

def isArtificialBasic (basic : Int) : Bool :=
  decide (L.structural ≤ basic) && decide (basic < L.width)

/-- Fifty exchanges for every cell. -/
def pivotCeiling : Nat :=
  50 * L.rowCount * L.columnCount

end Layout

end TableauSimplex
