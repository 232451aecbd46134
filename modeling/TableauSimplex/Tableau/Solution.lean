import TableauSimplex.Tableau.Basic

/-!
# Reading a solution off a tableau

With every other column at zero, a basic column takes the target of its row.  It is degenerate if
that target is within the tolerance of zero.
-/

set_option autoImplicit false

namespace TableauSimplex

inductive BasicKind where
  | unique
  | degenerate
  | notBasic
  deriving DecidableEq, Repr

def BasicKind.name : BasicKind → String
  | .unique => "unique"
  | .degenerate => "degenerate"
  | .notBasic => "not_basic"

namespace Tableau

variable {L : Layout} {α : Type} [Scalar α]

omit [Scalar α] in
def rowOf? (tableau : Tableau L α) (basic : Int) : Option (Fin L.constraints) :=
  L.constraintRows.find? fun row => tableau.basis row == basic

/-- The kind and the value of a column. -/
def basicValue (tableau : Tableau L α) (tolerance : α) (basic : Int) : BasicKind × α :=
  match tableau.rowOf? basic with
  | none => (.notBasic, 0)
  | some row =>
      let value := (tableau.rows row).target
      if Scalar.magnitude value ≤ tolerance then (.degenerate, 0) else (.unique, value)

/-- The values of the decision variables with that of a row's basic column among them.  A basic
column is a position among the decision variables, unless it lies behind them. -/
def withRowValue (tableau : Tableau L α) (tolerance : α) (values : Family L.decisions α)
    (row : Fin L.constraints) : Except PositionError (Family L.decisions α) :=
  let basic := tableau.basis row
  if basic < L.decisions then
    (resolveAxis 0 L.decisions basic).map fun decision =>
      values.set decision (tableau.basicValue tolerance basic).2
  else .ok values

def point (tableau : Tableau L α) (tolerance : α) :
    Except PositionError (Family L.decisions α) :=
  L.constraintRows.foldlM (tableau.withRowValue tolerance) (.constant L.decisions 0)

omit [Scalar α] in
/-- Whether some row of the whole matrix calls a column basic. -/
def isBasic (tableau : Tableau L α) (column : Int) : Bool :=
  (RowIndex.all L).any fun row => tableau.basic row == column

/-- Whether a structural column outside the basis has a driving entry within the tolerance of
zero. -/
def hasAlternative (tableau : Tableau L α) (tolerance : α) : Bool :=
  L.structuralColumns.any fun column =>
    !tableau.isBasic column.val
      && decide (Scalar.magnitude (tableau.driving.entries column) ≤ tolerance)

end Tableau

end TableauSimplex
