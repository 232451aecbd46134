import TableauSimplex.Tableau.Basic

/-!
# Exchanging a basic column

An exchange divides the leaving row by its cell in the entering column and takes multiples of it
away from every row.  Targets, and all cells of the objective rows, that end up closer to zero
than the tolerance become zero; the entering column becomes a unit column.
-/

set_option autoImplicit false

namespace TableauSimplex

namespace Row

variable {width : Nat} {α : Type} [Scalar α]

def snapTarget (row : Row width α) (tolerance : α) : Row width α where
  entries := row.entries
  target := Scalar.snap tolerance row.target

def snap (row : Row width α) (tolerance : α) : Row width α :=
  row.map (Scalar.snap tolerance)

end Row

namespace Tableau

variable {L : Layout} {α : Type} [Scalar α]

def lead (tableau : Tableau L α) (entering : CellIndex L.width) (leaving : RowIndex L) :
    Row L.width α :=
  (tableau.row leaving).divide ((tableau.row leaving).cell entering)

/-- Rounding noise left by an elimination: an objective row is snapped in every cell, a constraint
row only in its target. -/
def tidy (index : RowIndex L) (row : Row L.width α) (tolerance : α) : Row L.width α :=
  match index with
  | .residual | .objective => row.snap tolerance
  | .constraint _ => row.snapTarget tolerance

/-- The leading row loses a zero multiple of itself, which matters only for cells that are not
finite and for the sign of zero. -/
def exchangedLead (index : RowIndex L) (lead : Row L.width α) (entering : CellIndex L.width)
    (tolerance : α) : Row L.width α :=
  (tidy index (lead.eliminate 0 lead) tolerance).withCell entering 1

/-- Any other row loses the multiple that clears its cell in the entering column. -/
def exchangedRow (index : RowIndex L) (row lead : Row L.width α) (entering : CellIndex L.width)
    (tolerance : α) : Row L.width α :=
  (tidy index (row.eliminate (row.cell entering) lead) tolerance).withCell entering 0

/-- Makes the entering column a unit column of the leaving row.  The basis stays as it is. -/
def clearColumn (tableau : Tableau L α) (entering : CellIndex L.width) (leaving : RowIndex L)
    (tolerance : α) : Tableau L α :=
  let lead := tableau.lead entering leaving
  tableau.withRows fun index =>
    if index = leaving then exchangedLead index lead entering tolerance
    else exchangedRow index (tableau.row index) lead entering tolerance

def exchange (tableau : Tableau L α) (entering : Fin L.width) (leaving : Fin L.constraints)
    (tolerance : α) : Tableau L α :=
  (tableau.clearColumn (.entry entering) (.constraint leaving) tolerance).withBasic
    (.constraint leaving) entering.val

end Tableau

end TableauSimplex
