import TableauSimplex.Number.Cell
import TableauSimplex.Tableau.Basic
import TableauSimplex.Text.Blank

/-!
# Tableaux as text

A tableau is written as a grid of cells six characters wide, with a line for every row and column
of the current phase.  A second form lists the basic columns with their targets on one line.
-/

set_option autoImplicit false

namespace TableauSimplex

/-- Fills up to six characters with spaces on the left. -/
def alignRight (text : String) : String :=
  String.ofList (List.replicate (6 - text.length) ' ') ++ text

def gridCell (text : String) : String :=
  alignRight text ++ ", "

def cellText {α : Type} [Scalar α] (value : α) : String :=
  (Scalar.quantity value).cell

namespace Tableau

variable {L : Layout} {α : Type}

/-- The line of a row: its name, its entries in the current columns and its target. -/
def gridLine [Scalar α] (tableau : Tableau L α) (index : RowIndex L) : String :=
  let row := tableau.row index
  alignRight (tableau.indexName index ++ "):")
    ++ String.join (tableau.candidates.map fun column => gridCell (cellText (row.entries column)))
    ++ gridCell (cellText row.target)

def gridHeader (tableau : Tableau L α) : String :=
  alignRight ""
    ++ String.join (tableau.candidates.map fun column => gridCell (L.columnName column.val))
    ++ gridCell (L.columnName L.width)

def grid [Scalar α] (tableau : Tableau L α) : String :=
  let lines := tableau.gridHeader :: tableau.activeRows.map tableau.gridLine
  String.ofList (Text.stripEnd Text.isBlank (String.intercalate "\n" lines).toList)

/-- The basic columns with their targets, and the objectives of the current phases. -/
def summary [Scalar α] (tableau : Tableau L α) : String :=
  let basics := L.constraintRows.map fun row =>
    tableau.rowName row ++ " = " ++ cellText (tableau.rows row).target
  let residual :=
    match tableau.phase with
    | .first => ["z' = " ++ cellText (-tableau.infeasibility)]
    | .second => []
  String.intercalate "    "
    (basics ++ residual ++ ["z = " ++ cellText tableau.objectiveValue])

end Tableau

end TableauSimplex
