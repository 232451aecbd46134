import TableauSimplex.Program.Options
import TableauSimplex.Tableau.Basic

/-!
# Choosing an exchange

The entering column comes from the driving objective row and the leaving row from the ratio test.
Both scans go from the first index to the last and keep a running best.
-/

set_option autoImplicit false

namespace TableauSimplex

/-- The first element that is no worse than any other.  An element that is not even as good as
itself cannot be displaced, so the first of those wins over everything. -/
def firstBest {β : Type} (noWorse : β → β → Bool) : List β → Option β
  | [] => none
  | first :: rest =>
      some (rest.foldl
        (fun best next =>
          if noWorse best best && !noWorse best next then next else best)
        first)

namespace Tableau

variable {L : Layout} {α : Type} [Scalar α]

def steepest (tableau : Tableau L α) : Option (Fin L.width) :=
  firstBest
    (fun a b => decide (tableau.driving.entries a ≤ tableau.driving.entries b))
    tableau.candidates

def improves (tableau : Tableau L α) (tolerance : α) (column : Fin L.width) : Bool :=
  decide (tableau.driving.entries column < -tolerance)

def entering? (tableau : Tableau L α) (tolerance : α) : ExchangeRule → Option (Fin L.width)
  | .bland => tableau.candidates.find? (tableau.improves tolerance)
  | .dantzig => tableau.steepest.filter (tableau.improves tolerance)

def ratio (tableau : Tableau L α) (column : CellIndex L.width) (row : Fin L.constraints) : α :=
  (tableau.rows row).target / (tableau.rows row).cell column

/-- One step of the ratio test: a row whose cell exceeds the tolerance replaces the best one if
its ratio is smaller by more than the tolerance, or, under Bland's rule, if the ratios are as good
as equal and its basic column comes first. -/
def betterLeaving (tableau : Tableau L α) (column : CellIndex L.width) (tolerance : α)
    (rule : ExchangeRule) (best : Option (Fin L.constraints)) (row : Fin L.constraints) :
    Option (Fin L.constraints) :=
  if (tableau.rows row).cell column ≤ tolerance then best
  else
    match best with
    | none => some row
    | some current =>
        if tableau.ratio column row < tableau.ratio column current - tolerance then some row
        else if rule = .bland
            ∧ Scalar.magnitude (tableau.ratio column row - tableau.ratio column current)
              ≤ tolerance
            ∧ tableau.basis row < tableau.basis current then some row
        else best

/-- The row whose basic column leaves, or none if no cell of the column exceeds the tolerance. -/
def leaving? (tableau : Tableau L α) (column : CellIndex L.width) (tolerance : α)
    (rule : ExchangeRule) : Option (Fin L.constraints) :=
  L.constraintRows.foldl (tableau.betterLeaving column tolerance rule) none

/-- The structural column with the entry of greatest magnitude in a row, or none if that entry is
within the tolerance of zero. -/
def replacement? (tableau : Tableau L α) (row : Fin L.constraints) (tolerance : α) :
    Option (Fin L.width) :=
  let size (column : Fin L.width) : α := Scalar.magnitude ((tableau.rows row).entries column)
  (firstBest (fun a b => decide (size b ≤ size a)) L.structuralColumns).filter
    fun column => !decide (size column ≤ tolerance)

end Tableau

end TableauSimplex
