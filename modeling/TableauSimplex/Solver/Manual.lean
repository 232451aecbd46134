import TableauSimplex.Solver.Optimise

/-!
# Working on a tableau by hand

A cell, a basic column or an exchange is given by positions of the whole matrix, counted from
either end.  Nothing is asked of them: any number can be written into the basis, the objective rows
can be exchanged like the others, and the target like a variable column.
-/

set_option autoImplicit false

namespace TableauSimplex.Tableau

variable {L : Layout} {α : Type}

def writeCell (tableau : Tableau L α) (row column : Int) (value : α) :
    Except PositionError (Tableau L α) := do
  let index := RowIndex.ofIndex (← resolveAxis 0 L.rowCount row)
  let cell ← CellIndex.resolve L.width column
  return tableau.withRow index ((tableau.row index).withCell cell value)

def writeBasic (tableau : Tableau L α) (row basic : Int) : Except PositionError (Tableau L α) :=
  match RowIndex.ofPosition? L row with
  | some index => .ok (tableau.withBasic index basic)
  | none => .error (.listWrite row)

variable [Scalar α]

def leavingAt (tableau : Tableau L α) (entering : Int) (tolerance : α) (rule : ExchangeRule) :
    Except PositionError (Option (Fin L.constraints)) :=
  (CellIndex.resolve L.width entering).map fun column => tableau.leaving? column tolerance rule

/-- An exchange at a position, which is recorded before the column is looked for.  The row gets the
position as its basic column. -/
def exchangeAt (tableau : Tableau L α) (entering leaving : Int) (tolerance : α) :
    Run L α Unit :=
  match RowIndex.ofPosition? L leaving with
  | none => .settle (.error (.position (.listRead leaving))) tableau
  | some row =>
      if tableau.basic row = entering then .fail .sameVariable tableau
      else
        (Run.note (.exchanged (tableau.basic row) leaving entering) tableau).andThen
          fun _ tableau =>
            match CellIndex.resolve L.width entering with
            | .error error => .settle (.error (.position error)) tableau
            | .ok column =>
                .done () ((tableau.clearColumn column row tolerance).withBasic row entering)

/-- At a variable column and a constraint row an exchange by hand is that of a run. -/
theorem exchangeAt_eq_exchangeStep (tableau : Tableau L α) (entering : Fin L.width)
    (leaving : Fin L.constraints) (tolerance : α) :
    tableau.exchangeAt entering.val (leaving.val + 2) tolerance
      = tableau.exchangeStep entering leaving tolerance := by
  have row : RowIndex.ofPosition? L (leaving.val + 2) = some (.constraint leaving) :=
    RowIndex.ofPosition?_position (.constraint leaving)
  simp only [exchangeAt, row, CellIndex.resolve_entry, exchangeStep, basic]
  split <;> rfl

end TableauSimplex.Tableau
