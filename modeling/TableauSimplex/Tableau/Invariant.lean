import TableauSimplex.Tableau.Text

/-!
# Broken invariants

A correct tableau has a basis of distinct columns, each of them a unit column over all rows.  A
run stops with an error when that fails, when a phase has nothing to leave, or when it makes more
exchanges than it may.  In a tableau written by hand the basis may also point outside the matrix.
-/

set_option autoImplicit false

namespace TableauSimplex

inductive Fault where
  | sharedBasis (columns : List Int)
  | brokenColumn (name : String) (row : Nat)
  | sameVariable
  | noLeavingRow (name : String)
  | pivotCeiling (phase : Phase) (limit : Int)
  deriving DecidableEq, Repr

def Fault.message : Fault → String
  | .sharedBasis columns =>
      "Basis is not a set of distinct columns: ["
        ++ String.intercalate ", " (columns.map toString) ++ "]"
  | .brokenColumn name row => s!"Column {name} is basic in row {row} but is not a unit column."
  | .sameVariable => "Entering and leaving variables must be different."
  | .noLeavingRow name => s!"Phase 1 found no leaving row for {name}."
  | .pivotCeiling phase limit => s!"{phase.name} exceeded the pivot ceiling of {limit}."

def report (message snapshot : String) : String :=
  if snapshot = "" then message else message ++ "\n" ++ snapshot

/-- A fault and the grid of the tableau in which it was found. -/
structure InvariantError where
  fault : Fault
  snapshot : String
  deriving DecidableEq, Repr

def InvariantError.text (error : InvariantError) : String :=
  report error.fault.message error.snapshot

/-- Why a run stops: a broken invariant, or a basis that points outside the tableau. -/
inductive RunError where
  | invariant (error : InvariantError)
  | position (error : PositionError)
  deriving DecidableEq, Repr

def RunError.text : RunError → String
  | .invariant error => error.text
  | .position error => error.message

namespace Tableau

variable {L : Layout} {α : Type}

/-- Whether every row has a basic column and no two have the same. -/
def hasDistinctBasis (tableau : Tableau L α) : Bool :=
  let columns := tableau.basis.toList
  decide columns.Nodup && columns.all fun column => decide (0 ≤ column)

def agrees [Scalar α] (tolerance expected value : α) : Bool :=
  value == expected || decide (Scalar.magnitude (value - expected) ≤ tolerance)

/-- Whether a column is the unit column of a row, over the objective rows too. -/
def isUnitColumn [Scalar α] (tableau : Tableau L α) (tolerance : α) (column : CellIndex L.width)
    (row : Fin L.constraints) : Bool :=
  (RowIndex.all L).all fun index =>
    agrees tolerance (if index = .constraint row then 1 else 0) ((tableau.row index).cell column)

def failure [Scalar α] (tableau : Tableau L α) (fault : Fault) : InvariantError :=
  { fault, snapshot := tableau.grid }

/-- Fails unless the basic column of a row is its unit column.  Constraint rows are numbered behind
the two objective rows. -/
def checkRow [Scalar α] (tableau : Tableau L α) (tolerance : α) (row : Fin L.constraints) :
    Except RunError Unit :=
  match CellIndex.resolve L.width (tableau.basis row) with
  | .error error => .error (.position error)
  | .ok column =>
      if tableau.isUnitColumn tolerance column row then .ok ()
      else
        .error (.invariant
          (tableau.failure (.brokenColumn (tableau.rowName row) (row.val + 2))))

/-- Fails unless the basic columns are distinct unit columns. -/
def checkBasis [Scalar α] (tableau : Tableau L α) (tolerance : α) : Except RunError Unit :=
  if tableau.hasDistinctBasis then L.constraintRows.forM (tableau.checkRow tolerance)
  else .error (.invariant (tableau.failure (.sharedBasis tableau.basis.toList)))

end Tableau

end TableauSimplex
