import TableauSimplex.Family
import TableauSimplex.Tableau.Layout

/-!
# Tableaux

A tableau holds the equations of the constraints with their surplus and artificial variables, the
basic column of every constraint row, and two objective rows that are reduced against the basis.
A negative entry of the driving objective row means that the objective improves when its column
enters the basis.

The basis is a list of numbers.  In a tableau made from a program they are distinct columns; in a
tableau written by hand they can be anything, and `-1` stands for no column.
-/

set_option autoImplicit false

namespace TableauSimplex

inductive CellIndex (width : Nat) where
  | entry (column : Fin width)
  | target
  deriving DecidableEq, Repr

namespace CellIndex

def ofIndex {width : Nat} (index : Fin (width + 1)) : CellIndex width :=
  if bound : index.val < width then .entry ⟨index.val, bound⟩ else .target

def resolve (width : Nat) (position : Int) : Except PositionError (CellIndex width) :=
  (resolveAxis 1 (width + 1) position).map ofIndex

theorem resolve_entry {width : Nat} (column : Fin width) :
    resolve width column.val = .ok (.entry column) := by
  have index := resolveAxis_val 1 column.castSucc
  simp only [Fin.val_castSucc] at index
  simp [resolve, index, Except.map, ofIndex]

end CellIndex

/-- A row: one entry for every variable column, and its target. -/
structure Row (width : Nat) (α : Type) where
  entries : Family width α
  target : α

namespace Row

variable {width : Nat} {α : Type} [Scalar α]

def zero : Row width α where
  entries := .constant width 0
  target := 0

omit [Scalar α] in
def map (f : α → α) (row : Row width α) : Row width α where
  entries := row.entries.map f
  target := f row.target

/-- A multiple of another row taken away, cell by cell. -/
def eliminate (row : Row width α) (factor : α) (lead : Row width α) : Row width α where
  entries := .ofFn fun column => row.entries column - factor * lead.entries column
  target := row.target - factor * lead.target

def divide (row : Row width α) (divisor : α) : Row width α :=
  row.map (· / divisor)

omit [Scalar α] in
def cells (row : Row width α) : List α :=
  row.entries.toList ++ [row.target]

omit [Scalar α] in
def cell (row : Row width α) : CellIndex width → α
  | .entry column => row.entries column
  | .target => row.target

omit [Scalar α] in
def withCell (row : Row width α) (index : CellIndex width) (value : α) : Row width α :=
  match index with
  | .entry column => { row with entries := row.entries.set column value }
  | .target => { row with target := value }

end Row

inductive Phase where
  | first
  | second
  deriving DecidableEq, Repr

def Phase.name : Phase → String
  | .first => "Phase 1"
  | .second => "Phase 2"

/-- `residual` is the objective row of the first phase, and `objective` the one of the second.
`basis` holds the basic columns of the constraint rows; an objective row has none of its own. -/
structure Tableau (L : Layout) (α : Type) where
  sense : Sense
  phase : Phase
  residual : Row L.width α
  objective : Row L.width α
  rows : Family L.constraints (Row L.width α)
  basis : Family L.constraints Int
  residualBasic : Int := -1
  objectiveBasic : Int := -1

namespace Tableau

variable {L : Layout} {α : Type}

/-- The tableau of zeros.  It starts in the first phase if there are artificial variables. -/
def empty [Scalar α] (L : Layout) (sense : Sense) : Tableau L α where
  sense
  phase := if L.artificial = 0 then .second else .first
  residual := .zero
  objective := .zero
  rows := .constant L.constraints .zero
  basis := .constant L.constraints (-1)

/-- The columns that may enter the basis: in the second phase the artificial ones may not. -/
def candidates (tableau : Tableau L α) : List (Fin L.width) :=
  match tableau.phase with
  | .first => L.columns
  | .second => L.structuralColumns

/-- The value of the objective, with the sign of its sense. -/
def objectiveValue [Scalar α] (tableau : Tableau L α) : α :=
  match tableau.sense with
  | .maximise => tableau.objective.target
  | .minimise => -tableau.objective.target

/-- The sum of the artificial variables; zero once a feasible basis is found. -/
def infeasibility [Scalar α] (tableau : Tableau L α) : α :=
  -tableau.residual.target

/-- The name of a constraint row is that of its basic column. -/
def rowName (tableau : Tableau L α) (row : Fin L.constraints) : String :=
  L.basicName (tableau.basis row)

end Tableau

inductive RowIndex (L : Layout) where
  | residual
  | objective
  | constraint (row : Fin L.constraints)
  deriving DecidableEq

namespace RowIndex

variable {L : Layout}

/-- The constraint rows stand below the two objective rows. -/
def position : RowIndex L → Nat
  | .residual => 0
  | .objective => 1
  | .constraint row => row.val + 2

def all (L : Layout) : List (RowIndex L) :=
  .residual :: .objective :: L.constraintRows.map .constraint

def ofIndex (index : Fin L.rowCount) : RowIndex L :=
  match index with
  | ⟨0, _⟩ => .residual
  | ⟨1, _⟩ => .objective
  | ⟨row + 2, bound⟩ => .constraint ⟨row, Nat.lt_of_add_lt_add_right bound⟩

def ofPosition? (L : Layout) (position : Int) : Option (RowIndex L) :=
  (resolve? L.rowCount position).map ofIndex

theorem ofPosition?_position (row : RowIndex L) : ofPosition? L row.position = some row := by
  have bound : row.position < L.rowCount := by
    cases row <;> simp [position, Layout.rowCount]
  have index := resolve?_val (⟨row.position, bound⟩ : Fin L.rowCount)
  simp only [ofPosition?, index, Option.map_some]
  cases row <;> rfl

end RowIndex

namespace Tableau

variable {L : Layout} {α : Type}

def row (tableau : Tableau L α) : RowIndex L → Row L.width α
  | .residual => tableau.residual
  | .objective => tableau.objective
  | .constraint row => tableau.rows row

def withRow (tableau : Tableau L α) (index : RowIndex L) (row : Row L.width α) : Tableau L α :=
  match index with
  | .residual => { tableau with residual := row }
  | .objective => { tableau with objective := row }
  | .constraint position => { tableau with rows := tableau.rows.set position row }

def withRows (tableau : Tableau L α) (row : RowIndex L → Row L.width α) : Tableau L α :=
  { tableau with
    residual := row .residual
    objective := row .objective
    rows := .ofFn fun index => row (.constraint index) }

/-- What a row calls its basic column. -/
def basic (tableau : Tableau L α) : RowIndex L → Int
  | .residual => tableau.residualBasic
  | .objective => tableau.objectiveBasic
  | .constraint row => tableau.basis row

def withBasic (tableau : Tableau L α) (index : RowIndex L) (basic : Int) : Tableau L α :=
  match index with
  | .residual => { tableau with residualBasic := basic }
  | .objective => { tableau with objectiveBasic := basic }
  | .constraint row => { tableau with basis := tableau.basis.set row basic }

/-- The objective rows are called by the number of their phase. -/
def indexName (tableau : Tableau L α) : RowIndex L → String
  | .residual => "I"
  | .objective => "II"
  | .constraint row => tableau.rowName row

/-- The rows that matter in the current phase: the residual row only in the first. -/
def activeRows (tableau : Tableau L α) : List (RowIndex L) :=
  match tableau.phase with
  | .first => RowIndex.all L
  | .second => .objective :: L.constraintRows.map .constraint

/-- The objective row of the current phase. -/
def drivingIndex (tableau : Tableau L α) : RowIndex L :=
  match tableau.phase with
  | .first => .residual
  | .second => .objective

def driving (tableau : Tableau L α) : Row L.width α :=
  tableau.row tableau.drivingIndex

end Tableau

end TableauSimplex
