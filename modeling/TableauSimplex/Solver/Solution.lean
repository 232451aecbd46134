import TableauSimplex.Table
import TableauSimplex.Tableau.Invariant
import TableauSimplex.Tableau.Solution

/-!
# Solutions

A solution says how a run ended, the point it found, and which kind every basic column has.
Points and basis reports are tables from names to entries.
-/

set_option autoImplicit false

namespace TableauSimplex

inductive Status where
  | optimal
  | infeasible
  | unbounded
  deriving DecidableEq, Repr

namespace Status

def name : Status → String
  | .optimal => "optimal"
  | .infeasible => "infeasible"
  | .unbounded => "unbounded"

def ofName? : String → Option Status
  | "optimal" => some .optimal
  | "infeasible" => some .infeasible
  | "unbounded" => some .unbounded
  | _ => none

end Status

structure Solution (α : Type) where
  status : Status
  objectiveValue : Option α
  values : Option (List α)
  point : Option (Table α)
  basis : Table String
  alternateOptima : Bool
  pivots : Int
  phaseOnePivots : Int
  message : String
  deriving DecidableEq, Repr

namespace Tableau

variable {L : Layout} {α : Type} [Scalar α]

/-- The kind of the basic column of every row, under its name. -/
def basisReport (tableau : Tableau L α) (tolerance : α) : Table String :=
  .ofList (L.constraintRows.map fun row =>
    (tableau.rowName row, (tableau.basicValue tolerance (tableau.basis row)).1.name))

def infeasibleSolution (tableau : Tableau L α) (tolerance : α) (pivots : Nat) : Solution α where
  status := .infeasible
  objectiveValue := none
  values := none
  point := none
  basis := tableau.basisReport tolerance
  alternateOptima := false
  pivots
  phaseOnePivots := pivots
  message := "Infeasible: artificial variables sum to "
    ++ (Scalar.quantity tableau.infeasibility).residual ++ " at the end of phase I."

/-- The solution of a second phase in which a column can grow without end. -/
def unboundedSolution (tableau : Tableau L α) (tolerance : α) (ray : Fin L.width)
    (phaseOnePivots pivots : Nat) : Solution α where
  status := .unbounded
  objectiveValue := none
  values := none
  point := none
  basis := (tableau.basisReport tolerance).put (L.columnName ray.val) "unbounded"
  alternateOptima := false
  pivots
  phaseOnePivots
  message := "Unbounded: objective improves without limit along "
    ++ L.columnName ray.val ++ "."

/-- The solution of a second phase in which nothing improves any more. -/
def optimalSolution (tableau : Tableau L α) (tolerance : α) (names : List String)
    (phaseOnePivots pivots : Nat) : Except PositionError (Solution α) :=
  (tableau.point tolerance).map fun point =>
    let values := point.toList
    let alternative := tableau.hasAlternative tolerance
    { status := .optimal
      objectiveValue := some tableau.objectiveValue
      values := some values
      point := some (.ofList (names.zip values))
      basis := tableau.basisReport tolerance
      alternateOptima := alternative
      pivots
      phaseOnePivots
      message := if alternative then "Optimal solution is not unique." else "" }

end Tableau

end TableauSimplex
