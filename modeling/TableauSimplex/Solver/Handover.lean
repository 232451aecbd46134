import TableauSimplex.Solver.Optimise

/-!
# From the first phase to the second

The first phase has found a feasible basis if nothing but rounding is left of its residual.  Then
every artificial column that is still basic, at zero, is exchanged for the structural column with
the greatest entry in its row.  A row without such an entry repeats the others and keeps its
artificial column.
-/

set_option autoImplicit false

namespace TableauSimplex.Tableau

variable {L : Layout} {α : Type} [Scalar α]

def clearResidual (tableau : Tableau L α) : Tableau L α :=
  { tableau with residual := { tableau.residual with target := 0 } }

/-- The tableau with zero as the target of a constraint row. -/
def clearTarget (tableau : Tableau L α) (row : Fin L.constraints) : Tableau L α :=
  { tableau with rows := tableau.rows.set row { tableau.rows row with target := 0 } }

def leaveFirstPhase (tableau : Tableau L α) : Tableau L α :=
  { tableau with phase := .second }

omit [Scalar α] in
def isArtificialRow (tableau : Tableau L α) (row : Fin L.constraints) : Bool :=
  L.isArtificialBasic (tableau.basis row)

/-- Exchanges the artificial columns of the given rows, counting the exchanges. -/
def expelArtificials (options : Options α) (rows : List (Fin L.constraints)) (pivots : Nat)
    (tableau : Tableau L α) : Run L α Nat :=
  match rows with
  | [] => .done pivots tableau
  | row :: rest =>
      if tableau.isArtificialRow row then
        let cleared := tableau.clearTarget row
        match cleared.replacement? row options.tolerance with
        | none => expelArtificials options rest pivots cleared
        | some entering =>
            (checkedExchange options cleared entering row).andThen fun _ next =>
              expelArtificials options rest (pivots + 1) next
      else expelArtificials options rest pivots tableau

/-- Ends the first phase: the number of exchanges that took, or none if the residual exceeds its
tolerance. -/
def handOver (options : Options α) (tableau : Tableau L α) : Run L α (Option Nat) :=
  if options.feasibilityTolerance < tableau.infeasibility then .done none tableau
  else
    (expelArtificials options L.constraintRows 0 tableau.clearResidual).andThen fun pivots next =>
      .done (some pivots) next.leaveFirstPhase

end TableauSimplex.Tableau
