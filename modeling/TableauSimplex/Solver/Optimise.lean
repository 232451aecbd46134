import TableauSimplex.Solver.Run
import TableauSimplex.Tableau.Choice
import TableauSimplex.Tableau.Exchange

/-!
# Running a phase

A phase exchanges columns until its driving row has nothing left to improve.  After four exchanges
in a row that leave the objective where it is, the choice follows Bland's rule until one moves
it.
-/

set_option autoImplicit false

namespace TableauSimplex

namespace Tableau

variable {L : Layout} {α : Type} [Scalar α]

/-- The number of exchanges without progress after which Bland's rule takes over. -/
def degenerateLimit : Nat := 4

def ruleAfter (configured : ExchangeRule) (streak : Nat) : ExchangeRule :=
  if degenerateLimit ≤ streak then .bland else configured

inductive Move (L : Layout) where
  | optimal
  | unbounded (column : Fin L.width)
  | exchange (entering : Fin L.width) (leaving : Fin L.constraints)
  deriving DecidableEq

def nextMove (tableau : Tableau L α) (tolerance : α) (rule : ExchangeRule) : Move L :=
  match tableau.entering? tolerance rule with
  | none => .optimal
  | some entering =>
      match tableau.leaving? (.entry entering) tolerance rule with
      | none => .unbounded entering
      | some leaving => .exchange entering leaving

/-- An exchange as a step of a run.  A column cannot replace itself. -/
def exchangeStep (tableau : Tableau L α) (entering : Fin L.width) (leaving : Fin L.constraints)
    (tolerance : α) : Run L α Unit :=
  if tableau.basis leaving = entering.val then .fail .sameVariable tableau
  else
    { outcome := .ok ()
      tableau := tableau.exchange entering leaving tolerance
      events := [.exchanged (tableau.basis leaving) (leaving.val + 2) entering.val] }

/-- The check of the basis as a step of a run, where the options ask for it. -/
def checkStep (options : Options α) (tableau : Tableau L α) : Run L α Unit :=
  .settle (if options.checksBasis then tableau.checkBasis options.tolerance else .ok ()) tableau

def checkedExchange (options : Options α) (tableau : Tableau L α) (entering : Fin L.width)
    (leaving : Fin L.constraints) : Run L α Unit :=
  (tableau.exchangeStep entering leaving options.tolerance).andThen fun _ next =>
    next.checkStep options

def isDegenerateAt (tableau : Tableau L α) (tolerance : α) (row : Fin L.constraints) : Bool :=
  decide (Scalar.magnitude (tableau.rows row).target ≤ tolerance)

end Tableau

/-- How a phase ended, and after how many exchanges. -/
structure PhaseOutcome (L : Layout) where
  pivots : Nat
  ray : Option (Fin L.width)
  deriving DecidableEq

namespace Tableau

variable {L : Layout} {α : Type} [Scalar α]

/-- Runs the current phase with a budget of exchanges left out of a limit. -/
def optimiseFrom (options : Options α) (limit : Int) (budget streak pivots : Nat)
    (tableau : Tableau L α) : Run L α (PhaseOutcome L) :=
  match tableau.nextMove options.tolerance (ruleAfter options.rule streak) with
  | .optimal => .done { pivots, ray := none } tableau
  | .unbounded column =>
      match tableau.phase with
      | .first => .fail (.noLeavingRow (L.columnName column.val)) tableau
      | .second => .done { pivots, ray := some column } tableau
  | .exchange entering leaving =>
      match budget with
      | 0 => .fail (.pivotCeiling tableau.phase limit) tableau
      | budget + 1 =>
          let streak :=
            if tableau.isDegenerateAt options.tolerance leaving then streak + 1 else 0
          ((checkedExchange options tableau entering leaving).andThen fun _ next =>
            Run.note (.shown (.step tableau.phase) next) next).andThen fun _ next =>
              optimiseFrom options limit budget streak (pivots + 1) next

def optimise (options : Options α) (limit : Int) (tableau : Tableau L α) :
    Run L α (PhaseOutcome L) :=
  optimiseFrom options limit limit.toNat 0 0 tableau

end Tableau

end TableauSimplex
