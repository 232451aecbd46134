import TableauSimplex.Scalar

/-!
# Options of a run
-/

set_option autoImplicit false

namespace TableauSimplex

/-- How the entering column is chosen: the steepest one, or the first that improves. -/
inductive ExchangeRule where
  | dantzig
  | bland
  deriving DecidableEq, Repr

namespace ExchangeRule

def name : ExchangeRule → String
  | .dantzig => "dantzig"
  | .bland => "bland"

def ofName? : String → Option ExchangeRule
  | "dantzig" => some .dantzig
  | "bland" => some .bland
  | _ => none

end ExchangeRule

/-- `tolerance` separates zero from the rest, `feasibilityTolerance` bounds the residual of the
first phase, and without `maxPivots` a run has a ceiling that grows with the tableau. -/
structure Options (α : Type) where
  maxPivots : Option Int
  tolerance : α
  feasibilityTolerance : α
  rule : ExchangeRule
  checksBasis : Bool

def Options.standard {α : Type} [Scalar α] : Options α where
  maxPivots := none
  tolerance := Scalar.tenth 9
  feasibilityTolerance := Scalar.tenth 6
  rule := .dantzig
  checksBasis := true

end TableauSimplex
