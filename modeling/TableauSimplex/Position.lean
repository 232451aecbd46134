import TableauSimplex.Number.MachineWord

/-!
# Positions counted from either end

A position is a whole number.  From zero on it counts from the first of some places, and below
zero from the last one, which is `-1`.
-/

set_option autoImplicit false

namespace TableauSimplex

/-- The index a position stands for, if there is one. -/
def resolve? (size : Nat) (position : Int) : Option (Fin size) :=
  let offset := if position < 0 then position + size else position
  if bound : 0 ≤ offset ∧ offset < size then
    some ⟨offset.toNat, (Int.toNat_lt bound.1).mpr bound.2⟩
  else none

theorem resolve?_val {size : Nat} (index : Fin size) : resolve? size index.val = some index := by
  have bound := index.isLt
  simp only [resolve?]
  split
  · omega
  · simp

/-- A position that stands for nothing: along an axis of a table, or in a list that is read or
changed. -/
inductive PositionError where
  | outside (position : Int) (axis size : Nat)
  | listRead (position : Int)
  | listWrite (position : Int)
  deriving DecidableEq, Repr

/-- A position in a list that no machine word holds is not compared with the size at all. -/
def PositionError.message : PositionError → String
  | .outside position axis size =>
      s!"index {position} is out of bounds for axis {axis} with size {size}"
  | .listRead position =>
      if fitsWord position then "list index out of range"
      else "cannot fit 'int' into an index-sized integer"
  | .listWrite position =>
      if fitsWord position then "list assignment index out of range"
      else "cannot fit 'int' into an index-sized integer"

def resolveAxis (axis size : Nat) (position : Int) : Except PositionError (Fin size) :=
  match resolve? size position with
  | some index => .ok index
  | none => .error (.outside position axis size)

theorem resolveAxis_val {size : Nat} (axis : Nat) (index : Fin size) :
    resolveAxis axis size index.val = .ok index := by
  simp [resolveAxis, resolve?_val]

end TableauSimplex
