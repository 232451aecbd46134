/-!
# Ranges of code points

A character class outside ASCII is a list of ranges of code points, both ends included.
-/

set_option autoImplicit false

namespace TableauSimplex.Text

def inRanges (ranges : List (Nat × Nat)) (point : Nat) : Bool :=
  ranges.any fun range => range.1 ≤ point && point ≤ range.2

end TableauSimplex.Text
