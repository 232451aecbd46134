import TableauSimplex.Number.Power

/-!
# Machine words

A machine word holds the whole numbers of sixty-four bits, one of which is the sign.
-/

set_option autoImplicit false

namespace TableauSimplex

/-- Half the number of machine words. -/
def wordBound : Int :=
  powerOfTwo 63

def fitsWord (value : Int) : Bool :=
  decide (-wordBound ≤ value) && decide (value < wordBound)

end TableauSimplex
