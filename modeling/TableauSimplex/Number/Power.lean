/-!
# Powers of two and ten

Decoding and rounding scale by powers of these two bases only.
-/

set_option autoImplicit false

namespace TableauSimplex

def powerOfTwo (exponent : Nat) : Nat :=
  Nat.pow 2 exponent

def powerOfTen (exponent : Nat) : Nat :=
  Nat.pow 10 exponent

end TableauSimplex
