/-!
# Margins

The characters of a class at the ends of a text.
-/

set_option autoImplicit false

namespace TableauSimplex.Text

def stripEnd (isMargin : Char → Bool) (text : List Char) : List Char :=
  (text.reverse.dropWhile isMargin).reverse

def stripBoth (isMargin : Char → Bool) (text : List Char) : List Char :=
  stripEnd isMargin (text.dropWhile isMargin)

end TableauSimplex.Text
