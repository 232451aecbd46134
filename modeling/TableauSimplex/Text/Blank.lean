import TableauSimplex.Text.Margin
import TableauSimplex.Text.Range

/-!
# Blanks

The white-space characters of Unicode together with the four information separators.
-/

set_option autoImplicit false

namespace TableauSimplex.Text

def blankRanges : List (Nat × Nat) :=
  [(0x9, 0xd), (0x1c, 0x20), (0x85, 0x85), (0xa0, 0xa0), (0x1680, 0x1680), (0x2000, 0x200a),
   (0x2028, 0x2029), (0x202f, 0x202f), (0x205f, 0x205f), (0x3000, 0x3000)]

/-- A blank separates words. -/
def isBlank (c : Char) : Bool :=
  inRanges blankRanges c.toNat

/-- A blank that may surround a numeral: any but the information separators. -/
def isNumeralMargin (c : Char) : Bool :=
  isBlank c && !inRanges [(0x1c, 0x1f)] c.toNat

def strip (text : List Char) : List Char :=
  stripBoth isBlank text

def words (text : List Char) : List (List Char) :=
  (text.splitOnP isBlank).filter fun word => !word.isEmpty

end TableauSimplex.Text
