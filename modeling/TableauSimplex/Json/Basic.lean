import TableauSimplex.Number.Cell
import TableauSimplex.Scalar
import TableauSimplex.Number.Shortest

/-!
# Documents

A document is a JSON value in which a whole number and a number with a point or an exponent are
told apart; the numbers of the second kind include the infinities and no number.  The fields of an
object keep their order; of two fields with one name the later one counts.
-/

set_option autoImplicit false

namespace TableauSimplex

inductive Json where
  | null
  | boolean (value : Bool)
  | integer (value : Int)
  | real (value : Numeral)
  | text (value : String)
  | list (items : List Json)
  | object (fields : List (String × Json))

namespace Json

/-- The value of the last field of a name. -/
def lookup? (name : String) (fields : List (String × Json)) : Option Json :=
  fields.foldl (fun found field => if field.1 = name then some field.2 else found) none

def field? (document : Json) (name : String) : Option Json :=
  match document with
  | .object fields => lookup? name fields
  | _ => none

def optional {β : Type} (encode : β → Json) : Option β → Json
  | none => .null
  | some value => encode value

/-- A machine number as the shortest decimal that reads back; what has no digits is a text. -/
def ofFloat (value : Float) : Json :=
  match DoubleClass.ofBits value.toBits.toNat with
  | .notANumber => .text "nan"
  | .infinite negative => .text (Quantity.infinityText negative)
  | .finite double => .real (.decimal double.shortest)

def ofNat (value : Nat) : Json :=
  .integer value

def texts (values : List String) : Json :=
  .list (values.map .text)

def floats (values : List Float) : Json :=
  .list (values.map ofFloat)

end Json

end TableauSimplex
