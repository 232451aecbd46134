import TableauSimplex.Json.Basic
import TableauSimplex.Number.MachineWord
import TableauSimplex.Schema.NumberText
import TableauSimplex.Table

/-!
# Reading values leniently

A number may be written as a number, as a truth value or as a text; a truth value also as zero or
one; and a whole number also with a fraction of zero.  A machine number stands for a whole number
only if that fits into sixty-four bits with its sign.  Texts, lists and dictionaries are taken as
they are.
-/

set_option autoImplicit false

namespace TableauSimplex.Schema

abbrev Reader (β : Type) := Json → Checked β

/-- The nearest machine number to a whole number, if that is finite. -/
def floatOfInteger? (value : Int) : Option Float :=
  let nearest := Float64.ofDecimal
    { negative := value < 0, digits := value.natAbs, exponent := 0 }
  if nearest.isFinite then some nearest else none

def float : Reader Float
  | .integer value =>
      match floatOfInteger? value with
      | some number => .valid number
      | none => .fail .notNumber
  | .real value => .valid (Float64.ofNumeral value)
  | .boolean value => .valid (if value then 1.0 else 0.0)
  | .text value =>
      match numeralOfText? value with
      | some number => .valid (Float64.ofNumeral number)
      | none => .fail .unreadableNumber
  | _ => .fail .notNumber

/-- The whole number that equals a machine number.  The least whole number of a machine word is out
of bounds already. -/
def integerOfFloat (number : Float) : Checked Int :=
  match Scalar.quantity number with
  | .finite negative numerator denominator =>
      if numerator % denominator ≠ 0 then .fail .fractionalInteger
      else
        let size : Int := ((numerator / denominator : Nat) : Int)
        if size < wordBound then .valid (if negative then -size else size)
        else .fail .oversizedInteger
  | _ => .fail .infiniteInteger

def integer : Reader Int
  | .integer value => .valid value
  | .real value => integerOfFloat (Float64.ofNumeral value)
  | .boolean value => .valid (if value then 1 else 0)
  | .text value =>
      match integerOfText value with
      | .ok number => .valid number
      | .error complaint => .fail complaint
  | _ => .fail .notInteger

/-- The words for a truth value, in lower case. -/
def booleanOfWord? (word : String) : Option Bool :=
  if ["1", "on", "t", "true", "y", "yes"].contains word then some true
  else if ["0", "off", "f", "false", "n", "no"].contains word then some false
  else none

/-- Zero and one are truth values; a number that does not fit into a machine word is not even
looked at. -/
def booleanOfInteger (value : Int) : Checked Bool :=
  if value = 0 then .valid false
  else if value = 1 then .valid true
  else if fitsWord value then .fail .unreadableBoolean
  else .fail .notBoolean

def boolean : Reader Bool
  | .boolean value => .valid value
  | .integer value => booleanOfInteger value
  | .real value =>
      match integerOfFloat (Float64.ofNumeral value) with
      | .valid number => booleanOfInteger number
      | .invalid _ => .fail .notBoolean
  | .text value =>
      match booleanOfWord? (value.map Char.toLower) with
      | some truth => .valid truth
      | none => .fail .unreadableBoolean
  | _ => .fail .notBoolean

def text : Reader String
  | .text value => .valid value
  | _ => .fail .notText

def choice {β : Type} (ofText? : String → Option β) (choices : String) : Reader β
  | .text value =>
      match ofText? value with
      | some chosen => .valid chosen
      | none => .fail (.notChosen choices)
  | _ => .fail (.notChosen choices)

def nullable {β : Type} (reader : Reader β) : Reader (Option β)
  | .null => .valid none
  | other => (reader other).map some

def itemsFrom {β : Type} (reader : Reader β) : Nat → List Json → Checked (List β)
  | _, [] => .valid []
  | position, item :: rest =>
      List.cons <$> (reader item).under (.index position) <*> itemsFrom reader (position + 1) rest

/-- A list; the complaint about anything else is a parameter. -/
def listOr {β : Type} (complaint : Complaint) (reader : Reader β) : Reader (List β)
  | .list items => itemsFrom reader 0 items
  | _ => .fail complaint

def list {β : Type} (reader : Reader β) : Reader (List β) :=
  listOr .notList reader

def entriesFrom {β : Type} (reader : Reader β) :
    List (String × Json) → Checked (List (String × β))
  | [] => .valid []
  | entry :: rest =>
      (fun value others => (entry.1, value) :: others)
        <$> (reader entry.2).under (.key entry.1) <*> entriesFrom reader rest

/-- A dictionary: of several fields with one name only the last is read. -/
def dictionary {β : Type} (reader : Reader β) : Reader (List (String × β))
  | .object fields => entriesFrom reader (Table.ofList fields).entries
  | _ => .fail .notDictionary

/-- The fields of an object that stands for a model. -/
abbrev Fields := List (String × Json)

def required {β : Type} (fields : Fields) (name : String) (reader : Reader β) : Checked β :=
  match Json.lookup? name fields with
  | some value => (reader value).under (.key name)
  | none => (Checked.fail .missing).under (.key name)

/-- A field with a value in its absence. -/
def withDefault {β : Type} (fields : Fields) (name : String) (fallback : β) (reader : Reader β) :
    Checked β :=
  match Json.lookup? name fields with
  | some value => (reader value).under (.key name)
  | none => .valid fallback

def model {β : Type} (name : String) (ofFields : Fields → Checked β) : Reader β
  | .object fields => ofFields fields
  | _ => .fail (.notModel name)

end TableauSimplex.Schema
