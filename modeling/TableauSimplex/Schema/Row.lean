import TableauSimplex.Language.Expression
import TableauSimplex.Schema.Model

/-!
# Rows given by their numbers

The coefficients of a row are converted one by one, and the first that is no number stops the
conversion.  The target and the rule that there are coefficients are checked after that.
-/

set_option autoImplicit false

namespace TableauSimplex.Schema

inductive EntryError where
  | unreadable (error : Language.NumberError)
  | notNumeric (kind : String)
  | tooLarge
  deriving DecidableEq, Repr

def EntryError.message : EntryError → String
  | .unreadable error => error.message
  | .notNumeric kind =>
      "float() argument must be a string or a real number, not '" ++ kind ++ "'"
  | .tooLarge => "int too large to convert to float"

/-- An entry as a machine number; texts may use the digits of any script. -/
def entry : Json → Except EntryError Float
  | .integer value =>
      match floatOfInteger? value with
      | some number => .ok number
      | none => .error .tooLarge
  | .real value => .ok (Float64.ofNumeral value)
  | .boolean value => .ok (if value then 1.0 else 0.0)
  | .text value =>
      match Language.number? value.toList with
      | some number => .ok number
      | none => .error (.unreadable { text := value })
  | .null => .error (.notNumeric "NoneType")
  | .list _ => .error (.notNumeric "list")
  | .object _ => .error (.notNumeric "dict")

def entries : List Json → Except EntryError (List Float)
  | [] => .ok []
  | first :: rest => do
      let value ← entry first
      return value :: (← entries rest)

inductive RowError where
  | entry (error : EntryError)
  | issues (issues : List Issue)

def row (coefficients : List Json) (relation : Relation) (target : Json) :
    Except RowError (Constraint Float) :=
  match entries coefficients with
  | .error error => .error (.entry error)
  | .ok values =>
      let checked := (fun row target => makeConstraint row relation target)
        <$> (someCoefficients values).under (.key "coefficients")
        <*> (float target).under (.key "target")
      match checked with
      | .valid constraint => .ok constraint
      | .invalid issues => .error (.issues issues)

end TableauSimplex.Schema
