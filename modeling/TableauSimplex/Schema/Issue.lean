/-!
# Faults of a document

An issue says where in a document something is wrong, and what.  Every complaint has a short code
and a message.
-/

set_option autoImplicit false

namespace TableauSimplex.Schema

/-- One step from a document into a part of it. -/
inductive Step where
  | key (name : String)
  | index (position : Nat)
  deriving DecidableEq, Repr

inductive Complaint where
  | missing
  | notNumber
  | unreadableNumber
  | notInteger
  | unreadableInteger
  | fractionalInteger
  | oversizedInteger
  | infiniteInteger
  | notBoolean
  | unreadableBoolean
  | notText
  | notList
  | notTuple
  | notDictionary
  | notModel (name : String)
  | notChosen (choices : String)
  | noCoefficients
  deriving DecidableEq, Repr

namespace Complaint

def code : Complaint → String
  | .missing => "missing"
  | .notNumber => "float_type"
  | .unreadableNumber => "float_parsing"
  | .notInteger => "int_type"
  | .unreadableInteger => "int_parsing"
  | .fractionalInteger => "int_from_float"
  | .oversizedInteger => "int_parsing_size"
  | .infiniteInteger => "finite_number"
  | .notBoolean => "bool_type"
  | .unreadableBoolean => "bool_parsing"
  | .notText => "string_type"
  | .notList => "list_type"
  | .notTuple => "tuple_type"
  | .notDictionary => "dict_type"
  | .notModel _ => "model_type"
  | .notChosen _ => "literal_error"
  | .noCoefficients => "value_error"

def message : Complaint → String
  | .missing => "Field required"
  | .notNumber => "Input should be a valid number"
  | .unreadableNumber =>
      "Input should be a valid number, unable to parse string as a number"
  | .notInteger => "Input should be a valid integer"
  | .unreadableInteger =>
      "Input should be a valid integer, unable to parse string as an integer"
  | .fractionalInteger =>
      "Input should be a valid integer, got a number with a fractional part"
  | .oversizedInteger => "Unable to parse input string as an integer, exceeded maximum size"
  | .infiniteInteger => "Input should be a finite number"
  | .notBoolean => "Input should be a valid boolean"
  | .unreadableBoolean => "Input should be a valid boolean, unable to interpret input"
  | .notText => "Input should be a valid string"
  | .notList => "Input should be a valid list"
  | .notTuple => "Input should be a valid tuple"
  | .notDictionary => "Input should be a valid dictionary"
  | .notModel name => "Input should be a valid dictionary or instance of " ++ name
  | .notChosen choices => "Input should be " ++ choices
  | .noCoefficients => "Value error, Constraint must have at least one coefficient."

end Complaint

structure Issue where
  location : List Step
  complaint : Complaint
  deriving DecidableEq, Repr

/-- The issue seen from one step further out. -/
def Issue.under (step : Step) (issue : Issue) : Issue :=
  { issue with location := step :: issue.location }

/-- A value read from a document, or all that is wrong with it. -/
inductive Checked (β : Type) where
  | valid (value : β)
  | invalid (issues : List Issue)

namespace Checked

variable {β γ : Type}

def fail (complaint : Complaint) : Checked β :=
  .invalid [{ location := [], complaint }]

def map (f : β → γ) : Checked β → Checked γ
  | .valid value => .valid (f value)
  | .invalid issues => .invalid issues

def apply (function : Checked (β → γ)) (argument : Checked β) : Checked γ :=
  match function, argument with
  | .valid f, .valid value => .valid (f value)
  | .valid _, .invalid issues => .invalid issues
  | .invalid issues, .valid _ => .invalid issues
  | .invalid issues, .invalid more => .invalid (issues ++ more)

instance : Applicative Checked where
  pure := .valid
  seq := fun function argument => function.apply (argument ())

def under (step : Step) : Checked β → Checked β
  | .valid value => .valid value
  | .invalid issues => .invalid (issues.map (Issue.under step))

/-- A further check of a value that is valid so far. -/
def andThen (checked : Checked β) (next : β → Checked γ) : Checked γ :=
  match checked with
  | .valid value => next value
  | .invalid issues => .invalid issues

end Checked

end TableauSimplex.Schema
