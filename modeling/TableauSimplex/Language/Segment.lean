import TableauSimplex.Language.Expression
import TableauSimplex.Program.Constraint

/-!
# Constraint segments

A segment compares an expression with a number, or gives one bound to a list of names.  Commas
inside such a list have split it, so bare names wait for the next segment and are put in front of
it.
-/

set_option autoImplicit false

namespace TableauSimplex.Language

def isName (part : List Char) : Bool :=
  match takeName? part with
  | some (_, []) => true
  | _ => false

def joinNames (names : List (List Char)) : List Char :=
  [',', ' '].intercalate names

/-- The segments made of the parts, and the names at the end that found no segment. -/
def segments : List (List Char) → List (List Char) → List (List Char) × List (List Char)
  | waiting, [] => ([], waiting)
  | waiting, part :: rest =>
      if isName part then segments (waiting ++ [part]) rest
      else
        let (others, dangling) := segments [] rest
        (joinNames (waiting ++ [part]) :: others, dangling)

/-- One row as the text gives it. -/
structure Statement (α : Type) where
  terms : List (String × α)
  relation : Relation
  target : α
  deriving DecidableEq, Repr

/-- Why a text is no linear program. -/
inductive SpecificationError where
  | empty
  | noSense
  | noObjective
  | unreadableNumber (error : NumberError)
  | unreadableSegment (segment : String)
  | incompleteSegment (segment : String)
  | noVariables (segment : String)
  | unreadableTarget (text : String)
  | danglingNames (names : List String)
  | noConstraints
  deriving DecidableEq, Repr

def SpecificationError.message : SpecificationError → String
  | .empty => "Specification is empty."
  | .noSense => "Objective must start with 'maximize' or 'minimize'."
  | .noObjective => "Objective expression is missing."
  | .unreadableNumber error => error.message
  | .unreadableSegment segment => "Could not parse constraint segment '" ++ segment ++ "'."
  | .incompleteSegment segment => "Incomplete constraint expression '" ++ segment ++ "'."
  | .noVariables segment => "Constraint '" ++ segment ++ "' has no variables."
  | .unreadableTarget text => "Right-hand side '" ++ text ++ "' is not numeric."
  | .danglingNames names =>
      "Dangling variable names " ++ Text.quotedList names ++ " in constraints."
  | .noConstraints => "At least one constraint is required."

/-- The first comparison: the text before it, the relation, and the text behind it. -/
def cutAtComparison : List Char → Option (List Char × Relation × List Char)
  | [] => none
  | '<' :: '=' :: rest => some ([], .atMost, rest)
  | '>' :: '=' :: rest => some ([], .atLeast, rest)
  | '=' :: '=' :: rest => some ([], .equal, rest)
  | '=' :: rest => some ([], .equal, rest)
  | c :: rest =>
      (cutAtComparison rest).map fun (before, relation, after) => (c :: before, relation, after)

/-- A comparison with an inequality at the front of a text. -/
def takeInequality? : List Char → Option (Relation × List Char)
  | '<' :: '=' :: rest => some (.atMost, rest)
  | '>' :: '=' :: rest => some (.atLeast, rest)
  | _ => none

def isPlainNumber (text : List Char) : Bool :=
  match text with
  | [] => false
  | c :: rest =>
      Text.isDigit c && (takeFraction (rest.dropWhile Text.isDigit)).2.isEmpty

/-- Whether a text is a bound: digits with an optional minus and an optional fraction. -/
def isBound : List Char → Bool
  | '-' :: rest => isPlainNumber rest
  | text => isPlainNumber text

def boundedName? (part : List Char) : Option (List Char × Relation × List Char) := do
  let (name, afterName) ← takeName? (part.dropWhile Text.isBlank)
  let (relation, afterRelation) ← takeInequality? (afterName.dropWhile Text.isBlank)
  let bound := afterRelation.dropWhile Text.isBlank
  if isBound bound then some (name, relation, bound) else none

/-- A list of at least two names with one inequality and one bound. -/
def boundedNames? (segment : List Char) :
    Option (List (List Char) × Relation × List Char) :=
  match (segment.splitOn ',').reverse with
  | last :: before :: earlier => do
      let names := ((before :: earlier).map Text.strip).reverse
      let (name, relation, bound) ← boundedName? last
      if names.all isName then some (names ++ [name], relation, bound) else none
  | _ => none

section Reading

variable {α : Type} [Scalar α]

def readComparison (segment : String) (expression : List Char) (relation : Relation)
    (target : List Char) : Except SpecificationError (Statement α) :=
  if expression.isEmpty || target.isEmpty then .error (.incompleteSegment segment)
  else
    match readExpression expression with
    | .error error => .error (.unreadableNumber error)
    | .ok form =>
        if form.terms.isEmpty then .error (.noVariables segment)
        else
          match number? target with
          | none => .error (.unreadableTarget (String.ofList target))
          | some value =>
              .ok { terms := form.terms, relation, target := value - form.constant }

def readSegment (segment : List Char) : Except SpecificationError (List (Statement α)) :=
  match boundedNames? segment with
  | some (names, relation, bound) =>
      match readNumber bound with
      | .error error => .error (.unreadableNumber error)
      | .ok target =>
          .ok (names.map fun name => { terms := [(String.ofList name, 1)], relation, target })
  | none =>
      match cutAtComparison segment with
      | none => .error (.unreadableSegment (String.ofList segment))
      | some (before, relation, after) =>
          (readComparison (String.ofList segment) (Text.strip before) relation
            (Text.strip after)).map fun statement => [statement]

def readSegments : List (List Char) → Except SpecificationError (List (Statement α))
  | [] => .ok []
  | segment :: rest => do
      let statements ← readSegment segment
      return statements ++ (← readSegments rest)

end Reading

end TableauSimplex.Language
