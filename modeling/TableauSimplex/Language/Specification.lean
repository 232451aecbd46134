import TableauSimplex.Language.Phrase
import TableauSimplex.Language.Segment
import TableauSimplex.Program.Basic

/-!
# Programs in plain words

A specification names a sense, gives an objective, and after a divider lists constraints, as in
`maximize 3x + 2y subject to x + 2y <= 14, 3x - y >= 0, x,y >= 0`.  Variables are never negative,
so a statement that says no more than that is left out.
-/

set_option autoImplicit false

namespace TableauSimplex

namespace Language

/-- The words for a sense.  Longer ones come before those that begin them. -/
def senseWords : List (String × Sense) :=
  [("maximize", .maximise), ("minimize", .minimise), ("maximise", .maximise),
   ("minimise", .minimise), ("max", .maximise), ("min", .minimise)]

def takeSense? (text : List Char) : Option (Sense × List Char) :=
  senseWords.findSome? fun (word, sense) =>
    (afterPhrase? word.toList text).map fun rest => (sense, rest)

/-- The words of a text with one space between them. -/
def normaliseSpace (text : List Char) : List Char :=
  [' '].intercalate (Text.words text)

def distinct (names : List String) : List String :=
  names.foldl (fun seen name => if seen.contains name then seen else seen ++ [name]) []

section Statements

variable {α : Type} [Scalar α]

/-- Whether a statement only says that its one variable is not negative. -/
def Statement.isSignBound (statement : Statement α) : Bool :=
  match statement.terms with
  | [(_, coefficient)] =>
      statement.target == 0 &&
        match statement.relation with
        | .atLeast => decide (0 < coefficient)
        | .atMost => decide (coefficient < 0)
        | .equal => false
  | _ => false

def coefficientIn (terms : List (String × α)) (name : String) : α :=
  match terms.find? fun entry => entry.1 == name with
  | some entry => entry.2
  | none => 0

/-- A statement as a constraint with a coefficient for every name. -/
def Statement.toConstraint (statement : Statement α) (names : List String)
    (nonempty : names ≠ []) (position : Nat) : NamedConstraint α where
  coefficients := names.map (coefficientIn statement.terms)
  relation := statement.relation
  target := statement.target
  coefficients_ne_nil := by simpa using nonempty
  name := some s!"c{position + 1}"

def assemble (sense : Sense) (objective : List (String × α)) (statements : List (Statement α)) :
    Except SpecificationError (LinearProgram α) :=
  let names := distinct
    (objective.map Prod.fst ++ statements.flatMap fun statement => statement.terms.map Prod.fst)
  let kept := statements.filter fun statement => !statement.isSignBound
  if nonempty : names ≠ [] then
    if kept.isEmpty then .error .noConstraints
    else
      .ok
        { name := "parsed"
          sense
          objective := names.map (coefficientIn objective)
          constraints := kept.mapIdx fun position statement =>
            statement.toConstraint names nonempty position
          variableNames := some names }
  else .error .noConstraints

end Statements

end Language

open TableauSimplex.Language

def LinearProgram.ofSpecification {α : Type} [Scalar α] (specification : String) :
    Except SpecificationError (LinearProgram α) := do
  let text := normaliseSpace specification.toList
  if text.isEmpty then throw .empty
  let (objectivePart, constraintPart) := cutAtDivider text
  let some (sense, afterSense) := takeSense? (Text.strip objectivePart)
    | throw .noSense
  let objectiveText := Text.strip afterSense
  if objectiveText.isEmpty then throw .noObjective
  let objective ← (readExpression objectiveText).mapError .unreadableNumber
  let listed := (cutAtDivider (constraintPart.getD [])).1
  let (found, dangling) := segments [] (parts (Text.strip listed))
  let statements ← readSegments found
  if !dangling.isEmpty then
    throw (.danglingNames (dangling.map String.ofList))
  assemble sense objective.terms statements

end TableauSimplex
