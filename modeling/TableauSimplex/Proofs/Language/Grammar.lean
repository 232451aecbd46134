import TableauSimplex.Language.Specification
import TableauSimplex.Proofs.Language.Tally

/-!
# The grammar of specifications

A specification in its parts, each with the text it stands for and the meaning it has.  Gaps
between the parts are kept as they are written; a text is given for every way to write a gap, so
that the text as it stands and the text with single spaces are two readings of one tree.
-/

set_option autoImplicit false

namespace TableauSimplex.Grammar

/-! ## Words and figures -/

/-- Blanks of any kind, perhaps none. -/
structure Gap where
  chars : List Char
  blank : ∀ c ∈ chars, Text.isBlank c = true

/-- At least one blank. -/
structure Space extends Gap where
  chars_ne_nil : chars ≠ []

/-- A gap written as a single space, if it holds anything. -/
def Gap.squeezed (gap : Gap) : List Char :=
  if gap.chars = [] then [] else [' ']

/-- A word of small letters, written in any case. -/
structure Cased (word : String) where
  chars : List Char
  lower : chars.map Char.toLower = word.toList

/-- Decimal digits of any script. -/
structure Digits where
  chars : List Char
  chars_ne_nil : chars ≠ []
  digit : ∀ c ∈ chars, Text.isDigit c = true

/-- Digits, perhaps with a point and more digits behind it. -/
structure Figure where
  whole : Digits
  fraction : Option Digits

def Figure.chars (figure : Figure) : List Char :=
  match figure.fraction with
  | none => figure.whole.chars
  | some fraction => figure.whole.chars ++ '.' :: fraction.chars

/-- An ASCII identifier other than the word that separates constraints. -/
structure Name where
  first : Char
  rest : List Char
  first_start : Text.isNameStart first = true
  rest_ascii : ∀ c ∈ rest, c.isAlphanum = true ∨ c = '_'
  ne_and : (first :: rest).map Char.toLower ≠ "and".toList

def Name.chars (name : Name) : List Char :=
  name.first :: name.rest

def Name.string (name : Name) : String :=
  String.ofList name.chars

inductive Sign where
  | plus
  | minus
  deriving DecidableEq

def Sign.char : Sign → Char
  | .plus => '+'
  | .minus => '-'

/-! ## Expressions -/

/-- A number, a variable, or a multiple of a variable with or without a star. -/
inductive Item where
  | constant (figure : Figure)
  | unit (name : Name)
  | multiple (figure : Figure) (before : Gap) (star : Option Gap) (name : Name)

/-- An item with the sign before it, if there is one. -/
structure Addend where
  sign : Option (Sign × Gap)
  item : Item

/-- An item that is added to an expression or taken from it. -/
structure Continuation where
  before : Gap
  sign : Sign
  after : Gap
  item : Item

def Continuation.addend (continuation : Continuation) : Addend where
  sign := some (continuation.sign, continuation.after)
  item := continuation.item

structure Expression where
  first : Addend
  others : List Continuation

def Expression.addends (expression : Expression) : List Addend :=
  expression.first :: expression.others.map Continuation.addend

/-! ## Segments -/

inductive Inequality where
  | atMost
  | atLeast
  deriving DecidableEq

def Inequality.chars : Inequality → List Char
  | .atMost => ['<', '=']
  | .atLeast => ['>', '=']

def Inequality.relation : Inequality → Relation
  | .atMost => .atMost
  | .atLeast => .atLeast

inductive Comparator where
  | inequality (kind : Inequality)
  | equal
  | doubled
  deriving DecidableEq

def Comparator.chars : Comparator → List Char
  | .inequality kind => kind.chars
  | .equal => ['=']
  | .doubled => ['=', '=']

def Comparator.relation : Comparator → Relation
  | .inequality kind => kind.relation
  | .equal => .equal
  | .doubled => .equal

/-- What stands between two segments, or between two names of a list. -/
inductive Joint where
  | comma (before after : Gap)
  | semicolon (before after : Gap)
  | and (before : Space) (word : Cased "and") (after : Space)

/-- An expression compared with a number. -/
structure Comparison where
  expression : Expression
  before : Gap
  comparator : Comparator
  after : Gap
  sign : Option Sign
  figure : Figure

/-- One bound for a list of two or more names; with a single name it is a comparison. -/
structure Bounds where
  first : Name × Joint
  others : List (Name × Joint)
  last : Name
  before : Gap
  inequality : Inequality
  after : Gap
  negative : Bool
  figure : Figure

def Bounds.names (bounds : Bounds) : List Name :=
  bounds.first.1 :: bounds.others.map Prod.fst ++ [bounds.last]

inductive Segment where
  | compare (comparison : Comparison)
  | list (bounds : Bounds)

/-! ## Specifications -/

def spellings : Sense → List String
  | .maximise => ["maximize", "maximise", "max"]
  | .minimise => ["minimize", "minimise", "min"]

structure Keyword where
  sense : Sense
  spelling : String
  known : spelling ∈ spellings sense
  word : Cased spelling

inductive Divider where
  | subjectTo (first : Cased "subject") (between : Space) (second : Cased "to")
  | suchThat (first : Cased "such") (between : Space) (second : Cased "that")
  | abbreviated (word : Cased "s.t.")

structure Specification where
  lead : Gap
  keyword : Keyword
  afterKeyword : Space
  objective : Expression
  beforeDivider : Space
  divider : Divider
  afterDivider : Space
  first : Segment
  others : List (Joint × Segment)
  trail : Gap

def Specification.segments (specification : Specification) : List Segment :=
  specification.first :: specification.others.map Prod.snd

/-! ## Texts

The texts of the parts, for a way `write` to write a gap. -/

section Texts

variable (write : Gap → List Char)

def Item.text : Item → List Char
  | .constant figure => figure.chars
  | .unit name => name.chars
  | .multiple figure before none name => figure.chars ++ write before ++ name.chars
  | .multiple figure before (some after) name =>
      figure.chars ++ write before ++ '*' :: write after ++ name.chars

def signText : Option (Sign × Gap) → List Char
  | none => []
  | some (sign, after) => sign.char :: write after

def Addend.text (addend : Addend) : List Char :=
  signText write addend.sign ++ addend.item.text write

def Continuation.text (continuation : Continuation) : List Char :=
  write continuation.before ++ continuation.addend.text write

def Expression.text (expression : Expression) : List Char :=
  expression.first.text write ++ expression.others.flatMap (Continuation.text write)

def Joint.text : Joint → List Char
  | .comma before after => write before ++ ',' :: write after
  | .semicolon before after => write before ++ ';' :: write after
  | .and before word after => write before.toGap ++ word.chars ++ write after.toGap

def targetText (sign : Option Sign) (figure : Figure) : List Char :=
  (sign.map Sign.char).toList ++ figure.chars

def Comparison.text (comparison : Comparison) : List Char :=
  comparison.expression.text write ++ write comparison.before ++ comparison.comparator.chars
    ++ write comparison.after ++ targetText comparison.sign comparison.figure

/-- The last name of a list with the bound for all of them. -/
def Bounds.closing (bounds : Bounds) : List Char :=
  bounds.last.chars ++ write bounds.before ++ bounds.inequality.chars ++ write bounds.after
    ++ targetText (if bounds.negative then some .minus else none) bounds.figure

def listed (entry : Name × Joint) : List Char :=
  entry.1.chars ++ entry.2.text write

def Bounds.text (bounds : Bounds) : List Char :=
  listed write bounds.first ++ bounds.others.flatMap (listed write) ++ bounds.closing write

def Segment.text : Segment → List Char
  | .compare comparison => comparison.text write
  | .list bounds => bounds.text write

def Divider.text : Divider → List Char
  | .subjectTo first between second => first.chars ++ write between.toGap ++ second.chars
  | .suchThat first between second => first.chars ++ write between.toGap ++ second.chars
  | .abbreviated word => word.chars

def Specification.constraintText (specification : Specification) : List Char :=
  specification.first.text write ++
    specification.others.flatMap fun entry => entry.1.text write ++ entry.2.text write

def Specification.body (specification : Specification) : List Char :=
  specification.keyword.word.chars ++ write specification.afterKeyword.toGap
    ++ specification.objective.text write ++ write specification.beforeDivider.toGap
    ++ specification.divider.text write ++ write specification.afterDivider.toGap
    ++ specification.constraintText write

def Specification.written (specification : Specification) : List Char :=
  specification.lead.chars ++ specification.body Gap.chars ++ specification.trail.chars

end Texts

/-! ## Meanings -/

section Meanings

variable {α : Type} [Scalar α]

def Digits.values (digits : Digits) : List Nat :=
  digits.chars.map fun c => (Text.digit? c).getD 0

def Figure.behindPoint (figure : Figure) : List Nat :=
  (figure.fraction.map Digits.values).getD []

/-- The decimal a figure stands for, with the sign in front of it. -/
def Figure.decimal (figure : Figure) (sign : Option Sign) : Decimal where
  negative := sign = some .minus
  digits := Numeral.ofDigits (figure.whole.values ++ figure.behindPoint)
  exponent := -figure.behindPoint.length

def Figure.value (figure : Figure) (sign : Option Sign) : α :=
  Scalar.ofDecimal (figure.decimal sign)

def Addend.minus (addend : Addend) : Option Sign :=
  addend.sign.map Prod.fst

def Addend.term? (addend : Addend) : Option (String × α) :=
  match addend.item with
  | .constant _ => none
  | .unit name => some (name.string, if addend.minus = some .minus then -1 else 1)
  | .multiple figure _ _ name => some (name.string, figure.value addend.minus)

def Addend.constant? (addend : Addend) : Option α :=
  match addend.item with
  | .constant figure => some (figure.value addend.minus)
  | _ => none

namespace Expression

variable (expression : Expression)

def terms : List (String × α) :=
  expression.addends.filterMap Addend.term?

def constant : α :=
  (expression.addends.filterMap Addend.constant?).foldl (· + ·) 0

/-- The sum of the coefficients of a variable is more than a trillionth. -/
def Uses (α : Type) [Scalar α] (name : String) : Prop :=
  Scalar.tenth 12 < Scalar.magnitude (Language.total (expression.terms : List (String × α)) name)

instance (name : String) : Decidable (expression.Uses α name) :=
  inferInstanceAs (Decidable (_ < _))

/-- The variables that an expression uses, in the order in which they come first. -/
def used (α : Type) [Scalar α] : List String :=
  ((expression.terms : List (String × α)).map Prod.fst).eraseDups.filter fun name =>
    decide (expression.Uses α name)

/-- The sum of the coefficients of a variable, and zero if it is negligible. -/
def coefficient (name : String) : α :=
  if expression.Uses α name then Language.total expression.terms name else 0

end Expression

/-- A row of a program: the variables it uses, a coefficient for every variable, and what the sum
is compared with. -/
structure Row (α : Type) where
  names : List String
  coefficient : String → α
  relation : Relation
  target : α

/-- Whether a row only says that its one variable is not negative. -/
def Row.isSignBound (row : Row α) : Bool :=
  match row.names with
  | [name] =>
      row.target == 0 &&
        match row.relation with
        | .atLeast => decide (0 < row.coefficient name)
        | .atMost => decide (row.coefficient name < 0)
        | .equal => false
  | _ => false

/-- A comparison as a row; the constant of the expression moves to the other side. -/
def Comparison.row (comparison : Comparison) : Row α where
  names := comparison.expression.used α
  coefficient := comparison.expression.coefficient
  relation := comparison.comparator.relation
  target := comparison.figure.value comparison.sign - comparison.expression.constant

def Bounds.row (bounds : Bounds) (name : Name) : Row α where
  names := [name.string]
  coefficient := fun other => if other = name.string then 1 else 0
  relation := bounds.inequality.relation
  target := bounds.figure.value (if bounds.negative then some .minus else none)

def Segment.rows : Segment → List (Row α)
  | .compare comparison => [comparison.row]
  | .list bounds => bounds.names.map bounds.row

def Segment.Speaks (α : Type) [Scalar α] : Segment → Prop
  | .compare comparison => comparison.expression.used α ≠ []
  | .list _ => True

namespace Specification

variable (specification : Specification)

def rows : List (Row α) :=
  specification.segments.flatMap Segment.rows

/-- The rows of a program; bounds that only say that a variable is not negative are left out. -/
def kept : List (Row α) :=
  specification.rows.filter fun row => !row.isSignBound

/-- The variables in the order of their first use, in the objective or in a row. -/
def variableNames (α : Type) [Scalar α] : List String :=
  (specification.objective.used α
    ++ (specification.rows : List (Row α)).flatMap Row.names).eraseDups

def Speaks (α : Type) [Scalar α] : Prop :=
  ∀ segment ∈ specification.segments, segment.Speaks α

/-- A program is the one that a specification describes. -/
structure Describes (program : LinearProgram α) : Prop where
  name : program.name = "parsed"
  sense : program.sense = specification.keyword.sense
  variableNames : program.variableNames = some (specification.variableNames α)
  objective :
    program.objective = (specification.variableNames α).map specification.objective.coefficient
  constraints :
    (program.constraints.map fun constraint =>
        (constraint.coefficients, constraint.relation, constraint.target, constraint.name)) =
      specification.kept.mapIdx fun position row =>
        ((specification.variableNames α).map row.coefficient, row.relation, row.target,
          some s!"c{position + 1}")

end Specification

end Meanings

end TableauSimplex.Grammar
