import TableauSimplex.Proofs.Language.Clause
import TableauSimplex.Proofs.Language.Opening

/-!
# The meaning of a specification

Reading the text of a specification gives the program that the specification describes, whatever
its names, its gaps and its length.  The one exception is a specification whose rows all say no
more than that a variable is not negative: these are left out, and nothing is left.
-/

set_option autoImplicit false

namespace TableauSimplex

open TableauSimplex.Language

namespace Grammar

variable {α : Type} [Scalar α]

/-! ## Statements as rows -/

def rowOf (statement : Statement α) : Row α where
  names := statement.terms.map Prod.fst
  coefficient := coefficientIn statement.terms
  relation := statement.relation
  target := statement.target

theorem isSignBound_rowOf (statement : Statement α) :
    (rowOf statement).isSignBound = statement.isSignBound := by
  obtain ⟨terms, relation, target⟩ := statement
  match terms with
  | [] => rfl
  | [(name, coefficient)] =>
      have itself : coefficientIn [(name, coefficient)] name = coefficient := by
        simp [coefficientIn]
      cases relation <;>
        simp only [Row.isSignBound, rowOf, Statement.isSignBound, List.map_cons, List.map_nil,
          itself]
  | _ :: _ :: _ => rfl

/-- What a variable is multiplied by in an expression, as a reading gives it. -/
theorem coefficientIn_relevant (expression : Expression) :
    coefficientIn ((tally (expression.terms : List (String × α))).filter isRelevant) =
      expression.coefficient := by
  funext name
  have names := expression.names_relevant (α := α)
  have nodup : (((tally (expression.terms : List (String × α))).filter isRelevant).map
      Prod.fst).Nodup := (List.filter_sublist.map Prod.fst).nodup (nodup_fst_tally _)
  by_cases uses : name ∈ expression.used α
  · rw [Expression.used, List.mem_filter, List.mem_eraseDups, decide_eq_true_eq] at uses
    have entry : (name, total (expression.terms : List (String × α)) name) ∈
        (tally expression.terms).filter isRelevant := by
      rw [List.mem_filter, tally, List.mem_map]
      exact ⟨⟨name, List.mem_eraseDups.mpr uses.1, rfl⟩, decide_eq_true uses.2⟩
    rw [coefficientIn_of_mem nodup entry, Expression.coefficient, if_pos uses.2]
  · have absent := uses
    rw [← names] at absent
    rw [coefficientIn_of_not_mem absent, Expression.coefficient]
    rw [Expression.used, List.mem_filter, List.mem_eraseDups, decide_eq_true_eq] at uses
    split
    · rename_i relevant
      exact (total_of_not_mem fun mentioned => uses ⟨mentioned, relevant⟩).symm
    · rfl

theorem rowOf_comparison (comparison : Comparison) :
    rowOf (comparison.statement : Statement α) = comparison.row := by
  rw [rowOf, Comparison.row]
  congr 1
  · exact comparison.expression.names_relevant
  · exact coefficientIn_relevant comparison.expression

theorem rowOf_bounds (bounds : Bounds) (name : Name) :
    rowOf (bounds.statement name : Statement α) = bounds.row name := by
  have coefficient : coefficientIn [(name.string, (1 : α))] =
      fun other => if other = name.string then 1 else 0 := by
    funext other
    by_cases same : name.string = other
    · simp [coefficientIn, same]
    · simp [coefficientIn, same, Ne.symm same]
  rw [rowOf, Bounds.row]
  congr 1

theorem map_rowOf_statements (segment : Segment) :
    (segment.statements : List (Statement α)).map rowOf = segment.rows := by
  cases segment with
  | compare comparison => exact congrArg (fun row => [row]) (rowOf_comparison comparison)
  | list bounds =>
      rw [Segment.statements, List.map_map]
      exact List.map_congr_left fun name _ => rowOf_bounds bounds name

/-! ## The program -/

namespace Specification

variable (specification : Specification)

/-- The statements that a reading makes of the segments. -/
def statements : List (Statement α) :=
  specification.segments.flatMap Segment.statements

theorem map_rowOf : (specification.statements : List (Statement α)).map rowOf =
    specification.rows := by
  rw [statements, rows, List.map_flatMap]
  have each : (fun segment : Segment => (segment.statements : List (Statement α)).map rowOf) =
      Segment.rows := funext map_rowOf_statements
  rw [each]

theorem kept_eq : (specification.kept : List (Row α)) =
    (specification.statements.filter fun statement => !statement.isSignBound).map rowOf := by
  rw [kept, ← specification.map_rowOf, List.filter_map]
  congr 2
  funext statement
  exact congrArg (! ·) (isSignBound_rowOf statement)

/-- The names that a reading finds, in the order in which it finds them. -/
theorem distinct_names :
    distinct (((tally (specification.objective.terms : List (String × α))).filter
        isRelevant).map Prod.fst ++
      (specification.statements : List (Statement α)).flatMap fun statement =>
        statement.terms.map Prod.fst) = specification.variableNames α := by
  have names : (specification.statements : List (Statement α)).flatMap
      (fun statement => statement.terms.map Prod.fst) =
        (specification.rows : List (Row α)).flatMap Row.names := by
    rw [← specification.map_rowOf, List.flatMap_map]
    rfl
  rw [distinct_eq_eraseDups, specification.objective.names_relevant, names, variableNames]

theorem segments_written :
    Language.segments [] (Language.parts (Language.constraintText
        (normaliseSpace (String.ofList specification.written).toList))) =
      (specification.segments.map Segment.joined, []) := by
  rw [String.toList_ofList, specification.normaliseSpace_written,
    specification.constraintText_body, specification.parts_constraintText]
  exact segments_parts specification.segments

theorem ofSpecification_eq_assemble (speaks : specification.Speaks α) :
    LinearProgram.ofSpecification (String.ofList specification.written) =
      assemble specification.keyword.sense
        ((tally (specification.objective.terms : List (String × α))).filter isRelevant)
        specification.statements := by
  obtain ⟨afterSense, taken, objective⟩ := specification.takeSense?_opening
  have found := specification.segments_written
  rw [String.toList_ofList, specification.normaliseSpace_written] at found
  have stages : Stages (normaliseSpace (String.ofList specification.written).toList)
      specification.keyword.sense
      { terms := (tally (specification.objective.terms : List (String × α))).filter isRelevant
        constant := specification.objective.constant } specification.statements := by
    rw [String.toList_ofList, specification.normaliseSpace_written]
    exact
      { text_ne_nil := by
          rw [specification.body_squeezed]
          exact (specification.opening_starts.append _).ne_nil
        objective_read := by
          refine ⟨afterSense, ?_, ?_, ?_⟩
          · rw [specification.cutAtDivider_body]
            exact taken
          · rw [objective]
            exact (specification.objective.starts _).ne_nil
          · rw [objective]
            exact readExpression_text specification.objective
        none_dangling := by rw [found]
        segments_read := by
          rw [found]
          exact readSegments_joined speaks }
  exact ofSpecification_of_stages stages

/-- In a specification that is read every comparison uses a variable. -/
theorem speaks_of_ofSpecification {program : LinearProgram α}
    (read : LinearProgram.ofSpecification (String.ofList specification.written) = .ok program) :
    specification.Speaks α := by
  obtain ⟨_, _, _, stages, _⟩ := exists_stages_of_ok read
  have segments := stages.segments_read
  rw [specification.segments_written] at segments
  exact speaks_of_readSegments segments

theorem names_ne_nil_of_mem_rows (speaks : specification.Speaks α) {row : Row α}
    (member : row ∈ specification.rows) : row.names ≠ [] := by
  obtain ⟨segment, segmentMember, rowMember⟩ := List.mem_flatMap.mp member
  have speaking := speaks segment segmentMember
  cases segment with
  | compare comparison =>
      rw [List.mem_singleton.mp rowMember]
      exact speaking
  | list bounds =>
      obtain ⟨name, -, rfl⟩ := List.mem_map.mp rowMember
      exact List.cons_ne_nil _ _

theorem ofSpecification_of_kept_eq_nil (speaks : specification.Speaks α)
    (none : (specification.kept : List (Row α)) = []) :
    LinearProgram.ofSpecification (α := α) (String.ofList specification.written) =
      .error .noConstraints := by
  rw [kept_eq, List.map_eq_nil_iff] at none
  rw [specification.ofSpecification_eq_assemble speaks, assemble]
  split
  · rw [none]
    rfl
  · rfl

theorem exists_describes (speaks : specification.Speaks α)
    (some : (specification.kept : List (Row α)) ≠ []) :
    ∃ program : LinearProgram α,
      LinearProgram.ofSpecification (String.ofList specification.written) = .ok program ∧
        specification.Describes program := by
  -- A row without a variable would be kept too, so it is `speaks` that gives a first column.
  have names_ne_nil : specification.variableNames α ≠ [] := by
    obtain ⟨row, member⟩ := List.exists_mem_of_ne_nil _ some
    have rowMember : row ∈ (specification.rows : List (Row α)) := (List.mem_filter.mp member).1
    obtain ⟨name, used⟩ := List.exists_mem_of_ne_nil _
      (specification.names_ne_nil_of_mem_rows speaks rowMember)
    have listed : name ∈ specification.variableNames α := by
      rw [variableNames, List.mem_eraseDups, List.mem_append, List.mem_flatMap]
      exact .inr ⟨row, rowMember, used⟩
    exact List.ne_nil_of_mem listed
  have keeps : (specification.statements.filter fun statement : Statement α =>
      !statement.isSignBound).isEmpty = false := by
    rw [List.isEmpty_eq_false_iff]
    intro empty
    rw [kept_eq, empty] at some
    exact some rfl
  rw [specification.ofSpecification_eq_assemble speaks, assemble]
  simp only [specification.distinct_names, keeps, dif_pos names_ne_nil]
  refine ⟨_, rfl, ?_⟩
  exact
    { name := rfl
      sense := rfl
      variableNames := rfl
      objective := by rw [coefficientIn_relevant]
      constraints := by
        rw [kept_eq]
        apply List.ext_getElem?
        intro position
        simp only [List.getElem?_map, List.getElem?_mapIdx, Option.map_map]
        rfl }

/-- A specification that is read describes the program. -/
theorem describes_of_ofSpecification {program : LinearProgram α}
    (read : LinearProgram.ofSpecification (String.ofList specification.written) = .ok program) :
    specification.Describes program := by
  have speaks := specification.speaks_of_ofSpecification read
  by_cases none : (specification.kept : List (Row α)) = []
  · rw [specification.ofSpecification_of_kept_eq_nil speaks none] at read
    cases read
  · obtain ⟨described, same, describes⟩ := specification.exists_describes speaks none
    obtain rfl := Except.ok.inj (same.symm.trans read)
    exact describes

end Specification

/-- Over machine numbers a name alone is used, so a bound for one name is always a comparison of
the grammar. -/
theorem Expression.used_unit (name : Name) :
    ({ first := { sign := none, item := .unit name }, others := [] } : Expression).used Float =
      [name.string] := by
  have relevant : (Scalar.tenth 12 : Float) < Scalar.magnitude (0 + 1) := by decide +kernel
  have summed : total [(name.string, (1 : Float))] name.string = 0 + 1 := by
    rw [total, List.filter_cons, if_pos (beq_self_eq_true name.string)]
    rfl
  have uses : Scalar.tenth 12 <
      Scalar.magnitude (total [(name.string, (1 : Float))] name.string) := by
    rw [summed]
    exact relevant
  exact List.filter_cons_of_pos (decide_eq_true uses)

/-! ## Specifications by their parts -/

instance (α : Type) [Scalar α] (segment : Segment) : Decidable (segment.Speaks α) :=
  match segment with
  | .compare comparison => inferInstanceAs (Decidable (comparison.expression.used α ≠ []))
  | .list _ => inferInstanceAs (Decidable True)

instance (α : Type) [Scalar α] (specification : Specification) :
    Decidable (specification.Speaks α) :=
  inferInstanceAs (Decidable (∀ segment ∈ specification.segments, segment.Speaks α))

def oneSpace : Space where
  chars := [' ']
  blank := by decide
  chars_ne_nil := by decide

def letterX : Name where
  first := 'x'
  rest := []
  first_start := by decide
  rest_ascii := by decide
  ne_and := by decide

def letterY : Name where
  first := 'y'
  rest := []
  first_start := by decide
  rest_ascii := by decide
  ne_and := by decide

def wholeNumber (chars : List Char) (chars_ne_nil : chars ≠ [] := by decide)
    (digit : ∀ c ∈ chars, Text.isDigit c = true := by decide) : Figure where
  whole := { chars, chars_ne_nil, digit }
  fraction := none

def spaced (sign : Sign) (item : Item) : Continuation where
  before := oneSpace.toGap
  sign
  after := oneSpace.toGap
  item

def sum (first : Item) (others : List Continuation) : Expression where
  first := { sign := none, item := first }
  others

def compared (expression : Expression) (comparator : Comparator) (figure : Figure) :
    Segment :=
  .compare
    { expression
      before := oneSpace.toGap
      comparator
      after := oneSpace.toGap
      sign := none
      figure }

def maxWord : Keyword where
  sense := .maximise
  spelling := "max"
  known := by decide
  word := { chars := "max".toList, lower := by decide }

def maximizeWord : Keyword where
  sense := .maximise
  spelling := "maximize"
  known := by decide
  word := { chars := "maximize".toList, lower := by decide }

def subjectTo : Divider :=
  .subjectTo { chars := "subject".toList, lower := by decide } oneSpace
    { chars := "to".toList, lower := by decide }

def specified (keyword : Keyword) (objective : Expression) (first : Segment)
    (others : List (Joint × Segment)) : Specification where
  lead := noGap
  keyword
  afterKeyword := oneSpace
  objective
  beforeDivider := oneSpace
  divider := subjectTo
  afterDivider := oneSpace
  first
  others
  trail := noGap

/-- Three constraints for two variables, and that neither is negative. -/
def fourBounds : Specification :=
  let triple : Item := .multiple (wholeNumber ['3']) noGap none letterX
  let double : Item := .multiple (wholeNumber ['2']) noGap none letterY
  let comma : Joint := .comma noGap oneSpace.toGap
  specified maximizeWord (sum triple [spaced .plus double])
    (compared (sum (.unit letterX) [spaced .plus double]) (.inequality .atMost)
      (wholeNumber ['1', '4']))
    [(comma, compared (sum triple [spaced .minus (.unit letterY)]) (.inequality .atLeast)
        (wholeNumber ['0'])),
      (comma, compared (sum (.unit letterX) []) (.inequality .atMost) (wholeNumber ['5'])),
      (comma, .list
        { first := (letterX, .comma noGap noGap)
          others := []
          last := letterY
          before := oneSpace.toGap
          inequality := .atLeast
          after := oneSpace.toGap
          negative := false
          figure := wholeNumber ['0'] })]

end Grammar

/-! ## Reading a specification -/

/-- The text of a specification is read as the program that the specification describes, if it
keeps a row, and is turned away for want of constraints if it keeps none. -/
theorem LinearProgram.ofSpecification_written {α : Type} [Scalar α]
    (specification : Grammar.Specification) (speaks : specification.Speaks α) :
    ((specification.kept : List (Grammar.Row α)) = [] →
        LinearProgram.ofSpecification (α := α) (String.ofList specification.written) =
          .error .noConstraints) ∧
      ((specification.kept : List (Grammar.Row α)) ≠ [] →
        ∃ program : LinearProgram α,
          LinearProgram.ofSpecification (String.ofList specification.written) = .ok program ∧
            specification.Describes program) :=
  ⟨specification.ofSpecification_of_kept_eq_nil speaks, specification.exists_describes speaks⟩

theorem LinearProgram.ofSpecification_written_fourBounds :
    Grammar.fourBounds.Speaks Float ∧
      String.ofList Grammar.fourBounds.written =
        "maximize 3x + 2y subject to x + 2y <= 14, 3x - y >= 0, x <= 5, x,y >= 0" ∧
      Grammar.fourBounds.variableNames Float = ["x", "y"] ∧
      ∃ program : LinearProgram Float,
        LinearProgram.ofSpecification (String.ofList Grammar.fourBounds.written) = .ok program ∧
          Grammar.fourBounds.Describes program := by
  have speaks : Grammar.fourBounds.Speaks Float := by decide +kernel
  have keeps : (Grammar.fourBounds.kept : List (Grammar.Row Float)).isEmpty = false := by
    decide +kernel
  refine ⟨speaks, by decide +kernel, by decide +kernel, ?_⟩
  exact (LinearProgram.ofSpecification_written Grammar.fourBounds speaks).2
    (List.isEmpty_eq_false_iff.mp keeps)

namespace Grammar

/-- A specification that only says that its variable is not negative. -/
def signBoundOnly : Specification :=
  specified maxWord (sum (.unit letterX) [])
    (compared (sum (.unit letterX) []) (.inequality .atLeast) (wholeNumber ['0'])) []

/-- A specification that mentions a variable in its objective, but to no effect. -/
def cancelling : Specification :=
  specified maxWord
    (sum (.unit letterX) [spaced .minus (.unit letterX), spaced .plus (.unit letterY)])
    (compared (sum (.unit letterY) []) (.inequality .atMost) (wholeNumber ['1']))
    [(.and oneSpace { chars := "and".toList, lower := by decide } oneSpace,
      compared (sum (.unit letterX) []) (.inequality .atMost) (wholeNumber ['5']))]

def Item.name? : Item → Option String
  | .constant _ => none
  | .unit name => some name.string
  | .multiple _ _ _ name => some name.string

def Segment.mentioned : Segment → List String
  | .compare comparison =>
      comparison.expression.addends.filterMap fun addend => addend.item.name?
  | .list bounds => bounds.names.map Name.string

/-- The variables that a specification mentions, in the order in which they come first. -/
def Specification.mentioned (specification : Specification) : List String :=
  (specification.objective.addends.filterMap (fun addend => addend.item.name?)
    ++ specification.segments.flatMap Segment.mentioned).eraseDups

end Grammar

/-- A specification need not give a program, and the variables of a program need not stand in the
order in which they are mentioned. -/
theorem LinearProgram.ofSpecification_not_mentioned :
    (Grammar.signBoundOnly.Speaks Float ∧
      String.ofList Grammar.signBoundOnly.written = "max x subject to x >= 0" ∧
      ¬ ∃ program : LinearProgram Float,
        LinearProgram.ofSpecification (String.ofList Grammar.signBoundOnly.written) =
          .ok program) ∧
    (Grammar.cancelling.Speaks Float ∧
      String.ofList Grammar.cancelling.written =
        "max x - x + y subject to y <= 1 and x <= 5" ∧
      Grammar.cancelling.mentioned = ["x", "y"] ∧
      ∃ program : LinearProgram Float,
        LinearProgram.ofSpecification (String.ofList Grammar.cancelling.written) = .ok program ∧
          program.variableNames = some ["y", "x"]) := by
  have idle : Grammar.signBoundOnly.Speaks Float := by decide +kernel
  have none : (Grammar.signBoundOnly.kept : List (Grammar.Row Float)).isEmpty = true := by
    decide +kernel
  have speaks : Grammar.cancelling.Speaks Float := by decide +kernel
  have keeps : (Grammar.cancelling.kept : List (Grammar.Row Float)).isEmpty = false := by
    decide +kernel
  have names : Grammar.cancelling.variableNames Float = ["y", "x"] := by decide +kernel
  constructor
  · refine ⟨idle, by decide +kernel, ?_⟩
    rintro ⟨program, read⟩
    rw [Grammar.signBoundOnly.ofSpecification_of_kept_eq_nil idle (List.isEmpty_iff.mp none)]
      at read
    cases read
  · obtain ⟨program, read, describes⟩ :=
      Grammar.cancelling.exists_describes speaks (List.isEmpty_eq_false_iff.mp keeps)
    refine ⟨speaks, by decide +kernel, by decide +kernel, program, read, ?_⟩
    rw [describes.variableNames, names]

end TableauSimplex
