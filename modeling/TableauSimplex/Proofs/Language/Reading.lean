import TableauSimplex.Proofs.Language.Tally

/-!
# The stages of a reading

A specification is read in stages: its sense, its objective, its segments, and the statements of
these.  If no stage fails, the program is what the last one assembles.
-/

set_option autoImplicit false

namespace TableauSimplex

open TableauSimplex.Language

namespace Language

/-- The text of the constraints of a specification. -/
def constraintText (text : List Char) : List Char :=
  Text.strip (cutAtDivider ((cutAtDivider text).2.getD [])).1

/-- What the stages before the last make of a normalised text. -/
structure Stages {α : Type} [Scalar α] (text : List Char) (sense : Sense)
    (objective : LinearForm α) (statements : List (Statement α)) : Prop where
  text_ne_nil : text ≠ []
  objective_read : ∃ afterSense,
    takeSense? (Text.strip (cutAtDivider text).1) = some (sense, afterSense) ∧
      Text.strip afterSense ≠ [] ∧ readExpression (Text.strip afterSense) = .ok objective
  none_dangling : (segments [] (parts (constraintText text))).2 = []
  segments_read : readSegments (segments [] (parts (constraintText text))).1 = .ok statements

end Language

section Reading

variable {α : Type} [Scalar α]

theorem ofSpecification_congr {first second : String}
    (empty : normaliseSpace first.toList = [] ↔ normaliseSpace second.toList = [])
    (opening : (cutAtDivider (normaliseSpace first.toList)).1 =
      (cutAtDivider (normaliseSpace second.toList)).1)
    (constraints : constraintText (normaliseSpace first.toList) =
      constraintText (normaliseSpace second.toList)) :
    (LinearProgram.ofSpecification first : Except SpecificationError (LinearProgram α)) =
      LinearProgram.ofSpecification second := by
  have isEmpty : (normaliseSpace first.toList).isEmpty =
      (normaliseSpace second.toList).isEmpty := by
    rw [Bool.eq_iff_iff, List.isEmpty_iff, List.isEmpty_iff]
    exact empty
  rw [constraintText, constraintText] at constraints
  unfold LinearProgram.ofSpecification
  simp only [isEmpty, opening, constraints]

theorem ofSpecification_of_stages {specification : String} {sense : Sense}
    {objective : LinearForm α} {statements : List (Statement α)}
    (stages : Stages (normaliseSpace specification.toList) sense objective statements) :
    LinearProgram.ofSpecification specification =
      assemble sense objective.terms statements := by
  obtain ⟨afterSense, taken, objective_ne_nil, read⟩ := stages.objective_read
  have settled := stages.none_dangling
  have found := stages.segments_read
  rw [constraintText] at settled found
  unfold LinearProgram.ofSpecification
  simp [bind, Except.bind, Except.mapError, stages.text_ne_nil, taken, objective_ne_nil, read,
    settled, found]

theorem exists_stages_of_ok {specification : String} {program : LinearProgram α}
    (succeeds : LinearProgram.ofSpecification specification = .ok program) :
    ∃ (sense : Sense) (objective : LinearForm α) (statements : List (Statement α)),
      Stages (normaliseSpace specification.toList) sense objective statements ∧
        assemble sense objective.terms statements = .ok program := by
  unfold LinearProgram.ofSpecification at succeeds
  simp only [bind, Except.bind, throw, throwThe, MonadExceptOf.throw] at succeeds
  split at succeeds
  · cases succeeds
  rename_i text_ne_nil
  split at succeeds
  case _ sense afterSense taken =>
    split at succeeds
    · cases succeeds
    rename_i objective_ne_nil
    cases read : readExpression (α := α) (Text.strip afterSense) with
    | error error => simp [read, Except.mapError] at succeeds
    | ok objective =>
        rw [read] at succeeds
        simp only [Except.mapError] at succeeds
        split at succeeds
        · cases succeeds
        rename_i statements found
        split at succeeds
        · cases succeeds
        rename_i settled
        exact ⟨sense, objective, statements,
          { text_ne_nil := by simpa using text_ne_nil
            objective_read := ⟨afterSense, taken, by simpa using objective_ne_nil, read⟩
            none_dangling := by simpa [constraintText] using settled
            segments_read := found }, succeeds⟩
  · cases succeeds

theorem exists_program_of_isOk {specification : String}
    (accepted : (LinearProgram.ofSpecification specification :
      Except SpecificationError (LinearProgram α)).isOk = true) :
    ∃ program : LinearProgram α, LinearProgram.ofSpecification specification = .ok program := by
  cases read : (LinearProgram.ofSpecification specification :
      Except SpecificationError (LinearProgram α)) with
  | error error =>
      rw [read] at accepted
      cases accepted
  | ok program => exact ⟨program, rfl⟩

end Reading

end TableauSimplex
