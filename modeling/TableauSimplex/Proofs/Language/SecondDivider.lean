import TableauSimplex.Proofs.Language.Opening
import TableauSimplex.Proofs.Language.Seam

/-!
# Behind a second divider

The list of constraints ends at the second divider.  What stands behind that one is not read at
all, so constraints that are put behind another divider get lost.
-/

set_option autoImplicit false

namespace TableauSimplex

open TableauSimplex.Text TableauSimplex.Language

namespace Grammar

theorem Divider.exists_first (divider : Divider) :
    ∃ c rest, divider.text Gap.squeezed = c :: rest ∧ isLetter 's' c = true ∧
      ∀ phrase ∈ dividers, ∀ letter ∈ phrase.toList.tail, isLetter letter c = false := by
  obtain ⟨c, rest, shape, -⟩ := divider.starts Gap.squeezed
  have lower := divider.lower
  rw [shape, List.map_cons] at lower
  have first : c.toLower = 's' := by
    cases divider <;> rw [Divider.spelling] at lower <;> exact (List.cons.inj lower).1
  refine ⟨c, rest, shape, isLetter_of_toLower first, ?_⟩
  have others : ∀ phrase ∈ dividers, ∀ letter ∈ phrase.toList.tail,
      isLetter letter 's' = false := by
    decide +kernel
  intro phrase known letter member
  rw [← isLetter_toLower, first]
  exact others phrase known letter member

theorem Divider.fresh (divider : Divider) {seam : List Char} (space : seam = [] ∨ seam = [' '])
    (rest : List Char) : Fresh (seam ++ (divider.text Gap.squeezed ++ rest)) := by
  obtain ⟨c, more, shape, -, others⟩ := divider.exists_first
  rw [shape]
  rcases space with rfl | rfl
  · exact fresh_cons others _
  · exact fresh_space (others "subject to" (by decide) 't' (by decide)) _

end Grammar

namespace Language

open TableauSimplex.Grammar

theorem passes_seam {seam : List Char} (space : seam = [] ∨ seam = [' ']) (rest : List Char) :
    Passes rest seam := by
  rcases space with rfl | rfl
  · exact passes_nil rest
  · exact (passes_nil rest).cons (afterDivider?_of_other (by decide) _)

/-- The list of constraints ends at the next divider. -/
theorem constraintText_append_divider {text after : List Char}
    (divided : (cutAtDivider text).2 = some after) {seam : List Char}
    (space : seam = [] ∨ seam = [' ']) (divider : Divider) (rest : List Char) :
    constraintText (text ++ (seam ++ (divider.text Gap.squeezed ++ rest))) =
      constraintText text := by
  rw [constraintText, constraintText, cutAtDivider_append divided, divided]
  simp only [Option.getD_some]
  cases again : (cutAtDivider after).2 with
  | some other => rw [cutAtDivider_append again]
  | none =>
      have passed := passes_of_fresh again (divider.fresh space rest)
      have seamPassed := passes_seam space (divider.text Gap.squeezed ++ rest)
      rw [Passes, divider.cutAtDivider, List.append_nil] at seamPassed
      have blank : ∀ c ∈ seam, isBlank c = true := by
        rcases space with rfl | rfl <;> decide
      rw [passed, seamPassed, cutAtDivider_of_undivided again]
      exact strip_append_right blank after

end Language

section Reading

open TableauSimplex.Grammar

variable {α : Type} [Scalar α]

theorem ofSpecification_append_of_divided {specification : String} {after : List Char}
    (divided : (cutAtDivider (normaliseSpace specification.toList)).2 = some after) (gap : Gap)
    (divider : Divider) (text : String) :
    (LinearProgram.ofSpecification
        (specification ++ String.ofList (gap.chars ++ divider.text Gap.chars) ++ text) :
          Except SpecificationError (LinearProgram α)) =
      LinearProgram.ofSpecification specification := by
  obtain ⟨seam, space, -, seamed⟩ := exists_seam specification.toList gap.blank
  have starts : Starts isBlank (divider.text Gap.chars ++ text.toList) :=
    (divider.starts Gap.chars).append _
  have written : normaliseSpace (specification
      ++ String.ofList (gap.chars ++ divider.text Gap.chars) ++ text).toList =
        normaliseSpace specification.toList
          ++ (seam ++ (divider.text Gap.squeezed ++ behind text.toList)) := by
    rw [String.toList_append, String.toList_append, String.toList_ofList, List.append_assoc,
      List.append_assoc, seamed _ starts, ← behind_of_starts starts, divider.squeezes]
  have present : normaliseSpace specification.toList ≠ [] := by
    intro empty
    rw [empty] at divided
    cases divided
  apply ofSpecification_congr
  · rw [written]
    simp [present]
  · rw [written, cutAtDivider_append divided]
  · rw [written, constraintText_append_divider divided space]

theorem exists_divided_of_ok {specification : String} {program : LinearProgram α}
    (accepted : LinearProgram.ofSpecification specification = .ok program) :
    ∃ after, (cutAtDivider (normaliseSpace specification.toList)).2 = some after := by
  obtain ⟨sense, objective, statements, stages, assembled⟩ := exists_stages_of_ok accepted
  cases divided : (cutAtDivider (normaliseSpace specification.toList)).2 with
  | some after => exact ⟨after, rfl⟩
  | none =>
      have nothing : constraintText (normaliseSpace specification.toList) = [] := by
        rw [constraintText, divided]
        rfl
      have read := stages.segments_read
      rw [nothing, parts_nil] at read
      cases read
      simp [assemble] at assembled

/-- Whatever is put behind another divider is lost: an accepted specification stays accepted and
describes the same program. -/
theorem ofSpecification_append_divider {specification : String} {program : LinearProgram α}
    (accepted : LinearProgram.ofSpecification specification = .ok program) (gap : Gap)
    (divider : Divider) (text : String) :
    LinearProgram.ofSpecification
        (specification ++ String.ofList (gap.chars ++ divider.text Gap.chars) ++ text) =
      .ok program := by
  obtain ⟨after, divided⟩ := exists_divided_of_ok accepted
  rw [ofSpecification_append_of_divided divided, accepted]

theorem ofSpecification_append_divider_subjectTo :
    ∃ program : LinearProgram Float,
      LinearProgram.ofSpecification "max x subject to x <= 5" = .ok program ∧
        LinearProgram.ofSpecification "max x subject to x <= 5 subject to x <= 3" =
          .ok program := by
  obtain ⟨program, accepted⟩ : ∃ program : LinearProgram Float,
      LinearProgram.ofSpecification "max x subject to x <= 5" = .ok program :=
    exists_program_of_isOk (by decide +kernel)
  exact ⟨program, accepted, ofSpecification_append_divider accepted ⟨[' '], by decide⟩
    (.subjectTo ⟨"subject".toList, rfl⟩ ⟨⟨[' '], by decide⟩, by decide⟩ ⟨"to".toList, rfl⟩)
    " x <= 3"⟩

/-- Behind a comma the same text is a second constraint. -/
theorem ofSpecification_loses_constraint :
    let count (specification : String) : Option Nat :=
      (LinearProgram.ofSpecification specification :
        Except SpecificationError (LinearProgram Float)).toOption.map fun program =>
          program.constraints.length
    count "max x subject to x <= 5 subject to x <= 3" = some 1 ∧
      count "max x subject to x <= 5, x <= 3" = some 2 := by
  decide +kernel

end Reading

end TableauSimplex
