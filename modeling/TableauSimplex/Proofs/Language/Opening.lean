import TableauSimplex.Proofs.Language.Parts
import TableauSimplex.Proofs.Language.Reading

/-!
# The opening of a specification

The text before the divider is the keyword and the objective, and the text behind it the list of
constraints.
-/

set_option autoImplicit false

namespace TableauSimplex

open TableauSimplex.Text TableauSimplex.Language

namespace Language

theorem findSome?_afterPhrase? {β γ : Type} (entries : List β) (spell : β → List Char)
    (result : β → List Char → γ) (text : List Char) :
    entries.findSome? (fun entry => (afterPhrase? (spell entry) text).map (result entry)) =
      (entries.find? fun entry =>
          (afterPhrase? (spell entry) (text.map Char.toLower)).isSome).map fun entry =>
        result entry (text.drop (spell entry).length) := by
  induction entries with
  | nil => rfl
  | cons entry rest induction =>
      rw [List.findSome?_cons, List.find?_cons, afterPhrase?_map_toLower]
      cases afterPhrase? (spell entry) (text.map Char.toLower) with
      | none => exact induction
      | some after => rfl

end Language

namespace Grammar

theorem Keyword.takeSense? (keyword : Keyword) (rest : List Char) :
    takeSense? (keyword.word.chars ++ ' ' :: rest) = some (keyword.sense, ' ' :: rest) := by
  obtain ⟨sense, spelling, known, chars, lower⟩ := keyword
  have sized : chars.length = spelling.toList.length := by
    rw [← lower, List.length_map]
  have dropped : (chars ++ ' ' :: rest).drop spelling.toList.length = ' ' :: rest :=
    List.drop_left' sized
  have first : ∀ sense, ∀ spelling ∈ spellings sense, ∀ text,
      (senseWords.find? fun entry =>
          (afterPhrase? entry.1.toList (spelling.toList ++ ' ' :: text)).isSome) =
        some (spelling, sense) := by
    intro sense spelling known text
    cases sense <;> simp only [spellings, List.mem_cons, List.not_mem_nil, or_false] at known <;>
      rcases known with rfl | rfl | rfl <;> rfl
  have found := findSome?_afterPhrase? senseWords (fun entry => entry.1.toList)
    (fun entry rest => (entry.2, rest)) (chars ++ ' ' :: rest)
  have space : Char.toLower ' ' = ' ' := by decide
  rw [List.map_append, List.map_cons, lower, space, first sense spelling known] at found
  exact found.trans (congrArg (fun rest => some (sense, rest)) dropped)

theorem Keyword.isCalm (keyword : Keyword) : isCalm keyword.word.chars = true := by
  apply keyword.word.isCalm
  have calm : ∀ sense, ∀ spelling ∈ spellings sense,
      Language.isCalm spelling.toList = true := by
    intro sense
    cases sense <;> decide
  exact calm keyword.sense keyword.spelling keyword.known

/-- The letters of a divider. -/
def Divider.spelling : Divider → String
  | .subjectTo _ _ _ => "subject to"
  | .suchThat _ _ _ => "such that"
  | .abbreviated _ => "s.t."

theorem Divider.lower (divider : Divider) :
    (divider.text Gap.squeezed).map Char.toLower = divider.spelling.toList := by
  have space : Char.toLower ' ' = ' ' := by decide
  cases divider with
  | subjectTo first between second =>
      rw [Divider.text, between.squeezed_eq, List.map_append, List.map_append, first.lower,
        second.lower, List.map_singleton, space, Divider.spelling]
      rfl
  | suchThat first between second =>
      rw [Divider.text, between.squeezed_eq, List.map_append, List.map_append, first.lower,
        second.lower, List.map_singleton, space, Divider.spelling]
      rfl
  | abbreviated word => exact word.lower

theorem Divider.afterDivider? (divider : Divider) (rest : List Char) :
    afterDivider? (divider.text Gap.squeezed ++ rest) = some rest := by
  have sized : (divider.text Gap.squeezed).length = divider.spelling.toList.length := by
    rw [← divider.lower, List.length_map]
  have first (text : List Char) : (dividers.find? fun phrase =>
      (afterPhrase? phrase.toList (divider.spelling.toList ++ text)).isSome) =
        some divider.spelling := by
    cases divider <;> rw [Divider.spelling] <;> rfl
  have found := findSome?_afterPhrase? dividers String.toList (fun _ rest => rest)
    (divider.text Gap.squeezed ++ rest)
  rw [List.map_append, divider.lower, first, Option.map_some, List.drop_left' sized] at found
  simpa [Language.afterDivider?] using found

theorem Divider.cutAtDivider (divider : Divider) (rest : List Char) :
    cutAtDivider (divider.text Gap.squeezed ++ rest) = ([], some rest) := by
  obtain ⟨c, tail, shape, -⟩ := divider.starts Gap.squeezed
  have found := divider.afterDivider? rest
  rw [shape, List.cons_append] at found ⊢
  rw [Language.cutAtDivider, found]

theorem Divider.boundary (divider : Divider) (rest : List Char) :
    Boundary (' ' :: (divider.text Gap.squeezed ++ rest)) := by
  obtain ⟨c, tail, shape, -⟩ := divider.starts Gap.squeezed
  have lower := divider.lower
  rw [shape, List.map_cons] at lower
  have other : isLetter 't' c = false := by
    rw [← isLetter_toLower]
    have first : c.toLower = 's' := by
      cases divider <;> rw [Divider.spelling] at lower <;> exact (List.cons.inj lower).1
    rw [first]
    decide
  rw [shape]
  exact boundary_space other _

/-- The text in front of the divider. -/
def Specification.opening (specification : Specification) : List Char :=
  specification.keyword.word.chars ++ ' ' :: specification.objective.text Gap.squeezed

theorem Specification.body_squeezed (specification : Specification) :
    specification.body Gap.squeezed =
      specification.opening ++ ' ' :: (specification.divider.text Gap.squeezed
        ++ ' ' :: specification.constraintText Gap.squeezed) := by
  simp only [Specification.body, Space.squeezed_eq, Specification.opening, List.append_assoc,
    List.cons_append, List.nil_append]

/-- The divider is found where it stands. -/
theorem Specification.cutAtDivider_body (specification : Specification) :
    cutAtDivider (specification.body Gap.squeezed) =
      (specification.opening ++ [' '],
        some (' ' :: specification.constraintText Gap.squeezed)) := by
  have space (rest : List Char) : Passes rest [' '] :=
    (passes_nil rest).cons (afterDivider?_of_other (by decide) _)
  have opening (rest : List Char) (boundary : Boundary rest) :
      Passes rest specification.opening :=
    (passes_of_isCalm specification.keyword.isCalm _).append
      ((space _).append (specification.objective.whole boundary).passes)
  have passed := (opening _ (specification.divider.boundary _)).append
    (space (specification.divider.text Gap.squeezed
      ++ ' ' :: specification.constraintText Gap.squeezed))
  rw [Passes, specification.divider.cutAtDivider, List.append_assoc, List.append_nil] at passed
  rw [specification.body_squeezed]
  exact passed

theorem Specification.opening_starts (specification : Specification) :
    Starts isBlank specification.opening :=
  (starts_of_forall specification.keyword.chars_ne_nil
    specification.keyword.isBlank_eq_false).append _

theorem Specification.opening_ends (specification : Specification) :
    Ends isBlank specification.opening :=
  ((specification.objective.ends Gap.squeezed).append [' ']).append _

/-- The keyword and the objective are read from the text in front of the divider. -/
theorem Specification.takeSense?_opening (specification : Specification) :
    ∃ afterSense,
      takeSense? (strip (specification.opening ++ [' '])) =
          some (specification.keyword.sense, afterSense) ∧
        strip afterSense = specification.objective.text Gap.squeezed := by
  have stripped := stripBoth_append [] [' '] (by simp) (by decide) specification.opening_starts
    specification.opening_ends
  rw [List.nil_append] at stripped
  have objective := stripBoth_append [' '] [] (by decide) (by simp)
    (specification.objective.starts Gap.squeezed) (specification.objective.ends Gap.squeezed)
  rw [List.append_nil] at objective
  refine ⟨' ' :: specification.objective.text Gap.squeezed, ?_, objective⟩
  rw [strip, stripped, Specification.opening]
  exact specification.keyword.takeSense? _

/-- The list of constraints is what stands behind the divider. -/
theorem Specification.constraintText_body (specification : Specification) :
    Language.constraintText (specification.body Gap.squeezed) =
      specification.constraintText Gap.squeezed := by
  have space : Passes (specification.constraintText Gap.squeezed ++ []) [' '] :=
    (passes_nil _).cons (afterDivider?_of_other (by decide) _)
  have passed := space.append (specification.passes_constraintText [])
  have ending : Language.cutAtDivider [] = ([], none) := rfl
  rw [Passes, List.append_nil, ending, List.append_nil] at passed
  have stripped := stripBoth_append [' '] [] (by decide) (by simp)
    (specification.constraintText_starts Gap.squeezed)
    (specification.constraintText_ends Gap.squeezed)
  rw [List.append_nil] at stripped
  rw [Language.constraintText, specification.cutAtDivider_body]
  simp only [Option.getD_some]
  rw [List.singleton_append] at passed stripped
  rw [passed, strip, stripped]

end Grammar

end TableauSimplex
