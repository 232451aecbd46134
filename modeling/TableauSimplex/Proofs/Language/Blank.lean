import Mathlib.Data.List.Basic
import TableauSimplex.Language.Specification

/-!
# Blanks at the ends of a text and inside it

Stripping a text takes off what stands before its first and behind its last character outside the
class.  Normalising blanks goes from left to right: a character outside the class stays, and a run
of blanks becomes a space if a word stands behind it.
-/

set_option autoImplicit false

namespace TableauSimplex

namespace Text

/-- The first character of a text lies outside a class. -/
def Starts (isMargin : Char → Bool) (text : List Char) : Prop :=
  ∃ c rest, text = c :: rest ∧ isMargin c = false

/-- The last character of a text lies outside a class. -/
def Ends (isMargin : Char → Bool) (text : List Char) : Prop :=
  ∃ rest c, text = rest ++ [c] ∧ isMargin c = false

section Margins

variable {isMargin : Char → Bool} {text : List Char}

theorem Starts.append (starts : Starts isMargin text) (rest : List Char) :
    Starts isMargin (text ++ rest) := by
  obtain ⟨c, tail, rfl, outside⟩ := starts
  exact ⟨c, tail ++ rest, rfl, outside⟩

theorem Ends.append (ends : Ends isMargin text) (front : List Char) :
    Ends isMargin (front ++ text) := by
  obtain ⟨init, c, rfl, outside⟩ := ends
  exact ⟨front ++ init, c, (List.append_assoc _ _ _).symm, outside⟩

theorem Ends.append_flatMap {β : Type} {part : β → List Char} (ends : Ends isMargin text)
    (partEnds : ∀ entry, Ends isMargin (part entry)) (entries : List β) :
    Ends isMargin (text ++ entries.flatMap part) := by
  induction entries generalizing text with
  | nil => simpa using ends
  | cons entry rest induction =>
      rw [List.flatMap_cons, ← List.append_assoc]
      exact induction ((partEnds entry).append text)

theorem Starts.ne_nil (starts : Starts isMargin text) : text ≠ [] := by
  obtain ⟨c, tail, rfl, -⟩ := starts
  exact List.cons_ne_nil c tail

theorem starts_of_forall (nonempty : text ≠ []) (outside : ∀ c ∈ text, isMargin c = false) :
    Starts isMargin text := by
  obtain ⟨c, rest, rfl⟩ := List.exists_cons_of_ne_nil nonempty
  exact ⟨c, rest, rfl, outside c List.mem_cons_self⟩

theorem ends_of_getLast? (nonempty : text ≠ [])
    (outside : ∀ c ∈ text.getLast?, isMargin c = false) : Ends isMargin text :=
  ⟨text.dropLast, text.getLast nonempty, (List.dropLast_append_getLast nonempty).symm,
    outside _ (List.getLast?_eq_getLast_of_ne_nil nonempty)⟩

theorem ends_of_forall (nonempty : text ≠ []) (outside : ∀ c ∈ text, isMargin c = false) :
    Ends isMargin text :=
  ends_of_getLast? nonempty fun c last => outside c (List.mem_of_getLast? last)

theorem stripEnd_append {back : List Char} (ends : Ends isMargin text)
    (margin : ∀ c ∈ back, isMargin c = true) : stripEnd isMargin (text ++ back) = text := by
  obtain ⟨init, c, rfl, last⟩ := ends
  rw [stripEnd, List.reverse_append, List.dropWhile_append_of_pos (by simpa using margin),
    List.reverse_concat, List.dropWhile_cons_of_neg (by simp [last]), ← List.reverse_concat,
    List.reverse_reverse]

theorem stripEnd_eq_self (ends : Ends isMargin text) : stripEnd isMargin text = text := by
  have nothing : ∀ c ∈ ([] : List Char), isMargin c = true := List.forall_mem_nil _
  simpa using stripEnd_append ends nothing

/-- Stripping takes the margins off, and nothing else. -/
theorem stripBoth_append (front back : List Char) (frontMargin : ∀ c ∈ front, isMargin c = true)
    (backMargin : ∀ c ∈ back, isMargin c = true) (starts : Starts isMargin text)
    (ends : Ends isMargin text) : stripBoth isMargin (front ++ text ++ back) = text := by
  have dropped : (front ++ text ++ back).dropWhile isMargin = text ++ back := by
    obtain ⟨c, rest, rfl, first⟩ := starts
    rw [List.append_assoc, List.dropWhile_append_of_pos frontMargin, List.cons_append,
      List.dropWhile_cons_of_neg (by simp [first])]
  rw [stripBoth, dropped, stripEnd_append ends backMargin]

end Margins

theorem strip_eq_self {text : List Char} (starts : Starts isBlank text)
    (ends : Ends isBlank text) : strip text = text := by
  have stripped := stripBoth_append [] [] (by simp) (by simp) starts ends
  simpa [strip] using stripped

/-! ## Runs of a class -/

section Runs

variable {inside : Char → Bool} {run rest : List Char}

theorem takeWhile_append_of_head (run_inside : ∀ c ∈ run, inside c = true)
    (stops : ∀ c ∈ rest.head?, inside c = false) : (run ++ rest).takeWhile inside = run := by
  rw [List.takeWhile_append_of_pos run_inside]
  cases rest with
  | nil => simp
  | cons c tail => simp [stops c rfl]

theorem dropWhile_append_of_head (run_inside : ∀ c ∈ run, inside c = true)
    (stops : ∀ c ∈ rest.head?, inside c = false) : (run ++ rest).dropWhile inside = rest := by
  rw [List.dropWhile_append_of_pos run_inside]
  cases rest with
  | nil => rfl
  | cons c tail => simp [stops c rfl]

theorem takeWhile_of_head (stops : ∀ c ∈ rest.head?, inside c = false) :
    rest.takeWhile inside = [] :=
  takeWhile_append_of_head (List.forall_mem_nil _) stops

theorem dropWhile_of_head (stops : ∀ c ∈ rest.head?, inside c = false) :
    rest.dropWhile inside = rest :=
  dropWhile_append_of_head (List.forall_mem_nil _) stops

end Runs

/-! ## Words -/

theorem words_cons_of_blank {c : Char} (blank : isBlank c = true) (text : List Char) :
    words (c :: text) = words text := by
  simp [words, List.splitOnP_cons_eq_if_modifyHead, blank]

theorem words_append_of_blank {gap : List Char} (blank : ∀ c ∈ gap, isBlank c = true)
    (text : List Char) : words (gap ++ text) = words text := by
  induction gap with
  | nil => rfl
  | cons c rest induction =>
      rw [List.cons_append, words_cons_of_blank (blank c List.mem_cons_self)]
      exact induction fun d member => blank d (List.mem_cons_of_mem c member)

theorem words_eq_nil_of_blank {gap : List Char} (blank : ∀ c ∈ gap, isBlank c = true) :
    words gap = [] := by
  have words := words_append_of_blank blank []
  rwa [List.append_nil] at words

/-- A character before a word belongs to it. -/
theorem words_cons_cons {c d : Char} (outside : isBlank c = false) (next : isBlank d = false)
    (text : List Char) :
    ∃ word others, words (d :: text) = word :: others ∧
      words (c :: d :: text) = (c :: word) :: others := by
  obtain ⟨word, others, pieces⟩ := List.exists_cons_of_ne_nil (List.splitOnP_ne_nil isBlank text)
  refine ⟨d :: word, others.filter fun word => !word.isEmpty, ?_, ?_⟩ <;>
    simp [words, List.splitOnP_cons_eq_if_modifyHead, outside, next, pieces]

/-- A character before a blank is a word. -/
theorem words_cons_of_blank_head {c d : Char} (outside : isBlank c = false)
    (next : isBlank d = true) (text : List Char) :
    words (c :: d :: text) = [c] :: words text := by
  simp [words, List.splitOnP_cons_eq_if_modifyHead, outside, next]

end Text

namespace Language

open TableauSimplex.Text

/-- What becomes of a text behind a word: a blank in front of more words is a space. -/
def behind : List Char → List Char
  | [] => []
  | c :: rest =>
      if isBlank c then if words rest = [] then [] else ' ' :: normaliseSpace rest
      else normaliseSpace (c :: rest)

theorem behind_of_starts {text : List Char} (starts : Starts isBlank text) :
    behind text = normaliseSpace text := by
  obtain ⟨c, rest, rfl, outside⟩ := starts
  simp [behind, outside]

theorem normaliseSpace_cons {c : Char} (outside : isBlank c = false) (text : List Char) :
    normaliseSpace (c :: text) = c :: behind text := by
  cases text with
  | nil => simp [normaliseSpace, words, List.splitOnP_cons_eq_if_modifyHead, outside, behind]
  | cons d rest =>
      by_cases next : isBlank d = true
      · rw [normaliseSpace, words_cons_of_blank_head outside next, behind, if_pos next]
        by_cases empty : words rest = []
        · simp [empty]
        · rw [if_neg empty, List.intercalate_cons_of_ne_nil empty]
          rfl
      · rw [Bool.not_eq_true] at next
        obtain ⟨word, others, behindIt, withIt⟩ := words_cons_cons outside next rest
        rw [behind_of_starts ⟨d, rest, rfl, next⟩, normaliseSpace, normaliseSpace, withIt, behindIt]
        cases others <;> simp

theorem behind_cons {c : Char} (outside : isBlank c = false) (text : List Char) :
    behind (c :: text) = c :: behind text := by
  rw [behind_of_starts ⟨c, text, rfl, outside⟩, normaliseSpace_cons outside]

theorem behind_of_blank {gap : List Char} (blank : ∀ c ∈ gap, isBlank c = true) :
    behind gap = [] := by
  cases gap with
  | nil => rfl
  | cons c rest =>
      rw [behind, if_pos (blank c List.mem_cons_self), if_pos]
      exact words_eq_nil_of_blank fun d member => blank d (List.mem_cons_of_mem c member)

theorem words_ne_nil_of_starts {text : List Char} (starts : Starts isBlank text) :
    words text ≠ [] := by
  obtain ⟨c, rest, rfl, outside⟩ := starts
  obtain ⟨word, others, pieces⟩ := List.exists_cons_of_ne_nil (List.splitOnP_ne_nil isBlank rest)
  simp [words, List.splitOnP_cons_eq_if_modifyHead, outside, pieces]

theorem normaliseSpace_append_of_blank {gap : List Char} (blank : ∀ c ∈ gap, isBlank c = true)
    (text : List Char) : normaliseSpace (gap ++ text) = normaliseSpace text := by
  rw [normaliseSpace, words_append_of_blank blank, normaliseSpace]

end Language

end TableauSimplex
