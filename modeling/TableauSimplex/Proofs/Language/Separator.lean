import TableauSimplex.Proofs.Language.Parts
import TableauSimplex.Proofs.Language.Seam

/-!
# Separators between texts

The parts of a text with a separator in it are those in front of the separator and those behind it,
whatever stands there.  Blanks around a text change nothing about its parts.
-/

set_option autoImplicit false

namespace TableauSimplex

open TableauSimplex.Text TableauSimplex.Language

namespace Language

open TableauSimplex.Grammar (Cased splitParts_and splitParts_separator)

/-- No word goes on at the front of a text. -/
def Parted (text : List Char) : Prop :=
  ∀ c ∈ text.head?, isWord c = false

theorem parted_cons {c : Char} (outside : isWord c = false) (rest : List Char) :
    Parted (c :: rest) := by
  rintro d head
  cases head
  exact outside

theorem isLetter_eq_false_of_not_word {letter c : Char} (small : letter.isLower = true)
    (outside : isWord c = false) : isLetter letter c = false := by
  by_contra same
  rw [Bool.not_eq_false] at same
  rw [(isWord_of_isLetter small same).1] at outside
  cases outside

theorem isBlank_eq_false_of_separator {c : Char} (separates : c = ',' ∨ c = ';') :
    isBlank c = false := by
  rcases separates with rfl | rfl <;> decide

theorem isWord_eq_false_of_separator {c : Char} (separates : c = ',' ∨ c = ';') :
    isWord c = false := by
  rcases separates with rfl | rfl <;> decide

/-! ## The separating word at a seam -/

theorem afterPhrase?_append_of_parted {phrase text rest : List Char}
    (small : ∀ letter ∈ phrase, letter.isLower = true) (parted : Parted rest)
    (fails : afterPhrase? phrase text = none) : afterPhrase? phrase (text ++ rest) = none := by
  cases found : afterPhrase? phrase (text ++ rest) with
  | none => rfl
  | some after =>
      rcases afterPhrase?_append found with ⟨middle, within⟩ | ⟨front, letter, back, rfl, -, later⟩
      · rw [fails] at within
        cases within
      · cases rest with
        | nil => cases later
        | cons c more =>
            have letterSmall := small letter (List.mem_append_right _ List.mem_cons_self)
            have other := isLetter_eq_false_of_not_word letterSmall (parted c rfl)
            rw [afterPhrase?, other, if_neg Bool.false_ne_true] at later
            cases later

theorem startsAnd_append (afterWord : Bool) (text : List Char) {rest : List Char}
    (parted : Parted rest) : startsAnd afterWord (text ++ rest) = startsAnd afterWord text := by
  unfold startsAnd
  cases found : afterPhrase? "and".toList text with
  | none => rw [afterPhrase?_append_of_parted (by decide) parted found]
  | some after =>
      rw [afterPhrase?_append_of_some found rest]
      cases after with
      | cons c more => rfl
      | nil =>
          cases rest with
          | nil => rfl
          | cons c more =>
              rw [List.nil_append]
              simp only [parted c rfl, Bool.not_false]

theorem two_le_length_of_startsAnd {afterWord : Bool} {c : Char} {rest : List Char}
    (starts : startsAnd afterWord (c :: rest) = true) : 2 ≤ rest.length := by
  unfold startsAnd at starts
  cases rest with
  | nil => simp [afterPhrase?] at starts
  | cons d more =>
      cases more with
      | nil => simp [afterPhrase?] at starts
      | cons e more => simp

/-! ## Splitting a text put together -/

theorem splitParts_of_parted {rest : List Char} (parted : Parted rest)
    (afterWord otherWord : Bool) : splitParts afterWord rest = splitParts otherWord rest := by
  cases rest with
  | nil => rw [splitParts, splitParts]
  | cons c more =>
      by_cases separates : c = ',' ∨ c = ';'
      · rw [splitParts_separator separates, splitParts_separator separates]
      · have other : isLetter 'a' c = false :=
          isLetter_eq_false_of_not_word (by decide) (parted c rfl)
        rw [not_or] at separates
        rw [splitParts_cons separates (startsAnd_of_other other _ _),
          splitParts_cons separates (startsAnd_of_other other _ _)]

/-- A text put together is split like its two parts, but the last part of the first and the first
part of the second are one. -/
theorem exists_splitParts_append (afterWord : Bool) (front : List Char) :
    ∃ init last, splitParts afterWord front = init ++ [last] ∧
      ∀ rest, Parted rest → splitParts afterWord (front ++ rest) =
        init ++ (splitParts false rest).modifyHead (last ++ ·) := by
  induction afterWord, front using splitParts.induct with
  | case1 afterWord =>
      refine ⟨[], [], by rw [splitParts]; rfl, fun rest parted => ?_⟩
      rw [List.nil_append, splitParts_of_parted parted afterWord false]
      cases splitParts false rest <;> rfl
  | case2 afterWord c rest separates induction =>
      obtain ⟨init, last, shape, together⟩ := induction
      refine ⟨[] :: init, last, ?_, fun more parted => ?_⟩
      · rw [splitParts_separator separates, shape]
        rfl
      · rw [List.cons_append, splitParts_separator separates, together more parted]
        rfl
  | case3 afterWord c rest plain starts induction =>
      obtain ⟨init, last, shape, together⟩ := induction
      have long := two_le_length_of_startsAnd starts
      refine ⟨[] :: init, last, ?_, fun more parted => ?_⟩
      · rw [splitParts, if_neg plain, if_pos starts, shape]
        rfl
      · have still : startsAnd afterWord (c :: (rest ++ more)) = true := by
          rw [← List.cons_append, startsAnd_append _ _ parted, starts]
        rw [List.cons_append, splitParts, if_neg plain, if_pos still,
          List.drop_append_of_le_length long, together more parted]
        rfl
  | case4 afterWord c rest plain starts induction =>
      obtain ⟨init, last, shape, together⟩ := induction
      rw [Bool.not_eq_true] at starts
      have marks := not_or.mp plain
      have still (more : List Char) (parted : Parted more) :
          startsAnd afterWord (c :: (rest ++ more)) = false := by
        rw [← List.cons_append, startsAnd_append _ _ parted, starts]
      cases init with
      | nil =>
          refine ⟨[], c :: last, ?_, fun more parted => ?_⟩
          · rw [splitParts_cons marks starts, shape]
            rfl
          · rw [List.cons_append, splitParts_cons marks (still more parted), together more parted,
              List.nil_append, List.nil_append, List.modifyHead_modifyHead]
            rfl
      | cons first others =>
          refine ⟨(c :: first) :: others, last, ?_, fun more parted => ?_⟩
          · rw [splitParts_cons marks starts, shape]
            rfl
          · rw [List.cons_append, splitParts_cons marks (still more parted), together more parted]
            rfl

/-! ## Parts of a text put together -/

/-- The parts of pieces of a text: without blanks around them and without empty ones. -/
def tidy (pieces : List (List Char)) : List (List Char) :=
  (pieces.map strip).filter fun part => !part.isEmpty

theorem parts_eq_tidy (text : List Char) : parts text = tidy (splitParts false text) :=
  rfl

theorem tidy_append (first second : List (List Char)) :
    tidy (first ++ second) = tidy first ++ tidy second := by
  rw [tidy, List.map_append, List.filter_append]
  rfl

theorem tidy_concat_blank {gap : List Char} (blank : ∀ c ∈ gap, isBlank c = true)
    (init : List (List Char)) (last : List Char) :
    tidy (init ++ [last ++ gap]) = tidy (init ++ [last]) := by
  rw [tidy, tidy, List.map_append, List.map_append, List.map_singleton, List.map_singleton,
    strip_append_right blank]

/-- A comma or a semicolon keeps the parts on its two sides apart, whatever they are. -/
theorem parts_append_separator {c : Char} (separates : c = ',' ∨ c = ';')
    (front rest : List Char) : parts (front ++ c :: rest) = parts front ++ parts rest := by
  obtain ⟨init, last, shape, together⟩ := exists_splitParts_append false front
  have parted := parted_cons (isWord_eq_false_of_separator separates) rest
  rw [parts_eq_tidy, together _ parted, splitParts_separator separates, List.modifyHead_cons,
    List.append_nil, parts_eq_tidy, shape, parts_eq_tidy, ← tidy_append, List.append_assoc]
  rfl

/-- So does the separating word, if it stands on its own. -/
theorem parts_append_and (word : Cased "and") (front : List Char) {rest : List Char}
    (parted : Parted rest) :
    parts (front ++ ' ' :: (word.chars ++ rest)) = parts front ++ parts rest := by
  obtain ⟨init, last, shape, together⟩ := exists_splitParts_append false front
  have space : Parted (' ' :: (word.chars ++ rest)) := parted_cons (by decide) _
  have blank : ∀ c ∈ [' '], isBlank c = true := by decide
  rw [parts_eq_tidy, together _ space, splitParts_and word false parted, List.modifyHead_cons,
    splitParts_of_parted parted true false, ← List.singleton_append, ← List.append_assoc,
    tidy_append, tidy_concat_blank blank, parts_eq_tidy, shape]
  rfl

theorem splitParts_blank {gap : List Char} (blank : ∀ c ∈ gap, isBlank c = true)
    (afterWord : Bool) (rest : List Char) :
    splitParts afterWord (gap ++ rest) =
      (splitParts (if gap = [] then afterWord else false) rest).modifyHead (gap ++ ·) := by
  induction gap generalizing afterWord with
  | nil =>
      rw [if_pos rfl]
      cases shape : splitParts afterWord rest with
      | nil => exact absurd shape (splitParts_ne_nil _ _)
      | cons first others => exact shape
  | cons c more induction =>
      have first := blank c List.mem_cons_self
      have outside := isWord_eq_false_of_isBlank first
      have marks : c ≠ ',' ∧ c ≠ ';' := by
        constructor <;> rintro rfl <;> exact absurd first (by decide)
      have other : isLetter 'a' c = false :=
        isLetter_eq_false_of_not_word (by decide) outside
      rw [List.cons_append, splitParts_cons marks (startsAnd_of_other other _ _), outside,
        induction fun d member => blank d (List.mem_cons_of_mem c member), ite_self,
        if_neg (List.cons_ne_nil c more), List.modifyHead_modifyHead]
      rfl

theorem parts_blank_append {gap : List Char} (blank : ∀ c ∈ gap, isBlank c = true)
    (text : List Char) : parts (gap ++ text) = parts text := by
  rw [parts_eq_tidy, splitParts_blank blank, ite_self]
  exact parts_of_modifyHead blank

theorem parts_append_blank {gap : List Char} (blank : ∀ c ∈ gap, isBlank c = true)
    (text : List Char) : parts (text ++ gap) = parts text := by
  obtain ⟨init, last, shape, together⟩ := exists_splitParts_append false text
  have parted : Parted gap := fun c head =>
    isWord_eq_false_of_isBlank (blank c (List.mem_of_mem_head? head))
  have alone := splitParts_blank blank false []
  have ending : splitParts false [] = [[]] := by rw [splitParts]
  rw [ite_self, List.append_nil, ending, List.modifyHead_cons, List.append_nil] at alone
  rw [parts_eq_tidy, together _ parted, alone, List.modifyHead_cons, tidy_concat_blank blank,
    parts_eq_tidy, shape]

theorem parts_strip (text : List Char) : parts (strip text) = parts text := by
  obtain ⟨lead, trail, shape, leadBlank, trailBlank⟩ := exists_margins text
  conv_rhs => rw [shape]
  rw [List.append_assoc, parts_blank_append leadBlank, parts_append_blank trailBlank]

end Language

end TableauSimplex
