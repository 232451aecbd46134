import TableauSimplex.Proofs.Language.Blank
import TableauSimplex.Proofs.Language.Character

/-!
# Dividers and separators inside a text

A divider begins nowhere inside a name, if what stands behind the name is no rest of a divider.  In
the same way the word that separates constraints is found only where a name could begin, and not
in a longer word.
-/

set_option autoImplicit false

namespace TableauSimplex

open TableauSimplex.Text TableauSimplex.Language

namespace Language

/-! ## Phrases -/

theorem eq_of_isLetter_mark {mark c : Char} (known : mark ∈ [' ', '.'])
    (same : isLetter mark c = true) : c = mark := by
  have letters : ∀ mark ∈ [' ', '.'], mark ≠ 's' ∧ mark ≠ 'i' := by decide
  have lowered : c.toLower = mark := by simpa [isLetter, letters mark known] using same
  rcases Nat.lt_or_ge c.toNat 128 with small | large
  · have marks : ∀ mark ∈ [' ', '.'], ∀ point < 128,
        (Char.ofNat point).toLower = mark → Char.ofNat point = mark := by
      decide +kernel
    have fixed := marks mark known c.toNat small
    rw [Char.ofNat_toNat] at fixed
    exact fixed lowered
  · rwa [toLower_of_not_ascii large] at lowered

theorem isLetter_mark_of_isWord {mark c : Char} (known : mark ∈ [' ', '.'])
    (word : isWord c = true) : isLetter mark c = false := by
  rw [Bool.eq_false_iff]
  intro same
  rw [eq_of_isLetter_mark known same] at word
  have marks : ∀ mark ∈ [' ', '.'], isWord mark = false := by decide
  rw [marks mark known] at word
  cases word

/-- The letters but s and i have no other forms than the two of ASCII. -/
theorem toLower_eq_of_isLetter {letter c : Char} (single : letter ≠ 's' ∧ letter ≠ 'i')
    (same : isLetter letter c = true) : c.toLower = letter := by
  simpa [isLetter, single] using same

/-- Whether a phrase is found does not depend on the case of the text. -/
theorem afterPhrase?_map_toLower (phrase text : List Char) :
    afterPhrase? phrase text =
      (afterPhrase? phrase (text.map Char.toLower)).map fun _ => text.drop phrase.length := by
  induction phrase generalizing text with
  | nil => rfl
  | cons letter phrase induction =>
      cases text with
      | nil => rfl
      | cons c rest =>
          simp only [List.map_cons, afterPhrase?, isLetter_toLower]
          split
          · exact induction rest
          · rfl

/-! ## Behind a name -/

/-- No name continues here, and no divider whose first word was one. -/
structure Boundary (rest : List Char) : Prop where
  not_word : ∀ c ∈ rest.head?, isWord c = false
  not_divider : ∀ phrase ∈ [" to", " that", ".t."], afterPhrase? phrase.toList rest = none

theorem boundary_cons {c : Char} (outside : isWord c = false) (point : c ≠ '.') (space : c ≠ ' ')
    (rest : List Char) : Boundary (c :: rest) where
  not_word := by
    rintro d head
    cases head
    exact outside
  not_divider := by
    have noSpace : isLetter ' ' c = false := by
      rw [Bool.eq_false_iff]
      exact fun same => space (eq_of_isLetter_mark (by decide) same)
    have noPoint : isLetter '.' c = false := by
      rw [Bool.eq_false_iff]
      exact fun same => point (eq_of_isLetter_mark (by decide) same)
    simp [afterPhrase?, noSpace, noPoint]

theorem boundary_space {c : Char} (other : isLetter 't' c = false) (rest : List Char) :
    Boundary (' ' :: c :: rest) where
  not_word := by
    rintro d head
    cases head
    decide
  not_divider := by
    have point : isLetter '.' ' ' = false := by decide
    simp [afterPhrase?, other, point]

/-- A phrase whose first word is matched by name characters goes on behind them. -/
theorem afterPhrase?_name {first phrase name rest : List Char} {mark : Char}
    (small : ∀ letter ∈ first, letter.isLower = true) (known : mark ∈ [' ', '.'])
    (word : ∀ c ∈ name, isWord c = true)
    (not_word : ∀ c ∈ rest.head?, isWord c = false)
    (fails : afterPhrase? (mark :: phrase) rest = none) :
    afterPhrase? (first ++ mark :: phrase) (name ++ rest) = none := by
  -- On the first word: either the name ends within it, and no name goes on behind, or the mark
  -- meets a character of the name, or both end together.
  induction first generalizing name with
  | nil =>
      cases name with
      | nil => exact fails
      | cons c more =>
          have other := isLetter_mark_of_isWord known (word c List.mem_cons_self)
          simp [afterPhrase?, other]
  | cons letter first induction =>
      have letterSmall := small letter List.mem_cons_self
      have later : ∀ letter ∈ first, letter.isLower = true := fun other member =>
        small other (List.mem_cons_of_mem letter member)
      cases name with
      | nil =>
          cases rest with
          | nil => rfl
          | cons c tail =>
              have other : isLetter letter c = false := by
                by_contra same
                rw [Bool.not_eq_false] at same
                have word := (isWord_of_isLetter letterSmall same).1
                rw [not_word c rfl] at word
                cases word
              simp [afterPhrase?, other]
      | cons c more =>
          simp only [List.cons_append, afterPhrase?]
          split
          · exact induction later fun d member => word d (List.mem_cons_of_mem c member)
          · rfl

theorem afterDivider?_name {name rest : List Char}
    (word : ∀ c ∈ name, isWord c = true) (boundary : Boundary rest) :
    afterDivider? (name ++ rest) = none := by
  have fails (first phrase : List Char) {mark : Char}
      (small : ∀ letter ∈ first, letter.isLower = true) (known : mark ∈ [' ', '.'])
      (behind : afterPhrase? (mark :: phrase) rest = none) :
      afterPhrase? (first ++ mark :: phrase) (name ++ rest) = none :=
    afterPhrase?_name small known word boundary.not_word behind
  have subject : afterPhrase? "subject to".toList (name ++ rest) = none :=
    fails "subject".toList "to".toList (by decide) (by decide)
      (boundary.not_divider " to" (by decide))
  have such : afterPhrase? "such that".toList (name ++ rest) = none :=
    fails "such".toList "that".toList (by decide) (by decide)
      (boundary.not_divider " that" (by decide))
  have short : afterPhrase? "s.t.".toList (name ++ rest) = none :=
    fails "s".toList "t.".toList (by decide) (by decide)
      (boundary.not_divider ".t." (by decide))
  simp only [afterDivider?, dividers, List.findSome?_cons, List.findSome?_nil, subject, such, short]

/-! ## Texts without dividers -/

/-- No divider begins inside a text, whatever is cut behind it. -/
def Passes (rest text : List Char) : Prop :=
  cutAtDivider (text ++ rest) = (text ++ (cutAtDivider rest).1, (cutAtDivider rest).2)

theorem passes_nil (rest : List Char) : Passes rest [] := rfl

theorem Passes.cons {c : Char} {rest text : List Char} (passes : Passes rest text)
    (none : afterDivider? (c :: (text ++ rest)) = none) : Passes rest (c :: text) := by
  rw [Passes, List.cons_append, cutAtDivider, none, passes]
  rfl

theorem Passes.append {rest first second : List Char} (firstPasses : Passes (second ++ rest) first)
    (secondPasses : Passes rest second) : Passes rest (first ++ second) := by
  rw [Passes, List.append_assoc, firstPasses, secondPasses, List.append_assoc]

theorem afterDivider?_of_other {c : Char} (other : isLetter 's' c = false) (rest : List Char) :
    afterDivider? (c :: rest) = none := by
  simp [afterDivider?, dividers, afterPhrase?, other]

theorem passes_name {name rest : List Char}
    (word : ∀ c ∈ name, isWord c = true) (boundary : Boundary rest) : Passes rest name := by
  induction name with
  | nil => exact passes_nil rest
  | cons c more induction =>
      have later : ∀ d ∈ more, isWord d = true := fun d member =>
        word d (List.mem_cons_of_mem c member)
      exact (induction later).cons (afterDivider?_name word boundary)

/-- The letters of a word tell that no divider begins in it: each s is followed by a letter that
does not follow it in a divider. -/
def isCalm : List Char → Bool
  | [] => true
  | [c] => !isLetter 's' c
  | c :: d :: rest =>
      (!isLetter 's' c || !isLetter 'u' d && !isLetter '.' d) && isCalm (d :: rest)

theorem isCalm_map_toLower (text : List Char) : isCalm (text.map Char.toLower) = isCalm text := by
  induction text with
  | nil => rfl
  | cons c rest induction =>
      cases rest with
      | nil => simp [isCalm, isLetter_toLower]
      | cons d more =>
          simp only [List.map_cons] at induction
          simp [isCalm, isLetter_toLower, induction]

theorem passes_of_isCalm {word : List Char} (calm : isCalm word = true) (rest : List Char) :
    Passes rest word := by
  induction word with
  | nil => exact passes_nil rest
  | cons c more induction =>
      cases more with
      | nil =>
          have other : isLetter 's' c = false := by simpa [isCalm] using calm
          exact (passes_nil rest).cons (afterDivider?_of_other other _)
      | cons d more =>
          simp only [isCalm, Bool.and_eq_true, Bool.or_eq_true, Bool.not_eq_true'] at calm
          refine (induction calm.2).cons ?_
          rcases calm.1 with other | ⟨noU, noPoint⟩
          · exact afterDivider?_of_other other _
          · simp [afterDivider?, dividers, afterPhrase?, noU, noPoint]

/-! ## Texts without separators -/

theorem onFirst_eq_modifyHead {parts : List (List Char)} (nonempty : parts ≠ []) (c : Char) :
    onFirst c parts = parts.modifyHead (c :: ·) := by
  cases parts with
  | nil => exact absurd rfl nonempty
  | cons first others => rfl

theorem splitParts_ne_nil (afterWord : Bool) (text : List Char) :
    splitParts afterWord text ≠ [] := by
  cases text with
  | nil => simp [splitParts]
  | cons c rest =>
      rw [splitParts]
      split
      · exact List.cons_ne_nil _ _
      · split
        · exact List.cons_ne_nil _ _
        · cases splitParts (isWord c) rest <;> exact List.cons_ne_nil _ _

theorem splitParts_cons {c : Char} {afterWord : Bool} {rest : List Char}
    (plain : c ≠ ',' ∧ c ≠ ';') (none : startsAnd afterWord (c :: rest) = false) :
    splitParts afterWord (c :: rest) = (splitParts (isWord c) rest).modifyHead (c :: ·) := by
  rw [splitParts, if_neg (by simpa using plain), none, if_neg Bool.false_ne_true,
    onFirst_eq_modifyHead (splitParts_ne_nil _ _)]

theorem startsAnd_of_other {c : Char} (other : isLetter 'a' c = false) (afterWord : Bool)
    (rest : List Char) : startsAnd afterWord (c :: rest) = false := by
  simp [startsAnd, afterPhrase?, other]

/-- No separator stands inside a text, whatever is split behind it. -/
def Unsplit (rest text : List Char) : Prop :=
  ∀ afterWord, ∃ last, splitParts afterWord (text ++ rest) =
    (splitParts last rest).modifyHead (text ++ ·)

theorem unsplit_nil (rest : List Char) : Unsplit rest [] := by
  intro afterWord
  refine ⟨afterWord, ?_⟩
  cases shape : splitParts afterWord rest with
  | nil => exact absurd shape (splitParts_ne_nil afterWord rest)
  | cons first others => exact shape

theorem Unsplit.append {rest first second : List Char}
    (firstUnsplit : Unsplit (second ++ rest) first) (secondUnsplit : Unsplit rest second) :
    Unsplit rest (first ++ second) := by
  intro afterWord
  obtain ⟨middle, firstSplit⟩ := firstUnsplit afterWord
  obtain ⟨last, secondSplit⟩ := secondUnsplit middle
  refine ⟨last, ?_⟩
  rw [List.append_assoc, firstSplit, secondSplit, List.modifyHead_modifyHead]
  congr 1
  funext part
  exact (List.append_assoc _ _ _).symm

theorem unsplit_mark {c : Char} (plain : c ≠ ',' ∧ c ≠ ';') (other : isLetter 'a' c = false)
    (rest : List Char) : Unsplit rest [c] := fun afterWord =>
  ⟨isWord c, splitParts_cons plain (startsAnd_of_other other afterWord rest)⟩

theorem ne_separator_of_isWord {c : Char} (word : isWord c = true) : c ≠ ',' ∧ c ≠ ';' := by
  constructor <;> rintro rfl <;> exact absurd word (by decide)

theorem splitParts_word {name rest : List Char} (word : ∀ c ∈ name, isWord c = true) :
    splitParts true (name ++ rest) = (splitParts true rest).modifyHead (name ++ ·) := by
  induction name with
  | nil =>
      cases shape : splitParts true rest with
      | nil => exact absurd shape (splitParts_ne_nil true rest)
      | cons first others => exact shape
  | cons c more induction =>
      have first := word c List.mem_cons_self
      have later := induction fun d member => word d (List.mem_cons_of_mem c member)
      rw [List.cons_append, splitParts_cons (ne_separator_of_isWord first) rfl, first, later,
        List.modifyHead_modifyHead]
      rfl

/-- A phrase of letters that is found at the front of a name is part of the name. -/
theorem afterPhrase?_eq_some {phrase name rest after : List Char}
    (small : ∀ letter ∈ phrase, letter.isLower = true)
    (single : ∀ letter ∈ phrase, letter ≠ 's' ∧ letter ≠ 'i')
    (not_word : ∀ c ∈ rest.head?, isWord c = false)
    (found : afterPhrase? phrase (name ++ rest) = some after) :
    ∃ front back, name = front ++ back ∧ front.map Char.toLower = phrase ∧
      after = back ++ rest := by
  induction phrase generalizing name with
  | nil => exact ⟨[], name, rfl, rfl, (Option.some.inj found).symm⟩
  | cons letter phrase induction =>
      have letterSmall := small letter List.mem_cons_self
      have later : ∀ letter ∈ phrase, letter.isLower = true := fun other member =>
        small other (List.mem_cons_of_mem letter member)
      have singleLater : ∀ letter ∈ phrase, letter ≠ 's' ∧ letter ≠ 'i' := fun other member =>
        single other (List.mem_cons_of_mem letter member)
      cases name with
      | nil =>
          cases rest with
          | nil => cases found
          | cons c tail =>
              -- A letter of the phrase matches only what would have continued the name.
              simp only [List.nil_append, afterPhrase?] at found
              split at found
              · rename_i same
                have word := (isWord_of_isLetter letterSmall same).1
                rw [not_word c rfl] at word
                cases word
              · cases found
      | cons c more =>
          simp only [List.cons_append, afterPhrase?] at found
          split at found
          · rename_i same
            obtain ⟨front, back, parts, lowered, left⟩ := induction later singleLater found
            refine ⟨c :: front, back, by rw [parts]; rfl, ?_, left⟩
            rw [List.map_cons, lowered,
              toLower_eq_of_isLetter (single letter List.mem_cons_self) same]
          · cases found

/-- The word that separates constraints is not found in a longer word, or another. -/
theorem startsAnd_name {name rest : List Char} (word : ∀ c ∈ name, isWord c = true)
    (other : name.map Char.toLower ≠ "and".toList)
    (not_word : ∀ c ∈ rest.head?, isWord c = false) (afterWord : Bool) :
    startsAnd afterWord (name ++ rest) = false := by
  unfold startsAnd
  cases found : afterPhrase? "and".toList (name ++ rest) with
  | none => simp
  | some after =>
      obtain ⟨front, back, rfl, lowered, rfl⟩ :=
        afterPhrase?_eq_some (by decide) (by decide) not_word found
      cases back with
      | nil => exact absurd (by simpa using lowered) other
      | cons c more =>
          have still := word c (List.mem_append_right front List.mem_cons_self)
          simp [still]

theorem unsplit_name {c : Char} {more rest : List Char}
    (word : ∀ d ∈ c :: more, isWord d = true)
    (other : (c :: more).map Char.toLower ≠ "and".toList)
    (not_word : ∀ c ∈ rest.head?, isWord c = false) : Unsplit rest (c :: more) := by
  intro afterWord
  have first := word c List.mem_cons_self
  have none := startsAnd_name word other not_word afterWord
  rw [List.cons_append] at none
  refine ⟨true, ?_⟩
  rw [List.cons_append, splitParts_cons (ne_separator_of_isWord first) none, first,
    splitParts_word fun d member => word d (List.mem_cons_of_mem c member),
    List.modifyHead_modifyHead]
  rfl

/-! ## Parts -/

theorem strip_append_of_blank {gap : List Char} (blank : ∀ c ∈ gap, isBlank c = true)
    (text : List Char) : strip (gap ++ text) = strip text := by
  rw [strip, stripBoth, List.dropWhile_append_of_pos blank]
  rfl

theorem parts_nil : parts [] = [] := by
  rw [parts, splitParts]
  rfl

/-- A tight part without separators is the first one. -/
theorem parts_of_splitParts {part gap text : List Char} {others : List (List Char)}
    (starts : Starts isBlank part) (ends : Ends isBlank part)
    (blank : ∀ c ∈ gap, isBlank c = true)
    (split : splitParts false text = (part ++ gap) :: others) :
    parts text = part :: (others.map strip).filter fun part => !part.isEmpty := by
  have stripped : strip (part ++ gap) = part := by
    have both := stripBoth_append [] gap (by simp) blank starts ends
    simpa [strip] using both
  have nonempty : part.isEmpty = false := by simpa using starts.ne_nil
  rw [parts, split, List.map_cons, stripped, List.filter_cons, nonempty]
  rfl

/-- Blanks in front of a list of parts make no difference. -/
theorem parts_of_modifyHead {gap text : List Char} (blank : ∀ c ∈ gap, isBlank c = true) :
    (((splitParts false text).modifyHead (gap ++ ·)).map strip).filter
        (fun part => !part.isEmpty) = parts text := by
  rw [parts]
  cases splitParts false text with
  | nil => rfl
  | cons first others => rw [List.modifyHead_cons, List.map_cons, List.map_cons,
      strip_append_of_blank blank]

end Language

end TableauSimplex
