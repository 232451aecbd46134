import Mathlib.Data.List.Forall2
import Mathlib.Data.List.Induction
import Mathlib.Data.List.Infix
import Mathlib.Data.List.TakeWhile
import TableauSimplex.Proofs.Language.Division

/-!
# Texts put together

Where two texts are put together, blanks at the seam become at most one space.  A divider that is
found in the first text is found in both together, and one that is not does not come about at the
seam, unless the second text goes on with the rest of a divider.
-/

set_option autoImplicit false

namespace TableauSimplex

open TableauSimplex.Text TableauSimplex.Language

namespace Text

theorem exists_core (text : List Char) :
    ∃ core gap, text = core ++ gap ∧ (∀ c ∈ gap, isBlank c = true) ∧
      (core = [] ∨ Ends isBlank core) := by
  induction text using List.reverseRecOn with
  | nil => exact ⟨[], [], rfl, by simp, .inl rfl⟩
  | append_singleton init last induction =>
      by_cases blank : isBlank last = true
      · obtain ⟨core, gap, rfl, gapBlank, ends⟩ := induction
        refine ⟨core, gap ++ [last], List.append_assoc _ _ _, ?_, ends⟩
        exact List.forall_mem_append.mpr ⟨gapBlank, by simpa using blank⟩
      · rw [Bool.not_eq_true] at blank
        exact ⟨init ++ [last], [], (List.append_nil _).symm, by simp,
          .inr ⟨init, last, rfl, blank⟩⟩

/-- Stripping takes blanks off at both ends. -/
theorem exists_margins (text : List Char) :
    ∃ lead trail, text = lead ++ strip text ++ trail ∧ (∀ c ∈ lead, isBlank c = true) ∧
      ∀ c ∈ trail, isBlank c = true := by
  let rest := text.dropWhile isBlank
  have back : rest = (rest.reverse.dropWhile isBlank).reverse
      ++ (rest.reverse.takeWhile isBlank).reverse := by
    rw [← List.reverse_append, List.takeWhile_append_dropWhile, List.reverse_reverse]
  refine ⟨text.takeWhile isBlank, (rest.reverse.takeWhile isBlank).reverse, ?_, ?_, ?_⟩
  · calc text = text.takeWhile isBlank ++ rest := List.takeWhile_append_dropWhile.symm
      _ = text.takeWhile isBlank ++ (strip text ++ (rest.reverse.takeWhile isBlank).reverse) :=
        congrArg (text.takeWhile isBlank ++ ·) back
      _ = _ := (List.append_assoc _ _ _).symm
  · exact fun c member => List.mem_takeWhile_imp member
  · exact fun c member => List.mem_takeWhile_imp (List.mem_reverse.mp member)

theorem strip_append_right {gap : List Char} (blank : ∀ c ∈ gap, isBlank c = true)
    (text : List Char) : strip (text ++ gap) = strip text := by
  obtain ⟨lead, rest, shape, leadBlank, starts⟩ : ∃ lead rest, text = lead ++ rest ∧
      (∀ c ∈ lead, isBlank c = true) ∧ (∀ c ∈ rest.head?, isBlank c = false) :=
    ⟨text.takeWhile isBlank, text.dropWhile isBlank, List.takeWhile_append_dropWhile.symm,
      fun c member => List.mem_takeWhile_imp member, fun c head => by
        have kept := List.head?_dropWhile_not isBlank text
        rw [head] at kept
        simpa using kept⟩
  rw [shape, List.append_assoc, strip_append_of_blank leadBlank, strip_append_of_blank leadBlank]
  cases rest with
  | nil =>
      have nothing := strip_append_of_blank blank []
      rwa [List.append_nil] at nothing
  | cons c more =>
      have kept (text : List Char) : (c :: text).dropWhile isBlank = c :: text :=
        List.dropWhile_cons_of_neg (by simp [starts c rfl])
      rw [strip, strip, stripBoth, stripBoth, List.cons_append, kept, kept, stripEnd, stripEnd,
        ← List.cons_append, List.reverse_append,
        List.dropWhile_append_of_pos (by simpa using blank)]

end Text

namespace Language

/-! ## Blanks at the seam -/

theorem words_ne_nil_of_ends {text : List Char} (ends : Ends isBlank text) (rest : List Char) :
    words (text ++ rest) ≠ [] := by
  obtain ⟨init, c, rfl, outside⟩ := ends
  induction init with
  | nil => exact words_ne_nil_of_starts ⟨c, rest, rfl, outside⟩
  | cons d more induction =>
      by_cases blank : isBlank d = true
      · rw [List.cons_append, List.cons_append, words_cons_of_blank blank]
        exact induction
      · rw [Bool.not_eq_true] at blank
        exact words_ne_nil_of_starts ⟨d, _, rfl, blank⟩

theorem normaliseSpace_append {front : List Char} (ends : Ends isBlank front)
    (rest : List Char) : normaliseSpace (front ++ rest) = normaliseSpace front ++ behind rest := by
  obtain ⟨init, last, rfl, outside⟩ := ends
  induction init with
  | nil =>
      rw [List.nil_append, List.singleton_append, normaliseSpace_cons outside,
        normaliseSpace_cons outside]
      rfl
  | cons c more induction =>
      have ends : Ends isBlank (more ++ [last]) := ⟨more, last, rfl, outside⟩
      have skip {c : Char} (blank : isBlank c = true) (text : List Char) :
          normaliseSpace (c :: text) = normaliseSpace text := by
        have single : ∀ d ∈ [c], isBlank d = true := by simpa using blank
        exact normaliseSpace_append_of_blank single text
      by_cases blank : isBlank c = true
      · rw [List.cons_append, List.cons_append, skip blank, skip blank, induction]
      · rw [Bool.not_eq_true] at blank
        rw [List.cons_append, List.cons_append, normaliseSpace_cons blank,
          normaliseSpace_cons blank, List.cons_append]
        congr 1
        obtain ⟨d, tail, shape⟩ : ∃ d tail, more ++ [last] = d :: tail :=
          List.exists_cons_of_ne_nil (by simp)
        rw [shape] at induction ends ⊢
        by_cases next : isBlank d = true
        · have present (rest : List Char) : words (tail ++ rest) ≠ [] := by
            rw [← words_cons_of_blank next, ← List.cons_append]
            exact words_ne_nil_of_ends ends rest
          have alone := present []
          rw [List.append_nil] at alone
          rw [List.cons_append, skip next, skip next] at induction
          rw [List.cons_append, behind, if_pos next, if_neg (present rest), behind, if_pos next,
            if_neg alone, induction, List.cons_append]
        · rw [Bool.not_eq_true] at next
          have starts : Starts isBlank (d :: tail) := ⟨d, tail, rfl, next⟩
          rw [behind_of_starts starts, behind_of_starts (starts.append rest), induction]

/-- Whatever word comes next, the blanks in front of it become the same: a space or nothing. -/
theorem exists_seam (front : List Char) {gap : List Char} (blank : ∀ c ∈ gap, isBlank c = true) :
    ∃ seam, (seam = [] ∨ seam = [' ']) ∧
      (normaliseSpace front ≠ [] → gap ≠ [] → seam = [' ']) ∧
      ∀ text, Starts isBlank text → normaliseSpace (front ++ (gap ++ text)) =
        normaliseSpace front ++ (seam ++ normaliseSpace text) := by
  obtain ⟨core, trail, rfl, trailBlank, shape⟩ := exists_core front
  have blanks := List.forall_mem_append.mpr ⟨trailBlank, blank⟩
  have joined (text : List Char) :
      core ++ trail ++ (gap ++ text) = core ++ (trail ++ gap ++ text) := by
    simp only [List.append_assoc]
  simp only [joined]
  rcases shape with rfl | ends
  · have nothing : normaliseSpace trail = [] := by
      rw [normaliseSpace, words_eq_nil_of_blank trailBlank]
      rfl
    rw [List.nil_append, nothing]
    refine ⟨[], .inl rfl, fun present => absurd rfl present, fun text _ => ?_⟩
    rw [List.nil_append, normaliseSpace_append_of_blank blanks]
    rfl
  · rw [normaliseSpace_append ends, behind_of_blank trailBlank, List.append_nil]
    cases shape : trail ++ gap with
    | nil =>
        have noGap := (List.append_eq_nil_iff.mp shape).2
        refine ⟨[], .inl rfl, fun _ present => absurd noGap present, fun text starts => ?_⟩
        rw [List.nil_append, normaliseSpace_append ends, behind_of_starts starts]
        rfl
    | cons c more =>
        rw [shape] at blanks
        have later : ∀ d ∈ more, isBlank d = true := fun d member =>
          blanks d (List.mem_cons_of_mem c member)
        refine ⟨[' '], .inr rfl, fun _ _ => rfl, fun text starts => ?_⟩
        have present : words (more ++ text) ≠ [] := by
          rw [words_append_of_blank later]
          exact words_ne_nil_of_starts starts
        rw [normaliseSpace_append ends, List.cons_append, behind,
          if_pos (blanks c List.mem_cons_self), if_neg present,
          normaliseSpace_append_of_blank later]
        rfl

/-! ## Phrases at the seam -/

theorem afterPhrase?_append_of_some {phrase text after : List Char}
    (found : afterPhrase? phrase text = some after) (more : List Char) :
    afterPhrase? phrase (text ++ more) = some (after ++ more) := by
  induction phrase generalizing text with
  | nil =>
      cases found
      rfl
  | cons letter phrase induction =>
      cases text with
      | nil => cases found
      | cons c rest =>
          rw [afterPhrase?] at found
          rw [List.cons_append, afterPhrase?]
          split at found
          · rw [if_pos ‹_›]
            exact induction found
          · cases found

/-- A phrase at the front of two texts put together stands in the first one, or the first one ends
inside it. -/
theorem afterPhrase?_append {phrase text more after : List Char}
    (found : afterPhrase? phrase (text ++ more) = some after) :
    (∃ middle, afterPhrase? phrase text = some middle) ∨
      ∃ front letter back, phrase = front ++ letter :: back ∧
        List.Forall₂ (fun letter c => isLetter letter c = true) front text ∧
        afterPhrase? (letter :: back) more = some after := by
  induction phrase generalizing text with
  | nil => exact .inl ⟨text, rfl⟩
  | cons letter phrase induction =>
      cases text with
      | nil => exact .inr ⟨[], letter, phrase, rfl, .nil, found⟩
      | cons c rest =>
          rw [List.cons_append, afterPhrase?] at found
          split at found
          · rename_i same
            rcases induction found with ⟨middle, within⟩ | ⟨front, next, back, rfl, matched, later⟩
            · exact .inl ⟨middle, by rw [afterPhrase?, if_pos same, within]⟩
            · exact .inr ⟨letter :: front, next, back, rfl, .cons same matched, later⟩
          · cases found

theorem exists_letter_of_mem {letters text : List Char}
    (matched : List.Forall₂ (fun letter c => isLetter letter c = true) letters text) {c : Char}
    (member : c ∈ text) : ∃ letter ∈ letters, isLetter letter c = true := by
  induction matched with
  | nil => cases member
  | cons same _ induction =>
      rcases List.mem_cons.mp member with rfl | later
      · exact ⟨_, List.mem_cons_self, same⟩
      · obtain ⟨letter, letterMember, isLetter⟩ := induction later
        exact ⟨letter, List.mem_cons_of_mem _ letterMember, isLetter⟩

theorem eq_of_isLetter {first second c : Char} (firstAscii : first.toNat < 128)
    (secondAscii : second.toNat < 128) (no_i : first ≠ 'i' ∧ second ≠ 'i')
    (isFirst : isLetter first c = true) (isSecond : isLetter second c = true) :
    first = second := by
  have cases {letter : Char} (ascii : letter.toNat < 128) (other : letter ≠ 'i')
      (same : isLetter letter c = true) :
      c.toLower = letter ∧ c.toNat < 128 ∨ letter = 's' ∧ c.toNat = 0x17f := by
    have reading : c.toLower = letter ∨ letter = 's' ∧ c.toNat = 0x17f := by
      simpa [isLetter, other] using same
    rcases reading with lowered | long
    · left
      refine ⟨lowered, ?_⟩
      by_contra large
      rw [toLower_of_not_ascii (Nat.not_lt.mp large)] at lowered
      rw [lowered] at large
      exact large ascii
    · exact .inr long
  rcases cases firstAscii no_i.1 isFirst with ⟨firstLower, small⟩ | ⟨rfl, long⟩
  · rcases cases secondAscii no_i.2 isSecond with ⟨secondLower, -⟩ | ⟨-, long⟩
    · exact firstLower.symm.trans secondLower
    · omega
  · rcases cases secondAscii no_i.2 isSecond with ⟨-, small⟩ | ⟨rfl, -⟩
    · omega
    · rfl

/-! ## Dividers at the seam -/

theorem divider_letters : ∀ phrase ∈ dividers, ∀ letter ∈ phrase.toList,
    letter.toNat < 128 ∧ letter ≠ 'i' := by
  decide +kernel

theorem eq_of_isLetter_divider {first second : String} (firstKnown : first ∈ dividers)
    (secondKnown : second ∈ dividers) {letter other c : Char} (member : letter ∈ first.toList)
    (otherMember : other ∈ second.toList) (same : isLetter letter c = true)
    (otherSame : isLetter other c = true) : letter = other := by
  have letters := divider_letters first firstKnown letter member
  have others := divider_letters second secondKnown other otherMember
  exact eq_of_isLetter letters.1 others.1 ⟨letters.2, others.2⟩ same otherSame

theorem isPrefix_of_afterPhrase? {first second : String} (firstKnown : first ∈ dividers)
    (secondKnown : second ∈ dividers) {phrase other text after otherAfter : List Char}
    (letters : ∀ letter ∈ phrase, letter ∈ first.toList)
    (others : ∀ letter ∈ other, letter ∈ second.toList)
    (found : afterPhrase? phrase text = some after)
    (otherFound : afterPhrase? other text = some otherAfter) :
    phrase <+: other ∨ other <+: phrase := by
  induction phrase generalizing other text with
  | nil => exact .inl (List.nil_prefix)
  | cons letter phrase induction =>
      cases other with
      | nil => exact .inr (List.nil_prefix)
      | cons next other =>
          cases text with
          | nil => cases found
          | cons c rest =>
              rw [afterPhrase?] at found otherFound
              split at found
              · rename_i same
                split at otherFound
                · rename_i otherSame
                  -- No character is a form of two letters of dividers.
                  have equal := eq_of_isLetter_divider firstKnown secondKnown
                    (letters letter List.mem_cons_self) (others next List.mem_cons_self) same
                    otherSame
                  subst equal
                  have later := induction
                    (fun d member => letters d (List.mem_cons_of_mem letter member))
                    (fun d member => others d (List.mem_cons_of_mem letter member))
                    found otherFound
                  exact later.imp (List.prefix_cons_inj letter).mpr
                    (List.prefix_cons_inj letter).mpr
                · cases otherFound
              · cases found

/-- Only one divider can be found at a place. -/
theorem afterDivider?_eq_some_iff {text after : List Char} :
    afterDivider? text = some after ↔
      ∃ phrase ∈ dividers, afterPhrase? phrase.toList text = some after := by
  constructor
  · exact List.exists_of_findSome?_eq_some
  · rintro ⟨phrase, known, found⟩
    cases first : afterDivider? text with
    | none => rw [List.findSome?_eq_none_iff.mp first phrase known] at found
              cases found
    | some other =>
        obtain ⟨otherPhrase, otherKnown, otherFound⟩ := List.exists_of_findSome?_eq_some first
        have apart : ∀ phrase ∈ dividers, ∀ other ∈ dividers,
            phrase.toList <+: other.toList → phrase = other := by decide +kernel
        have same : otherPhrase = phrase := by
          rcases isPrefix_of_afterPhrase? known otherKnown (fun _ member => member)
            (fun _ member => member) found otherFound with prior | later
          · exact (apart _ known _ otherKnown prior).symm
          · exact apart _ otherKnown _ known later
        rw [same, found] at otherFound
        exact otherFound.symm

theorem afterDivider?_eq_none_iff {text : List Char} :
    afterDivider? text = none ↔
      ∀ phrase ∈ dividers, afterPhrase? phrase.toList text = none :=
  List.findSome?_eq_none_iff

/-- A text does not go on with the rest of a divider that has begun before. -/
def Fresh (text : List Char) : Prop :=
  ∀ phrase ∈ dividers, ∀ rest, rest <:+ phrase.toList.tail → rest ≠ [] →
    afterPhrase? rest text = none

theorem fresh_nil : Fresh [] := by
  intro phrase _ rest _ nonempty
  cases rest with
  | nil => exact absurd rfl nonempty
  | cons letter more => rfl

theorem fresh_cons {c : Char}
    (other : ∀ phrase ∈ dividers, ∀ letter ∈ phrase.toList.tail, isLetter letter c = false)
    (text : List Char) : Fresh (c :: text) := by
  intro phrase known rest ending nonempty
  cases rest with
  | nil => exact absurd rfl nonempty
  | cons letter more =>
      rw [afterPhrase?, other phrase known letter (ending.subset List.mem_cons_self),
        if_neg Bool.false_ne_true]

/-- Behind a space a divider goes on with a t. -/
theorem fresh_space {c : Char} (other : isLetter 't' c = false) (text : List Char) :
    Fresh (' ' :: c :: text) := by
  intro phrase known rest ending nonempty
  have spaces : ∀ phrase ∈ dividers, ∀ rest ∈ phrase.toList.tail.tails, rest.head? = some ' ' →
      rest.take 2 = [' ', 't'] := by decide +kernel
  cases rest with
  | nil => exact absurd rfl nonempty
  | cons letter more =>
      rw [afterPhrase?]
      split
      · rename_i same
        have letterKnown : letter ∈ phrase.toList :=
          List.mem_of_mem_tail (ending.subset List.mem_cons_self)
        have space : letter = ' ' := by
          have letters := divider_letters phrase known letter letterKnown
          exact eq_of_isLetter letters.1 (by decide) ⟨letters.2, by decide⟩ same (by decide)
        subst space
        have shape := spaces phrase known _ ((List.mem_tails _ _).mpr ending) rfl
        cases more with
        | nil => cases shape
        | cons next more =>
            have next_eq : next = 't' := by simpa using shape
            rw [next_eq, afterPhrase?, other, if_neg Bool.false_ne_true]
      · rfl

/-- A divider that only comes about with the text behind the seam has begun in front of it. -/
theorem exists_parted_divider {c : Char} {text more after : List Char}
    (absent : afterDivider? (c :: text) = none)
    (found : afterDivider? (c :: (text ++ more)) = some after) :
    ∃ phrase ∈ dividers, ∃ front letter back, phrase.toList.tail = front ++ letter :: back ∧
      List.Forall₂ (fun letter c => isLetter letter c = true) front text ∧
      afterPhrase? (letter :: back) more = some after := by
  obtain ⟨phrase, known, crossing⟩ := afterDivider?_eq_some_iff.mp found
  rw [← List.cons_append] at crossing
  rcases afterPhrase?_append crossing with
    ⟨middle, within⟩ | ⟨front, letter, back, shape, matched, later⟩
  · rw [afterDivider?_eq_none_iff.mp absent phrase known] at within
    cases within
  · obtain ⟨first, front, -, rest, rfl⟩ := List.forall₂_cons_right_iff.mp matched
    exact ⟨phrase, known, front, letter, back, by rw [shape]; rfl, rest, later⟩

theorem passes_of_fresh {text more : List Char} (undivided : (cutAtDivider text).2 = none)
    (fresh : Fresh more) : Passes more text := by
  induction text with
  | nil => exact passes_nil more
  | cons c rest induction =>
      rw [cutAtDivider] at undivided
      cases found : afterDivider? (c :: rest) with
      | some after =>
          rw [found] at undivided
          cases undivided
      | none =>
          rw [found] at undivided
          refine (induction undivided).cons ?_
          cases crossing : afterDivider? (c :: (rest ++ more)) with
          | none => rfl
          | some after =>
              obtain ⟨phrase, known, front, letter, back, shape, -, later⟩ :=
                exists_parted_divider found crossing
              rw [fresh phrase known _ ⟨front, shape.symm⟩ (List.cons_ne_nil _ _)] at later
              cases later

theorem cutAtDivider_of_undivided {text : List Char} (undivided : (cutAtDivider text).2 = none) :
    (cutAtDivider text).1 = text := by
  have passed := passes_of_fresh undivided fresh_nil
  have ending : cutAtDivider [] = ([], none) := rfl
  rw [Passes, List.append_nil, ending, List.append_nil] at passed
  rw [passed]

theorem exists_first_letter {text after : List Char}
    (divided : (cutAtDivider text).2 = some after) :
    ∃ c ∈ text, isLetter 's' c = true := by
  induction text with
  | nil => cases divided
  | cons c rest induction =>
      rw [cutAtDivider] at divided
      cases found : afterDivider? (c :: rest) with
      | some other =>
          by_contra absent
          push Not at absent
          have first := absent c List.mem_cons_self
          rw [Ne, Bool.not_eq_true] at first
          rw [afterDivider?_of_other first] at found
          cases found
      | none =>
          rw [found] at divided
          obtain ⟨d, member, same⟩ := induction divided
          exact ⟨d, List.mem_cons_of_mem c member, same⟩

/-- A divider found in a text stays the first one, whatever is put behind the text: none begins
before it and ends behind it, because a divider has no s inside. -/
theorem cutAtDivider_append {text after : List Char}
    (divided : (cutAtDivider text).2 = some after) (more : List Char) :
    cutAtDivider (text ++ more) = ((cutAtDivider text).1, some (after ++ more)) := by
  induction text with
  | nil => cases divided
  | cons c rest induction =>
      rw [cutAtDivider] at divided ⊢
      rw [List.cons_append, cutAtDivider]
      cases found : afterDivider? (c :: rest) with
      | some other =>
          rw [found] at divided
          cases divided
          obtain ⟨phrase, known, within⟩ := afterDivider?_eq_some_iff.mp found
          have longer : afterDivider? (c :: (rest ++ more)) = some (after ++ more) :=
            afterDivider?_eq_some_iff.mpr ⟨phrase, known, afterPhrase?_append_of_some within more⟩
          rw [longer]
      | none =>
          rw [found] at divided
          have still : afterDivider? (c :: (rest ++ more)) = none := by
            cases crossing : afterDivider? (c :: (rest ++ more)) with
            | none => rfl
            | some behind =>
                obtain ⟨phrase, known, front, letter, back, shape, matched, -⟩ :=
                  exists_parted_divider found crossing
                obtain ⟨d, member, begins⟩ := exists_first_letter divided
                obtain ⟨inner, innerMember, same⟩ := exists_letter_of_mem matched member
                have inside : inner ∈ phrase.toList.tail := by
                  rw [shape]
                  exact List.mem_append_left _ innerMember
                have letters := divider_letters phrase known inner (List.mem_of_mem_tail inside)
                have is_s : inner = 's' :=
                  eq_of_isLetter letters.1 (by decide) ⟨letters.2, by decide⟩ same begins
                have none_inside : ∀ phrase ∈ dividers, 's' ∉ phrase.toList.tail := by
                  decide +kernel
                rw [is_s] at inside
                exact absurd inside (none_inside phrase known)
          rw [still]
          dsimp only
          rw [induction divided]

end Language

end TableauSimplex
