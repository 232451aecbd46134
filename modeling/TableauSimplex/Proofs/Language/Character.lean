import Mathlib.Data.List.Basic
import TableauSimplex.Language.Specification

/-!
# Classes of characters

Digits may be of any script, names are of ASCII letters, digits and underscores, and the letters
of a phrase may be in any case.  The classes lie apart from each other as far as the reading of a
specification needs it.
-/

set_option autoImplicit false

namespace TableauSimplex

/-- What is said of the characters of a list is decided on the list, not on all characters. -/
instance (priority := 2000) decidableForallMemCharacters (characters : List Char)
    (p : Char → Prop) [DecidablePred p] : Decidable (∀ c ∈ characters, p c) :=
  List.decidableBAll p characters

/-- What holds of the first 128 code points holds of every ASCII character. -/
theorem forall_ascii {P : Char → Prop} (all : ∀ point < 128, P (Char.ofNat point)) {c : Char}
    (ascii : c.toNat < 128) : P c := by
  have holds := all c.toNat ascii
  rwa [Char.ofNat_toNat] at holds

namespace Text

/-! ## Digits -/

theorem isDigit_cases {c : Char} (digit : isDigit c = true) :
    (48 ≤ c.toNat ∧ c.toNat ≤ 57) ∨
      ∃ start ∈ zeroPoints, start ≤ c.toNat ∧ c.toNat ≤ start + 9 := by
  unfold isDigit digit? at digit
  split at digit
  · left
    unfold Numeral.asciiDigit? at digit
    split at digit
    · rename_i range
      exact range
    · cases digit
  · right
    rw [Option.isSome_map, List.find?_isSome] at digit
    obtain ⟨start, member, range⟩ := digit
    simp only [Bool.and_eq_true, decide_eq_true_eq] at range
    exact ⟨start, member, range.1, by omega⟩

theorem inRanges_eq_false_of_isDigit {ranges : List (Nat × Nat)} {c : Char}
    (digit : isDigit c = true)
    (ascii : ∀ range ∈ ranges, range.2 < 48 ∨ 57 < range.1)
    (scripts : ∀ start ∈ zeroPoints, ∀ range ∈ ranges, range.2 < start ∨ start + 9 < range.1) :
    inRanges ranges c.toNat = false := by
  rw [inRanges, List.any_eq_false]
  intro range member inside
  simp only [Bool.and_eq_true, decide_eq_true_eq] at inside
  rcases isDigit_cases digit with bounds | ⟨start, startMember, bounds⟩
  · have apart := ascii range member
    omega
  · have apart := scripts start startMember range member
    omega

theorem isBlank_eq_false_of_isDigit {c : Char} (digit : isDigit c = true) : isBlank c = false :=
  inRanges_eq_false_of_isDigit digit (by decide) (by decide)

theorem ne_of_isDigit {c d : Char} (digit : isDigit c = true) (other : isDigit d = false) :
    c ≠ d := by
  rintro rfl
  rw [digit] at other
  cases other

/-- Digits of any script are word characters. -/
theorem isWord_of_isDigit {c : Char} (digit : isDigit c = true) : isWord c = true := by
  rcases isDigit_cases digit with bounds | ⟨start, member, bounds⟩
  · exact forall_ascii (P := fun c => isDigit c = true → isWord c = true) (by decide +kernel)
      (by omega) digit
  · have scripts : (zeroPoints.all fun start => Nat.ble 128 start && letterRanges.any fun range =>
        Nat.ble range.1 start && Nat.ble (start + 9) range.2) = true := by decide +kernel
    have covered := List.all_eq_true.mp scripts start member
    simp only [Bool.and_eq_true, Nat.ble_eq, List.any_eq_true] at covered
    obtain ⟨large, range, listed, covers⟩ := covered
    rw [isWord, if_neg (by omega), inRanges, List.any_eq_true]
    refine ⟨range, listed, ?_⟩
    simp only [Bool.and_eq_true, decide_eq_true_eq]
    omega

/-! ## Names -/

theorem ascii_of_identifier {c : Char} (identifier : c.isAlphanum = true ∨ c = '_') :
    c.toNat < 128 := by
  rcases identifier with letter | rfl
  · have point : c.toNat = c.val.toNat := rfl
    have ranges : c.isAlphanum = ((decide (c.val ≥ 'A'.val ∧ c.val ≤ 'Z'.val)
        || decide (c.val ≥ 'a'.val) && decide (c.val ≤ 'z'.val))
        || decide (c.val ≥ '0'.val) && decide (c.val ≤ '9'.val)) := rfl
    simp only [ranges, Bool.or_eq_true, Bool.and_eq_true, decide_eq_true_eq,
      UInt32.le_iff_toNat_le] at letter
    have lastUpper : 'Z'.val.toNat = 90 := rfl
    have lastLower : 'z'.val.toNat = 122 := rfl
    have lastDigit : '9'.val.toNat = 57 := rfl
    omega
  · decide

theorem isWord_of_identifier {c : Char} (identifier : c.isAlphanum = true ∨ c = '_') :
    isWord c = true :=
  forall_ascii (P := fun c => (c.isAlphanum = true ∨ c = '_') → isWord c = true)
    (by decide +kernel) (ascii_of_identifier identifier) identifier

theorem isBlank_eq_false_of_identifier {c : Char} (identifier : c.isAlphanum = true ∨ c = '_') :
    isBlank c = false :=
  forall_ascii (P := fun c => (c.isAlphanum = true ∨ c = '_') → isBlank c = false)
    (by decide +kernel) (ascii_of_identifier identifier) identifier

theorem identifier_of_isNameStart {c : Char} (start : isNameStart c = true) :
    c.isAlphanum = true ∨ c = '_' := by
  simp only [isNameStart, Bool.or_eq_true, beq_iff_eq] at start
  exact start.imp_left fun letter => by rw [Char.isAlphanum, letter, Bool.true_or]

/-- A letter that begins a name is no digit. -/
theorem isNameStart_eq_false_of_isDigit {c : Char} (digit : isDigit c = true) :
    isNameStart c = false := by
  by_contra start
  rw [Bool.not_eq_false] at start
  have ascii := ascii_of_identifier (identifier_of_isNameStart start)
  exact forall_ascii (P := fun c => isDigit c = true → isNameStart c = true → False)
    (by decide +kernel) ascii digit start

theorem isDigit_eq_false_of_isNameStart {c : Char} (start : isNameStart c = true) :
    isDigit c = false := by
  by_contra digit
  rw [Bool.not_eq_false] at digit
  rw [isNameStart_eq_false_of_isDigit digit] at start
  cases start

/-! ## Blanks -/

theorem isWord_eq_false_of_isBlank {c : Char} (blank : isBlank c = true) : isWord c = false := by
  rcases Nat.lt_or_ge c.toNat 128 with small | large
  · exact forall_ascii (P := fun c => isBlank c = true → isWord c = false) (by decide +kernel) small
      blank
  · have apart : (blankRanges.all fun blanks => letterRanges.all fun letters =>
        Nat.blt letters.2 blanks.1 || Nat.blt blanks.2 letters.1) = true := by decide +kernel
    rw [isBlank, inRanges, List.any_eq_true] at blank
    obtain ⟨blanks, listed, range⟩ := blank
    have beside := List.all_eq_true.mp apart blanks listed
    rw [isWord, if_neg (by omega), inRanges, List.any_eq_false]
    intro letters member inside
    have separate := List.all_eq_true.mp beside letters member
    simp only [Bool.and_eq_true, decide_eq_true_eq, Bool.or_eq_true, Nat.blt_eq] at *
    omega

end Text

namespace Language

/-! ## Letters of phrases -/

theorem toLower_of_not_ascii {c : Char} (large : 128 ≤ c.toNat) : c.toLower = c := by
  unfold Char.toLower
  rw [dif_neg]
  rintro ⟨_, below⟩
  have bound : c.val.toNat ≤ 90 := below
  have point : c.toNat = c.val.toNat := rfl
  omega

theorem toLower_toLower (c : Char) : c.toLower.toLower = c.toLower := by
  rcases Nat.lt_or_ge c.toNat 128 with small | large
  · exact forall_ascii (P := fun c => c.toLower.toLower = c.toLower) (by decide +kernel) small
  · rw [toLower_of_not_ascii large, toLower_of_not_ascii large]

theorem isLetter_toLower (letter c : Char) : isLetter letter c.toLower = isLetter letter c := by
  rcases Nat.lt_or_ge c.toNat 128 with small | large
  · have plain : c.toLower.toNat < 128 :=
      forall_ascii (P := fun c => c.toLower.toNat < 128) (by decide +kernel) small
    have lowered := toLower_toLower c
    have special (point : Nat) (far : 128 ≤ point) :
        (c.toLower.toNat == point) = (c.toNat == point) := by
      rw [beq_false_of_ne (by omega), beq_false_of_ne (by omega)]
    simp only [isLetter, lowered, special _ (show 128 ≤ 0x17f by decide),
      special _ (show 128 ≤ 0x131 by decide), special _ (show 128 ≤ 0x130 by decide)]
  · rw [toLower_of_not_ascii large]

/-- A letter of a phrase is an ASCII character or one of three others. -/
theorem isLetter_cases {letter c : Char} (small : letter.toNat < 128)
    (same : isLetter letter c = true) :
    c.toNat < 128 ∨ c.toNat = 0x17f ∨ c.toNat = 0x131 ∨ c.toNat = 0x130 := by
  by_contra other
  rw [not_or, Nat.not_lt] at other
  obtain ⟨large, far⟩ := other
  have itself := toLower_of_not_ascii large
  have different : c ≠ letter := by
    rintro rfl
    omega
  simp only [not_or] at far
  simp [isLetter, itself, different, far] at same

theorem ascii_of_isLower {letter : Char} (small : letter.isLower = true) : letter.toNat < 128 := by
  have alphanumeric :
      letter.isAlphanum = (letter.isUpper || letter.isLower || letter.isDigit) := rfl
  rw [small, Bool.or_true, Bool.true_or] at alphanumeric
  exact Text.ascii_of_identifier (.inl alphanumeric)

/-- Whatever counts as a small letter is a word character and no digit. -/
theorem isWord_of_isLetter {letter c : Char} (small : letter.isLower = true)
    (same : isLetter letter c = true) : Text.isWord c = true ∧ Text.isDigit c = false := by
  have ascii := ascii_of_isLower small
  rcases isLetter_cases ascii same with plain | special
  · have lowered : c.toLower = letter := by
      have far : c.toNat ≠ 0x17f ∧ c.toNat ≠ 0x131 ∧ c.toNat ≠ 0x130 := by omega
      simpa [isLetter, far] using same
    rw [← lowered] at small
    exact forall_ascii
      (P := fun c => c.toLower.isLower = true → Text.isWord c = true ∧ Text.isDigit c = false)
      (by decide +kernel) plain small
  · have known : ∀ point ∈ [0x17f, 0x131, 0x130],
        Text.isWord (Char.ofNat point) = true ∧ Text.isDigit (Char.ofNat point) = false := by
      decide +kernel
    have holds := known c.toNat (by simpa using special)
    rwa [Char.ofNat_toNat] at holds

end Language

end TableauSimplex
