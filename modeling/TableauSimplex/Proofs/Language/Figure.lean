import TableauSimplex.Proofs.Language.Layout

/-!
# Reading figures

A figure is read whole wherever no digit and no point stands behind it, and its number is the
decimal it is written as.
-/

set_option autoImplicit false

namespace TableauSimplex

open TableauSimplex.Text TableauSimplex.Language

/-! ## Runs of digits -/

/-- A digit stands for a value, so the underscore that may part digits is none. -/
theorem Numeral.takeDigits_cons {c : Char} (digit : isDigit c = true) (inside : Bool)
    (rest : List Char) :
    takeDigits digit? inside (c :: rest) =
      ((digit? c).getD 0 :: (takeDigits digit? true rest).1, (takeDigits digit? true rest).2) := by
  obtain ⟨value, known⟩ := Option.isSome_iff_exists.mp digit
  have different : c ≠ '_' := by
    rintro rfl
    exact absurd digit (by decide)
  rw [takeDigits.eq_4 _ _ _ _ different, known]
  rfl

theorem Numeral.takeDigits_append {digits : List Char} (digit : ∀ c ∈ digits, isDigit c = true)
    {rest : List Char} (stops : ∀ inside, takeDigits digit? inside rest = ([], rest))
    (inside : Bool) :
    takeDigits digit? inside (digits ++ rest) =
      (digits.map fun c => (digit? c).getD 0, rest) := by
  induction digits generalizing inside with
  | nil => exact stops inside
  | cons c digits induction =>
      have later := induction (fun d member => digit d (List.mem_cons_of_mem c member)) true
      rw [List.cons_append, takeDigits_cons (digit c List.mem_cons_self), later]
      rfl

theorem Numeral.takeDigits_point (inside : Bool) (rest : List Char) :
    takeDigits digit? inside ('.' :: rest) = ([], '.' :: rest) := by
  rw [takeDigits.eq_4 _ _ _ _ (by decide), show digit? '.' = none by decide]

namespace Grammar

theorem Digits.takeDigits (digits : Digits) (inside : Bool) :
    Numeral.takeDigits digit? inside digits.chars =
      (digits.values, []) := by
  have stops : ∀ inside, Numeral.takeDigits digit? inside [] = ([], []) := fun _ => rfl
  have taken := Numeral.takeDigits_append digits.digit stops inside
  rwa [List.append_nil] at taken

theorem Digits.takeDigits_point (digits : Digits) (inside : Bool) (rest : List Char) :
    Numeral.takeDigits digit? inside (digits.chars ++ '.' :: rest) =
      (digits.values, '.' :: rest) :=
  Numeral.takeDigits_append digits.digit
    (fun inside => Numeral.takeDigits_point inside rest) inside

/-! ## The number of a figure -/

theorem Figure.unsigned? (figure : Figure) (sign : Option Sign) :
    Numeral.unsigned? digit? (sign = some .minus) figure.chars = some (figure.decimal sign) := by
  obtain ⟨whole, fraction⟩ := figure
  obtain ⟨first, more, shape⟩ : ∃ first more, whole.values = first :: more :=
    List.exists_cons_of_ne_nil (by simpa [Digits.values] using whole.chars_ne_nil)
  cases fraction with
  | none =>
      simp [Numeral.unsigned?, Figure.chars, Digits.takeDigits, Figure.decimal, Figure.behindPoint,
        Numeral.exponent?, shape]
  | some fraction =>
      simp [Numeral.unsigned?, Figure.chars, Digits.takeDigits, Digits.takeDigits_point,
        Figure.decimal, Figure.behindPoint, Numeral.exponent?, shape]

/-! ## Signs in front of digits and points -/

section Signed

variable {text : List Char} (inside : ∀ c ∈ text, isDigit c = true ∨ c = '.')

include inside

theorem isBlank_eq_false_of_inside : ∀ c ∈ text, isBlank c = false := by
  intro c member
  rcases inside c member with digit | rfl
  · exact isBlank_eq_false_of_isDigit digit
  · decide

/-- Digits and points make no word. -/
theorem not_word_of_inside {letter : Char} (small : letter.isLower = true) (rest : List Char) :
    String.ofList (text.map Char.toLower) ≠ String.ofList (letter :: rest) := by
  intro same
  have chars : text.map Char.toLower = letter :: rest := by
    simpa using congrArg String.toList same
  obtain ⟨c, tail, rfl, lowered, -⟩ := List.map_eq_cons_iff.mp chars
  rcases inside c List.mem_cons_self with digit | rfl
  · have outside := (isWord_of_isLetter small
      (show isLetter letter c = true by simp [isLetter, lowered])).2
    rw [digit] at outside
    cases outside
  · rw [← lowered] at small
    exact absurd small (by decide)

theorem takeSign_signed (sign : Option Sign) :
    Numeral.takeSign ((sign.map Sign.char).toList ++ text) =
      (decide (sign = some .minus), text) := by
  cases sign with
  | some sign => cases sign <;> rfl
  | none =>
      cases text with
      | nil => rfl
      | cons c rest =>
          have first := inside c List.mem_cons_self
          have plus : c ≠ '+' := by
            rintro rfl
            exact absurd first (by decide)
          have minus : c ≠ '-' := by
            rintro rfl
            exact absurd first (by decide)
          exact Numeral.takeSign.eq_3 _ (by simpa using plus) (by simpa using minus)

/-- A sign in front of digits and points is the sign of the numeral. -/
theorem read?_signed (sign : Option Sign) (nonempty : text ≠ []) :
    Numeral.read? digit? isNumeralMargin ((sign.map Sign.char).toList ++ text) =
      (Numeral.unsigned? digit? (sign = some .minus) text).map .decimal := by
  have outside : ∀ c ∈ (sign.map Sign.char).toList ++ text, isNumeralMargin c = false := by
    intro c member
    have blank : isBlank c = false := by
      rcases List.mem_append.mp member with front | member
      · obtain ⟨known, _, rfl⟩ : ∃ known, sign = some known ∧ known.char = c := by
          simpa using front
        exact known.isBlank_eq_false
      · exact isBlank_eq_false_of_inside inside c member
    rw [isNumeralMargin, blank, Bool.false_and]
  have filled : (sign.map Sign.char).toList ++ text ≠ [] := by simp [nonempty]
  have stripped := stripBoth_append [] [] (by simp) (by simp) (starts_of_forall filled outside)
    (ends_of_forall filled outside)
  rw [List.nil_append, List.append_nil] at stripped
  simp only [Numeral.read?, stripped, takeSign_signed inside]
  rw [if_neg, if_neg]
  · exact not_word_of_inside inside (show 'n'.isLower = true by decide) ['a', 'n']
  · rintro (word | word)
    · exact not_word_of_inside inside (show 'i'.isLower = true by decide) ['n', 'f'] word
    · exact not_word_of_inside inside (show 'i'.isLower = true by decide)
        ['n', 'f', 'i', 'n', 'i', 't', 'y'] word

end Signed

/-- A figure is read as the decimal it is written as. -/
theorem read?_targetText (sign : Option Sign) (figure : Figure) :
    Numeral.read? digit? isNumeralMargin (targetText sign figure) =
      some (.decimal (figure.decimal sign)) := by
  have nonempty : figure.chars ≠ [] := by
    obtain ⟨c, rest, shape, -⟩ := figure.chars_eq_cons
    rw [shape]
    exact List.cons_ne_nil c rest
  rw [targetText, read?_signed (fun _ => figure.mem_chars) sign nonempty, figure.unsigned? sign,
    Option.map_some]

/-! ## The number behind a comparison -/

section Reading

variable {α : Type} [Scalar α]

theorem number?_targetText (sign : Option Sign) (figure : Figure) :
    number? (targetText sign figure) = some (figure.value sign : α) := by
  rw [number?, read?_targetText]
  rfl

theorem targetText_filter (sign : Option Sign) (figure : Figure) :
    (targetText sign figure).filter (· != ' ') = targetText sign figure := by
  rw [List.filter_eq_self]
  intro c member
  have outside : isBlank c = false := by
    rcases List.mem_append.mp member with front | digits
    · obtain ⟨sign, _, rfl⟩ : ∃ known, sign = some known ∧ known.char = c := by
        simpa using front
      exact sign.isBlank_eq_false
    · exact figure.isBlank_eq_false c digits
  rw [bne_iff_ne]
  rintro rfl
  exact absurd outside (by decide)

theorem readNumber_targetText (sign : Option Sign) (figure : Figure) :
    readNumber (targetText sign figure) = .ok (figure.value sign : α) := by
  simp only [readNumber, targetText_filter, number?_targetText]

end Reading

/-! ## Figures in front of a rest -/

/-- No digit and no point stands at the front of a text. -/
def ClearOfDigits (rest : List Char) : Prop :=
  ∀ c ∈ rest.head?, isDigit c = false ∧ c ≠ '.'

theorem head_point (rest : List Char) : ∀ c ∈ ('.' :: rest).head?, isDigit c = false := by
  rintro c head
  cases head
  decide

theorem takeFraction_eq_self {rest : List Char} (clear : ClearOfDigits rest) :
    takeFraction rest = ([], rest) := by
  unfold takeFraction
  split
  · exact absurd rfl (clear '.' rfl).2
  · rfl

theorem takeFraction_digits (digits : Digits) {rest : List Char} (clear : ClearOfDigits rest) :
    takeFraction ('.' :: (digits.chars ++ rest)) = ('.' :: digits.chars, rest) := by
  have stops : ∀ c ∈ rest.head?, isDigit c = false := fun c head => (clear c head).1
  have taken := takeWhile_append_of_head digits.digit stops
  have left := dropWhile_append_of_head digits.digit stops
  rw [takeFraction, taken, left]
  split
  · rename_i empty
    exact absurd empty digits.chars_ne_nil
  · rfl

theorem Figure.takeFraction (figure : Figure) :
    (takeFraction (figure.chars.dropWhile isDigit)).2 = [] := by
  have clear : ClearOfDigits [] := by
    rintro c ⟨⟩
  obtain ⟨whole, fraction⟩ := figure
  cases fraction with
  | none =>
      have atEnd : ∀ c ∈ ([] : List Char).head?, isDigit c = false := by
        rintro c ⟨⟩
      have dropped := dropWhile_append_of_head whole.digit atEnd
      rw [List.append_nil] at dropped
      rw [Figure.chars, dropped, takeFraction_eq_self clear]
  | some fraction =>
      have taken := takeFraction_digits fraction clear
      rw [List.append_nil] at taken
      rw [Figure.chars, dropWhile_append_of_head whole.digit (head_point fraction.chars), taken]

theorem Figure.isPlainNumber (figure : Figure) : isPlainNumber figure.chars = true := by
  obtain ⟨c, tail, shape, digit⟩ := figure.chars_eq_cons
  have taken := figure.takeFraction
  rw [shape, List.dropWhile_cons_of_pos digit] at taken
  simp [Language.isPlainNumber, shape, digit, taken]

/-- An optional minus and a figure make a bound. -/
theorem isBound_targetText (negative : Bool) (figure : Figure) :
    isBound (targetText (if negative then some .minus else none) figure) = true := by
  cases negative with
  | true => exact figure.isPlainNumber
  | false =>
      obtain ⟨c, tail, shape, digit⟩ := figure.chars_eq_cons
      have minus : c ≠ '-' := ne_of_isDigit digit (by decide)
      have plain := figure.isPlainNumber
      rw [shape] at plain
      simp only [targetText, Bool.false_eq_true, if_false, Option.map_none, Option.toList_none,
        List.nil_append, shape]
      rw [isBound.eq_2 _ (by simpa using minus)]
      exact plain

/-! ## Signs in front of an item -/

theorem Gap.blank_squeezed (gap : Gap) : ∀ c ∈ gap.squeezed, isBlank c = true := by
  unfold Gap.squeezed
  split <;> decide

/-- Whether a character may stand between the sign of an item and the item. -/
def isLead (c : Char) : Bool :=
  isBlank c || c == '+' || c == '-'

theorem isLead_eq_false_of_isDigit {c : Char} (digit : isDigit c = true) : isLead c = false := by
  have plus : c ≠ '+' := ne_of_isDigit digit (by decide)
  have minus : c ≠ '-' := ne_of_isDigit digit (by decide)
  simp [isLead, isBlank_eq_false_of_isDigit digit, plus, minus]

end Grammar

end TableauSimplex
