import Mathlib.Data.List.DropRight
import TableauSimplex.Proofs.Language.Figure

/-!
# Legible coefficients

The coefficient of a term may lack every part.  Without its spaces it is read as a number wherever
it holds a digit, and as one where it is a sign or nothing.  Only a point without digits is left.
-/

set_option autoImplicit false

namespace TableauSimplex

open TableauSimplex.Text TableauSimplex.Language

namespace Grammar

theorem forall_isDigit_nil : ∀ c ∈ ([] : List Char), isDigit c = true :=
  List.forall_mem_nil _

/-- A coefficient as it is written; without a fraction it has no point. -/
structure Coefficient where
  sign : Option Sign
  gap : Gap
  whole : List Char
  fraction : Option (List Char)
  whole_digit : ∀ c ∈ whole, isDigit c = true
  fraction_digit : ∀ c ∈ fraction.getD [], isDigit c = true

namespace Coefficient

variable (coefficient : Coefficient)

def front : List Char :=
  (coefficient.sign.map Sign.char).toList

/-- The digits and the point. -/
def body : List Char :=
  coefficient.whole ++ (coefficient.fraction.map ('.' :: ·)).getD []

/-- The sign and the gap behind it. -/
def lead : List Char :=
  coefficient.front ++ coefficient.gap.chars

def chars : List Char :=
  coefficient.lead ++ coefficient.body

def digits : List Char :=
  coefficient.whole ++ coefficient.fraction.getD []

/-- The decimal that the digits stand for, with the sign in front of them. -/
def decimal : Decimal where
  negative := coefficient.sign = some .minus
  digits := Numeral.ofDigits (coefficient.digits.map fun c => (digit? c).getD 0)
  exponent := -(coefficient.fraction.getD []).length

/-- A point without digits. -/
def IsBare : Prop :=
  coefficient.digits = [] ∧ coefficient.fraction ≠ none

variable {coefficient}

theorem mem_body {c : Char} (member : c ∈ coefficient.body) : isDigit c = true ∨ c = '.' := by
  rcases List.mem_append.mp member with whole | behind
  · exact .inl (coefficient.whole_digit c whole)
  · cases shape : coefficient.fraction with
    | none => simp [shape] at behind
    | some fraction =>
        rw [shape, Option.map_some, Option.getD_some] at behind
        rcases List.mem_cons.mp behind with point | digit
        · exact .inr point
        · exact .inl (coefficient.fraction_digit c (by rw [shape]; exact digit))

/-! ## Reading a coefficient -/

theorem unsigned?_body (coefficient : Coefficient) :
    Numeral.unsigned? digit? (coefficient.sign = some .minus) coefficient.body =
      if coefficient.digits = [] then none else some coefficient.decimal := by
  have stops : ∀ inside, Numeral.takeDigits digit? inside [] = ([], []) := fun _ => rfl
  have taken {digits : List Char} (digit : ∀ c ∈ digits, isDigit c = true) :=
    Numeral.takeDigits_append digit stops false
  have parted {rest : List Char} := Numeral.takeDigits_append coefficient.whole_digit
    (fun inside => Numeral.takeDigits_point inside rest) false
  have wholeTaken := taken coefficient.whole_digit
  have fractionTaken := taken coefficient.fraction_digit
  simp only [List.append_nil] at wholeTaken fractionTaken
  unfold Numeral.unsigned? body decimal digits
  cases shape : coefficient.fraction with
  | none =>
      simp only [Option.map_none, Option.getD_none, List.append_nil, wholeTaken]
      cases coefficient.whole <;> simp [Numeral.exponent?]
  | some fraction =>
      rw [shape, Option.getD_some] at fractionTaken
      simp only [Option.map_some, Option.getD_some, parted, fractionTaken]
      cases coefficient.whole <;> cases fraction <;> simp [Numeral.exponent?]

section Reading

variable {α : Type} [Scalar α]

/-- The number that a coefficient stands for; without digits it is one. -/
def value (coefficient : Coefficient) : α :=
  if coefficient.digits = [] then if coefficient.sign = some .minus then -1 else 1
  else Scalar.ofDecimal coefficient.decimal

theorem body_eq_nil_iff {coefficient : Coefficient} :
    coefficient.body = [] ↔ coefficient.digits = [] ∧ coefficient.fraction = none := by
  unfold body digits
  cases coefficient.fraction <;> simp

theorem body_ne_nil {coefficient : Coefficient} (nonempty : coefficient.digits ≠ []) :
    coefficient.body ≠ [] :=
  fun empty => nonempty (body_eq_nil_iff.mp empty).1

theorem number?_chars (coefficient : Coefficient) (filled : coefficient.body ≠ []) :
    number? (α := α) (coefficient.front ++ coefficient.body) =
      if coefficient.digits = [] then none else some (Scalar.ofDecimal coefficient.decimal) := by
  rw [number?, front, read?_signed (fun _ => mem_body) coefficient.sign filled,
    coefficient.unsigned?_body]
  split <;> rfl

theorem filter_space_of_inside {text : List Char}
    (inside : ∀ c ∈ text, isDigit c = true ∨ c = '.') : text.filter (· != ' ') = text := by
  rw [List.filter_eq_self]
  intro c member
  rw [bne_iff_ne]
  rintro rfl
  exact absurd (isBlank_eq_false_of_inside inside ' ' member) (by decide)

theorem filter_chars (coefficient : Coefficient) (space : ∀ c ∈ coefficient.gap.chars, c = ' ') :
    coefficient.chars.filter (· != ' ') = coefficient.front ++ coefficient.body := by
  have noGap : coefficient.gap.chars.filter (· != ' ') = [] := by
    rw [List.filter_eq_nil_iff]
    intro c member
    simp [space c member]
  have front : coefficient.front.filter (· != ' ') = coefficient.front := by
    unfold Coefficient.front
    cases coefficient.sign with
    | none => rfl
    | some sign => cases sign <;> rfl
  rw [chars, lead, List.filter_append, List.filter_append, noGap, front,
    filter_space_of_inside fun _ => mem_body, List.append_nil]

theorem readNumber_chars (coefficient : Coefficient)
    (space : ∀ c ∈ coefficient.gap.chars, c = ' ') (nonempty : coefficient.digits ≠ []) :
    readNumber coefficient.chars = .ok (coefficient.value : α) := by
  simp only [readNumber, coefficient.filter_chars space, number?_chars _ (body_ne_nil nonempty),
    value, if_neg nonempty]

theorem readCoefficient_eq_readNumber (coefficient : Coefficient)
    (space : ∀ c ∈ coefficient.gap.chars, c = ' ') (filled : coefficient.body ≠ []) :
    readCoefficient (α := α) coefficient.chars = readNumber coefficient.chars := by
  obtain ⟨c, rest, shape⟩ := List.exists_cons_of_ne_nil filled
  have first : isDigit c = true ∨ c = '.' := mem_body (by rw [shape]; exact List.mem_cons_self)
  have plus : c ≠ '+' := by
    rintro rfl
    exact absurd first (by decide)
  have minus : c ≠ '-' := by
    rintro rfl
    exact absurd first (by decide)
  rw [readCoefficient, coefficient.filter_chars space, shape]
  unfold front
  cases coefficient.sign with
  | none => simp [plus, minus]
  | some known => cases known <;> simp [Sign.char]

theorem readCoefficient_chars (coefficient : Coefficient)
    (space : ∀ c ∈ coefficient.gap.chars, c = ' ') (legible : ¬ coefficient.IsBare) :
    readCoefficient coefficient.chars = .ok (coefficient.value : α) := by
  by_cases empty : coefficient.body = []
  · -- Without digits and point a coefficient is a sign or nothing.
    rw [readCoefficient, coefficient.filter_chars space, empty, List.append_nil, value,
      if_pos (body_eq_nil_iff.mp empty).1]
    unfold front
    cases coefficient.sign with
    | none => rfl
    | some known => cases known <;> rfl
  · rw [coefficient.readCoefficient_eq_readNumber space empty]
    refine coefficient.readNumber_chars space fun noDigits => empty (body_eq_nil_iff.mpr ?_)
    exact ⟨noDigits, by_contra fun pointed => legible ⟨noDigits, pointed⟩⟩

/-- The value of a coefficient is missing only where it is a bare point. -/
theorem readCoefficient_eq_error_iff (coefficient : Coefficient)
    (space : ∀ c ∈ coefficient.gap.chars, c = ' ') :
    (∃ error, readCoefficient (α := α) coefficient.chars = .error error) ↔
      coefficient.IsBare := by
  constructor
  · rintro ⟨error, fails⟩
    by_contra legible
    rw [coefficient.readCoefficient_chars space legible] at fails
    cases fails
  · intro bare
    have filled : coefficient.body ≠ [] := fun empty => bare.2 (body_eq_nil_iff.mp empty).2
    rw [coefficient.readCoefficient_eq_readNumber space filled, readNumber]
    simp only [coefficient.filter_chars space, number?_chars _ filled, if_pos bare.1]
    exact ⟨_, rfl⟩

end Reading

end Coefficient

/-! ## Taking a coefficient -/

theorem exists_sign (input : List Char) :
    ∃ sign : Option Sign, (takeSign input).1 = (sign.map Sign.char).toList ∧
      input = (takeSign input).1 ++ (takeSign input).2 := by
  unfold takeSign
  split
  · exact ⟨some .plus, rfl, rfl⟩
  · exact ⟨some .minus, rfl, rfl⟩
  · exact ⟨none, rfl, rfl⟩

theorem exists_body (text : List Char) :
    ∃ whole fraction, (∀ c ∈ whole, isDigit c = true) ∧
      (∀ c ∈ Option.getD fraction [], isDigit c = true) ∧
      text.takeWhile isDigit ++ (takePoint (text.dropWhile isDigit)).1 ++
          (takePoint (text.dropWhile isDigit)).2.takeWhile isDigit =
        whole ++ (fraction.map ('.' :: ·)).getD [] ∧
      text = whole ++ (fraction.map ('.' :: ·)).getD [] ++
        (takePoint (text.dropWhile isDigit)).2.dropWhile isDigit := by
  have digit (text : List Char) : ∀ c ∈ text.takeWhile isDigit, isDigit c = true := fun _ =>
    List.mem_takeWhile_imp
  have whole : text.takeWhile isDigit ++ text.dropWhile isDigit = text :=
    List.takeWhile_append_dropWhile
  by_cases point : ∃ rest, text.dropWhile isDigit = '.' :: rest
  · obtain ⟨rest, shape⟩ := point
    have taken : takePoint (text.dropWhile isDigit) = (['.'], rest) := by
      rw [shape]
      rfl
    refine ⟨text.takeWhile isDigit, some (rest.takeWhile isDigit), digit text, digit rest, ?_, ?_⟩
    · simp [taken]
    · rw [taken]
      conv_lhs => rw [← whole, shape, ← List.takeWhile_append_dropWhile (p := isDigit) (l := rest)]
      simp
  · have taken : takePoint (text.dropWhile isDigit) = ([], text.dropWhile isDigit) := by
      refine takePoint.eq_2 _ ?_
      intro rest shape
      exact point ⟨rest, shape⟩
    -- Behind a run of digits no further run of them begins.
    have left : (text.dropWhile isDigit).dropWhile isDigit = text.dropWhile isDigit :=
      List.dropWhile_idempotent isDigit _
    have none : (text.dropWhile isDigit).takeWhile isDigit = [] := by
      have all := List.takeWhile_append_dropWhile (p := isDigit) (l := text.dropWhile isDigit)
      rw [left] at all
      exact List.append_left_eq_self.mp all
    refine ⟨text.takeWhile isDigit, Option.none, digit text, by simp, ?_, ?_⟩
    · simp [taken, none]
    · simp [taken, left, whole]

theorem exists_fraction (text : List Char) :
    ∃ fraction, (∀ c ∈ Option.getD fraction [], isDigit c = true) ∧
      (takeFraction text).1 = (fraction.map ('.' :: ·)).getD [] ∧
      text = (takeFraction text).1 ++ (takeFraction text).2 := by
  unfold takeFraction
  split
  · rename_i rest
    split
    · exact ⟨none, by simp, rfl, rfl⟩
    · refine ⟨some (rest.takeWhile isDigit), fun _ => List.mem_takeWhile_imp, rfl, ?_⟩
      simp [List.takeWhile_append_dropWhile]
  · exact ⟨none, by simp, rfl, rfl⟩

/-- What is taken off the front of a text as a number is a coefficient with digits. -/
theorem exists_number {input text rest : List Char}
    (taken : takeNumber? input = some (text, rest)) :
    ∃ coefficient : Coefficient, text = coefficient.chars ∧ coefficient.digits ≠ [] ∧
      input = text ++ rest := by
  obtain ⟨sign, signTaken, signLeft⟩ := exists_sign input
  have blankLeft := List.takeWhile_append_dropWhile (p := isBlank) (l := (takeSign input).2)
  simp only [takeNumber?] at taken
  split at taken
  · cases taken
  · rename_i c tail shape
    split at taken
    · rename_i digit
      obtain ⟨fraction, fraction_digit, fractionTaken, fractionLeft⟩ :=
        exists_fraction (tail.dropWhile isDigit)
      have wholeLeft := List.takeWhile_append_dropWhile (p := isDigit) (l := tail)
      obtain ⟨rfl, rfl⟩ := Prod.mk.inj (Option.some.inj taken)
      let coefficient : Coefficient :=
        { sign
          gap := ⟨(takeSign input).2.takeWhile isBlank, fun _ => List.mem_takeWhile_imp⟩
          whole := c :: tail.takeWhile isDigit
          fraction
          whole_digit := List.forall_mem_cons.mpr ⟨digit, fun _ => List.mem_takeWhile_imp⟩
          fraction_digit }
      refine ⟨coefficient, ?_, List.cons_ne_nil _ _, ?_⟩
      · simp only [Coefficient.chars, Coefficient.lead, Coefficient.front, Coefficient.body,
          coefficient, signTaken, fractionTaken, List.append_assoc]
      · conv_lhs => rw [signLeft, ← blankLeft, shape, ← wholeLeft, fractionLeft]
        simp
    · cases taken

theorem exists_coefficient (input : List Char) :
    ∃ coefficient : Coefficient, (takeCoefficient input).1 = coefficient.chars ∧
      input = coefficient.chars ++ (takeCoefficient input).2 := by
  obtain ⟨sign, signTaken, signLeft⟩ := exists_sign input
  obtain ⟨whole, fraction, whole_digit, fraction_digit, taken, left⟩ :=
    exists_body ((takeSign input).2.dropWhile isBlank)
  have blankLeft := List.takeWhile_append_dropWhile (p := isBlank) (l := (takeSign input).2)
  let coefficient : Coefficient :=
    { sign
      gap := ⟨(takeSign input).2.takeWhile isBlank, fun _ => List.mem_takeWhile_imp⟩
      whole
      fraction
      whole_digit
      fraction_digit }
  have chars : (takeCoefficient input).1 = coefficient.chars := by
    simp only [takeCoefficient, Coefficient.chars, Coefficient.lead, Coefficient.front,
      Coefficient.body, coefficient, ← signTaken, ← taken, List.append_assoc]
  refine ⟨coefficient, chars, ?_⟩
  calc input
      = (takeSign input).1 ++ ((takeSign input).2.takeWhile isBlank ++
          (takeSign input).2.dropWhile isBlank) := by rw [blankLeft]; exact signLeft
    _ = (takeSign input).1 ++ ((takeSign input).2.takeWhile isBlank ++
          (coefficient.body ++ (takeCoefficient input).2)) := by
        conv_lhs => rw [left]
        rfl
    _ = coefficient.chars ++ (takeCoefficient input).2 := by
        simp only [Coefficient.chars, Coefficient.lead, Coefficient.front, coefficient, signTaken,
          List.append_assoc]

end Grammar

end TableauSimplex
