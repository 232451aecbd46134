import TableauSimplex.Proofs.Language.Coefficient
import TableauSimplex.Proofs.Language.Term

/-!
# Coefficients at the front of a text

A coefficient is taken whole where the text behind it cannot be a part of it.  The reader of numbers
does not take every coefficient as it stands: it needs a digit before the point, and one behind it.
-/

set_option autoImplicit false

namespace TableauSimplex

open TableauSimplex.Text TableauSimplex.Language

namespace Grammar

/-! ## Gaps of spaces -/

def noGap : Gap where
  chars := []
  blank := by decide

def Gap.Spaced (gap : Gap) : Prop :=
  ∀ c ∈ gap.chars, c = ' '

theorem spaced_noGap : noGap.Spaced :=
  List.forall_mem_nil _

/-! ## Coefficients in front of a rest -/

theorem takeSign_front (sign : Option Sign) {text : List Char}
    (stops : ∀ c ∈ text.head?, isLead c = false ∨ isBlank c = true) :
    takeSign ((sign.map Sign.char).toList ++ text) = ((sign.map Sign.char).toList, text) := by
  cases sign with
  | some sign => cases sign <;> rfl
  | none =>
      cases text with
      | nil => rfl
      | cons c rest =>
          have other {d : Char} (lead : isLead d = true) (visible : isBlank d = false) :
              c ≠ d := by
            rintro rfl
            simpa [lead, visible] using stops c rfl
          exact takeSign.eq_3 _ (by simpa using other (d := '+') (by decide) (by decide))
            (by simpa using other (d := '-') (by decide) (by decide))

theorem isLead_eq_false_of_inside {c : Char} (inside : isDigit c = true ∨ c = '.') :
    isLead c = false := by
  rcases inside with digit | rfl
  · exact isLead_eq_false_of_isDigit digit
  · decide

theorem isBlank_of_isLead_eq_false {c : Char} (other : isLead c = false) : isBlank c = false := by
  simp only [isLead, Bool.or_eq_false_iff] at other
  exact other.1.1

namespace Coefficient

variable {coefficient : Coefficient} {rest : List Char}

/-- No character behind a coefficient can be taken for a part of it. -/
structure Closes (coefficient : Coefficient) (rest : List Char) : Prop where
  digit : ∀ c ∈ rest.head?, isDigit c = false
  point : coefficient.fraction = none → ∀ c ∈ rest.head?, c ≠ '.'
  lead : coefficient.body = [] → ∀ c ∈ rest.head?, isLead c = false

theorem takeSign_chars (stops : ∀ c ∈ (coefficient.body ++ rest).head?, isLead c = false) :
    takeSign (coefficient.chars ++ rest) =
        (coefficient.front, coefficient.gap.chars ++ (coefficient.body ++ rest)) ∧
      (coefficient.gap.chars ++ (coefficient.body ++ rest)).takeWhile isBlank =
        coefficient.gap.chars ∧
      (coefficient.gap.chars ++ (coefficient.body ++ rest)).dropWhile isBlank =
        coefficient.body ++ rest := by
  have visible : ∀ c ∈ (coefficient.body ++ rest).head?, isBlank c = false := fun c head =>
    isBlank_of_isLead_eq_false (stops c head)
  have behind : ∀ c ∈ (coefficient.gap.chars ++ (coefficient.body ++ rest)).head?,
      isLead c = false ∨ isBlank c = true := by
    intro c head
    cases shape : coefficient.gap.chars with
    | nil =>
        rw [shape] at head
        exact .inl (stops c head)
    | cons d more =>
        rw [shape] at head
        cases head
        exact .inr (coefficient.gap.blank c (by rw [shape]; exact List.mem_cons_self))
  refine ⟨?_, takeWhile_append_of_head coefficient.gap.blank visible,
    dropWhile_append_of_head coefficient.gap.blank visible⟩
  simp only [chars, lead, List.append_assoc]
  exact takeSign_front coefficient.sign behind

theorem head_body (filled : coefficient.body ≠ []) :
    ∀ c ∈ (coefficient.body ++ rest).head?, isLead c = false := by
  obtain ⟨d, more, shape⟩ := List.exists_cons_of_ne_nil filled
  rw [shape]
  rintro c head
  cases head
  exact isLead_eq_false_of_inside (mem_body (by rw [shape]; exact List.mem_cons_self))

theorem Closes.head (closes : coefficient.Closes rest) :
    ∀ c ∈ (coefficient.body ++ rest).head?, isLead c = false := by
  by_cases empty : coefficient.body = []
  · rw [empty]
    exact closes.lead empty
  · exact head_body empty

/-- A coefficient is taken whole off the front of a text. -/
theorem takeCoefficient_chars (closes : coefficient.Closes rest) :
    takeCoefficient (coefficient.chars ++ rest) = (coefficient.chars, rest) := by
  obtain ⟨signTaken, gapTaken, gapLeft⟩ := takeSign_chars closes.head
  have whole_digit := coefficient.whole_digit
  cases shape : coefficient.fraction with
  | none =>
      have body : coefficient.body = coefficient.whole := by simp [Coefficient.body, shape]
      have noPoint : takePoint rest = ([], rest) := by
        cases rest with
        | nil => rfl
        | cons c tail => exact takePoint.eq_2 _ (by simpa using closes.point shape c rfl)
      rw [body] at gapLeft signTaken gapTaken
      simp only [takeCoefficient, signTaken, gapTaken, gapLeft,
        takeWhile_append_of_head whole_digit closes.digit,
        dropWhile_append_of_head whole_digit closes.digit, noPoint,
        takeWhile_of_head closes.digit, dropWhile_of_head closes.digit]
      simp [chars, lead, body]
  | some fraction =>
      have body : coefficient.body ++ rest = coefficient.whole ++ '.' :: (fraction ++ rest) := by
        simp [Coefficient.body, shape]
      have fraction_digit : ∀ c ∈ fraction, isDigit c = true := by
        have digit := coefficient.fraction_digit
        rwa [shape] at digit
      have atPoint := head_point (fraction ++ rest)
      have point : takePoint ('.' :: (fraction ++ rest)) = (['.'], fraction ++ rest) := rfl
      rw [body] at gapLeft signTaken gapTaken
      simp only [takeCoefficient, signTaken, gapTaken, gapLeft,
        takeWhile_append_of_head whole_digit atPoint,
        dropWhile_append_of_head whole_digit atPoint, point,
        takeWhile_append_of_head fraction_digit closes.digit,
        dropWhile_append_of_head fraction_digit closes.digit]
      simp [chars, lead, Coefficient.body, shape]

/-! ## Numbers -/

/-- The point and the digits behind it. -/
def behindWhole (coefficient : Coefficient) : List Char :=
  (coefficient.fraction.map ('.' :: ·)).getD []

/-- A number with a digit before its point is taken whole off the front of a text. -/
theorem takeNumber?_chars (filled : coefficient.whole ≠ []) (rest : List Char)
    (stops : ∀ c ∈ (coefficient.behindWhole ++ rest).head?, isDigit c = false)
    (taken : takeFraction (coefficient.behindWhole ++ rest) = (coefficient.behindWhole, rest)) :
    takeNumber? (coefficient.chars ++ rest) = some (coefficient.chars, rest) := by
  obtain ⟨c, more, shape⟩ := List.exists_cons_of_ne_nil filled
  have digits := coefficient.whole_digit
  rw [shape] at digits
  obtain ⟨digit, more_digit⟩ := List.forall_mem_cons.mp digits
  have body : coefficient.body = c :: (more ++ coefficient.behindWhole) := by
    rw [Coefficient.body, shape]
    rfl
  have hasBody : coefficient.body ≠ [] := by simp [body]
  have visible : ∀ c ∈ (coefficient.body ++ rest).head?, isLead c = false := head_body hasBody
  obtain ⟨signTaken, gapTaken, gapLeft⟩ := takeSign_chars visible
  rw [body, List.cons_append, List.append_assoc] at signTaken gapTaken gapLeft
  simp only [takeNumber?, signTaken, gapTaken, gapLeft, digit, if_true,
    takeWhile_append_of_head more_digit stops, dropWhile_append_of_head more_digit stops, taken]
  simp [chars, lead, body]

end Coefficient

/-- No digit stands behind the blanks at the front of a text. -/
def ClearOfNumbers (text : List Char) : Prop :=
  ∀ c ∈ (text.dropWhile isBlank).head?, isDigit c = false

theorem Follows.clearOfNumbers {text : List Char} (follows : Follows text) :
    ClearOfNumbers text := by
  obtain ⟨spaces, rest, rfl, space, atSign⟩ := follows
  have stops : ∀ c ∈ rest.head?, isBlank c = false := by
    intro c head
    rcases atSign c head with rfl | rfl <;> decide
  intro c head
  rw [dropWhile_append_of_head (forall_of_space space (by decide)) stops] at head
  rcases atSign c head with rfl | rfl <;> decide

theorem clearOfNumbers_point (rest : List Char) : ClearOfNumbers ('.' :: rest) := by
  have stays : ('.' :: rest).dropWhile isBlank = '.' :: rest :=
    List.dropWhile_cons_of_neg (by decide)
  intro c head
  rw [stays] at head
  cases head
  decide

theorem ClearOfNumbers.append_blanks {text : List Char} (clear : ClearOfNumbers text)
    {blanks : List Char} (blank : ∀ c ∈ blanks, isBlank c = true) :
    ClearOfNumbers (blanks ++ text) := by
  intro c head
  rw [List.dropWhile_append_of_pos blank] at head
  exact clear c head

theorem findings_number_cons {input : List Char} {c : Char} {rest : List Char}
    (shape : input = c :: rest) (clear : ClearOfNumbers (takeSign input).2) :
    findings (scan number input) = findings (scan number rest) := by
  subst shape
  have fails : number.read (c :: rest) = none := by
    simp only [number, takeNumber?]
    cases left : (takeSign (c :: rest)).2.dropWhile isBlank with
    | nil => rfl
    | cons d more =>
        have other : isDigit d = false := clear d (by rw [left]; rfl)
        simp [other]
  rw [scan_of_none fails]
  rfl

/-- A scan for numbers passes over spaces that no digit follows. -/
theorem findings_number_spaces {spaces rest : List Char} (space : ∀ c ∈ spaces, c = ' ')
    (clear : ClearOfNumbers rest) :
    findings (scan number (spaces ++ rest)) = findings (scan number rest) := by
  induction spaces with
  | nil => rfl
  | cons c more induction =>
      have plain : takeSign (c :: (more ++ rest)) = ([], c :: (more ++ rest)) := by
        rw [space c List.mem_cons_self]
        rfl
      have inside : ∀ d ∈ c :: more, isBlank d = true := forall_of_space space (by decide)
      rw [List.cons_append, findings_number_cons rfl]
      · exact induction fun d member => space d (List.mem_cons_of_mem c member)
      · rw [plain, ← List.cons_append]
        exact clear.append_blanks inside

theorem findings_number_sign (sign : Option Sign) {rest : List Char} (clear : ClearOfNumbers rest) :
    findings (scan number ((sign.map Sign.char).toList ++ rest)) = findings (scan number rest) := by
  cases sign with
  | none => rfl
  | some sign => cases sign <;> exact findings_number_cons rfl clear

theorem findings_number_point (rest : List Char) :
    findings (scan number ('.' :: rest)) = findings (scan number rest) :=
  findings_number_cons rfl (clearOfNumbers_point rest)

namespace Coefficient

variable {coefficient : Coefficient} {rest : List Char}

/-- What the reader of numbers makes of a coefficient that no name follows.  It drops a point at the
end.  In front of a point without digits before it it sees nothing, so the sign is lost as well as
the point. -/
def constant (coefficient : Coefficient) : Coefficient :=
  if coefficient.whole = [] then
    { sign := none
      gap := noGap
      whole := coefficient.fraction.getD []
      fraction := none
      whole_digit := coefficient.fraction_digit
      fraction_digit := forall_isDigit_nil }
  else
    { coefficient with
      fraction := if coefficient.fraction = some [] then none else coefficient.fraction
      fraction_digit := by
        split
        · exact forall_isDigit_nil
        · exact coefficient.fraction_digit }

theorem takeFraction_point (stops : ∀ c ∈ rest.head?, isDigit c = false) :
    takeFraction ('.' :: rest) = ([], '.' :: rest) := by
  rw [takeFraction, takeWhile_of_head stops]

/-- Digits behind a point that has none before it are a number of their own. -/
theorem findings_number_fraction (space : coefficient.gap.Spaced) (noWhole : coefficient.whole = [])
    (nonempty : coefficient.digits ≠ []) (clear : ClearOfDigits rest) :
    findings (scan number (coefficient.chars ++ rest)) =
      coefficient.constant.chars :: findings (scan number rest) := by
  obtain ⟨fraction, shape⟩ : ∃ fraction, coefficient.fraction = some fraction := by
    cases shape : coefficient.fraction with
    | none => simp [digits, noWhole, shape] at nonempty
    | some fraction => exact ⟨fraction, rfl⟩
  have chars_eq : coefficient.chars ++ rest =
      (coefficient.sign.map Sign.char).toList ++
        (coefficient.gap.chars ++ '.' :: (fraction ++ rest)) := by
    simp [chars, lead, front, body, noWhole, shape]
  have constant_chars : coefficient.constant.chars = fraction := by
    simp [constant, noWhole, shape, chars, lead, front, body, noGap]
  have filled : coefficient.constant.whole ≠ [] := by
    simpa [constant, noWhole, shape, digits] using nonempty
  have behind : coefficient.constant.behindWhole = [] := by
    simp [constant, noWhole, behindWhole]
  have read : number.read (fraction ++ rest) = some (fraction, rest) := by
    have taken := takeNumber?_chars filled rest
    rw [behind, List.nil_append, constant_chars] at taken
    exact taken (fun c head => (clear c head).1) (takeFraction_eq_self clear)
  have before := clearOfNumbers_point (fraction ++ rest)
  rw [chars_eq, findings_number_sign _ (before.append_blanks coefficient.gap.blank),
    findings_number_spaces space before, findings_number_point, scan_of_some read, constant_chars]
  rfl

theorem constant_eq_self (filled : coefficient.whole ≠ [])
    (ending : coefficient.fraction ≠ some []) : coefficient.constant = coefficient := by
  rcases coefficient with ⟨sign, gap, whole, fraction, _, _⟩
  simp only at filled ending
  simp only [constant, if_neg filled, if_neg ending]

theorem takeFraction_behindWhole (ending : coefficient.fraction ≠ some [])
    (clear : ClearOfDigits rest) :
    takeFraction (coefficient.behindWhole ++ rest) = (coefficient.behindWhole, rest) := by
  have digit := coefficient.fraction_digit
  unfold behindWhole
  cases shape : coefficient.fraction with
  | none => exact takeFraction_eq_self clear
  | some fraction =>
      rw [shape] at digit ending
      exact takeFraction_digits ⟨fraction, fun empty => ending (congrArg some empty), digit⟩ clear

theorem head_behindWhole (stops : ∀ c ∈ rest.head?, isDigit c = false) :
    ∀ c ∈ (coefficient.behindWhole ++ rest).head?, isDigit c = false := by
  unfold behindWhole
  cases coefficient.fraction with
  | none => exact stops
  | some fraction => exact head_point (fraction ++ rest)

/-- A scan for numbers takes one number for a coefficient with digits. -/
theorem findings_number_chars (space : coefficient.gap.Spaced) (nonempty : coefficient.digits ≠ [])
    (clear : ClearOfDigits rest) :
    findings (scan number (coefficient.chars ++ rest)) =
      coefficient.constant.chars :: findings (scan number rest) := by
  have stops : ∀ c ∈ rest.head?, isDigit c = false := fun c head => (clear c head).1
  by_cases noWhole : coefficient.whole = []
  · exact findings_number_fraction space noWhole nonempty clear
  by_cases ending : coefficient.fraction = some []
  · -- A point at the end is left behind, and the scan passes over it.
    have filled : coefficient.constant.whole ≠ [] := by simp [constant, noWhole]
    have behind : coefficient.constant.behindWhole = [] := by
      simp [constant, noWhole, ending, behindWhole]
    have chars_eq : coefficient.chars ++ rest = coefficient.constant.chars ++ '.' :: rest := by
      simp [constant, noWhole, ending, chars, lead, front, body]
    have taken := takeNumber?_chars filled ('.' :: rest)
    rw [behind, List.nil_append] at taken
    have read : number.read (coefficient.constant.chars ++ '.' :: rest) =
        some (coefficient.constant.chars, '.' :: rest) :=
      taken (head_point rest) (takeFraction_point stops)
    rw [chars_eq, scan_of_some read]
    exact congrArg (_ :: ·) (findings_number_point rest)
  · have read : number.read (coefficient.chars ++ rest) = some (coefficient.chars, rest) :=
      takeNumber?_chars noWhole rest (head_behindWhole stops)
        (takeFraction_behindWhole ending clear)
    rw [scan_of_some read, constant_eq_self noWhole ending]
    rfl

theorem constant_digits (nonempty : coefficient.digits ≠ []) :
    coefficient.constant.digits ≠ [] := by
  unfold constant
  split
  · rename_i noWhole
    simpa [digits, noWhole] using nonempty
  · rename_i filled
    simp [digits, filled]

theorem constant_spaced (space : coefficient.gap.Spaced) : coefficient.constant.gap.Spaced := by
  unfold constant
  split
  · exact spaced_noGap
  · exact space

section Value

variable {α : Type} [Scalar α]

/-- With a digit before its point a coefficient has the same value as a number. -/
theorem value_constant (filled : coefficient.whole ≠ []) :
    coefficient.constant.value = (coefficient.value : α) := by
  have fraction : (if coefficient.fraction = some [] then none else coefficient.fraction).getD [] =
      coefficient.fraction.getD [] := by
    split
    · rename_i ending
      rw [ending]
      rfl
    · rfl
  simp only [value, decimal, digits, constant, if_neg filled, fraction]
  rfl

end Value

end Coefficient

end Grammar

end TableauSimplex
