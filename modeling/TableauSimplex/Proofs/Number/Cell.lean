import TableauSimplex.Proofs.Language.Figure
import TableauSimplex.Proofs.Number.Rounding
import TableauSimplex.Proofs.Number.Value
import TableauSimplex.Tableau.Text

/-!
# The text of a cell

The text of a cell is the canonical decimal of a number of hundredths: the digits of the integer
part, all of them, and behind a point those of the fraction as far as they are not zeros at its end.
A number is rounded to hundredths half to even, its text reads back as the rounded number, and
numbers that are rounded to the same one have the same text.  It is also what is left of the text
with two places when zeros and then a point are taken off its end.
-/

set_option autoImplicit false

namespace TableauSimplex

open TableauSimplex.Language

/-! ## Digits and their values -/

theorem digitChar_toNat {c : Char} (digit : c.isDigit = true) :
    c.toNat - '0'.toNat < 10 ∧ Nat.digitChar (c.toNat - '0'.toNat) = c := by
  have ascii := Text.ascii_of_identifier (.inl (by simp [Char.isAlphanum, digit]) : _ ∨ c = '_')
  exact forall_ascii (P := fun c => c.isDigit = true →
      c.toNat - '0'.toNat < 10 ∧ Nat.digitChar (c.toNat - '0'.toNat) = c)
    (by decide +kernel) ascii digit

theorem digit?_digitChar {digit : Nat} (small : digit < 10) :
    Text.digit? (Nat.digitChar digit) = some digit := by
  decide +revert

theorem digit?_of_isDigit {c : Char} (digit : c.isDigit = true) :
    Text.digit? c = some (c.toNat - '0'.toNat) := by
  obtain ⟨small, same⟩ := digitChar_toNat digit
  have known := digit?_digitChar small
  rwa [same] at known

theorem isDigit_of_mem_toDigits {number : Nat} {c : Char} (member : c ∈ Nat.toDigits 10 number) :
    c.isDigit = true :=
  Nat.isDigit_of_mem_toDigits (by decide) (by decide) member

theorem isDigit_digitChar {digit : Nat} (small : digit < 10) :
    (Nat.digitChar digit).isDigit = true :=
  isDigit_of_mem_toDigits (by rw [Nat.toDigits_of_lt_base small]; exact List.mem_singleton_self _)

theorem digitChar_ne_zero {digit : Nat} (small : digit < 10) (nonzero : digit ≠ 0) :
    Nat.digitChar digit ≠ '0' := by
  decide +revert

theorem exists_values {text : List Char} (digits : ∀ c ∈ text, c.isDigit = true) :
    ∃ values : List Nat, (∀ value ∈ values, value < 10) ∧ values.map Nat.digitChar = text := by
  refine ⟨text.map fun c => c.toNat - '0'.toNat, fun value member => ?_, ?_⟩
  · obtain ⟨c, listed, rfl⟩ := List.mem_map.mp member
    exact (digitChar_toNat (digits c listed)).1
  · rw [List.map_map]
    refine (List.map_congr_left fun c listed => ?_).trans (List.map_id _)
    exact (digitChar_toNat (digits c listed)).2

theorem Numeral.ofDigits_concat (digits : List Nat) (last : Nat) :
    ofDigits (digits ++ [last]) = 10 * ofDigits digits + last := by
  simp [ofDigits]

theorem Numeral.ofDigits_append (front back : List Nat) :
    ofDigits (front ++ back) = ofDigits front * 10 ^ back.length + ofDigits back := by
  induction back using List.reverseRecOn with
  | nil => simp [ofDigits]
  | append_singleton back last induction =>
      rw [← List.append_assoc, ofDigits_concat, ofDigits_concat, induction, List.length_append,
        List.length_singleton]
      ring

theorem Numeral.ofDigits_toDigits (number : Nat) :
    ofDigits ((Nat.toDigits 10 number).map fun c => (Text.digit? c).getD 0) = number := by
  have values : ((Nat.toDigits 10 number).map fun c => (Text.digit? c).getD 0) =
      (Nat.toDigits 10 number).map fun c => c.toNat - '0'.toNat := by
    apply List.map_congr_left
    intro c member
    rw [digit?_of_isDigit (isDigit_of_mem_toDigits member), Option.getD_some]
  rw [values, ofDigits, List.foldl_map]
  exact Nat.ofDigitChars_ten_toDigits

theorem Rational.ofDecimal_eq (negative : Bool) (digits places : Nat) :
    Rational.ofDecimal { negative, digits, exponent := -places } =
      signedFraction negative digits (10 ^ places) := by
  have whole : (-(places : Int)).toNat = 0 := by omega
  have size : mkRat (digits * powerOfTen (-(places : Int)).toNat : Nat)
      (powerOfTen (- -(places : Int)).toNat) = digits / (10 ^ places : Nat) := by
    rw [whole, neg_neg, Int.toNat_natCast, Rat.mkRat_eq_div]
    simp [powerOfTen]
  cases negative with
  | false => exact size
  | true => exact congrArg Rat.neg size

/-! ## Figures by their integer part and the digits behind the point -/

/-- A fraction with the point before it, or nothing where there is none. -/
def pointed (fraction : List Char) : List Char :=
  if fraction = [] then [] else '.' :: fraction

def wholeDigits (number : Nat) : Grammar.Digits where
  chars := Decimal.digitChars number
  chars_ne_nil := Nat.toDigits_ne_nil
  digit c member := by
    rw [Text.isDigit, digit?_of_isDigit (isDigit_of_mem_toDigits member), Option.isSome_some]

section PointedFigure

variable (whole : Nat) {places : List Nat} (small : ∀ digit ∈ places, digit < 10)

include small in
theorem isDigit_map_digitChar : ∀ c ∈ places.map Nat.digitChar, Text.isDigit c = true := by
  intro c member
  obtain ⟨digit, listed, rfl⟩ := List.mem_map.mp member
  rw [Text.isDigit, digit?_digitChar (small digit listed), Option.isSome_some]

/-- The figure with an integer part and the digits behind its point. -/
def pointedFigure : Grammar.Figure where
  whole := wholeDigits whole
  fraction :=
    if empty : places.map Nat.digitChar = [] then none
    else some ⟨_, empty, isDigit_map_digitChar small⟩

theorem chars_pointedFigure :
    (pointedFigure whole small).chars =
      Decimal.digitChars whole ++ pointed (places.map Nat.digitChar) := by
  unfold Grammar.Figure.chars pointedFigure pointed
  split <;> rename_i found
  · split at found
    · rename_i empty
      rw [if_pos empty, List.append_nil]
      rfl
    · cases found
  · split at found
    · cases found
    · rename_i filled
      obtain rfl := Option.some.inj found
      rw [if_neg filled]
      rfl

theorem behindPoint_pointedFigure : (pointedFigure whole small).behindPoint = places := by
  have values : (places.map Nat.digitChar).map (fun c => (Text.digit? c).getD 0) = places := by
    rw [List.map_map]
    refine (List.map_congr_left fun digit member => ?_).trans (List.map_id _)
    simp [digit?_digitChar (small digit member)]
  unfold Grammar.Figure.behindPoint pointedFigure Grammar.Digits.values
  split
  · rename_i empty
    rw [List.map_eq_nil_iff.mp empty]
    rfl
  · exact values

/-- A figure is read as its digits without the point, over a power of ten. -/
theorem number?_pointedFigure (sign : Option Grammar.Sign) :
    (number? (Grammar.targetText sign (pointedFigure whole small)) : Option ℚ) =
      some (signedFraction (sign = some .minus)
        (whole * 10 ^ places.length + Numeral.ofDigits places) (10 ^ places.length)) := by
  have digits : Numeral.ofDigits ((pointedFigure whole small).whole.values ++ places) =
      whole * 10 ^ places.length + Numeral.ofDigits places := by
    rw [Numeral.ofDigits_append]
    exact congrArg (· * _ + _) (Numeral.ofDigits_toDigits whole)
  refine (Grammar.number?_targetText sign _).trans (congrArg some ?_)
  refine (Rational.ofDecimal_eq _ _ _).trans ?_
  rw [behindPoint_pointedFigure, digits]

end PointedFigure

/-! ## Hundredths as a figure -/

/-- The digits behind the point, without zeros at the end. -/
def fractionDigits (hundredths : Nat) : List Nat :=
  if hundredths % 100 = 0 then []
  else if hundredths % 10 = 0 then [hundredths % 100 / 10]
  else [hundredths % 100 / 10, hundredths % 10]

theorem lt_of_mem_fractionDigits (hundredths : Nat) :
    ∀ digit ∈ fractionDigits hundredths, digit < 10 := by
  grind [fractionDigits]

theorem getLast?_fractionDigits (hundredths : Nat) :
    (fractionDigits hundredths).getLast? ≠ some 0 := by
  grind [fractionDigits]

theorem length_fractionDigits_le (hundredths : Nat) :
    (fractionDigits hundredths).length ≤ 2 := by
  grind [fractionDigits]

theorem ofDigits_fractionDigits (hundredths : Nat) :
    Numeral.ofDigits (fractionDigits hundredths) * 100 =
      hundredths % 100 * 10 ^ (fractionDigits hundredths).length := by
  unfold fractionDigits
  split
  · rename_i whole
    rw [whole, zero_mul]
    rfl
  · split
    · simp only [Numeral.ofDigits, List.foldl, List.length]
      omega
    · simp only [Numeral.ofDigits, List.foldl, List.length]
      omega

/-- At most two digits, the last of them not zero, are told by the hundredths they make. -/
theorem eq_fractionDigits {hundredths : Nat} {places : List Nat}
    (small : ∀ digit ∈ places, digit < 10) (short : places.length ≤ 2)
    (last : places.getLast? ≠ some 0)
    (value : Numeral.ofDigits places * 100 = hundredths % 100 * 10 ^ places.length) :
    places = fractionDigits hundredths := by
  unfold fractionDigits
  match places, short with
  | [], _ =>
      simp only [Numeral.ofDigits, List.foldl, List.length] at value
      rw [if_pos (by omega)]
  | [tenths], _ =>
      have nonzero : tenths ≠ 0 := fun zero => last (congrArg some zero)
      simp only [Numeral.ofDigits, List.foldl, List.length] at value
      rw [if_neg (by omega), if_pos (by omega)]
      exact congrArg (fun digit => [digit]) (by omega)
  | [tenths, unit], _ =>
      have nonzero : unit ≠ 0 := fun zero => last (congrArg some zero)
      have unitSmall := small unit (.tail _ (.head _))
      simp only [Numeral.ofDigits, List.foldl, List.length] at value
      rw [if_neg (by omega), if_neg (by omega)]
      exact congrArg₂ (fun first second => [first, second]) (by omega) (by omega)

/-- Digits behind the integer part of a number of hundredths make that number if they make the
hundredths that are left. -/
theorem scaled_eq_iff (hundredths digits places : Nat) :
    ((hundredths / 100 * 10 ^ places + digits : Nat) : ℚ) / (10 ^ places : Nat) =
        hundredths / (100 : Nat) ↔ digits * 100 = hundredths % 100 * 10 ^ places := by
  have parts : hundredths * 10 ^ places =
      hundredths / 100 * 10 ^ places * 100 + hundredths % 100 * 10 ^ places := by
    rw [mul_right_comm, ← add_mul, Nat.div_add_mod']
  rw [div_eq_div_iff (by positivity) (by norm_num), ← Nat.cast_mul, ← Nat.cast_mul, Nat.cast_inj,
    parts, add_mul, add_right_inj]

theorem hundredthsChars_eq (hundredths : Nat) :
    Quantity.hundredthsChars hundredths =
      Decimal.digitChars (hundredths / 100) ++
        pointed ((fractionDigits hundredths).map Nat.digitChar) := by
  have tenths : Decimal.digitChars (hundredths % 100 / 10) =
      [Nat.digitChar (hundredths % 100 / 10)] := Nat.toDigits_of_lt_base (by omega)
  have last : Decimal.digitChars (hundredths % 10) = [Nat.digitChar (hundredths % 10)] :=
    Nat.toDigits_of_lt_base (by omega)
  have unit : hundredths % 100 % 10 = hundredths % 10 := by omega
  unfold Quantity.hundredthsChars fractionDigits
  simp only [unit, tenths, last]
  split
  · exact (List.append_nil _).symm
  · split <;> rfl

def hundredthsFigure (hundredths : Nat) : Grammar.Figure :=
  pointedFigure (hundredths / 100) (lt_of_mem_fractionDigits hundredths)

theorem chars_hundredthsFigure (hundredths : Nat) :
    (hundredthsFigure hundredths).chars = Quantity.hundredthsChars hundredths := by
  rw [hundredthsFigure, chars_pointedFigure, hundredthsChars_eq]

theorem number?_hundredthsFigure (sign : Option Grammar.Sign) (hundredths : Nat) :
    (number? (Grammar.targetText sign (hundredthsFigure hundredths)) : Option ℚ) =
      some (signedFraction (sign = some .minus) hundredths 100) := by
  have scaled := (scaled_eq_iff ..).mpr (ofDigits_fractionDigits hundredths)
  rw [hundredthsFigure, number?_pointedFigure, signedFraction, signedFraction, scaled]

/-! ## Signed hundredths -/

def signOf (number : ℤ) : Option Grammar.Sign :=
  if number < 0 then some .minus else none

theorem signOf_eq_minus_iff {number : ℤ} : signOf number = some .minus ↔ number < 0 := by
  unfold signOf
  split <;> simp [*]

theorem targetText_signOf (number : ℤ) (figure : Grammar.Figure) :
    Grammar.targetText (signOf number) figure =
      (if number < 0 then ['-'] else []) ++ figure.chars := by
  unfold Grammar.targetText signOf
  split <;> rfl

/-- The text of a number of hundredths of either sign. -/
def signedChars (hundredths : ℤ) : List Char :=
  Grammar.targetText (signOf hundredths) (hundredthsFigure hundredths.natAbs)

/-- Whether a text is the canonical decimal of a number of hundredths.  It reads as that number, has
all digits of the integer part, and neither ends in a point nor in a zero behind one. -/
structure IsCanonical (text : List Char) (hundredths : ℤ) : Prop where
  reads : (number? text : Option ℚ) = some (hundredths / 100 : ℚ)
  shape : ∃ fraction : List Char, (∀ c ∈ fraction, c.isDigit = true) ∧ fraction.length ≤ 2 ∧
    text = (if hundredths < 0 then ['-'] else []) ++
      (Nat.toDigits 10 (hundredths.natAbs / 100) ++ pointed fraction)
  no_trailing_zero : '.' ∈ text → text.getLast? ≠ some '0'
  no_trailing_point : text.getLast? ≠ some '.'
  ne_nil : text ≠ []
  ne_negative_zero : text ≠ ['-', '0']

theorem signedChars_eq (hundredths : ℤ) :
    signedChars hundredths = (if hundredths < 0 then ['-'] else []) ++
      (Nat.toDigits 10 (hundredths.natAbs / 100) ++
        pointed ((fractionDigits hundredths.natAbs).map Nat.digitChar)) := by
  rw [signedChars, targetText_signOf, chars_hundredthsFigure, hundredthsChars_eq]
  rfl

theorem number?_signedChars (hundredths : ℤ) :
    (number? (signedChars hundredths) : Option ℚ) = some (hundredths / 100 : ℚ) := by
  rw [signedChars, number?_hundredthsFigure]
  simp only [signOf_eq_minus_iff, signedFraction_natAbs, Nat.cast_ofNat]

theorem signedChars_inj {first second : ℤ} :
    signedChars first = signedChars second ↔ first = second := by
  refine ⟨fun same => ?_, congrArg _⟩
  have numbers := number?_signedChars first
  rw [same, number?_signedChars, Option.some.injEq] at numbers
  have equal : (second : ℚ) = first := by linarith
  exact_mod_cast equal.symm

theorem getLast?_map_fractionDigits {hundredths : Nat} {c : Char}
    (last : c ∈ ((fractionDigits hundredths).map Nat.digitChar).getLast?) :
    c.isDigit = true ∧ c ≠ '0' := by
  rw [List.getLast?_map] at last
  obtain ⟨digit, isLast, rfl⟩ := Option.map_eq_some_iff.mp last
  have small := lt_of_mem_fractionDigits _ _ (List.mem_of_getLast? isLast)
  refine ⟨isDigit_digitChar small, digitChar_ne_zero small ?_⟩
  rintro rfl
  exact getLast?_fractionDigits hundredths isLast

/-- The last character is a digit, and behind a point it is not zero. -/
theorem last_signedChars {hundredths : ℤ} {c : Char}
    (last : c ∈ (signedChars hundredths).getLast?) :
    c.isDigit = true ∧ ('.' ∈ signedChars hundredths → c ≠ '0') := by
  rw [signedChars_eq] at last ⊢
  by_cases empty : (fractionDigits hundredths.natAbs).map Nat.digitChar = []
  · rw [pointed, if_pos empty, List.append_nil] at last ⊢
    rw [List.getLast?_append_of_ne_nil _ Nat.toDigits_ne_nil] at last
    refine ⟨isDigit_of_mem_toDigits (List.mem_of_getLast? last), fun member => ?_⟩
    rcases List.mem_append.mp member with sign | digit
    · split at sign <;> simp at sign
    · exact absurd (isDigit_of_mem_toDigits digit) (by decide)
  · rw [pointed, if_neg empty] at last ⊢
    rw [← List.append_assoc, List.append_cons, List.getLast?_append_of_ne_nil _ empty] at last
    obtain ⟨digit, nonzero⟩ := getLast?_map_fractionDigits last
    exact ⟨digit, fun _ => nonzero⟩

theorem isCanonical_signedChars (hundredths : ℤ) :
    IsCanonical (signedChars hundredths) hundredths where
  reads := number?_signedChars hundredths
  shape := by
    refine ⟨_, fun c member => ?_, ?_, signedChars_eq hundredths⟩
    · obtain ⟨digit, listed, rfl⟩ := List.mem_map.mp member
      exact isDigit_digitChar (lt_of_mem_fractionDigits _ _ listed)
    · rw [List.length_map]
      exact length_fractionDigits_le _
  no_trailing_zero hasPoint last := (last_signedChars last).2 hasPoint rfl
  no_trailing_point last := absurd (last_signedChars last).1 (by decide)
  ne_nil empty := by
    have read := number?_signedChars hundredths
    rw [empty] at read
    cases read
  ne_negative_zero same := by
    have zero : (number? ['-', '0'] : Option ℚ) = some 0 := by decide +kernel
    have read := number?_signedChars hundredths
    rw [same, zero, Option.some.injEq] at read
    obtain rfl : hundredths = 0 := by
      have cast : (hundredths : ℚ) = 0 := by linarith
      exact_mod_cast cast
    exact absurd same (by decide +kernel)

theorem IsCanonical.getLast?_ne_zero {front : List Char} {places : List Nat} {hundredths : ℤ}
    (canonical : IsCanonical (front ++ pointed (places.map Nat.digitChar)) hundredths) :
    places.getLast? ≠ some 0 := by
  intro zero
  have filled : places.map Nat.digitChar ≠ [] := by
    rintro empty
    rw [List.map_eq_nil_iff.mp empty] at zero
    cases zero
  have last : (places.map Nat.digitChar).getLast? = some '0' := by
    rw [List.getLast?_map, zero]
    rfl
  rw [pointed, if_neg filled] at canonical
  refine canonical.no_trailing_zero (by simp) ?_
  rw [List.append_cons, List.getLast?_append_of_ne_nil _ filled, last]

/-- A number of hundredths has only one canonical text. -/
theorem IsCanonical.eq_signedChars {text : List Char} {hundredths : ℤ}
    (canonical : IsCanonical text hundredths) : text = signedChars hundredths := by
  obtain ⟨fraction, digits, short, rfl⟩ := canonical.shape
  obtain ⟨places, small, rfl⟩ := exists_values digits
  rw [List.length_map] at short
  have last : places.getLast? ≠ some 0 := by
    rw [← List.append_assoc] at canonical
    exact canonical.getLast?_ne_zero
  have value : Numeral.ofDigits places * 100 =
      hundredths.natAbs % 100 * 10 ^ places.length := by
    have reads := canonical.reads
    have written : (if hundredths < 0 then ['-'] else []) ++
        (Nat.toDigits 10 (hundredths.natAbs / 100) ++ pointed (places.map Nat.digitChar)) =
          Grammar.targetText (signOf hundredths)
            (pointedFigure (hundredths.natAbs / 100) small) := by
      rw [targetText_signOf, chars_pointedFigure]
      rfl
    have hundred := signedFraction_natAbs hundredths 100
    rw [Nat.cast_ofNat] at hundred
    -- Both readings have the sign of the hundredths, so their sizes are the same.
    rw [written, number?_pointedFigure, ← hundred, Option.some.injEq] at reads
    simp only [signOf_eq_minus_iff, signedFraction_inj] at reads
    exact (scaled_eq_iff ..).mp reads
  rw [signedChars_eq, eq_fractionDigits small short last value]

/-- A sign and a number of hundredths make a number of either sign, and zero has no sign. -/
theorem signedChars_signed (negative : Bool) (size : Nat) :
    signedChars (if negative then -size else size) =
      (if negative ∧ size ≠ 0 then ['-'] else []) ++ Quantity.hundredthsChars size := by
  have magnitude : (if negative then -(size : ℤ) else size).natAbs = size := by
    split <;> simp
  have sign : (if negative then -(size : ℤ) else size) < 0 ↔ negative = true ∧ size ≠ 0 := by
    cases negative <;> simp [Nat.pos_iff_ne_zero]
  rw [signedChars_eq, magnitude, hundredthsChars_eq]
  simp only [sign]
  rfl

theorem Quantity.toList_cell (negative : Bool) (numerator denominator : Nat) :
    (cell (.finite negative numerator denominator)).toList =
      signedChars (if negative then -divideHalfEven (100 * numerator) denominator
        else divideHalfEven (100 * numerator) denominator) := by
  rw [cell, String.toList_ofList, signedChars_signed]
  split <;> rfl

theorem roundHalfEven_signedFraction (negative : Bool) (numerator : Nat) {denominator : Nat}
    (positive : 0 < denominator) :
    roundHalfEven (100 * signedFraction negative numerator denominator) =
      if negative then -(divideHalfEven (100 * numerator) denominator : ℤ)
      else divideHalfEven (100 * numerator) denominator := by
  have size : (100 * (numerator / denominator) : ℚ) = (100 * numerator : Nat) / denominator := by
    push_cast
    ring
  rw [divideHalfEven_eq _ positive, ← size, signedFraction]
  split
  · rw [mul_neg, roundHalfEven_neg]
  · rfl

/-- The text of a finite machine number is that of its rounded hundredths. -/
theorem toList_cellText {value : Float} (finite : value.isFinite = true) :
    (cellText value).toList = signedChars (roundHalfEven (100 * Float64.exactValue value)) := by
  obtain ⟨negative, numerator, denominator, positive, read, exact⟩ :=
    Float64.quantity_of_isFinite finite
  rw [exact, roundHalfEven_signedFraction negative numerator positive,
    ← Quantity.toList_cell, ← read]
  rfl

theorem cellText_eq_iff {value other : Float} (finite : value.isFinite = true)
    (otherFinite : other.isFinite = true) :
    cellText value = cellText other ↔
      roundHalfEven (100 * Float64.exactValue value) =
        roundHalfEven (100 * Float64.exactValue other) := by
  rw [← String.toList_inj, toList_cellText finite, toList_cellText otherFinite, signedChars_inj]

/-- The text of a finite machine number is the canonical decimal of the number it stands for,
rounded half to even to hundredths, and tells apart just the numbers that are rounded to different
ones. -/
theorem cellText_canonical {value other : Float} (finite : value.isFinite = true)
    (otherFinite : other.isFinite = true) :
    IsCanonical (cellText value).toList (roundHalfEven (100 * Float64.exactValue value)) ∧
      (cellText value = cellText other ↔
        roundHalfEven (100 * Float64.exactValue value) =
          roundHalfEven (100 * Float64.exactValue other)) := by
  refine ⟨?_, cellText_eq_iff finite otherFinite⟩
  rw [toList_cellText finite]
  exact isCanonical_signedChars _

/-- A number just below zero is rounded to zero, and is written as zero is. -/
theorem cellText_canonical_belowZero :
    (-0.004 : Float).isFinite = true ∧ (0.0 : Float).isFinite = true ∧
      Float64.exactValue (-0.004) < 0 ∧
      IsCanonical (cellText (-0.004 : Float)).toList 0 ∧
      cellText (-0.004 : Float) = cellText (0.0 : Float) := by
  have finite : (-0.004 : Float).isFinite = true := by decide
  have otherFinite : (0.0 : Float).isFinite = true := by decide
  have rounded : roundHalfEven (100 * Float64.exactValue (-0.004)) = 0 := by decide +kernel
  have otherRounded : roundHalfEven (100 * Float64.exactValue 0.0) = 0 := by decide +kernel
  obtain ⟨canonical, same⟩ := cellText_canonical finite otherFinite
  rw [rounded] at canonical
  exact ⟨finite, otherFinite, by decide +kernel, canonical,
    same.mpr (rounded.trans otherRounded.symm)⟩

/-! ## Stripping two places -/

/-- The text with two places, as a sign, the integer part and the two digits behind the point. -/
def twoPlaces (negative : Bool) (hundredths : Nat) : List Char :=
  (if negative then ['-'] else []) ++ (Decimal.digitChars (hundredths / 100) ++
    '.' :: [Nat.digitChar (hundredths % 100 / 10), Nat.digitChar (hundredths % 10)])

def stripped (text : List Char) : List Char :=
  Text.stripEnd (· == '.') (Text.stripEnd (· == '0') text)

/-- Takes zeros and then a point off the end of a text, and writes zero for nothing and for a
negative zero. -/
def shortened (text : List Char) : List Char :=
  if stripped text = [] ∨ stripped text = ['-', '0'] then ['0'] else stripped text

theorem point_ne_of_isDigit {c : Char} (digit : c.isDigit = true) : (c == '.') = false := by
  refine beq_false_of_ne ?_
  rintro rfl
  exact absurd digit (by decide)

/-- The zeros behind a fraction go, and the point goes with them where there is no fraction. -/
theorem stripped_append {front fraction zeros : List Char}
    (frontEnds : Text.Ends (· == '.') front)
    (last : ∀ c ∈ fraction.getLast?, c.isDigit = true ∧ c ≠ '0')
    (areZeros : ∀ c ∈ zeros, (c == '0') = true) :
    stripped (front ++ '.' :: (fraction ++ zeros)) = front ++ pointed fraction := by
  by_cases empty : fraction = []
  · rw [stripped, pointed, if_pos empty, empty, List.nil_append, List.append_cons,
      Text.stripEnd_append ⟨front, '.', rfl, by decide⟩ areZeros,
      Text.stripEnd_append frontEnds (by simp), List.append_nil]
  · have ends {isMargin : Char → Bool} (outside : ∀ c ∈ fraction.getLast?, isMargin c = false) :
        Text.Ends isMargin (front ++ '.' :: fraction) :=
      ((Text.ends_of_getLast? empty outside).append ['.']).append front
    have noZero := ends fun c isLast => beq_false_of_ne (last c isLast).2
    have noPoint := ends fun c isLast => point_ne_of_isDigit (last c isLast).1
    rw [stripped, pointed, if_neg empty, ← List.cons_append, ← List.append_assoc,
      Text.stripEnd_append noZero areZeros, Text.stripEnd_eq_self noPoint]

/-- The two digits are those of the fraction, and zeros behind them. -/
theorem exists_zeros (hundredths : Nat) : ∃ zeros : List Char, (∀ c ∈ zeros, (c == '0') = true) ∧
    [Nat.digitChar (hundredths % 100 / 10), Nat.digitChar (hundredths % 10)] =
      (fractionDigits hundredths).map Nat.digitChar ++ zeros := by
  unfold fractionDigits
  split
  · rename_i whole
    have unit : hundredths % 10 = 0 := by omega
    exact ⟨['0', '0'], by simp, by simp [whole, unit, Nat.digitChar]⟩
  · split
    · rename_i unit
      exact ⟨['0'], by simp, by simp [unit, Nat.digitChar]⟩
    · exact ⟨[], by simp, rfl⟩

theorem stripped_twoPlaces (negative : Bool) (hundredths : Nat) :
    stripped (twoPlaces negative hundredths) =
      (if negative then ['-'] else []) ++ Quantity.hundredthsChars hundredths := by
  obtain ⟨zeros, areZeros, digits⟩ := exists_zeros hundredths
  have wholeEnds : Text.Ends (· == '.') (Decimal.digitChars (hundredths / 100)) :=
    Text.ends_of_forall Nat.toDigits_ne_nil fun c member =>
      point_ne_of_isDigit (isDigit_of_mem_toDigits member)
  rw [twoPlaces, digits, hundredthsChars_eq, ← List.append_assoc, ← List.append_assoc,
    stripped_append (wholeEnds.append _) (fun c => getLast?_map_fractionDigits) areZeros]

theorem shortened_twoPlaces (negative : Bool) (hundredths : Nat) :
    shortened (twoPlaces negative hundredths) =
      signedChars (if negative then -hundredths else hundredths) := by
  have canonical := isCanonical_signedChars (if negative then -hundredths else hundredths)
  rw [shortened, stripped_twoPlaces]
  by_cases negativeZero : negative = true ∧ hundredths = 0
  · obtain ⟨rfl, rfl⟩ := negativeZero
    decide +kernel
  · have same : signedChars (if negative then -hundredths else hundredths) =
        (if negative then ['-'] else []) ++ Quantity.hundredthsChars hundredths := by
      rw [signedChars_signed]
      refine congrArg (· ++ _) (if_congr ?_ rfl rfl)
      tauto
    rw [← same, if_neg (not_or.mpr ⟨canonical.ne_nil, canonical.ne_negative_zero⟩)]

/-- The text of a fraction is what stripping leaves of its two places. -/
theorem Quantity.toList_cell_eq_shortened (negative : Bool) (numerator denominator : Nat) :
    (cell (.finite negative numerator denominator)).toList =
      shortened (twoPlaces negative (divideHalfEven (100 * numerator) denominator)) := by
  rw [toList_cell, shortened_twoPlaces]

end TableauSimplex
