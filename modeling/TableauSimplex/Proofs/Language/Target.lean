import TableauSimplex.Proofs.Language.Parts

/-!
# Right-hand sides

A right-hand side is any text that reads as a numeral and holds no blank.  Its characters are
digits, signs, points, underscores and the few letters of an exponent and of the words for
infinity and for no number, so it holds neither a separator nor a part of a divider.
-/

set_option autoImplicit false

namespace TableauSimplex

open TableauSimplex.Text TableauSimplex.Language

namespace Language

/-- Every letter of a phrase that is found stands in the text. -/
theorem exists_mem_of_afterPhrase? {phrase text after : List Char}
    (found : afterPhrase? phrase text = some after) :
    ∀ letter ∈ phrase, ∃ c ∈ text, isLetter letter c = true := by
  induction phrase generalizing text with
  | nil => exact List.forall_mem_nil _
  | cons letter phrase induction =>
      cases text with
      | nil => cases found
      | cons c rest =>
          rw [afterPhrase?] at found
          split at found
          · rename_i same
            refine List.forall_mem_cons.mpr ⟨⟨c, List.mem_cons_self, same⟩, fun next member => ?_⟩
            obtain ⟨d, later, nextSame⟩ := induction found next member
            exact ⟨d, List.mem_cons_of_mem c later, nextSame⟩
          · cases found

theorem startsAnd_of_no_d (afterWord : Bool) {text : List Char}
    (other : ∀ c ∈ text, isLetter 'd' c = false) : startsAnd afterWord text = false := by
  rw [startsAnd]
  cases found : afterPhrase? "and".toList text with
  | none => exact Bool.and_false _
  | some after =>
      obtain ⟨c, member, same⟩ := exists_mem_of_afterPhrase? found 'd' (by decide)
      rw [other c member] at same
      cases same

end Language

/-! ## The characters of numerals -/

namespace Numeral

/-- A character of a numeral: a digit of any script, or one of a few marks and letters. -/
def IsPart (c : Char) : Prop :=
  isDigit c = true ∨ c.toLower ∈ "+-._aefinty".toList

theorem isPart_of_known {c : Char} (known : c ∈ "+-._eE".toList) : IsPart c := by
  have marks : ∀ c ∈ "+-._eE".toList, c.toLower ∈ "+-._aefinty".toList := by decide
  exact .inr (marks c known)

theorem isPart_of_mem_takeDigits {c : Char} (inside : Bool) (text : List Char) (member : c ∈ text) :
    IsPart c ∨ c ∈ (takeDigits digit? inside text).2 := by
  induction inside, text using takeDigits.induct digit? with
  | case1 => cases member
  | case2 next rest value known induction =>
      rw [takeDigits, known]
      rcases List.mem_cons.mp member with rfl | later
      · exact .inl (isPart_of_known (by decide))
      · exact induction later
  | case3 next rest unknown =>
      rw [takeDigits, unknown]
      exact .inr member
  | case4 inside rest other =>
      rw [takeDigits.eq_3 _ _ _ other]
      exact .inr member
  | case5 inside d rest different value known induction =>
      rw [takeDigits.eq_4 _ _ _ _ different, known]
      rcases List.mem_cons.mp member with rfl | later
      · exact .inl (.inl (by rw [isDigit, known]; rfl))
      · exact induction later
  | case6 inside d rest different unknown =>
      rw [takeDigits.eq_4 _ _ _ _ different, unknown]
      exact .inr member

theorem isPart_of_mem_takeSign {c : Char} {text : List Char} (member : c ∈ text) :
    IsPart c ∨ c ∈ (Numeral.takeSign text).2 := by
  unfold Numeral.takeSign
  split
  · rcases List.mem_cons.mp member with rfl | later
    · exact .inl (isPart_of_known (by decide))
    · exact .inr later
  · rcases List.mem_cons.mp member with rfl | later
    · exact .inl (isPart_of_known (by decide))
    · exact .inr later
  · exact .inr member

theorem isPart_of_exponent? {text : List Char} {exponent : Int}
    (read : exponent? digit? text = some exponent) : ∀ c ∈ text, IsPart c := by
  cases text with
  | nil => exact List.forall_mem_nil _
  | cons mark rest =>
      rw [exponent?] at read
      split at read
      · rename_i isMark
        have first : IsPart mark := by
          rcases isMark with rfl | rfl <;> exact isPart_of_known (by decide)
        refine List.forall_mem_cons.mpr ⟨first, fun c member => ?_⟩
        dsimp only at read
        split at read
        · rename_i taken
          rcases isPart_of_mem_takeSign member with part | later
          · exact part
          · rcases isPart_of_mem_takeDigits false _ later with part | left
            · exact part
            · rw [taken] at left
              cases left
        · cases read
      · cases read

theorem isPart_of_unsigned? {negative : Bool} {text : List Char} {value : Decimal}
    (read : unsigned? digit? negative text = some value) : ∀ c ∈ text, IsPart c := by
  intro c member
  unfold unsigned? at read
  dsimp only at read
  rcases isPart_of_mem_takeDigits false text member with part | behindWhole
  · exact part
  · split at read
    · cases read
    · rw [Option.map_eq_some_iff] at read
      obtain ⟨exponent, exponentRead, -⟩ := read
      have last := isPart_of_exponent? exponentRead
      split at last
      · rename_i rest point
        rw [point] at behindWhole
        rcases List.mem_cons.mp behindWhole with rfl | later
        · exact isPart_of_known (by decide)
        · rcases isPart_of_mem_takeDigits false rest later with part | left
          · exact part
          · exact last c left
      · exact last c behindWhole

/-- Whatever reads as a numeral is made of the characters of numerals, apart from its margins. -/
theorem isPart_of_read? {isMargin : Char → Bool} {text : List Char} {numeral : Numeral}
    (read : read? digit? isMargin text = some numeral)
    (tight : ∀ c ∈ text, isMargin c = false) : ∀ c ∈ text, IsPart c := by
  have stripped : stripBoth isMargin text = text := by
    cases text with
    | nil => rfl
    | cons d more =>
        have whole := stripBoth_append [] [] (by simp) (by simp)
          (starts_of_forall (List.cons_ne_nil d more) tight)
          (ends_of_forall (List.cons_ne_nil d more) tight)
        simpa using whole
  intro c member
  rw [read?, stripped] at read
  rcases isPart_of_mem_takeSign member with part | behindSign
  · exact part
  · dsimp only at read
    -- The words hold no other letters than those of the class.
    have spelled {word : String} (letters : ∀ c ∈ word.toList, c ∈ "+-._aefinty".toList)
        (same : String.ofList ((Numeral.takeSign text).2.map Char.toLower) = word) : IsPart c := by
      have lowered : c.toLower ∈ word.toList := by
        rw [← same, String.toList_ofList]
        exact List.mem_map_of_mem behindSign
      exact .inr (letters _ lowered)
    split at read
    · rename_i word
      rcases word with same | same
      · exact spelled (by decide) same
      · exact spelled (by decide) same
    · split at read
      · rename_i same
        exact spelled (by decide) same
      · rw [Option.map_eq_some_iff] at read
        obtain ⟨value, unsigned, -⟩ := read
        exact isPart_of_unsigned? unsigned c behindSign

namespace IsPart

variable {c : Char} (part : IsPart c)

include part

theorem isLetter_eq_false {letter : Char} (small : letter.isLower = true)
    (other : ∀ d ∈ "+-._aefinty".toList, isLetter letter d = false) :
    isLetter letter c = false := by
  rcases part with digit | known
  · by_contra same
    rw [Bool.not_eq_false] at same
    have outside := (isWord_of_isLetter small same).2
    rw [digit] at outside
    cases outside
  · rw [← isLetter_toLower]
    exact other _ known

theorem ne {mark : Char} (noDigit : isDigit mark = false)
    (unknown : mark.toLower ∉ "+-._aefinty".toList) : c ≠ mark := by
  rintro rfl
  rcases part with digit | known
  · rw [digit] at noDigit
    cases noDigit
  · exact unknown known

end IsPart

end Numeral

/-! ## Right-hand sides -/

namespace Grammar

/-- A text that reads as a numeral and holds no blank. -/
structure Target where
  chars : List Char
  numeral : (Numeral.read? digit? isNumeralMargin chars).isSome = true
  tight : ∀ c ∈ chars, isBlank c = false

namespace Target

variable (target : Target)

theorem isPart : ∀ c ∈ target.chars, Numeral.IsPart c := by
  obtain ⟨numeral, read⟩ := Option.isSome_iff_exists.mp target.numeral
  refine Numeral.isPart_of_read? read fun c member => ?_
  rw [isNumeralMargin, target.tight c member, Bool.false_and]

theorem chars_ne_nil : target.chars ≠ [] := by
  intro empty
  have read := target.numeral
  rw [empty] at read
  revert read
  decide

theorem starts : Starts isBlank target.chars :=
  starts_of_forall target.chars_ne_nil target.tight

theorem ends : Ends isBlank target.chars :=
  ends_of_forall target.chars_ne_nil target.tight

theorem squeezes : Squeezes target.chars target.chars :=
  squeezes_of_forall target.tight

theorem no_comma : ',' ∉ target.chars := fun member =>
  (target.isPart ',' member).ne (by decide) (by decide) rfl

theorem head_ne_equal : ∀ c ∈ target.chars.head?, c ≠ '=' := fun c head =>
  (target.isPart c (List.mem_of_mem_head? head)).ne (by decide) (by decide)

theorem no_space : ∀ c ∈ target.chars, c ≠ ' ' := fun c member =>
  (target.isPart c member).ne (by decide) (by decide)

/-- No divider begins in a right-hand side, because it holds no s. -/
theorem passes (rest : List Char) : Passes rest target.chars := by
  have other : ∀ c ∈ target.chars, isLetter 's' c = false := fun c member =>
    (target.isPart c member).isLetter_eq_false (by decide) (by decide)
  revert other
  induction target.chars with
  | nil => exact fun _ => passes_nil rest
  | cons c more induction =>
      intro other
      exact (induction fun d member => other d (List.mem_cons_of_mem c member)).cons
        (afterDivider?_of_other (other c List.mem_cons_self) _)

/-- Nothing separates parts in a right-hand side, because it holds no d. -/
theorem unsplit : Unsplit [] target.chars := by
  have other : ∀ c ∈ target.chars, isLetter 'd' c = false ∧ c ≠ ',' ∧ c ≠ ';' := fun c member =>
    have part := target.isPart c member
    ⟨part.isLetter_eq_false (by decide) (by decide), part.ne (by decide) (by decide),
      part.ne (by decide) (by decide)⟩
  revert other
  induction target.chars with
  | nil => exact fun _ => unsplit_nil []
  | cons c more induction =>
      intro other
      have later := induction fun d member => other d (List.mem_cons_of_mem c member)
      have single : Unsplit (more ++ []) [c] := fun afterWord => by
        have absent := startsAnd_of_no_d afterWord fun d member => (other d member).1
        rw [List.append_nil]
        exact ⟨isWord c, splitParts_cons (other c List.mem_cons_self).2 absent⟩
      exact single.append later

end Target

end Grammar

end TableauSimplex
