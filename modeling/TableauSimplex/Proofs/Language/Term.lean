import TableauSimplex.Proofs.Language.Figure

/-!
# Reading terms

A scan for terms finds a name with the coefficient before it.  It passes over a number when no
name stands behind it before the next sign.
-/

set_option autoImplicit false

namespace TableauSimplex

open TableauSimplex.Text TableauSimplex.Language

namespace Language

/-! ## Steps of a scan -/

section Scan

variable {β : Type} {recogniser : Recogniser β}

theorem scan_of_none {c : Char} {tail : List Char} (fails : recogniser.read (c :: tail) = none) :
    scan recogniser (c :: tail) = .plain c :: scan recogniser tail := by
  rw [scan]
  split
  · rename_i value rest success
    rw [fails] at success
    cases success
  · rfl

theorem scan_of_some {input rest : List Char} {value : β}
    (success : recogniser.read input = some (value, rest)) :
    scan recogniser input =
      .found value (input.length - rest.length) :: scan recogniser rest := by
  cases input with
  | nil =>
      have shorter := recogniser.shortens _ _ _ success
      exact absurd shorter (Nat.not_lt_zero _)
  | cons c tail =>
      rw [scan]
      split
      · rename_i found
        rw [success] at found
        cases found
        rfl
      · rename_i fails
        rw [success] at fails
        cases fails

theorem findings_plain_append (text : List Char) (pieces : List (Piece β)) :
    findings (text.map Piece.plain ++ pieces) = findings pieces := by
  simp [findings]

theorem blanked_plain_append (text : List Char) (pieces : List (Piece β)) :
    blanked (text.map Piece.plain ++ pieces) = text ++ blanked pieces := by
  simp [blanked, List.flatMap_map]

end Scan

end Language

namespace Grammar

/-! ## Texts without names -/

/-- A text is empty or begins with a sign. -/
def AtSign (text : List Char) : Prop :=
  ∀ c ∈ text.head?, c = '+' ∨ c = '-'

/-- Spaces stand before the end or the next sign. -/
def Follows (text : List Char) : Prop :=
  ∃ spaces rest, text = spaces ++ rest ∧ (∀ c ∈ spaces, c = ' ') ∧ AtSign rest

/-- Whether a character may stand in a number or before it. -/
def isFiller (c : Char) : Bool :=
  isBlank c || isDigit c || c == '.'

/-- No name stands before the end or the next sign. -/
def Barren (text : List Char) : Prop :=
  ∃ filler rest, text = filler ++ rest ∧ (∀ c ∈ filler, isFiller c = true) ∧ AtSign rest

/-- What holds of the space holds throughout a text of spaces. -/
theorem forall_of_space {spaces : List Char} (space : ∀ c ∈ spaces, c = ' ') {p : Char → Prop}
    (holds : p ' ') : ∀ c ∈ spaces, p c := by
  intro c member
  rw [space c member]
  exact holds

theorem Follows.barren {text : List Char} (follows : Follows text) : Barren text := by
  obtain ⟨spaces, rest, shape, space, atSign⟩ := follows
  exact ⟨spaces, rest, shape, forall_of_space space (by decide), atSign⟩

theorem AtSign.follows {text : List Char} (atSign : AtSign text) : Follows text :=
  ⟨[], text, rfl, by simp, atSign⟩

theorem follows_nil : Follows [] :=
  AtSign.follows (by rintro c ⟨⟩)

theorem Follows.append {text : List Char} (follows : Follows text) {spaces : List Char}
    (space : ∀ c ∈ spaces, c = ' ') : Follows (spaces ++ text) := by
  obtain ⟨more, rest, rfl, moreSpace, atSign⟩ := follows
  refine ⟨spaces ++ more, rest, (List.append_assoc _ _ _).symm, fun c member => ?_, atSign⟩
  exact (List.mem_append.mp member).elim (space c) (moreSpace c)

theorem Barren.append {text : List Char} (barren : Barren text) {filler : List Char}
    (inside : ∀ c ∈ filler, isFiller c = true) : Barren (filler ++ text) := by
  obtain ⟨more, rest, rfl, moreInside, atSign⟩ := barren
  refine ⟨filler ++ more, rest, (List.append_assoc _ _ _).symm, fun c member => ?_, atSign⟩
  exact (List.mem_append.mp member).elim (inside c) (moreInside c)

/-- The front of a text without names is a filler, a sign or nothing. -/
theorem Barren.cases {text : List Char} (barren : Barren text) :
    AtSign text ∨ ∃ c rest, text = c :: rest ∧ isFiller c = true ∧ Barren rest := by
  obtain ⟨filler, rest, rfl, inside, atSign⟩ := barren
  cases filler with
  | nil => exact .inl atSign
  | cons c more =>
      exact .inr ⟨c, more ++ rest, rfl, inside c List.mem_cons_self, more, rest, rfl,
        fun d member => inside d (List.mem_cons_of_mem c member), atSign⟩

theorem Barren.dropWhile {text : List Char} (barren : Barren text) {p : Char → Bool}
    (plus : p '+' = false) (minus : p '-' = false) : Barren (text.dropWhile p) := by
  obtain ⟨filler, rest, rfl, inside, atSign⟩ := barren
  induction filler with
  | nil =>
      have stays : rest.dropWhile p = rest := by
        cases rest with
        | nil => rfl
        | cons c tail => rcases atSign c rfl with rfl | rfl <;> simp [plus, minus]
      rw [List.nil_append, stays]
      exact ⟨[], rest, rfl, by simp, atSign⟩
  | cons c more induction =>
      rw [List.cons_append]
      by_cases dropped : p c = true
      · rw [List.dropWhile_cons_of_pos dropped]
        exact induction fun d member => inside d (List.mem_cons_of_mem c member)
      · rw [List.dropWhile_cons_of_neg dropped]
        exact ⟨c :: more, rest, rfl, inside, atSign⟩

theorem Barren.takePoint {text : List Char} (barren : Barren text) :
    Barren (takePoint text).2 := by
  unfold Language.takePoint
  split
  · rcases barren.cases with atSign | ⟨c, rest, shape, -, barren⟩
    · exact absurd (atSign '.' rfl) (by decide)
    · cases shape
      exact barren
  · exact barren

theorem Barren.takeName? {text : List Char} (barren : Barren text) : takeName? text = none := by
  cases text with
  | nil => rfl
  | cons c rest =>
      have outside : isNameStart c = false := by
        rcases barren.cases with atSign | ⟨d, tail, shape, filler, -⟩
        · rcases atSign c rfl with rfl | rfl <;> decide
        · cases shape
          simp only [isFiller, Bool.or_eq_true, beq_iff_eq] at filler
          rcases filler with (blank | digit) | rfl
          · by_contra start
            rw [Bool.not_eq_false] at start
            have outside := isBlank_eq_false_of_identifier (identifier_of_isNameStart start)
            rw [blank] at outside
            cases outside
          · exact isNameStart_eq_false_of_isDigit digit
          · decide
      rw [Language.takeName?, outside]
      rfl

theorem Barren.takeTerm? {input : List Char} (barren : Barren (takeSign input).2) :
    takeTerm? input = none := by
  have left : Barren (takeCoefficient input).2 :=
    ((barren.dropWhile (p := isBlank) (by decide) (by decide)).dropWhile (p := isDigit) (by decide)
      (by decide)).takePoint.dropWhile (by decide) (by decide)
  have named : Language.takeName? ((takeCoefficient input).2.dropWhile isBlank) = none :=
    (left.dropWhile (by decide) (by decide)).takeName?
  simp only [Language.takeTerm?, named, Option.map_none]

theorem takeSign_of_isFiller {c : Char} (filler : isFiller c = true) (rest : List Char) :
    takeSign (c :: rest) = ([], c :: rest) := by
  have plus : c ≠ '+' := by
    rintro rfl
    exact absurd filler (by decide)
  have minus : c ≠ '-' := by
    rintro rfl
    exact absurd filler (by decide)
  exact takeSign.eq_3 _ (by simpa using plus) (by simpa using minus)

/-- A scan for terms passes over fillers that no name follows. -/
theorem scan_term_filler {filler rest : List Char} (inside : ∀ c ∈ filler, isFiller c = true)
    (barren : Barren rest) :
    scan term (filler ++ rest) = filler.map Piece.plain ++ scan term rest := by
  induction filler with
  | nil => rfl
  | cons c more induction =>
      have later : ∀ d ∈ more, isFiller d = true := fun d member =>
        inside d (List.mem_cons_of_mem c member)
      have first := inside c List.mem_cons_self
      have fails : term.read (c :: (more ++ rest)) = none := by
        apply Barren.takeTerm?
        rw [takeSign_of_isFiller first]
        exact barren.append inside
      rw [List.cons_append, scan_of_none fails, induction later]
      rfl

theorem scan_term_sign (sign : Sign) {rest : List Char} (barren : Barren rest) :
    scan term (sign.char :: rest) = .plain sign.char :: scan term rest := by
  apply scan_of_none
  apply Barren.takeTerm?
  cases sign <;> exact barren

theorem Gap.space_squeezed (gap : Gap) : ∀ c ∈ gap.squeezed, c = ' ' := by
  unfold Gap.squeezed
  split <;> simp

theorem Figure.isFiller (figure : Figure) : ∀ c ∈ figure.chars, isFiller c = true := by
  intro c member
  rcases figure.mem_chars member with digit | rfl
  · simp [Grammar.isFiller, digit]
  · decide

/-! ## Names in front of a rest -/

theorem Follows.head {rest : List Char} (follows : Follows rest) :
    ∀ c ∈ rest.head?, c = ' ' ∨ c = '+' ∨ c = '-' := by
  obtain ⟨spaces, tail, rfl, space, atSign⟩ := follows
  intro c head
  cases spaces with
  | nil => exact .inr (atSign c head)
  | cons d more =>
      cases head
      exact .inl (space c List.mem_cons_self)

theorem Follows.clearOfDigits {rest : List Char} (follows : Follows rest) :
    ClearOfDigits rest := by
  intro c head
  rcases follows.head c head with rfl | rfl | rfl <;> decide

theorem Follows.not_word {rest : List Char} (follows : Follows rest) :
    ∀ c ∈ rest.head?, isWord c = false := by
  intro c head
  rcases follows.head c head with rfl | rfl | rfl <;> decide

/-- A name at the front of a text is taken where no word character stands behind it. -/
theorem takeName?_append {first : Char} {others rest : List Char} (start : isNameStart first = true)
    (words : ∀ c ∈ others, isWord c = true) (stops : ∀ c ∈ rest.head?, isWord c = false) :
    takeName? (first :: others ++ rest) = some (first :: others, rest) := by
  rw [List.cons_append, takeName?, if_pos start, takeWhile_append_of_head words stops,
    dropWhile_append_of_head words stops]

theorem outside_of_isNameStart {c : Char} (start : isNameStart c = true) :
    isDigit c = false ∧ c ≠ '.' ∧ isLead c = false := by
  have blank := isBlank_eq_false_of_identifier (identifier_of_isNameStart start)
  have different : ∀ d ∈ ['.', '+', '-'], c ≠ d := by
    rintro d member rfl
    have known : ∀ d ∈ ['.', '+', '-'], isNameStart d = false := by decide
    rw [known c member] at start
    cases start
  refine ⟨isDigit_eq_false_of_isNameStart start, different '.' (by decide), ?_⟩
  simp [isLead, blank, different '+' (by decide), different '-' (by decide)]

end Grammar

end TableauSimplex
