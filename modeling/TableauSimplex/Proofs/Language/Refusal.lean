import TableauSimplex.Proofs.Language.Clause
import TableauSimplex.Proofs.Language.Coefficient
import TableauSimplex.Proofs.Language.Stray

/-!
# Texts that are no expression

In a text whose blanks are spaces the reader of expressions refuses one thing: a point that has no
digits of its own and stands in front of a name.  A scan for terms comes to every such point, since
the digits of a name are taken with the name.
-/

set_option autoImplicit false

namespace TableauSimplex

open TableauSimplex.Text TableauSimplex.Language

namespace Grammar

/-- What a scan finds is a term, and no word character stands behind it. -/
theorem exists_term {input rest : List Char} {value : TermText}
    (taken : takeTerm? input = some (value, rest)) :
    ∃ term : Term, value = term.text ∧ input = term.chars ++ rest ∧
      ∀ c ∈ rest.head?, isWord c = false := by
  obtain ⟨coefficient, chars, split⟩ := exists_coefficient input
  rw [takeTerm?, Option.map_eq_some_iff] at taken
  obtain ⟨⟨name, behind⟩, found, same⟩ := taken
  obtain ⟨rfl, rfl⟩ := Prod.mk.inj same
  have gapLeft := List.takeWhile_append_dropWhile (p := isBlank) (l := (takeCoefficient input).2)
  cases shape : (takeCoefficient input).2.dropWhile isBlank with
  | nil =>
      rw [shape] at found
      cases found
  | cons first tail =>
      rw [shape, takeName?] at found
      split at found
      · rename_i start
        obtain ⟨rfl, rfl⟩ := Prod.mk.inj (Option.some.inj found)
        have nameLeft := List.takeWhile_append_dropWhile (p := isWord) (l := tail)
        let gap : Gap :=
          ⟨(takeCoefficient input).2.takeWhile isBlank, fun _ => List.mem_takeWhile_imp⟩
        refine ⟨⟨coefficient, gap, first, tail.takeWhile isWord, start, fun _ =>
          List.mem_takeWhile_imp⟩, ?_, ?_, ?_⟩
        · rw [chars]
          rfl
        · conv_lhs => rw [split, ← gapLeft, shape, ← nameLeft]
          simp [Term.chars, Term.name, gap]
        · intro c head
          have stopped := List.head?_dropWhile_not isWord tail
          rw [head] at stopped
          simpa using stopped
      · cases found

/-! ## Points in front of names -/

/-- A text begins with a point, and only spaces stand between it and a name. -/
def PointBeforeName (text : List Char) : Prop :=
  ∃ spaces c back, text = '.' :: (spaces ++ c :: back) ∧ (∀ d ∈ spaces, d = ' ') ∧
    isNameStart c = true

theorem takeTerm?_of_start {c : Char} (start : isNameStart c = true) (back : List Char) :
    takeTerm? (c :: back) ≠ none := by
  have bare : (Coefficient.bare none noGap).body = [] → noGap.chars = [] := fun _ => rfl
  exact Coefficient.takeTerm?_name spaced_noGap bare start back

theorem takeTerm?_of_point {whole rest : List Char} (digit : ∀ c ∈ whole, isDigit c = true)
    (point : PointBeforeName rest) : takeTerm? (whole ++ rest) ≠ none := by
  obtain ⟨spaces, c, back, rfl, space, start⟩ := point
  let figure : Coefficient :=
    { sign := none
      gap := noGap
      whole
      fraction := some []
      whole_digit := digit
      fraction_digit := forall_isDigit_nil }
  let gap : Gap := ⟨spaces, forall_of_space space (by decide)⟩
  have spaced : gap.Spaced := space
  have joined : figure.body = [] → gap.chars = [] := fun empty => by
    simp [figure, Coefficient.body] at empty
  have taken := Coefficient.takeTerm?_name spaced joined start back
  simpa [figure, gap, Coefficient.chars, Coefficient.lead, Coefficient.front, Coefficient.body,
    noGap] using taken

/-! ## Digits that belong to no name -/

/-- The word characters at the end of a text, from the last on. -/
def lastWord (text : List Char) : List Char :=
  text.reverse.takeWhile isWord

theorem lastWord_concat (text : List Char) (c : Char) :
    lastWord (text ++ [c]) = if isWord c then c :: lastWord text else [] := by
  simp [lastWord, List.takeWhile_cons]

theorem lastWord_append (text : List Char) {word : List Char}
    (inside : ∀ c ∈ word, isWord c = true) :
    lastWord (text ++ word) = word.reverse ++ lastWord text := by
  rw [lastWord, List.reverse_append, List.takeWhile_append_of_pos (by simpa using inside), lastWord]

/-- A text ends in a digit, and no name begins in its last word. -/
def EndsInFigure (text : List Char) : Prop :=
  (∃ c ∈ text.getLast?, isDigit c = true) ∧ ∀ c ∈ lastWord text, isNameStart c = false

theorem not_endsInFigure_concat {text : List Char} {c : Char} (other : isDigit c = false) :
    ¬ EndsInFigure (text ++ [c]) := by
  rintro ⟨⟨d, last, digit⟩, _⟩
  rw [List.getLast?_concat] at last
  cases last
  rw [digit] at other
  cases other

theorem Term.not_endsInFigure (term : Term) (front : List Char) :
    ¬ EndsInFigure (front ++ term.chars) := by
  rintro ⟨_, none⟩
  have inside : ∀ c ∈ term.name, isWord c = true := by
    intro c member
    rcases List.mem_cons.mp member with rfl | later
    · exact isWord_of_identifier (identifier_of_isNameStart term.first_start)
    · exact term.others_word c later
  -- The whole name belongs to the last word, and with it the character that begins it.
  have member : term.first ∈ lastWord (front ++ term.chars) := by
    rw [chars, ← List.append_assoc, ← List.append_assoc, lastWord_append _ inside]
    exact List.mem_append_left _ (List.mem_reverse.mpr List.mem_cons_self)
  have notStart := none _ member
  rw [term.first_start] at notStart
  cases notStart

/-! ## The positions of a scan -/

/-- A point without digits stands before a name, counted with the text in front. -/
def BareWithin (done text : List Char) : Prop :=
  ∃ front rest, text = front ++ rest ∧ PointBeforeName rest ∧ ¬ EndsInFigure (done ++ front)

/-- What a scan knows of the text that it has left behind: it has not stopped inside a name, nor
between a figure and a point in front of a name. -/
structure Resumes (done text : List Char) : Prop where
  word : ∀ c ∈ text.head?, isWord c = true → ∀ d ∈ lastWord done, isNameStart d = false
  point : PointBeforeName text → ¬ EndsInFigure done

theorem resumes_start (text : List Char) : Resumes [] text where
  word _ _ _ _ member := by cases member
  point := by
    rintro _ ⟨⟨_, last, _⟩, _⟩
    cases last

section Step

variable {done tail rest : List Char} {c : Char}

theorem PointBeforeName.takeTerm? {text : List Char} (point : PointBeforeName text) :
    takeTerm? text ≠ none :=
  takeTerm?_of_point forall_isDigit_nil point

theorem Resumes.plain (resumes : Resumes done (c :: tail)) (fails : takeTerm? (c :: tail) = none) :
    Resumes (done ++ [c]) tail where
  word := by
    intro _ _ _ d member
    rw [lastWord_concat] at member
    split at member
    · rename_i word
      rcases List.mem_cons.mp member with rfl | earlier
      · by_contra start
        rw [Bool.not_eq_false] at start
        exact takeTerm?_of_start start tail fails
      · exact resumes.word c rfl word d earlier
    · cases member
  point := by
    intro point
    apply not_endsInFigure_concat
    by_contra digit
    rw [Bool.not_eq_false] at digit
    have single : ∀ d ∈ [c], isDigit d = true := by simpa using digit
    exact takeTerm?_of_point single point fails

theorem bareWithin_plain (fails : takeTerm? (c :: tail) = none) :
    BareWithin done (c :: tail) ↔ BareWithin (done ++ [c]) tail := by
  constructor
  · rintro ⟨front, rest, same, point, free⟩
    cases front with
    | nil =>
        rw [List.nil_append] at same
        rw [same] at fails
        exact absurd fails point.takeTerm?
    | cons d front =>
        obtain ⟨rfl, rfl⟩ := List.cons.inj same
        refine ⟨front, rest, rfl, point, ?_⟩
        rwa [List.append_assoc]
  · rintro ⟨front, rest, rfl, point, free⟩
    refine ⟨c :: front, rest, rfl, point, ?_⟩
    rwa [List.append_assoc] at free

theorem Resumes.found (done : List Char) (term : Term)
    (stops : ∀ c ∈ rest.head?, isWord c = false) : Resumes (done ++ term.chars) rest where
  word := by
    intro c head word
    rw [stops c head] at word
    cases word
  point _ := term.not_endsInFigure done

end Step

/-! ## The point of a term -/

section Point

variable {done rest : List Char} {term : Term}

theorem Term.chars_eq {fraction : List Char} (pointed : term.coefficient.fraction = some fraction) :
    term.chars = term.coefficient.lead ++ term.coefficient.whole ++
      '.' :: (fraction ++ (term.gap.chars ++ term.name)) := by
  simp [chars, Coefficient.chars, Coefficient.body, pointed]

theorem Coefficient.outside_of_mem_lead {coefficient : Coefficient}
    (space : ∀ c ∈ coefficient.gap.chars, c = ' ') {c : Char} (member : c ∈ coefficient.lead) :
    isWord c = false ∧ isDigit c = false ∧ c ≠ '.' := by
  rcases List.mem_append.mp member with sign | gap
  · obtain ⟨known, _, rfl⟩ : ∃ known, coefficient.sign = some known ∧ known.char = c := by
      simpa [Coefficient.front] using sign
    cases known <;> decide
  · rw [space c gap]
    decide

theorem Term.no_point_behind (space : ∀ c ∈ term.gap.chars, c = ' ') :
    '.' ∉ term.gap.chars ++ term.name := by
  intro member
  rcases List.mem_append.mp member with gap | name
  · exact absurd (space _ gap) (by decide)
  · rcases List.mem_cons.mp name with first | later
    · have start := term.first_start
      rw [← first] at start
      exact absurd start (by decide)
    · exact absurd (term.others_word _ later) (by decide)

theorem Resumes.lastWord_lead (resumes : Resumes done (term.chars ++ rest))
    (space : ∀ c ∈ term.coefficient.gap.chars, c = ' ') (digits : term.coefficient.whole ≠ []) :
    ∀ c ∈ lastWord (done ++ term.coefficient.lead), isNameStart c = false := by
  rcases List.eq_nil_or_concat' term.coefficient.lead with empty | ⟨front, last, shape⟩
  · obtain ⟨c, more, whole⟩ := List.exists_cons_of_ne_nil digits
    have head : c ∈ (term.chars ++ rest).head? := by
      simp [Term.chars, Coefficient.chars, Coefficient.body, empty, whole]
    have digit := term.coefficient.whole_digit c (by rw [whole]; exact List.mem_cons_self)
    rw [empty, List.append_nil]
    exact resumes.word c head (isWord_of_isDigit digit)
  · have member : last ∈ term.coefficient.lead := by simp [shape]
    rw [shape, ← List.append_assoc, lastWord_concat,
      (Coefficient.outside_of_mem_lead space member).1]
    simp

theorem Resumes.endsInFigure (resumes : Resumes done (term.chars ++ rest))
    (space : ∀ c ∈ term.coefficient.gap.chars, c = ' ') (digits : term.coefficient.whole ≠ []) :
    EndsInFigure (done ++ (term.coefficient.lead ++ term.coefficient.whole)) := by
  have digit := term.coefficient.whole_digit
  rw [← List.append_assoc]
  refine ⟨⟨term.coefficient.whole.getLast digits, ?_, digit _ (List.getLast_mem digits)⟩, ?_⟩
  · rw [List.getLast?_append_of_ne_nil _ digits, List.getLast?_eq_some_getLast digits]
    rfl
  · rw [lastWord_append _ fun c member => isWord_of_isDigit (digit c member)]
    intro c member
    rcases List.mem_append.mp member with whole | front
    · exact isNameStart_eq_false_of_isDigit (digit c (List.mem_reverse.mp whole))
    · exact resumes.lastWord_lead space digits c front

theorem Resumes.bareWithin_of_isBare (resumes : Resumes done (term.chars ++ rest))
    (space : ∀ c ∈ term.coefficient.gap.chars, c = ' ') (gapSpace : ∀ c ∈ term.gap.chars, c = ' ')
    (bare : term.coefficient.IsBare) : BareWithin done (term.chars ++ rest) := by
  obtain ⟨noDigits, isPointed⟩ := bare
  obtain ⟨noWhole, noFraction⟩ := List.append_eq_nil_iff.mp noDigits
  have pointed : term.coefficient.fraction = some [] := by
    cases shape : term.coefficient.fraction with
    | none => exact absurd shape isPointed
    | some fraction =>
        rw [shape] at noFraction
        exact congrArg some noFraction
  have chars : term.chars ++ rest =
      term.coefficient.lead ++ '.' :: (term.gap.chars ++ (term.name ++ rest)) := by
    rw [Term.chars_eq pointed, noWhole]
    simp
  have point : PointBeforeName ('.' :: (term.gap.chars ++ (term.name ++ rest))) :=
    ⟨term.gap.chars, term.first, term.others ++ rest, rfl, gapSpace, term.first_start⟩
  refine ⟨term.coefficient.lead, _, chars, point, ?_⟩
  rcases List.eq_nil_or_concat' term.coefficient.lead with empty | ⟨front, last, shape⟩
  · rw [chars, empty, List.nil_append] at resumes
    rw [empty, List.append_nil]
    exact resumes.point point
  · have member : last ∈ term.coefficient.lead := by simp [shape]
    rw [shape, ← List.append_assoc]
    exact not_endsInFigure_concat (Coefficient.outside_of_mem_lead space member).2.1

/-- Inside a term only the point of its coefficient can be bare. -/
theorem Resumes.isBare_of_split (resumes : Resumes done (term.chars ++ rest))
    (space : ∀ c ∈ term.coefficient.gap.chars, c = ' ') (gapSpace : ∀ c ∈ term.gap.chars, c = ' ')
    {front more : List Char} (split : term.chars = front ++ '.' :: more)
    (point : PointBeforeName ('.' :: (more ++ rest))) (free : ¬ EndsInFigure (done ++ front)) :
    term.coefficient.IsBare := by
  have noPoint {digits : List Char} (digit : ∀ c ∈ digits, isDigit c = true) : '.' ∉ digits :=
    fun member => absurd (digit _ member) (by decide)
  have noLead : '.' ∉ term.coefficient.lead := fun member =>
    (Coefficient.outside_of_mem_lead space member).2.2 rfl
  have noBehind := Term.no_point_behind gapSpace
  have noWhole := noPoint term.coefficient.whole_digit
  cases pointed : term.coefficient.fraction with
  | none =>
      have member : '.' ∈ term.chars := by simp [split]
      simp only [Term.chars, Coefficient.chars, Coefficient.body, pointed, Option.map_none,
        Option.getD_none, List.append_nil, List.mem_append] at member noBehind
      tauto
  | some fraction =>
      have fraction_digit : ∀ c ∈ fraction, isDigit c = true := by
        have digit := term.coefficient.fraction_digit
        rwa [pointed] at digit
      have noFront : '.' ∉ term.coefficient.lead ++ term.coefficient.whole :=
        List.not_mem_append noLead noWhole
      have noBack : '.' ∉ fraction ++ (term.gap.chars ++ term.name) :=
        List.not_mem_append (noPoint fraction_digit) noBehind
      rw [Term.chars_eq pointed, List.append_cons_inj_of_notMem noFront noBack] at split
      obtain ⟨rfl, -, rfl⟩ := split
      obtain ⟨spaces, c, back, same, spacesSpace, start⟩ := point
      have behind := (List.cons.inj same).2
      have noFraction : fraction = [] := by
        cases fraction with
        | nil => rfl
        | cons d digits =>
            -- A digit is neither a space nor the beginning of a name.
            have digit := fraction_digit d List.mem_cons_self
            cases spaces with
            | nil =>
                obtain ⟨rfl, -⟩ := List.cons.inj behind
                rw [isNameStart_eq_false_of_isDigit digit] at start
                cases start
            | cons e spaces =>
                obtain ⟨rfl, -⟩ := List.cons.inj behind
                rw [spacesSpace d List.mem_cons_self] at digit
                exact absurd digit (by decide)
      have noWhole : term.coefficient.whole = [] := by
        by_contra digits
        exact free (resumes.endsInFigure space digits)
      refine ⟨?_, by rw [pointed]; exact Option.some_ne_none _⟩
      rw [Coefficient.digits, noWhole, pointed, noFraction]
      rfl

theorem Resumes.bareWithin_found (resumes : Resumes done (term.chars ++ rest))
    (space : ∀ c ∈ term.coefficient.gap.chars, c = ' ')
    (gapSpace : ∀ c ∈ term.gap.chars, c = ' ') :
    BareWithin done (term.chars ++ rest) ↔
      term.coefficient.IsBare ∨ BareWithin (done ++ term.chars) rest := by
  constructor
  · rintro ⟨front, behind, same, point, free⟩
    rcases List.append_eq_append_iff.mp same with ⟨more, rfl, rfl⟩ | ⟨inner, split, rfl⟩
    · refine .inr ⟨more, behind, rfl, point, ?_⟩
      rwa [List.append_assoc]
    · cases inner with
      | nil =>
          rw [List.append_nil] at split
          rw [← split] at free
          refine .inr ⟨[], rest, rfl, point, ?_⟩
          rwa [List.append_nil]
      | cons c inner =>
          obtain rfl : c = '.' := by
            obtain ⟨_, _, _, shape, _⟩ := point
            exact (List.cons.inj shape).1
          exact .inl (resumes.isBare_of_split space gapSpace split point free)
  · rintro (bare | ⟨front, behind, rfl, point, free⟩)
    · exact resumes.bareWithin_of_isBare space gapSpace bare
    · refine ⟨term.chars ++ front, behind, (List.append_assoc _ _ _).symm, point, ?_⟩
      rwa [← List.append_assoc]

end Point

/-! ## What a scan finds -/

section Reading

variable {α : Type} [Scalar α]

def Unreadable (α : Type) [Scalar α] (text : TermText) : Prop :=
  ∃ error, readCoefficient (α := α) text.coefficient = .error error

/-- From every position a scan finds an unreadable coefficient exactly if a bare point is ahead. -/
theorem exists_unreadable_iff {done text : List Char}
    (spaced : ∀ c ∈ text, isBlank c = true → c = ' ') (resumes : Resumes done text) :
    (∃ value ∈ findings (scan term text), Unreadable α value) ↔ BareWithin done text := by
  -- Every step of the scan moves a piece of the text to what it has left behind.
  induction text using scan.induct term generalizing done with
  | case1 =>
      rw [scan]
      apply iff_of_false
      · rintro ⟨_, member, _⟩
        cases member
      · rintro ⟨front, rest, same, ⟨_, _, _, rfl, _⟩, _⟩
        simp at same
  | case2 c tail value rest success _ induction =>
      obtain ⟨term, rfl, split, stops⟩ := exists_term success
      rw [scan_of_some success]
      rw [split] at spaced resumes ⊢
      have inside {gap : Gap} (within : ∀ c ∈ gap.chars, c ∈ term.chars ++ rest) :
          ∀ c ∈ gap.chars, c = ' ' := fun c member =>
        spaced c (within c member) (gap.blank c member)
      have space : ∀ c ∈ term.coefficient.gap.chars, c = ' ' := inside fun c member => by
        simp [Term.chars, Coefficient.chars, Coefficient.lead, member]
      have gapSpace : ∀ c ∈ term.gap.chars, c = ' ' := inside fun c member => by
        simp [Term.chars, member]
      have later := induction (fun c member => spaced c (List.mem_append_right _ member))
        (Resumes.found done term stops)
      rw [resumes.bareWithin_found space gapSpace, ← later,
        ← Coefficient.readCoefficient_eq_error_iff (α := α) term.coefficient space]
      simp [findings, Unreadable, Term.text]
  | case3 c tail fails induction =>
      rw [scan_of_none fails, bareWithin_plain fails,
        ← induction (fun d member => spaced d (List.mem_cons_of_mem c member))
          (resumes.plain fails)]
      rfl

theorem spaced_blanked {text : List Char} (spaced : ∀ c ∈ text, isBlank c = true → c = ' ') :
    ∀ c ∈ blanked (scan term text), isBlank c = true → c = ' ' := by
  induction text using scan.induct term with
  | case1 =>
      rw [scan]
      exact fun _ member => by cases member
  | case2 c tail value rest success _ induction =>
      obtain ⟨term, -, split, -⟩ := exists_term success
      rw [split] at spaced
      have later := induction fun c member => spaced c (List.mem_append_right _ member)
      rw [scan_of_some success]
      intro d member blank
      rcases List.mem_append.mp member with filled | behind
      · exact (List.mem_replicate.mp filled).2
      · exact later d behind blank
  | case3 c tail fails induction =>
      rw [scan_of_none fails]
      intro d member blank
      rcases List.mem_cons.mp member with rfl | behind
      · exact spaced d List.mem_cons_self blank
      · exact induction (fun e member => spaced e (List.mem_cons_of_mem c member)) d behind blank

/-- Whatever a scan finds as a number can be read. -/
theorem readNumber_of_mem_findings {text : List Char}
    (spaced : ∀ c ∈ text, isBlank c = true → c = ' ') :
    ∀ value ∈ findings (scan number text), ∃ result, readNumber (α := α) value = .ok result := by
  induction text using scan.induct number with
  | case1 =>
      rw [scan]
      exact fun _ member => by cases member
  | case2 c tail value rest success _ induction =>
      obtain ⟨coefficient, rfl, digits, split⟩ := exists_number success
      rw [split] at spaced
      have space : ∀ d ∈ coefficient.gap.chars, d = ' ' := by
        intro d member
        refine spaced d ?_ (coefficient.gap.blank d member)
        simp [Coefficient.chars, Coefficient.lead, member]
      rw [scan_of_some success]
      intro other member
      rcases List.mem_cons.mp member with rfl | later
      · exact ⟨_, coefficient.readNumber_chars space digits⟩
      · exact induction (fun d member => spaced d (List.mem_append_right _ member)) other later
  | case3 c tail fails induction =>
      rw [scan_of_none fails]
      exact induction fun d member => spaced d (List.mem_cons_of_mem c member)

end Reading

end Grammar

/-! ## Refused expressions -/

namespace Language

theorem mapM_eq_error_iff {β γ ε : Type} {f : β → Except ε γ} (items : List β) :
    (∃ error, items.mapM f = .error error) ↔ ∃ item ∈ items, ∃ error, f item = .error error := by
  induction items with
  | nil => simp [pure, Except.pure]
  | cons item rest induction =>
      rw [List.mapM_cons]
      cases first : f item with
      | error error => simp [bind, Except.bind, first]
      | ok value =>
          cases others : rest.mapM f with
          | error error =>
              rw [others] at induction
              simpa [bind, Except.bind, first] using induction
          | ok values =>
              rw [others] at induction
              simpa [bind, Except.bind, pure, Except.pure, first] using induction

variable {α : Type} [Scalar α]

theorem readExpression_eq_error_iff {text : List Char}
    (spaced : ∀ c ∈ text, isBlank c = true → c = ' ') :
    (∃ error, readExpression (α := α) text = .error error) ↔
      ∃ value ∈ (found text).terms, Grammar.Unreadable α value := by
  have kept : ∀ c ∈ text.filter (· != '*'), isBlank c = true → c = ' ' := fun c member =>
    spaced c (List.mem_filter.mp member).1
  have numbers : ¬ ∃ error, (found text).numbers.mapM (readNumber (α := α)) = .error error := by
    rw [mapM_eq_error_iff]
    rintro ⟨value, member, error, fails⟩
    obtain ⟨result, succeeds⟩ := Grammar.readNumber_of_mem_findings (α := α)
      (Grammar.spaced_blanked kept) value member
    rw [succeeds] at fails
    cases fails
  have unreadable (value : TermText) :
      Grammar.Unreadable α value ↔ ∃ error, readTerm (α := α) value = .error error := by
    unfold Grammar.Unreadable readTerm
    cases readCoefficient (α := α) value.coefficient <;> simp [Except.map]
  simp only [unreadable]
  rw [← mapM_eq_error_iff, readExpression_eq_read, Found.read, sumTerms_nil, sumNumbers_eq]
  cases (found text).terms.mapM (readTerm (α := α)) with
  | error error => simp [bind, Except.bind, Except.map]
  | ok items =>
      cases shape : (found text).numbers.mapM (readNumber (α := α)) with
      | error error => exact absurd ⟨error, shape⟩ numbers
      | ok values => simp [bind, Except.bind, Except.map, pure, Except.pure]

/-- The meaning of a text is the sum of what is found in it.  A stray character only separates what
stands before it from what stands behind it, and a star is passed over.  With no blanks but spaces,
a text is refused only for a point without digits in front of a name. -/
theorem readExpression_overlooks :
    (∀ text, readExpression (α := α) text = (found text).read) ∧
      (∀ front back c, Stray c → found (front ++ c :: back) = found front ++ found back) ∧
      (∀ front back, found (front ++ '*' :: back) = found (front ++ back)) ∧
      ∀ text, (∀ c ∈ text, isBlank c = true → c = ' ') →
        ((∃ error, readExpression (α := α) text = .error error) ↔
          Grammar.BareWithin [] (text.filter (· != '*'))) := by
  refine ⟨readExpression_eq_read, fun front back c stray => stray.found_append_cons front back,
    found_star, fun text spaced => ?_⟩
  have kept : ∀ c ∈ text.filter (· != '*'), isBlank c = true → c = ' ' := fun c member =>
    spaced c (List.mem_filter.mp member).1
  rw [readExpression_eq_error_iff spaced]
  exact Grammar.exists_unreadable_iff kept (Grammar.resumes_start _)

theorem readExpression_overlooks_parenthesis :
    found "2x (3)".toList = found "2x ".toList ++ found "3)".toList ∧
      ∃ error, readExpression (α := Float) "2 - . x".toList = .error error := by
  obtain ⟨_, separates, _, refuses⟩ := readExpression_overlooks (α := Float)
  have stray : Stray '(' := by constructor <;> decide
  refine ⟨separates "2x ".toList "3)".toList '(' stray, ?_⟩
  refine (refuses "2 - . x".toList (by decide)).mpr ⟨"2 - ".toList, ". x".toList, by decide, ?_, ?_⟩
  · exact ⟨[' '], 'x', [], by decide, by simp, by decide⟩
  · have ending : "2 - ".toList = "2 -".toList ++ [' '] := rfl
    rw [ending]
    exact Grammar.not_endsInFigure_concat (by decide)

/-- An equation is no expression, but it is read as the sum of its sides. -/
theorem readExpression_equation :
    (∀ expression : Grammar.Expression,
      expression.text Grammar.Gap.squeezed ≠ "x = 2*3y".toList) ∧
      readExpression (α := Float) "x = 2*3y".toList =
        .ok { terms := [("x", 1), ("y", 23)], constant := 0 } := by
  constructor
  · intro expression same
    have inner := expression.isInner '=' (by rw [same]; decide)
    exact absurd inner (by decide)
  · decide +kernel

end Language

end TableauSimplex
