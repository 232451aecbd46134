import TableauSimplex.Proofs.Language.Front
import TableauSimplex.Proofs.Language.Tally

/-!
# The entries of a sum

A sum is a row of entries, each of them a number or a name with a coefficient.  Every entry but the
first has a sign, and this is what keeps an entry from being taken for a part of the one before it.
A scan for terms finds the names with their coefficients and leaves spaces in their place; a scan
for numbers finds the rest.
-/

set_option autoImplicit false

namespace TableauSimplex

open TableauSimplex.Text TableauSimplex.Language

namespace Grammar

/-! ## Terms -/

/-- A term at the front of a text. -/
structure Term where
  coefficient : Coefficient
  gap : Gap
  first : Char
  others : List Char
  first_start : isNameStart first = true
  others_word : ∀ c ∈ others, isWord c = true

namespace Term

variable (term : Term)

def name : List Char :=
  term.first :: term.others

def chars : List Char :=
  term.coefficient.chars ++ (term.gap.chars ++ term.name)

def text : TermText where
  coefficient := term.coefficient.chars
  name := term.name

/-- The name of a term is no part of its coefficient. -/
theorem closes (space : term.gap.Spaced)
    (joined : term.coefficient.body = [] → term.gap.chars = []) (rest : List Char) :
    term.coefficient.Closes (term.gap.chars ++ (term.name ++ rest)) := by
  obtain ⟨startDigit, startPoint, startLead⟩ := outside_of_isNameStart term.first_start
  have head {p : Char → Prop} (atSpace : p ' ') (atName : p term.first) :
      ∀ c ∈ (term.gap.chars ++ (term.name ++ rest)).head?, p c := by
    intro c head
    cases shape : term.gap.chars with
    | nil =>
        rw [shape] at head
        cases head
        exact atName
    | cons d more =>
        rw [shape] at head
        cases head
        rw [space c (by rw [shape]; exact List.mem_cons_self)]
        exact atSpace
  refine ⟨head (by decide) startDigit, fun _ => head (by decide) startPoint, fun empty => ?_⟩
  rw [joined empty]
  rintro c first
  cases first
  exact startLead

theorem takeTerm?_chars (space : term.gap.Spaced)
    (joined : term.coefficient.body = [] → term.gap.chars = []) {rest : List Char}
    (stops : ∀ c ∈ rest.head?, isWord c = false) :
    takeTerm? (term.chars ++ rest) = some (term.text, rest) := by
  have named : takeName? (term.name ++ rest) = some (term.name, rest) :=
    takeName?_append term.first_start term.others_word stops
  have visible : ∀ c ∈ (term.name ++ rest).head?, isBlank c = false := by
    rintro c head
    cases head
    exact isBlank_eq_false_of_identifier (identifier_of_isNameStart term.first_start)
  have gapLeft := dropWhile_append_of_head term.gap.blank visible
  have taken := Coefficient.takeCoefficient_chars (term.closes space joined rest)
  simp only [takeTerm?, chars, List.append_assoc, taken, gapLeft, named, Option.map_some]
  rfl

theorem scan_term (space : term.gap.Spaced)
    (joined : term.coefficient.body = [] → term.gap.chars = []) {rest : List Char}
    (stops : ∀ c ∈ rest.head?, isWord c = false) :
    scan Language.term (term.chars ++ rest) =
      .found term.text term.chars.length :: scan Language.term rest := by
  have taken : Language.term.read (term.chars ++ rest) = some (term.text, rest) :=
    term.takeTerm?_chars space joined stops
  rw [scan_of_some taken, List.length_append, Nat.add_sub_cancel]

end Term

/-- A coefficient in front of a name makes a term. -/
theorem Coefficient.takeTerm?_name {coefficient : Coefficient} {gap : Gap} (space : gap.Spaced)
    (joined : coefficient.body = [] → gap.chars = []) {first : Char}
    (start : isNameStart first = true) (back : List Char) :
    takeTerm? (coefficient.chars ++ (gap.chars ++ first :: back)) ≠ none := by
  let term : Term :=
    { coefficient
      gap
      first
      others := back.takeWhile isWord
      first_start := start
      others_word := fun _ => List.mem_takeWhile_imp }
  have stops : ∀ c ∈ (back.dropWhile isWord).head?, isWord c = false := by
    intro c head
    have stopped := List.head?_dropWhile_not isWord back
    rw [head] at stopped
    simpa using stopped
  have taken := term.takeTerm?_chars space joined stops
  simp only [term, Term.chars, Term.name, List.append_assoc, List.cons_append,
    List.takeWhile_append_dropWhile] at taken
  rw [taken]
  exact Option.some_ne_none _

theorem Coefficient.isFiller {coefficient : Coefficient} (space : coefficient.gap.Spaced) :
    ∀ c ∈ coefficient.gap.chars ++ coefficient.body, Grammar.isFiller c = true := by
  refine List.forall_mem_append.mpr ⟨forall_of_space space (by decide), fun c member => ?_⟩
  rcases Coefficient.mem_body member with digit | rfl
  · simp [Grammar.isFiller, digit]
  · decide

theorem scan_term_coefficient {coefficient : Coefficient} (space : coefficient.gap.Spaced)
    {rest : List Char} (barren : Barren rest) :
    scan term (coefficient.chars ++ rest) =
      coefficient.chars.map Piece.plain ++ scan term rest := by
  have inside := Coefficient.isFiller space
  have passed := scan_term_filler inside barren
  rw [List.append_assoc] at passed
  rw [Coefficient.chars, Coefficient.lead, Coefficient.front]
  cases coefficient.sign with
  | none => simpa using passed
  | some sign =>
      have signed := scan_term_sign sign (barren.append inside)
      rw [List.append_assoc, passed] at signed
      simpa using signed

/-! ## Entries -/

/-- A number, or a name with a coefficient. -/
inductive Entry where
  | constant (coefficient : Coefficient)
  | named (term : Term)

namespace Entry

def coefficient : Entry → Coefficient
  | .constant coefficient => coefficient
  | .named term => term.coefficient

def chars : Entry → List Char
  | .constant coefficient => coefficient.chars
  | .named term => term.chars

/-- What a scan for terms leaves of an entry. -/
def blank : Entry → List Char
  | .constant coefficient => coefficient.chars
  | .named term => List.replicate term.chars.length ' '

def pieces : Entry → List (Piece TermText)
  | .constant coefficient => coefficient.chars.map .plain
  | .named term => [.found term.text term.chars.length]

def termText? : Entry → Option TermText
  | .constant _ => none
  | .named term => some term.text

def numberText? : Entry → Option (List Char)
  | .constant coefficient => some coefficient.constant.chars
  | .named _ => none

def IsSigned (entry : Entry) : Prop :=
  entry.coefficient.sign ≠ none

/-- Whether an entry is written with spaces only and can be read: a number has a digit, and no bare
point stands in front of a name.  Without digits the gap of the coefficient is the one before the
name. -/
def Legible : Entry → Prop
  | .constant coefficient => coefficient.gap.Spaced ∧ coefficient.digits ≠ []
  | .named term =>
      term.coefficient.gap.Spaced ∧ term.gap.Spaced ∧ ¬ term.coefficient.IsBare ∧
        (term.coefficient.body = [] → term.gap.chars = [])

variable {entry : Entry} {rest : List Char}

theorem findings_pieces (entry : Entry) (pieces : List (Piece TermText)) :
    findings (entry.pieces ++ pieces) = entry.termText?.toList ++ findings pieces := by
  cases entry with
  | constant coefficient => exact findings_plain_append _ _
  | named term => rfl

theorem blanked_pieces (entry : Entry) (pieces : List (Piece TermText)) :
    blanked (entry.pieces ++ pieces) = entry.blank ++ blanked pieces := by
  cases entry with
  | constant coefficient => exact blanked_plain_append _ _
  | named term => rfl

theorem scan_term_entry (legible : entry.Legible) (follows : Follows rest) :
    scan term (entry.chars ++ rest) = entry.pieces ++ scan term rest := by
  cases entry with
  | constant coefficient => exact scan_term_coefficient legible.1 follows.barren
  | named named =>
      obtain ⟨-, space, -, joined⟩ := legible
      exact named.scan_term space joined follows.not_word

theorem findings_number_entry (legible : entry.Legible) (follows : Follows rest) :
    findings (scan number (entry.blank ++ rest)) =
      entry.numberText?.toList ++ findings (scan number rest) := by
  cases entry with
  | constant coefficient =>
      exact Coefficient.findings_number_chars legible.1 legible.2 follows.clearOfDigits
  | named term =>
      exact findings_number_spaces (fun c member => List.eq_of_mem_replicate member)
        follows.clearOfNumbers

theorem IsSigned.atSign (signed : entry.IsSigned) (rest : List Char) :
    AtSign (entry.chars ++ rest) := by
  obtain ⟨sign, shape⟩ := Option.ne_none_iff_exists'.mp signed
  have front : entry.chars ++ rest = sign.char :: (entry.chars.tail ++ rest) := by
    cases entry with
    | constant coefficient =>
        have shape : coefficient.sign = some sign := shape
        simp [chars, Coefficient.chars, Coefficient.lead, Coefficient.front, shape]
    | named term =>
        have shape : term.coefficient.sign = some sign := shape
        simp [chars, Term.chars, Coefficient.chars, Coefficient.lead, Coefficient.front, shape]
  rw [front]
  rintro c head
  cases head
  cases sign
  · exact .inl rfl
  · exact .inr rfl

theorem IsSigned.blank_follows (signed : entry.IsSigned) (follows : Follows rest) :
    Follows (entry.blank ++ rest) := by
  cases entry with
  | constant coefficient => exact (signed.atSign rest).follows
  | named term => exact follows.append fun c member => List.eq_of_mem_replicate member

end Entry

/-! ## Rows of entries -/

/-- The text of entries, each with a gap before it, and of the gap behind them. -/
def entriesText (entries : List (Gap × Entry)) (trail : Gap) : List Char :=
  entries.flatMap (fun (gap, entry) => gap.chars ++ entry.chars) ++ trail.chars

/-- What a scan for terms leaves of it. -/
def entriesBlank (entries : List (Gap × Entry)) (trail : Gap) : List Char :=
  entries.flatMap (fun (gap, entry) => gap.chars ++ entry.blank) ++ trail.chars

/-- The gaps are spaces, the entries can be read, and each but the first has a sign.  The gap before
a first entry without a sign belongs to the entry. -/
structure Orderly (entries : List (Gap × Entry)) (trail : Gap) : Prop where
  spaced : ∀ placed ∈ entries, placed.1.Spaced
  legible : ∀ placed ∈ entries, placed.2.Legible
  first : ∀ placed ∈ entries.head?, placed.2.IsSigned ∨ placed.1.chars = []
  signed : ∀ placed ∈ entries.tail, placed.2.IsSigned
  trail : trail.Spaced

section Rows

variable {gap trail : Gap} {entry : Entry} {entries : List (Gap × Entry)}

theorem entriesText_cons (gap : Gap) (entry : Entry) (entries : List (Gap × Entry)) (trail : Gap) :
    entriesText ((gap, entry) :: entries) trail =
      gap.chars ++ (entry.chars ++ entriesText entries trail) := by
  simp [entriesText]

theorem entriesBlank_cons (gap : Gap) (entry : Entry) (entries : List (Gap × Entry)) (trail : Gap) :
    entriesBlank ((gap, entry) :: entries) trail =
      gap.chars ++ (entry.blank ++ entriesBlank entries trail) := by
  simp [entriesBlank]

theorem follows_of_spaced (space : trail.Spaced) : Follows trail.chars := by
  simpa using follows_nil.append space

namespace Orderly

theorem tail (orderly : Orderly ((gap, entry) :: entries) trail) : Orderly entries trail where
  spaced placed member := orderly.spaced placed (List.mem_cons_of_mem _ member)
  legible placed member := orderly.legible placed (List.mem_cons_of_mem _ member)
  first placed head := .inl (orderly.signed placed (List.mem_of_mem_head? head))
  signed placed member := orderly.signed placed (List.mem_of_mem_tail member)
  trail := orderly.trail

/-- Behind an entry the next one begins with its sign. -/
theorem follows (orderly : Orderly ((gap, entry) :: entries) trail) :
    Follows (entriesText entries trail) := by
  cases entries with
  | nil => exact follows_of_spaced orderly.trail
  | cons next others =>
      rw [entriesText_cons]
      exact (Entry.IsSigned.atSign (orderly.signed _ List.mem_cons_self) _).follows.append
        (orderly.tail.spaced _ List.mem_cons_self)

theorem blank_follows (orderly : Orderly ((gap, entry) :: entries) trail) :
    Follows (entriesBlank entries trail) := by
  induction entries generalizing gap entry with
  | nil => exact follows_of_spaced orderly.trail
  | cons next others induction =>
      rw [entriesBlank_cons]
      exact (Entry.IsSigned.blank_follows (orderly.signed _ List.mem_cons_self)
        (induction orderly.tail)).append (orderly.tail.spaced _ List.mem_cons_self)

theorem scan_term_cons (orderly : Orderly ((gap, entry) :: entries) trail) :
    scan term (entriesText ((gap, entry) :: entries) trail) =
      gap.chars.map Piece.plain ++ (entry.pieces ++ scan term (entriesText entries trail)) := by
  have read := Entry.scan_term_entry (orderly.legible _ List.mem_cons_self) orderly.follows
  rw [entriesText_cons]
  rcases orderly.first _ rfl with signed | empty
  · have atSign := signed.atSign (entriesText entries trail)
    have filler : ∀ c ∈ gap.chars, isFiller c = true :=
      forall_of_space (orderly.spaced _ List.mem_cons_self) (by decide)
    rw [scan_term_filler filler atSign.follows.barren, read]
  · have empty : gap.chars = [] := empty
    simpa [empty] using read

theorem findings_number_cons (orderly : Orderly ((gap, entry) :: entries) trail) :
    findings (scan number (entriesBlank ((gap, entry) :: entries) trail)) =
      entry.numberText?.toList ++ findings (scan number (entriesBlank entries trail)) := by
  have read := Entry.findings_number_entry (orderly.legible _ List.mem_cons_self)
    orderly.blank_follows
  rw [entriesBlank_cons]
  rcases orderly.first _ rfl with signed | empty
  · have follows := signed.blank_follows orderly.blank_follows
    rw [findings_number_spaces (orderly.spaced _ List.mem_cons_self) follows.clearOfNumbers, read]
  · have empty : gap.chars = [] := empty
    simpa [empty] using read

/-- A scan for terms finds the terms of a row and leaves spaces for them. -/
theorem scan_term (orderly : Orderly entries trail) :
    findings (scan Language.term (entriesText entries trail)) =
        entries.filterMap (fun placed => placed.2.termText?) ∧
      blanked (scan Language.term (entriesText entries trail)) = entriesBlank entries trail := by
  induction entries with
  | nil =>
      have filler : ∀ c ∈ trail.chars, isFiller c = true :=
        forall_of_space orderly.trail (by decide)
      have passed := scan_term_filler filler follows_nil.barren
      have ends : scan Language.term [] = [] := by rw [scan]
      rw [List.append_nil, ends] at passed
      have text : entriesText [] trail = trail.chars := rfl
      rw [text, passed, findings_plain_append, blanked_plain_append]
      exact ⟨rfl, List.append_nil _⟩
  | cons placed others induction =>
      obtain ⟨terms, blanks⟩ := induction orderly.tail
      rw [orderly.scan_term_cons, findings_plain_append, Entry.findings_pieces,
        blanked_plain_append, Entry.blanked_pieces, terms, blanks, entriesBlank_cons,
        List.filterMap_cons]
      refine ⟨?_, rfl⟩
      cases placed.2.termText? <;> rfl

theorem findings_number (orderly : Orderly entries trail) :
    findings (scan number (entriesBlank entries trail)) =
      entries.filterMap (fun placed => placed.2.numberText?) := by
  induction entries with
  | nil =>
      have passed := findings_number_spaces orderly.trail follows_nil.clearOfNumbers
      rw [List.append_nil] at passed
      exact passed.trans (by rw [scan]; rfl)
  | cons placed others induction =>
      rw [orderly.findings_number_cons, induction orderly.tail, List.filterMap_cons]
      cases placed.2.numberText? <;> rfl

end Orderly

/-! ## The sum that is read -/

section Values

variable {α : Type} [Scalar α]

/-- The name of an entry with its coefficient. -/
def Entry.term? : Entry → Option (String × α)
  | .constant _ => none
  | .named term => some (String.ofList term.name, term.coefficient.value)

/-- The number that an entry adds to the constant. -/
def Entry.constant? : Entry → Option α
  | .constant coefficient => some coefficient.constant.value
  | .named _ => none

theorem mapM_filterMap {β γ δ ε : Type} {text? : β → Option γ} {value? : β → Option δ}
    {read : γ → Except ε δ} {entries : List β}
    (each : ∀ entry ∈ entries, (text? entry).map read = (value? entry).map .ok) :
    (entries.filterMap text?).mapM read = .ok (entries.filterMap value?) := by
  induction entries with
  | nil => rfl
  | cons entry rest induction =>
      have here := each entry List.mem_cons_self
      have later := induction fun other member => each other (List.mem_cons_of_mem entry member)
      cases text : text? entry with
      | none =>
          have value : value? entry = none := by simpa [text] using here.symm
          rw [List.filterMap_cons_none text, List.filterMap_cons_none value, later]
      | some found =>
          obtain ⟨result, value, success⟩ : ∃ result, value? entry = some result ∧
              read found = .ok result := by
            cases value : value? entry with
            | none => simp [text, value] at here
            | some result => exact ⟨result, rfl, by simpa [text, value] using here⟩
          rw [List.filterMap_cons_some text, List.filterMap_cons_some value, List.mapM_cons,
            success, later]
          rfl

theorem Entry.Legible.readTerm {entry : Entry} (legible : entry.Legible) :
    entry.termText?.map Language.readTerm = (entry.term? : Option (String × α)).map .ok := by
  cases entry with
  | constant coefficient => rfl
  | named term =>
      obtain ⟨space, -, readable, -⟩ := legible
      simp only [termText?, term?, Option.map_some, Language.readTerm, Term.text,
        term.coefficient.readCoefficient_chars space readable, Except.map]

theorem Entry.Legible.readNumber {entry : Entry} (legible : entry.Legible) :
    entry.numberText?.map Language.readNumber = (entry.constant? : Option α).map .ok := by
  cases entry with
  | constant coefficient =>
      simp only [numberText?, constant?, Option.map_some, coefficient.constant.readNumber_chars
        (Coefficient.constant_spaced legible.1) (Coefficient.constant_digits legible.2)]
  | named term => rfl

/-- A row of entries is read as the sums of its terms, without the negligible ones, and the sum of
its numbers.  Stars between a coefficient and its name are left out first. -/
theorem Orderly.readExpression (orderly : Orderly entries trail) {text : List Char}
    (bare : text.filter (· != '*') = entriesText entries trail) :
    readExpression text =
      .ok
        { terms := (tally (entries.filterMap fun placed => placed.2.term?)).filter isRelevant
          constant :=
            (entries.filterMap fun placed => placed.2.constant?).foldl (· + ·) (0 : α) } := by
  obtain ⟨terms, blanks⟩ := orderly.scan_term
  have items := mapM_filterMap fun placed member =>
    (orderly.legible placed member).readTerm (α := α)
  have numbers := mapM_filterMap fun placed member =>
    (orderly.legible placed member).readNumber (α := α)
  rw [Language.readExpression]
  simp only [bare, terms, blanks, orderly.findings_number, sumTerms_nil, sumNumbers_eq, items,
    numbers]
  rfl

end Values

end Rows

end Grammar

end TableauSimplex
