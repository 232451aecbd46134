import TableauSimplex.Proofs.Language.Clause
import TableauSimplex.Proofs.Language.Stray

/-!
# Names as summands

A text in which names stand alone is read as their sum.  It makes no difference whether a plus or a
comma stands between two names: a comma keeps them apart and means nothing.
-/

set_option autoImplicit false

namespace TableauSimplex

open TableauSimplex.Text TableauSimplex.Language

namespace Language

/-! ## A name without a number -/

theorem scan_term_unit (sign : Option Grammar.Sign) {lead name rest : List Char}
    (space : ∀ c ∈ lead, c = ' ') (named : isName name = true)
    (stops : ∀ c ∈ rest.head?, isWord c = false) :
    let coefficient := (sign.map Grammar.Sign.char).toList ++ lead
    scan term (coefficient ++ (name ++ rest)) =
      .found { coefficient, name } (coefficient ++ name).length :: scan term rest := by
  obtain ⟨c, more, rfl, start, words⟩ := exists_cons_of_isName named
  let unit : Grammar.Term :=
    { coefficient := .bare sign ⟨lead, Grammar.forall_of_space space (by decide)⟩
      gap := Grammar.noGap
      first := c
      others := more
      first_start := start
      others_word := words }
  have scanned := unit.scan_term Grammar.spaced_noGap (fun _ => rfl) stops
  simpa [unit, Grammar.Term.chars, Grammar.Term.text, Grammar.Term.name, Grammar.noGap,
    Grammar.Coefficient.bare, Grammar.Coefficient.chars, Grammar.Coefficient.lead,
    Grammar.Coefficient.front, Grammar.Coefficient.body] using scanned

/-! ## Names that are added -/

/-- Names with a plus in front of each. -/
def added (names : List (List Char)) : List Char :=
  names.flatMap fun name => ' ' :: '+' :: ' ' :: name

theorem added_not_word (names : List (List Char)) :
    ∀ c ∈ (added names).head?, isWord c = false := by
  cases names with
  | nil => rintro c ⟨⟩
  | cons name more =>
      rintro c head
      cases head
      decide

theorem scan_term_added_cons {name : List Char} (named : isName name = true)
    (others : List (List Char)) :
    scan term (added (name :: others)) =
      .plain ' ' :: .found { coefficient := ['+', ' '], name } (['+', ' '] ++ name).length
        :: scan term (added others) := by
  have space : ∀ c ∈ [' '], c = ' ' := by simp
  have passed : scan term ([' '] ++ '+' :: ' ' :: (name ++ added others)) =
      .plain ' ' :: scan term ('+' :: ' ' :: (name ++ added others)) := by
    have atSign : Grammar.AtSign ('+' :: ' ' :: (name ++ added others)) := by
      rintro c head
      cases head
      exact .inl rfl
    exact Grammar.scan_term_filler (by decide) atSign.follows.barren
  have taken := scan_term_unit (some .plus) space named (added_not_word others)
  rw [List.singleton_append] at passed
  exact passed.trans (congrArg (Piece.plain ' ' :: ·) taken)

theorem scan_term_added {names : List (List Char)} (named : ∀ name ∈ names, isName name = true) :
    findings (scan term (added names)) =
        names.map (fun name => { coefficient := ['+', ' '], name }) ∧
      ∀ c ∈ blanked (scan term (added names)), c = ' ' := by
  induction names with
  | nil =>
      rw [added, List.flatMap_nil, scan]
      exact ⟨rfl, List.forall_mem_nil _⟩
  | cons name others induction =>
      obtain ⟨terms, blank⟩ := induction fun other member =>
        named other (List.mem_cons_of_mem name member)
      rw [scan_term_added_cons (named name List.mem_cons_self)]
      refine ⟨congrArg (_ :: ·) terms, ?_⟩
      change ∀ c ∈ ' ' :: (List.replicate (['+', ' '] ++ name).length ' '
        ++ blanked (scan term (added others))), c = ' '
      refine List.forall_mem_cons.mpr ⟨rfl, List.forall_mem_append.mpr ⟨?_, blank⟩⟩
      exact fun c member => List.eq_of_mem_replicate member

/-! ## Texts that spell names -/

/-- What is found is the given names, each with a coefficient that stands for one. -/
structure Units (found : Found) (names : List (List Char)) : Prop where
  names : found.terms.map TermText.name = names
  units : ∀ term ∈ found.terms, term.coefficient.filter (· != ' ') ∈ [[], ['+']]
  numbers : found.numbers = []

theorem Units.append {first second : Found} {names others : List (List Char)}
    (firstUnits : Units first names) (secondUnits : Units second others) :
    Units (first ++ second) (names ++ others) where
  names := by
    rw [← firstUnits.names, ← secondUnits.names, ← List.map_append]
    rfl
  units := List.forall_mem_append.mpr ⟨firstUnits.units, secondUnits.units⟩
  numbers := List.append_eq_nil_iff.mpr ⟨firstUnits.numbers, secondUnits.numbers⟩

/-- A text holds the given names and nothing else that is found, also behind spaces. -/
def Spells (text : List Char) (names : List (List Char)) : Prop :=
  ∀ lead, (∀ c ∈ lead, c = ' ') → Units (found (lead ++ text)) names

theorem Spells.comma {first second : List Char} {names others : List (List Char)}
    (firstSpells : Spells first names) (secondSpells : Spells second others) :
    Spells (first ++ ',' :: ' ' :: second) (names ++ others) := by
  intro lead space
  have stray : Stray ',' := by constructor <;> decide
  rw [← List.append_assoc, stray.found_append_cons]
  exact (firstSpells lead space).append (secondSpells [' '] (by simp))

theorem spells_sum {first : List Char} {others : List (List Char)}
    (named : ∀ name ∈ first :: others, isName name = true) :
    Spells (first ++ added others) (first :: others) := by
  intro lead space
  obtain ⟨firstNamed, othersNamed⟩ := List.forall_mem_cons.mp named
  obtain ⟨terms, blank⟩ := scan_term_added othersNamed
  have scanned := scan_term_unit none space firstNamed (added_not_word others)
  simp only [Option.map_none, Option.toList_none, List.nil_append] at scanned
  have noStar : ∀ c ∈ lead ++ (first ++ added others), c ≠ '*' := by
    have word {name : List Char} (named : isName name = true) : ∀ c ∈ name, c ≠ '*' := by
      rintro c member rfl
      exact absurd ((isWord_of_isName named).2 '*' member) (by decide)
    simp only [added, List.forall_mem_append, List.mem_flatMap, forall_exists_index, and_imp]
    refine ⟨Grammar.forall_of_space space (by decide), word firstNamed, ?_⟩
    intro c name member inside
    simp only [List.mem_cons] at inside
    rcases inside with rfl | rfl | rfl | inside
    · decide
    · decide
    · decide
    · exact word (othersNamed name member) c inside
  have spaces : ∀ c ∈ blanked (scan term (lead ++ (first ++ added others))), c = ' ' := by
    rw [scanned]
    exact List.forall_mem_append.mpr ⟨fun c member => List.eq_of_mem_replicate member, blank⟩
  have numbers : findings (scan number (blanked (scan term (lead ++ (first ++ added others))))) =
      [] := by
    have none := Grammar.findings_number_spaces spaces Grammar.follows_nil.clearOfNumbers
    rw [List.append_nil] at none
    rw [none, scan]
    rfl
  have found_eq : found (lead ++ (first ++ added others)) =
      { terms := { coefficient := lead, name := first }
          :: others.map fun name => { coefficient := ['+', ' '], name }
        numbers := [] } := by
    rw [found, Grammar.filter_star noStar]
    refine congrArg₂ Found.mk ?_ numbers
    rw [scanned]
    exact congrArg (_ :: ·) terms
  rw [found_eq]
  exact ⟨by simp [Function.comp_def], by simpa using .inl space, rfl⟩

/-- Names joined by commas in front of a text are found besides what is found in the text. -/
theorem spells_joinNames {names : List (List Char)} (named : ∀ name ∈ names, isName name = true)
    {last : List Char} {others : List (List Char)} (spells : Spells last others) :
    Spells (joinNames (names ++ [last])) (names ++ others) := by
  induction names with
  | nil => simpa [joinNames_singleton] using spells
  | cons name more induction =>
      have first : Spells (name ++ added []) [name] :=
        spells_sum (List.forall_mem_singleton.mpr (named name List.mem_cons_self))
      rw [added, List.flatMap_nil, List.append_nil] at first
      have later := induction fun other member => named other (List.mem_cons_of_mem name member)
      rw [List.cons_append, joinNames_cons name (by simp)]
      exact first.comma later

/-! ## The sum that is read -/

section Reading

variable {α : Type} [Scalar α]

/-- The coefficients after one has been added for each of the names. -/
def addUnits (names : List (List Char)) (sums : List (String × α)) : List (String × α) :=
  names.foldl (fun sums name => addTerm (String.ofList name) 1 sums) sums

theorem readCoefficient_unit {text : List Char}
    (unit : text.filter (· != ' ') ∈ [[], ['+']]) :
    (readCoefficient text : Except NumberError α) = .ok 1 := by
  simp only [List.mem_cons, List.not_mem_nil, or_false] at unit
  rcases unit with empty | plus
  · rw [readCoefficient, empty]
  · rw [readCoefficient, plus]
    rfl

theorem sumTerms_units {terms : List TermText}
    (units : ∀ term ∈ terms, term.coefficient.filter (· != ' ') ∈ [[], ['+']])
    (sums : List (String × α)) :
    sumTerms terms sums = .ok (addUnits (terms.map TermText.name) sums) := by
  induction terms generalizing sums with
  | nil => rfl
  | cons term more induction =>
      rw [sumTerms, readCoefficient_unit (units term List.mem_cons_self)]
      exact induction (fun other member => units other (List.mem_cons_of_mem term member)) _

theorem Spells.readExpression {text : List Char} {names : List (List Char)}
    (spells : Spells text names) :
    readExpression text =
      .ok { terms := (addUnits names []).filter isRelevant, constant := (0 : α) } := by
  have units := spells [] (List.forall_mem_nil _)
  rw [List.nil_append] at units
  rw [readExpression_eq_read, Found.read, sumTerms_units units.units, units.names, units.numbers]
  rfl

end Reading

end Language

end TableauSimplex
