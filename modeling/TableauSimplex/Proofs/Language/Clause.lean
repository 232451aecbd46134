import Mathlib.Data.List.TakeWhile
import TableauSimplex.Proofs.Language.Parts

/-!
# Reading segments

The parts of a list of names come together again in front of its bound.  Every segment is then
read as it is meant: a comparison is cut at its sign, and a list gives a statement for each name.
-/

set_option autoImplicit false

namespace TableauSimplex

open TableauSimplex.Text TableauSimplex.Language

namespace Language

/-! ## Cuts at a comparison -/

/-- Whether a character compares: none does in front of the sign of a comparison. -/
def isComparing (c : Char) : Bool :=
  c == '<' || c == '>' || c == '='

/-- Whether a character may stand in an expression. -/
def isInner (c : Char) : Bool :=
  c != ',' && !isComparing c

theorem isComparing_of_isInner {c : Char} (inner : isInner c = true) : isComparing c = false := by
  simpa [isInner] using (Bool.and_eq_true_iff.mp inner).2

theorem cutAtComparison_cons {c : Char} (other : isComparing c = false) (rest : List Char) :
    cutAtComparison (c :: rest) =
      (cutAtComparison rest).map fun (before, relation, after) =>
        (c :: before, relation, after) := by
  simp only [isComparing, Bool.or_eq_false_iff, beq_eq_false_iff_ne] at other
  obtain ⟨⟨less, greater⟩, equal⟩ := other
  rw [cutAtComparison] <;> simp [less, greater, equal]

theorem cutAtComparison_append {before : List Char} (other : ∀ c ∈ before, isComparing c = false)
    (rest : List Char) :
    cutAtComparison (before ++ rest) =
      (cutAtComparison rest).map fun (more, relation, after) =>
        (before ++ more, relation, after) := by
  induction before with
  | nil => simp
  | cons c more induction =>
      have later := induction fun d member => other d (List.mem_cons_of_mem c member)
      rw [List.cons_append, cutAtComparison_cons (other c List.mem_cons_self), later,
        Option.map_map]
      rfl

/-! ## Lists of names -/

theorem joinNames_singleton (part : List Char) : joinNames [part] = part :=
  List.intercalate_singleton

theorem joinNames_cons (name : List Char) {others : List (List Char)} (nonempty : others ≠ []) :
    joinNames (name :: others) = name ++ ',' :: ' ' :: joinNames others := by
  rw [joinNames, List.intercalate_cons_of_ne_nil nonempty, List.append_assoc]
  rfl

theorem splitOn_joinNames (first : List Char) (others : List (List Char))
    (free : ∀ part ∈ first :: others, ',' ∉ part) :
    (joinNames (first :: others)).splitOn ',' = first :: others.map (' ' :: ·) := by
  induction others generalizing first with
  | nil =>
      have alone := List.splitOn_eq_singleton (free first List.mem_cons_self)
      simpa [joinNames_singleton] using alone
  | cons second more induction =>
      have later := induction second fun part member =>
        free part (List.mem_cons_of_mem first member)
      rw [joinNames_cons first (List.cons_ne_nil second more), List.splitOn_append_cons_self,
        List.splitOn_eq_singleton (free first List.mem_cons_self),
        List.splitOn_cons_eq_if_modifyHead, later]
      rfl

theorem exists_cons_of_isName {part : List Char} (name : isName part = true) :
    ∃ c rest, part = c :: rest ∧ isNameStart c = true ∧ ∀ d ∈ rest, isWord d = true := by
  cases part with
  | nil => cases name
  | cons c rest =>
      rw [isName, takeName?] at name
      by_cases start : isNameStart c = true
      · rw [if_pos start] at name
        split at name
        · rename_i taken
          have left := (Prod.mk.inj (Option.some.inj taken)).2
          exact ⟨c, rest, rfl, start, List.dropWhile_eq_nil_iff.mp left⟩
        · cases name
      · rw [if_neg start] at name
        cases name

theorem isWord_of_isName {part : List Char} (name : isName part = true) :
    part ≠ [] ∧ ∀ c ∈ part, isWord c = true := by
  obtain ⟨c, rest, rfl, start, words⟩ := exists_cons_of_isName name
  refine ⟨List.cons_ne_nil c rest, List.forall_mem_cons.mpr ⟨?_, words⟩⟩
  exact isWord_of_identifier (identifier_of_isNameStart start)

/-- A name is taken where no word character stands behind it. -/
theorem takeName?_of_isName {part rest : List Char} (name : isName part = true)
    (stops : ∀ c ∈ rest.head?, isWord c = false) :
    takeName? (part ++ rest) = some (part, rest) := by
  obtain ⟨c, more, rfl, start, words⟩ := exists_cons_of_isName name
  exact Grammar.takeName?_append start words stops

theorem no_comma_of_isName {part : List Char} (name : isName part = true) : ',' ∉ part :=
  fun member => absurd ((isWord_of_isName name).2 ',' member) (by decide)

theorem isBlank_eq_false_of_isName {part : List Char} (name : isName part = true) :
    ∀ c ∈ part, isBlank c = false := by
  intro c member
  by_contra blank
  rw [Bool.not_eq_false] at blank
  have word := (isWord_of_isName name).2 c member
  rw [isWord_eq_false_of_isBlank blank] at word
  cases word

/-- Names and a closing part that are joined come apart again. -/
theorem boundedNames?_joinNames {names : List (List Char)} (nonempty : names ≠ [])
    (named : ∀ name ∈ names, isName name = true) {closing : List Char} (free : ',' ∉ closing) :
    boundedNames? (joinNames (names ++ [closing])) =
      (boundedName? (' ' :: closing)).map fun (name, relation, bound) =>
        (names ++ [name], relation, bound) := by
  obtain ⟨first, others, rfl⟩ := List.exists_cons_of_ne_nil nonempty
  have stripped : ∀ name ∈ first :: others, strip name = name ∧ strip (' ' :: name) = name := by
    intro name member
    have outside := isBlank_eq_false_of_isName (named name member)
    have present := (isWord_of_isName (named name member)).1
    have tight := strip_eq_self (starts_of_forall present outside)
      (ends_of_forall present outside)
    have space : ∀ c ∈ [' '], isBlank c = true := by decide
    exact ⟨tight, (strip_append_of_blank space name).trans tight⟩
  have apart : ∀ part ∈ first :: (others ++ [closing]), ',' ∉ part := by
    intro part member
    simp only [List.mem_cons, List.mem_append, List.not_mem_nil, or_false] at member
    rcases member with rfl | member | rfl
    · exact no_comma_of_isName (named _ List.mem_cons_self)
    · exact no_comma_of_isName (named _ (List.mem_cons_of_mem _ member))
    · exact free
  -- The pieces in front of the last one, with the space that joining has put before each.
  let front := first :: others.map (' ' :: ·)
  have names : front.map strip = first :: others := by
    have own : strip first = first := (stripped first List.mem_cons_self).1
    have later : others.map (strip ∘ (' ' :: ·)) = others := by
      conv_rhs => rw [← List.map_id others]
      exact List.map_congr_left fun name member =>
        (stripped name (List.mem_cons_of_mem first member)).2
    simp only [front, List.map_cons, List.map_map, own, later]
  have pieces : ((joinNames (first :: others ++ [closing])).splitOn ',').reverse =
      (' ' :: closing) :: front.reverse := by
    rw [List.cons_append, splitOn_joinNames _ _ apart]
    simp [front]
  obtain ⟨before, earlier, reversed⟩ : ∃ before earlier, front.reverse = before :: earlier :=
    List.exists_cons_of_ne_nil (by simp [front])
  have joined : ((before :: earlier).map strip).reverse = first :: others := by
    rw [← reversed, ← List.map_reverse, List.reverse_reverse, names]
  have all : (first :: others).all isName = true := List.all_eq_true.mpr named
  rw [boundedNames?, pieces, reversed]
  simp only [joined, all, if_true]
  cases boundedName? (' ' :: closing) <;> rfl

/-- What holds a comparison sign is no name. -/
theorem isName_eq_false {part : List Char} (compared : '=' ∈ part) : isName part = false := by
  have outside : isNameStart '=' = false ∧ isWord '=' = false := by decide
  cases part with
  | nil => rfl
  | cons c rest =>
      rw [isName, takeName?]
      by_cases start : isNameStart c = true
      · have later : '=' ∈ rest := by
          rcases List.mem_cons.mp compared with rfl | later
          · rw [outside.1] at start
            cases start
          · exact later
        have left : rest.dropWhile isWord ≠ [] := by
          rw [Ne, List.dropWhile_eq_nil_iff]
          intro all
          have word := all '=' later
          rw [outside.2] at word
          cases word
        rw [if_pos start]
        split
        · rename_i empty
          exact absurd (Prod.mk.inj (Option.some.inj empty)).2 left
        · rfl
      · rw [if_neg start]

end Language

namespace Grammar

/-! ## The characters of an expression -/

theorem isInner_of_isDigit {c : Char} (digit : isDigit c = true) : isInner c = true := by
  have other (d : Char) (outside : isDigit d = false) : c ≠ d := ne_of_isDigit digit outside
  simp [isInner, isComparing, other ',' (by decide), other '<' (by decide),
    other '>' (by decide), other '=' (by decide)]

theorem isInner_of_isWord {c : Char} (word : isWord c = true) : isInner c = true := by
  have other (d : Char) (outside : isWord d = false) : c ≠ d := by
    rintro rfl
    rw [word] at outside
    cases outside
  simp [isInner, isComparing, other ',' (by decide), other '<' (by decide),
    other '>' (by decide), other '=' (by decide)]

theorem Figure.isInner (figure : Figure) : ∀ c ∈ figure.chars, isInner c = true := by
  intro c member
  rcases figure.mem_chars member with digit | rfl
  · exact isInner_of_isDigit digit
  · decide

theorem Name.isInner (name : Name) : ∀ c ∈ name.chars, isInner c = true :=
  fun c member => isInner_of_isWord (name.isWord c member)

theorem Gap.isInner (gap : Gap) : ∀ c ∈ gap.squeezed, isInner c = true :=
  forall_of_space gap.space_squeezed (by decide)

theorem signText_isInner (sign : Option (Sign × Gap)) :
    ∀ c ∈ signText Gap.squeezed sign, isInner c = true := by
  cases sign with
  | none => simp [signText]
  | some signed =>
      refine List.forall_mem_cons.mpr ⟨?_, signed.2.isInner⟩
      cases signed.1 <;> decide

theorem Item.isInner (item : Item) : ∀ c ∈ item.text Gap.squeezed, isInner c = true := by
  cases item with
  | constant figure => exact figure.isInner
  | unit name => exact name.isInner
  | multiple figure before star name =>
      cases star with
      | none =>
          simp only [Item.text, List.forall_mem_append]
          exact ⟨⟨figure.isInner, before.isInner⟩, name.isInner⟩
      | some after =>
          simp only [Item.text, List.forall_mem_append, List.forall_mem_cons]
          exact ⟨⟨⟨figure.isInner, before.isInner⟩, by decide, after.isInner⟩, name.isInner⟩

theorem Addend.isInner (addend : Addend) :
    ∀ c ∈ addend.text Gap.squeezed, Language.isInner c = true :=
  List.forall_mem_append.mpr ⟨signText_isInner addend.sign, addend.item.isInner⟩

theorem Expression.isInner (expression : Expression) :
    ∀ c ∈ expression.text Gap.squeezed, isInner c = true := by
  refine List.forall_mem_append.mpr ⟨expression.first.isInner, fun c member => ?_⟩
  obtain ⟨continuation, -, inside⟩ := List.mem_flatMap.mp member
  rcases List.mem_append.mp inside with gap | addend
  · exact continuation.before.isInner c gap
  · exact continuation.addend.isInner c addend

theorem targetText_isInner (sign : Option Sign) (figure : Figure) :
    ∀ c ∈ targetText sign figure, isInner c = true := by
  cases sign with
  | none => exact figure.isInner
  | some sign =>
      refine List.forall_mem_cons.mpr ⟨?_, figure.isInner⟩
      cases sign <;> decide

theorem Comparator.no_comma (comparator : Comparator) : ',' ∉ comparator.chars := by
  cases comparator with
  | inequality kind => cases kind <;> decide
  | equal => decide
  | doubled => decide

theorem Comparator.equal_mem (comparator : Comparator) : '=' ∈ comparator.chars := by
  cases comparator with
  | inequality kind => cases kind <;> decide
  | equal => decide
  | doubled => decide

theorem no_comma_of_isInner {text : List Char} (inner : ∀ c ∈ text, isInner c = true) :
    ',' ∉ text := fun member => absurd (inner ',' member) (by decide)

/-- A text that is compared has no comma and is no name. -/
theorem compared_chars {text target : List Char} (inner : ∀ c ∈ text, isInner c = true)
    (before after : Gap) (comparator : Comparator) (free : ',' ∉ target) :
    ',' ∉ text ++ before.squeezed ++ comparator.chars ++ after.squeezed ++ target ∧
      isName (text ++ before.squeezed ++ comparator.chars ++ after.squeezed ++ target) =
        false := by
  constructor
  · simp only [List.mem_append, not_or]
    exact ⟨⟨⟨⟨no_comma_of_isInner inner, no_comma_of_isInner before.isInner⟩,
      comparator.no_comma⟩, no_comma_of_isInner after.isInner⟩, free⟩
  · apply isName_eq_false
    simp [comparator.equal_mem]

theorem Comparison.chars (comparison : Comparison) :
    ',' ∉ comparison.text Gap.squeezed ∧ isName (comparison.text Gap.squeezed) = false :=
  compared_chars comparison.expression.isInner comparison.before comparison.after
    comparison.comparator (no_comma_of_isInner (targetText_isInner _ _))

theorem Bounds.closing_chars (bounds : Bounds) :
    ',' ∉ bounds.closing Gap.squeezed ∧ isName (bounds.closing Gap.squeezed) = false :=
  compared_chars bounds.last.isInner bounds.before bounds.after (.inequality bounds.inequality)
    (no_comma_of_isInner (targetText_isInner _ _))

/-! ## Segments of parts -/

theorem Name.isName (name : Name) : isName name.chars = true := by
  have stops : ∀ c ∈ ([] : List Char).head?, Text.isWord c = false := by rintro c ⟨⟩
  have words : ∀ c ∈ name.rest, Text.isWord c = true := fun c member =>
    name.isWord c (List.mem_cons_of_mem _ member)
  have taken := takeName?_append name.first_start words stops
  rw [List.append_nil] at taken
  rw [Language.isName, Name.chars, taken]

theorem Bounds.isName (bounds : Bounds) :
    ∀ name ∈ bounds.first.1.chars :: bounds.others.map (fun entry => entry.1.chars),
      Language.isName name = true := by
  refine List.forall_mem_cons.mpr ⟨bounds.first.1.isName, fun name member => ?_⟩
  obtain ⟨entry, -, rfl⟩ := List.mem_map.mp member
  exact entry.1.isName

/-- The text of a segment once its names are joined again. -/
def Segment.joined : Segment → List Char
  | .compare comparison => comparison.text Gap.squeezed
  | .list bounds =>
      joinNames (bounds.first.1.chars :: bounds.others.map (fun entry => entry.1.chars)
        ++ [bounds.closing Gap.squeezed])

/-- Names wait for the part that closes their list. -/
theorem segments_names (waiting : List (List Char)) {names : List (List Char)}
    (named : ∀ name ∈ names, isName name = true) {closing : List Char}
    (closes : isName closing = false) (rest : List (List Char)) :
    Language.segments waiting (names ++ closing :: rest) =
      (joinNames (waiting ++ names ++ [closing]) :: (Language.segments [] rest).1,
        (Language.segments [] rest).2) := by
  induction names generalizing waiting with
  | nil =>
      rw [List.nil_append, Language.segments, closes, List.append_nil]
      rfl
  | cons name more induction =>
      rw [List.cons_append, Language.segments, named name List.mem_cons_self, if_pos rfl,
        induction _ fun other member => named other (List.mem_cons_of_mem name member)]
      simp only [List.append_assoc, List.cons_append, List.nil_append]

/-- Parts that are no names are segments of their own. -/
theorem segments_apart {parts : List (List Char)} (closed : ∀ part ∈ parts, isName part = false) :
    Language.segments [] parts = (parts, []) := by
  induction parts with
  | nil => rfl
  | cons part more induction =>
      have later := induction fun other member => closed other (List.mem_cons_of_mem part member)
      have single := segments_names [] (List.forall_mem_nil _) (closed part List.mem_cons_self) more
      rw [later] at single
      refine single.trans ?_
      simp [joinNames_singleton]

theorem segments_parts (segments : List Segment) :
    Language.segments [] (segments.flatMap Segment.parts) =
      (segments.map Segment.joined, []) := by
  induction segments with
  | nil => rfl
  | cons segment rest induction =>
      rw [List.flatMap_cons]
      cases segment with
      | compare comparison =>
          have single := segments_names [] (List.forall_mem_nil _) comparison.chars.2
            (rest.flatMap Segment.parts)
          rw [induction] at single
          refine single.trans ?_
          simp [Segment.joined, joinNames_singleton, Comparison.text]
      | list bounds =>
          -- The names wait until the part with the sign closes them.
          have several := segments_names [] bounds.isName bounds.closing_chars.2
            (rest.flatMap Segment.parts)
          rw [induction] at several
          simpa [Segment.parts, Segment.joined, Bounds.closing, Comparator.chars,
            Function.comp_def] using several

/-! ## Reading a segment -/

/-- No second sign may stand behind a comparison sign. -/
theorem Comparator.cutAtComparison (comparator : Comparator) {rest : List Char}
    (single : ∀ c ∈ rest.head?, c ≠ '=') :
    cutAtComparison (comparator.chars ++ rest) = some ([], comparator.relation, rest) := by
  cases comparator with
  | inequality kind => cases kind <;> rfl
  | doubled => rfl
  | equal =>
      cases rest with
      | nil => rfl
      | cons c more =>
          have different := single c rfl
          change Language.cutAtComparison ('=' :: c :: more) = some ([], .equal, c :: more)
          rw [Language.cutAtComparison]
          simpa using different

/-- The comparison is found, and the texts on its two sides. -/
theorem cutAtComparison_compared {text target : List Char}
    (outside : ∀ c ∈ text, isComparing c = false) (before after : Gap) (comparator : Comparator)
    (single : ∀ c ∈ target.head?, c ≠ '=') :
    cutAtComparison
        (text ++ before.squeezed ++ comparator.chars ++ after.squeezed ++ target) =
      some (text ++ before.squeezed, comparator.relation, after.squeezed ++ target) := by
  have singleGap : ∀ c ∈ (after.squeezed ++ target).head?, c ≠ '=' := by
    cases shape : after.squeezed with
    | nil => exact single
    | cons c more =>
        rintro d head rfl
        cases head
        have space := after.space_squeezed '=' (by rw [shape]; exact List.mem_cons_self)
        exact absurd space (by decide)
  have gapOutside : ∀ c ∈ before.squeezed, isComparing c = false := fun c member =>
    isComparing_of_isInner (before.isInner c member)
  have passed := cutAtComparison_append (List.forall_mem_append.mpr ⟨outside, gapOutside⟩)
    (comparator.chars ++ (after.squeezed ++ target))
  rw [comparator.cutAtComparison singleGap, Option.map_some] at passed
  simpa using passed

theorem strip_behind (gap : Gap) {text : List Char} (starts : Starts isBlank text)
    (ends : Ends isBlank text) : strip (text ++ gap.squeezed) = text := by
  have stripped := stripBoth_append [] gap.squeezed (by simp) gap.blank_squeezed starts ends
  rwa [List.nil_append] at stripped

theorem strip_before (gap : Gap) {text : List Char} (starts : Starts isBlank text)
    (ends : Ends isBlank text) : strip (gap.squeezed ++ text) = text := by
  rw [strip_append_of_blank gap.blank_squeezed, strip_eq_self starts ends]

section Reading

variable {α : Type} [Scalar α]

/-- The statement that a comparison makes. -/
def Comparison.statement (comparison : Comparison) : Statement α where
  terms := (tally comparison.expression.terms).filter isRelevant
  relation := comparison.comparator.relation
  target := comparison.figure.value comparison.sign - comparison.expression.constant

/-- The statement that a list of names makes for one of them. -/
def Bounds.statement (bounds : Bounds) (name : Name) : Statement α where
  terms := [(name.string, 1)]
  relation := bounds.inequality.relation
  target := bounds.figure.value (if bounds.negative then some .minus else none)

def Segment.statements : Segment → List (Statement α)
  | .compare comparison => [comparison.statement]
  | .list bounds => bounds.names.map bounds.statement

/-- The names of the relevant terms are those that an expression uses. -/
theorem Expression.names_relevant (expression : Expression) :
    ((tally (expression.terms : List (String × α))).filter isRelevant).map Prod.fst =
      expression.used α := by
  rw [tally, List.filter_map, List.map_map, Expression.used]
  exact List.map_id' _

theorem boundedNames?_of_no_comma {segment : List Char} (free : ',' ∉ segment) :
    boundedNames? segment = none := by
  rw [boundedNames?, List.splitOn_eq_singleton free]
  rfl

theorem Comparison.cutAtComparison (comparison : Comparison) :
    cutAtComparison (comparison.text Gap.squeezed) =
      some (comparison.expression.text Gap.squeezed ++ comparison.before.squeezed,
        comparison.comparator.relation,
        comparison.after.squeezed ++ targetText comparison.sign comparison.figure) := by
  have outside : ∀ c ∈ comparison.expression.text Gap.squeezed, isComparing c = false :=
    fun c member => isComparing_of_isInner (comparison.expression.isInner c member)
  have single : ∀ c ∈ (targetText comparison.sign comparison.figure).head?, c ≠ '=' := by
    rintro c head rfl
    have inner := targetText_isInner _ _ '=' (List.mem_of_mem_head? head)
    exact absurd inner (by decide)
  exact cutAtComparison_compared outside comparison.before comparison.after comparison.comparator
    single

theorem Comparison.readComparison (comparison : Comparison) (segment : String) :
    readComparison (α := α) segment (comparison.expression.text Gap.squeezed)
        comparison.comparator.relation (targetText comparison.sign comparison.figure) =
      if comparison.expression.used α = [] then .error (.noVariables segment)
      else .ok comparison.statement := by
  have written : (comparison.expression.text Gap.squeezed).isEmpty = false ∧
      (targetText comparison.sign comparison.figure).isEmpty = false := by
    simpa using ⟨(comparison.expression.starts Gap.squeezed).ne_nil,
      (targetText_starts comparison.sign comparison.figure).ne_nil⟩
  have speaks : ((tally (comparison.expression.terms : List (String × α))).filter
      isRelevant).isEmpty = decide (comparison.expression.used α = []) := by
    rw [← comparison.expression.names_relevant, Bool.eq_iff_iff]
    simp
  simp only [Language.readComparison, written.1, written.2, readExpression_text, speaks,
    number?_targetText, decide_eq_true_eq]
  rfl

/-- A comparison is turned away if it uses no variable. -/
theorem Comparison.readSegment (comparison : Comparison) :
    readSegment (α := α) (comparison.text Gap.squeezed) =
      if comparison.expression.used α = [] then
        .error (.noVariables (String.ofList (comparison.text Gap.squeezed)))
      else .ok [comparison.statement] := by
  have none : boundedNames? (comparison.text Gap.squeezed) = none :=
    boundedNames?_of_no_comma comparison.chars.1
  have left := strip_behind comparison.before
    (comparison.expression.starts Gap.squeezed) (comparison.expression.ends Gap.squeezed)
  have right := strip_before comparison.after
    (targetText_starts comparison.sign comparison.figure)
    (targetText_ends comparison.sign comparison.figure)
  simp only [Language.readSegment, none, comparison.cutAtComparison, left, right,
    comparison.readComparison]
  split <;> rfl

/-! ## Reading a list of names -/

theorem Inequality.takeInequality? (inequality : Inequality) (rest : List Char) :
    takeInequality? (inequality.chars ++ rest) = some (inequality.relation, rest) := by
  cases inequality <;> rfl

/-- Behind a space a name with a bound is looked for in what stands behind the name. -/
theorem boundedName?_name {name rest : List Char} (named : isName name = true)
    (stops : ∀ c ∈ rest.head?, isWord c = false) :
    boundedName? (' ' :: (name ++ rest)) =
      (takeInequality? (rest.dropWhile isBlank)).bind fun (relation, after) =>
        if isBound (after.dropWhile isBlank) then
          some (name, relation, after.dropWhile isBlank)
        else none := by
  have atName : ∀ c ∈ (name ++ rest).head?, isBlank c = false := by
    obtain ⟨c, more, rfl⟩ := List.exists_cons_of_ne_nil (isWord_of_isName named).1
    rintro d head
    cases head
    exact isBlank_eq_false_of_isName named c List.mem_cons_self
  have space : ∀ c ∈ [' '], isBlank c = true := by decide
  rw [← List.singleton_append, boundedName?, dropWhile_append_of_head space atName,
    takeName?_of_isName named stops]
  rfl

theorem dropWhile_gap (gap : Gap) {text : List Char} (starts : Starts isBlank text) :
    (gap.squeezed ++ text).dropWhile isBlank = text := by
  obtain ⟨c, rest, rfl, outside⟩ := starts
  refine dropWhile_append_of_head gap.blank_squeezed ?_
  rintro d head
  cases head
  exact outside

/-- The part that closes a list is a name with a bound. -/
theorem boundedName?_closing {last : List Char} (named : isName last = true) (before after : Gap)
    (inequality : Inequality) {target : List Char} (starts : Starts isBlank target)
    (bound : isBound target = true) :
    boundedName? (' ' :: (last ++ (before.squeezed ++ (inequality.chars
        ++ (after.squeezed ++ target))))) =
      some (last, inequality.relation, target) := by
  have signStarts : Starts isBlank inequality.chars := by
    cases inequality <;> exact ⟨_, _, rfl, by decide⟩
  have boundary : Boundary (before.squeezed ++ (inequality.chars ++ (after.squeezed ++ target))) :=
    (Comparator.inequality inequality).boundary before _
  rw [boundedName?_name named boundary.not_word, dropWhile_gap before (signStarts.append _),
    inequality.takeInequality?, Option.bind_some]
  dsimp only
  rw [dropWhile_gap after starts, if_pos bound]

theorem Bounds.boundedName? (bounds : Bounds) :
    boundedName? (' ' :: bounds.closing Gap.squeezed) =
      some (bounds.last.chars, bounds.inequality.relation,
        targetText (if bounds.negative then some .minus else none) bounds.figure) := by
  have closing := boundedName?_closing bounds.last.isName bounds.before bounds.after
    bounds.inequality (targetText_starts _ _) (isBound_targetText bounds.negative bounds.figure)
  simpa only [Bounds.closing, List.append_assoc] using closing

/-- Two names or more and a bound are read as a list. -/
theorem Bounds.boundedNames? (bounds : Bounds) :
    boundedNames? (Segment.joined (.list bounds)) =
      some (bounds.names.map Name.chars, bounds.inequality.relation,
        targetText (if bounds.negative then some .minus else none) bounds.figure) := by
  rw [Segment.joined,
    boundedNames?_joinNames (List.cons_ne_nil _ _) bounds.isName bounds.closing_chars.1,
    bounds.boundedName?]
  simp [Bounds.names]

theorem Bounds.readSegment (bounds : Bounds) :
    readSegment (Segment.joined (.list bounds)) =
      .ok (bounds.names.map (bounds.statement : Name → Statement α)) := by
  simp only [Language.readSegment, bounds.boundedNames?, readNumber_targetText, List.map_map]
  rfl

theorem Segment.readSegment {segment : Segment} (speaks : segment.Speaks α) :
    readSegment segment.joined = .ok (segment.statements : List (Statement α)) := by
  cases segment with
  | compare comparison => exact comparison.readSegment.trans (if_neg speaks)
  | list bounds => exact bounds.readSegment

theorem Segment.speaks_of_readSegment {segment : Segment} {statements : List (Statement α)}
    (read : Language.readSegment segment.joined = .ok statements) : segment.Speaks α := by
  cases segment with
  | compare comparison =>
      intro silent
      have refused := comparison.readSegment (α := α)
      rw [if_pos silent] at refused
      cases refused.symm.trans read
  | list bounds => trivial

theorem readSegments_joined {segments : List Segment}
    (speaks : ∀ segment ∈ segments, segment.Speaks α) :
    readSegments (segments.map Segment.joined) =
      .ok (segments.flatMap (Segment.statements : Segment → List (Statement α))) := by
  induction segments with
  | nil => rfl
  | cons segment rest induction =>
      have first := Segment.readSegment (speaks segment List.mem_cons_self)
      have later := induction fun other member => speaks other (List.mem_cons_of_mem segment member)
      rw [List.map_cons, readSegments, first, later]
      rfl

theorem speaks_of_readSegments {segments : List Segment} {statements : List (Statement α)}
    (read : readSegments (segments.map Segment.joined) = .ok statements) :
    ∀ segment ∈ segments, segment.Speaks α := by
  induction segments generalizing statements with
  | nil => exact List.forall_mem_nil _
  | cons segment rest induction =>
      rw [List.map_cons, readSegments] at read
      cases first : Language.readSegment (α := α) segment.joined with
      | error error =>
          rw [first] at read
          cases read
      | ok found =>
          cases others : readSegments (α := α) (rest.map Segment.joined) with
          | error error =>
              rw [first, others] at read
              cases read
          | ok later =>
              exact List.forall_mem_cons.mpr
                ⟨Segment.speaks_of_readSegment first, induction others⟩

end Reading

end Grammar

end TableauSimplex
