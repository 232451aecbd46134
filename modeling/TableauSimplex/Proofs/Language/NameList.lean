import TableauSimplex.Proofs.Language.Meaning
import TableauSimplex.Proofs.Language.Place
import TableauSimplex.Proofs.Language.Summand
import TableauSimplex.Proofs.Language.Target
import TableauSimplex.Proofs.Machine
import TableauSimplex.Proofs.Solver.Run

/-!
# Lists of names

In front of an inequality and a plain number a list of names gives each of them that bound.  In
front of anything else, an equality or a number that is not just digits with a minus and a point,
the pattern for lists does not apply, and the list is read as the sum of its names.
-/

set_option autoImplicit false

namespace TableauSimplex

open TableauSimplex.Text TableauSimplex.Language

namespace Grammar

/-! ## Names of any script -/

/-- A name as the reader takes it, other than the word that separates constraints. -/
structure Label where
  chars : List Char
  isName : isName chars = true
  ne_and : chars.map Char.toLower ≠ "and".toList

/-- An identifier of the grammar is a name for the reader. -/
def Name.label (name : Name) : Label where
  chars := name.chars
  isName := name.isName
  ne_and := name.ne_and

/-- What is compared: a text with no gaps but single spaces that spells some names. -/
structure Summands (text : List Char) (names : List (List Char)) : Prop where
  starts : Starts isBlank text
  ends : Ends isBlank text
  squeezes : Squeezes text text
  inner : ∀ c ∈ text, isInner c = true
  whole : ∀ {rest}, Boundary rest → Whole rest text
  spells : Spells text names

namespace Label

theorem starts (label : Label) : Starts isBlank label.chars :=
  starts_of_forall (isWord_of_isName label.isName).1 (isBlank_eq_false_of_isName label.isName)

theorem ends (label : Label) : Ends isBlank label.chars :=
  ends_of_forall (isWord_of_isName label.isName).1 (isBlank_eq_false_of_isName label.isName)

theorem squeezes (label : Label) : Squeezes label.chars label.chars :=
  squeezes_of_forall (isBlank_eq_false_of_isName label.isName)

theorem isInner (label : Label) : ∀ c ∈ label.chars, isInner c = true :=
  fun c member => isInner_of_isWord ((isWord_of_isName label.isName).2 c member)

theorem whole (label : Label) {rest : List Char} (boundary : Boundary rest) :
    Whole rest label.chars := by
  obtain ⟨chars, named, other⟩ := label
  have word := (isWord_of_isName named).2
  refine ⟨passes_name word boundary, ?_⟩
  cases chars with
  | nil => cases named
  | cons c more => exact unsplit_name word other boundary.not_word

/-- A name with a plus in front of it. -/
def plus (label : Label) : List Char :=
  ' ' :: '+' :: ' ' :: label.chars

theorem added_eq (labels : List Label) :
    added (labels.map Label.chars) = labels.flatMap plus :=
  List.flatMap_map ..

theorem squeezes_plus (label : Label) : Squeezes label.plus label.plus := by
  let space : Gap := ⟨[' '], by decide⟩
  have named := Squeezes.gap space label.starts label.squeezes
  exact Squeezes.gap space ⟨'+', _, rfl, by decide⟩ (named.cons (by decide))

theorem whole_plus (labels : List Label) {rest : List Char} (boundary : Boundary rest) :
    Whole rest (labels.flatMap plus) ∧ Boundary (labels.flatMap plus ++ rest) := by
  induction labels with
  | nil => exact ⟨whole_nil rest, boundary⟩
  | cons label more induction =>
      rw [List.flatMap_cons]
      have mark : Whole (label.chars ++ (more.flatMap plus ++ rest)) [' ', '+', ' '] :=
        whole_of_forall (by decide) _
      have here : Whole (more.flatMap plus ++ rest) label.plus :=
        mark.append (label.whole induction.2)
      exact ⟨here.append induction.1, boundary_space (by decide) _⟩

theorem summands_plus (first : Label) (others : List Label) :
    Summands (first.chars ++ others.flatMap plus) ((first :: others).map Label.chars) where
  starts := first.starts.append _
  ends := first.ends.append_flatMap (fun label => label.ends.append [' ', '+', ' ']) others
  squeezes := first.squeezes.append (Squeezes.flatMap squeezes_plus others)
  inner := by
    refine List.forall_mem_append.mpr ⟨first.isInner, fun c member => ?_⟩
    obtain ⟨label, -, inside⟩ := List.mem_flatMap.mp member
    have mark : ∀ c ∈ [' ', '+', ' '], Language.isInner c = true := by decide
    exact List.forall_mem_append.mpr ⟨mark, label.isInner⟩ c inside
  whole := fun boundary =>
    have others := whole_plus others boundary
    (first.whole others.2).append others.1
  spells := by
    rw [← added_eq]
    refine spells_sum fun name member => ?_
    rw [← List.map_cons] at member
    obtain ⟨label, -, rfl⟩ := List.mem_map.mp member
    exact label.isName

theorem summands (label : Label) : Summands label.chars [label.chars] := by
  have alone := summands_plus label []
  rwa [List.flatMap_nil, List.append_nil] at alone

end Label

/-! ## Texts -/

/-- Two or more names and one comparison. -/
structure NameList where
  first : Label × Joint
  others : List (Label × Joint)
  last : Label
  before : Gap
  comparator : Comparator
  after : Gap
  target : Target

namespace NameList

variable (list : NameList)

def entries : List (Label × Joint) :=
  list.first :: list.others

def names : List (List Char) :=
  list.entries.map (fun entry => entry.1.chars)

/-- The comparison is one that the pattern for lists takes. -/
def IsBound : Prop :=
  (∃ kind, list.comparator = .inequality kind) ∧ isBound list.target.chars = true

section Texts

variable (write : Gap → List Char)

/-- A text with the comparison behind it. -/
def compared (text : List Char) : List Char :=
  text ++ write list.before ++ list.comparator.chars ++ write list.after ++ list.target.chars

/-- A text for each name with a joint behind it, and a text at the end. -/
def chain (spell : Label → List Char) (entries : List (Label × Joint)) (closing : List Char) :
    List Char :=
  entries.foldr (fun entry rest => spell entry.1 ++ (entry.2.text write ++ rest)) closing

def text : List Char :=
  chain write Label.chars list.entries (list.compared write list.last.chars)

/-- The comparison for each of the names. -/
def eachText : List Char :=
  chain write (fun label => list.compared write label.chars) list.entries
    (list.compared write list.last.chars)

/-- The sum of the names. -/
def sum : List Char :=
  list.first.1.chars ++ (list.others.map Prod.fst ++ [list.last]).flatMap Label.plus

/-- The comparison for the sum of the names. -/
def sumText : List Char :=
  list.compared write list.sum

end Texts

/-! ## Parts of the texts -/

variable {list}

theorem starts_compared {text : List Char} (starts : Starts isBlank text)
    (write : Gap → List Char) : Starts isBlank (list.compared write text) := by
  simp only [compared, List.append_assoc]
  exact starts.append _

theorem fits_compared {text : List Char} {names : List (List Char)}
    (summands : Summands text names) :
    Fits (list.compared Gap.chars text) (list.compared Gap.squeezed text) where
  starts := starts_compared summands.starts Gap.chars
  squeezes := Squeezes.compared summands.squeezes list.before list.after list.comparator
    list.target.starts list.target.squeezes
  passes {rest} _ := (Whole.signed summands.whole list.before list.after
    list.comparator).passes.append (list.target.passes rest)

theorem parts_compared {text : List Char} {names : List (List Char)}
    (summands : Summands text names) :
    parts (list.compared Gap.squeezed text) = [list.compared Gap.squeezed text] := by
  have unsplit := (Whole.signed summands.whole list.before list.after
    list.comparator).unsplit.append list.target.unsplit
  exact parts_single (starts_compared summands.starts Gap.squeezed) (list.target.ends.append _)
    unsplit

theorem fits_label (label : Label) : Fits label.chars label.chars :=
  ⟨label.starts, label.squeezes, fun boundary => (label.whole boundary).passes⟩

theorem parts_label (label : Label) : parts label.chars = [label.chars] :=
  parts_single label.starts label.ends (label.whole Closes.ending.boundary).unsplit

theorem fits_joined {first firstSqueezed second secondSqueezed : List Char} (joint : Joint)
    (firstFits : Fits first firstSqueezed) (secondFits : Fits second secondSqueezed) :
    Fits (first ++ (joint.text Gap.chars ++ second))
      (firstSqueezed ++ (joint.text Gap.squeezed ++ secondSqueezed)) where
  starts := firstFits.starts.append _
  squeezes := firstFits.squeezes.append (joint.squeezes secondFits.starts secondFits.squeezes)
  passes {rest} boundary := by
    have bounded := joint.boundary (secondSqueezed ++ rest)
    rw [← List.append_assoc] at bounded
    exact (firstFits.passes bounded).append
      ((joint.passes _).append (secondFits.passes boundary))

theorem fits_chain {spell squeezed : Label → List Char}
    (fits : ∀ label, Fits (spell label) (squeezed label)) (entries : List (Label × Joint))
    {closing closingSqueezed : List Char} (closingFits : Fits closing closingSqueezed) :
    Fits (chain Gap.chars spell entries closing)
      (chain Gap.squeezed squeezed entries closingSqueezed) := by
  induction entries with
  | nil => exact closingFits
  | cons entry more induction => exact fits_joined entry.2 (fits entry.1) induction

theorem parts_chain {spell : Label → List Char}
    (alone : ∀ label, parts (spell label) = [spell label])
    (entries : List (Label × Joint)) (closing : List Char) :
    parts (chain Gap.squeezed spell entries closing) =
      entries.map (fun entry => spell entry.1) ++ parts closing := by
  induction entries with
  | nil => rfl
  | cons entry more induction =>
      change parts (spell entry.1 ++ (entry.2.text Gap.squeezed
        ++ chain Gap.squeezed spell more closing)) = _
      rw [entry.2.parts, alone, induction]
      rfl

theorem chars_compared (list : NameList) {text : List Char} {names : List (List Char)}
    (summands : Summands text names) :
    ',' ∉ list.compared Gap.squeezed text ∧ isName (list.compared Gap.squeezed text) = false :=
  compared_chars summands.inner list.before list.after list.comparator list.target.no_comma

end NameList

end Grammar

/-! ## Readings -/

namespace Language

/-- Names joined in front of a text stand before it with nothing of a comparison among them. -/
theorem exists_joinNames {names : List (List Char)} (named : ∀ name ∈ names, isName name = true) :
    ∃ front, (∀ c ∈ front, isComparing c = false) ∧
      (∀ {last}, Starts isBlank last → Starts isBlank (front ++ last)) ∧
        ∀ last, joinNames (names ++ [last]) = front ++ last := by
  induction names with
  | nil => exact ⟨[], List.forall_mem_nil _, id, joinNames_singleton⟩
  | cons name more induction =>
      have first := named name List.mem_cons_self
      obtain ⟨front, outside, -, joined⟩ := induction fun other member =>
        named other (List.mem_cons_of_mem name member)
      have starts : Starts isBlank name :=
        starts_of_forall (isWord_of_isName first).1 (isBlank_eq_false_of_isName first)
      refine ⟨name ++ ',' :: ' ' :: front, ?_, fun _ => (starts.append _).append _, fun last => ?_⟩
      · refine List.forall_mem_append.mpr ⟨fun c member => ?_, ?_⟩
        · exact isComparing_of_isInner
            (Grammar.isInner_of_isWord ((isWord_of_isName first).2 c member))
        · exact List.forall_mem_cons.mpr ⟨by decide, List.forall_mem_cons.mpr ⟨by decide, outside⟩⟩
      · rw [List.cons_append, joinNames_cons name (by simp), joined]
        simp only [List.append_assoc, List.cons_append]

section Reading

variable {α : Type} [Scalar α]

theorem readComparison_eq_ok {segment : String} {expression target : List Char}
    {relation : Relation} {form : LinearForm α} (present : expression ≠ [])
    (targetPresent : target ≠ []) (read : readExpression expression = .ok form)
    {statement : Statement α} :
    readComparison segment expression relation target = .ok statement ↔
      form.terms ≠ [] ∧ ∃ value, number? target = some value ∧
        statement = { terms := form.terms, relation, target := value - form.constant } := by
  have written : (expression.isEmpty || target.isEmpty) = false := by
    simp [present, targetPresent]
  rw [readComparison, written, if_neg Bool.false_ne_true, read]
  dsimp only
  by_cases empty : form.terms = []
  · simp [empty]
  · rw [if_neg (by simpa using empty)]
    cases (number? target : Option α) <;> simp [empty, eq_comm]

theorem readSegments_singleton_eq_ok {segment : List Char} {statements : List (Statement α)} :
    readSegments [segment] = .ok statements ↔ readSegment segment = .ok statements := by
  rw [readSegments_cons_eq_ok]
  simp [readSegments]

end Reading

end Language

namespace Grammar.NameList

section Reading

variable {α : Type} [Scalar α] {list : NameList}

/-- A comparison of which the pattern for lists takes nothing compares the sum of all the names,
those that have waited for it too. -/
theorem readSegment_eq_ok {names : List (List Char)} (named : ∀ name ∈ names, isName name = true)
    {text : List Char} {spelled : List (List Char)} (summands : Summands text spelled)
    (none : boundedNames? (joinNames (names ++ [list.compared Gap.squeezed text])) = none)
    {statements : List (Statement α)} :
    readSegment (joinNames (names ++ [list.compared Gap.squeezed text])) = .ok statements ↔
      (addUnits (names ++ spelled) []).filter isRelevant ≠ ([] : List (String × α)) ∧
        ∃ value, number? list.target.chars = some value ∧
          statements = [{
            terms := (addUnits (names ++ spelled) []).filter isRelevant
            relation := list.comparator.relation
            target := value - 0 }] := by
  obtain ⟨front, outside, frontStarts, joined⟩ := exists_joinNames named
  have shape : joinNames (names ++ [list.compared Gap.squeezed text]) =
      list.compared Gap.squeezed (front ++ text) := by
    simp only [joined, compared, List.append_assoc]
  have whole : ∀ c ∈ front ++ text, isComparing c = false := List.forall_mem_append.mpr
    ⟨outside, fun c member => isComparing_of_isInner (summands.inner c member)⟩
  have starts := frontStarts summands.starts
  have left := strip_behind list.before starts (summands.ends.append front)
  have right := strip_before list.after list.target.starts list.target.ends
  have read := (spells_joinNames named summands.spells).readExpression (α := α)
  rw [joined] at read
  rw [shape] at none ⊢
  have compares (statement : Statement α) :
      readComparison (String.ofList (list.compared Gap.squeezed (front ++ text))) (front ++ text)
          list.comparator.relation list.target.chars = .ok statement ↔ _ :=
    readComparison_eq_ok starts.ne_nil list.target.chars_ne_nil read
  have cut : cutAtComparison (list.compared Gap.squeezed (front ++ text)) = _ :=
    cutAtComparison_compared whole list.before list.after list.comparator list.target.head_ne_equal
  rw [readSegment, none, cut]
  dsimp only
  rw [left, right]
  constructor
  · intro mapped
    obtain ⟨statement, found, rfl⟩ := exists_of_map_eq_ok mapped
    obtain ⟨present, value, valued, rfl⟩ := (compares statement).mp found
    exact ⟨present, value, valued, rfl⟩
  · rintro ⟨present, value, valued, rfl⟩
    rw [(compares _).mpr ⟨present, value, valued, rfl⟩]
    rfl

/-! ## What the pattern for lists takes -/

theorem boundedName?_compared (label : Label) (bound : list.IsBound) :
    boundedName? (' ' :: list.compared Gap.squeezed label.chars) =
      some (label.chars, list.comparator.relation, list.target.chars) := by
  obtain ⟨⟨kind, inequality⟩, bounds⟩ := bound
  have closing := boundedName?_closing label.isName list.before list.after kind
    list.target.starts bounds
  simpa only [compared, inequality, Comparator.chars, Comparator.relation, List.append_assoc]
    using closing

theorem boundedName?_compared_eq_none (label : Label) (unbound : ¬ list.IsBound) :
    boundedName? (' ' :: list.compared Gap.squeezed label.chars) = none := by
  have signStarts : Starts isBlank list.comparator.chars :=
    starts_of_forall list.comparator.chars_ne_nil list.comparator.isBlank_eq_false
  have boundary := list.comparator.boundary list.before
    (list.after.squeezed ++ list.target.chars)
  simp only [compared, List.append_assoc]
  rw [boundedName?_name label.isName boundary.not_word,
    dropWhile_gap list.before (signStarts.append _)]
  cases shape : list.comparator with
  | inequality kind =>
      have other : isBound list.target.chars = false := by
        rw [← Bool.not_eq_true]
        exact fun bounds => unbound ⟨⟨kind, shape⟩, bounds⟩
      rw [Comparator.chars, kind.takeInequality?, Option.bind_some]
      dsimp only
      rw [dropWhile_gap list.after list.target.starts, other]
      rfl
  | equal => rfl
  | doubled => rfl

theorem boundedName?_sum : boundedName? (' ' :: list.compared Gap.squeezed list.sum) = none := by
  obtain ⟨second, more, shape⟩ := List.exists_cons_of_ne_nil
    (List.append_ne_nil_of_right_ne_nil (list.others.map Prod.fst) (List.cons_ne_nil list.last []))
  simp only [compared, sum, shape, List.flatMap_cons, List.append_assoc]
  rw [boundedName?_name list.first.1.isName]
  · rfl
  · rintro c head
    cases head
    decide

theorem boundedNames?_eq_none {names : List (List Char)}
    (named : ∀ name ∈ names, isName name = true) {closing : List Char} (free : ',' ∉ closing)
    (none : boundedName? (' ' :: closing) = none) :
    boundedNames? (joinNames (names ++ [closing])) = Option.none := by
  by_cases empty : names = []
  · rw [empty, List.nil_append, joinNames_singleton]
    exact boundedNames?_of_no_comma free
  · rw [boundedNames?_joinNames empty named free, none]
    rfl

/-! ## The sum of the names -/

theorem isName_names : ∀ name ∈ list.names, isName name = true := by
  intro name member
  obtain ⟨entry, -, rfl⟩ := List.mem_map.mp member
  exact entry.1.isName

theorem parts_text : parts (list.text Gap.squeezed) =
    list.names ++ [list.compared Gap.squeezed list.last.chars] := by
  rw [text, parts_chain parts_label, parts_compared list.last.summands, names]

theorem summands_sum : Summands list.sum (list.names ++ [list.last.chars]) := by
  have summands := Label.summands_plus list.first.1 (list.others.map Prod.fst ++ [list.last])
  simpa [sum, names, entries, Function.comp_def] using summands

theorem agree_sumText (unbound : ¬ list.IsBound) :
    Agree α (parts (list.text Gap.squeezed)) (parts (list.sumText Gap.squeezed)) := by
  intro waiting named
  have all := List.forall_mem_append.mpr ⟨named, list.isName_names⟩
  have listed := segments_names waiting list.isName_names
    (list.chars_compared list.last.summands).2 []
  have summed := segments_names waiting (List.forall_mem_nil _)
    (list.chars_compared list.summands_sum).2 []
  rw [List.nil_append, List.append_nil] at summed
  rw [parts_text, sumText, parts_compared summands_sum, listed, summed]
  refine ⟨rfl, fun statements => ?_⟩
  have noneListed := boundedNames?_eq_none all (list.chars_compared list.last.summands).1
    (boundedName?_compared_eq_none list.last unbound)
  have noneSummed := boundedNames?_eq_none named (list.chars_compared list.summands_sum).1
    list.boundedName?_sum
  dsimp only [segments]
  rw [readSegments_singleton_eq_ok, readSegments_singleton_eq_ok,
    readSegment_eq_ok all list.last.summands noneListed,
    readSegment_eq_ok named summands_sum noneSummed, List.append_assoc]

/-! ## One statement for each name -/

/-- The statement that a bound makes for a name. -/
def statement (list : NameList) (value : α) (name : List Char) : Statement α where
  terms := [(String.ofList name, 1)]
  relation := list.comparator.relation
  target := value

end Reading

section Machine

variable {list : NameList}

theorem exists_number? (target : Target) : ∃ value : Float, number? target.chars = some value := by
  obtain ⟨numeral, read⟩ := Option.isSome_iff_exists.mp target.numeral
  cases numeral with
  | decimal value => exact ⟨Scalar.ofDecimal value, by rw [number?, read]; rfl⟩
  | infinite negative => exact ⟨Float64.infinite negative, by rw [number?, read]; rfl⟩
  | notANumber => exact ⟨Float64.ofNumeral .notANumber, by rw [number?, read]; rfl⟩

theorem addUnits_singleton (name : List Char) :
    (addUnits [name] []).filter isRelevant = [(String.ofList name, (1 : Float))] := by
  have once : (0 : Float) + 1 = 1 := by decide +kernel
  have relevant : isRelevant (String.ofList name, (1 : Float)) = true :=
    decide_eq_true Float64.tenth_lt_magnitude_one
  have summed : addUnits [name] [] = [(String.ofList name, (0 : Float) + 1)] := rfl
  rw [summed, once]
  exact List.filter_cons_of_pos relevant

/-- A bound makes one statement for each name that has waited for it, and for its own. -/
theorem readSegment_bound {names : List (List Char)} (named : ∀ name ∈ names, isName name = true)
    (label : Label) (bound : list.IsBound) {value : Float}
    (valued : number? list.target.chars = some value) :
    readSegment (joinNames (names ++ [list.compared Gap.squeezed label.chars])) =
      .ok ((names ++ [label.chars]).map (list.statement value)) := by
  have free : ',' ∉ list.compared Gap.squeezed label.chars := (list.chars_compared label.summands).1
  by_cases empty : names = []
  · subst empty
    have none : boundedNames? (joinNames ([] ++ [list.compared Gap.squeezed label.chars])) =
        none := by
      rw [List.nil_append, joinNames_singleton]
      exact boundedNames?_of_no_comma free
    refine (readSegment_eq_ok named label.summands none).mpr ?_
    rw [List.nil_append, addUnits_singleton]
    refine ⟨List.cons_ne_nil _ _, value, valued, ?_⟩
    exact congrArg (fun target => [({
      terms := [(String.ofList label.chars, 1)]
      relation := list.comparator.relation
      target } : Statement Float)]) (Float64.sub_zero value).symm
  · have spaceless : list.target.chars.filter (· != ' ') = list.target.chars :=
      List.filter_eq_self.mpr fun c member => bne_iff_ne.mpr (list.target.no_space c member)
    have read : readNumber list.target.chars = .ok value := by
      rw [readNumber, spaceless, valued]
    rw [readSegment, boundedNames?_joinNames empty named free, boundedName?_compared label bound]
    dsimp only [Option.map_some]
    rw [read]
    rfl

theorem readSegments_bound (labels : List Label) (bound : list.IsBound) {value : Float}
    (valued : number? list.target.chars = some value) :
    readSegments (labels.map fun label => list.compared Gap.squeezed label.chars) =
      .ok (labels.map fun label => list.statement value label.chars) := by
  induction labels with
  | nil => rfl
  | cons label more induction =>
      have first := readSegment_bound (List.forall_mem_nil _) label bound valued
      rw [List.nil_append, joinNames_singleton] at first
      rw [List.map_cons, readSegments, first, induction]
      rfl

theorem parts_eachText : parts (list.eachText Gap.squeezed) =
    list.compared Gap.squeezed list.first.1.chars
      :: (list.others.map Prod.fst ++ [list.last]).map fun label =>
        list.compared Gap.squeezed label.chars := by
  rw [eachText, parts_chain fun label => parts_compared label.summands,
    parts_compared list.last.summands]
  simp [entries]

theorem agree_eachText (bound : list.IsBound) :
    Agree Float (parts (list.text Gap.squeezed)) (parts (list.eachText Gap.squeezed)) := by
  intro waiting named
  obtain ⟨value, valued⟩ := exists_number? list.target
  let later := list.others.map Prod.fst ++ [list.last]
  have apart : ∀ part ∈ later.map fun label => list.compared Gap.squeezed label.chars,
      isName part = false := by
    intro part member
    obtain ⟨label, -, rfl⟩ := List.mem_map.mp member
    exact (list.chars_compared label.summands).2
  have listed := segments_names waiting list.isName_names
    (list.chars_compared list.last.summands).2 []
  -- Names that have waited go to the first of the bounds; the others stand alone.
  have each := segments_names waiting (List.forall_mem_nil _)
    (list.chars_compared list.first.1.summands).2
    (later.map fun label => list.compared Gap.squeezed label.chars)
  rw [List.nil_append, List.append_nil, segments_apart apart] at each
  have all := List.forall_mem_append.mpr ⟨named, list.isName_names⟩
  have listedRead := readSegment_bound all list.last bound valued
  have firstRead := readSegment_bound named list.first.1 bound valued
  have laterRead := readSegments_bound later bound valued
  have sameNames : waiting ++ list.names ++ [list.last.chars] =
      waiting ++ [list.first.1.chars] ++ later.map Label.chars := by
    simp [names, entries, later, Function.comp_def]
  rw [parts_text, parts_eachText, listed, each]
  refine ⟨rfl, fun statements => ?_⟩
  dsimp only [segments]
  rw [readSegments_singleton_eq_ok, listedRead, readSegments, firstRead, laterRead, sameNames,
    List.map_append, List.map_map]
  rfl

end Machine

theorem fits_text (list : NameList) : Fits (list.text Gap.chars) (list.text Gap.squeezed) :=
  fits_chain fits_label list.entries (fits_compared list.last.summands)

theorem fits_eachText (list : NameList) :
    Fits (list.eachText Gap.chars) (list.eachText Gap.squeezed) :=
  fits_chain (fun label => fits_compared label.summands) list.entries
    (fits_compared list.last.summands)

end Grammar.NameList

/-! ## Lists in a specification -/

section Specification

open TableauSimplex.Grammar

/-- Wherever a list of names stands among the constraints, it gives each of its names the bound
behind it, if that is an inequality with plain digits; otherwise it compares the sum of its
names. -/
theorem ofSpecification_nameList (place : Place) (list : NameList) (program : LinearProgram Float) :
    (list.IsBound →
      (LinearProgram.ofSpecification (place.written (list.text Gap.chars)) = .ok program ↔
        LinearProgram.ofSpecification (place.written (list.eachText Gap.chars)) = .ok program)) ∧
    (¬ list.IsBound →
      (LinearProgram.ofSpecification (place.written (list.text Gap.chars)) = .ok program ↔
        LinearProgram.ofSpecification (place.written (list.sumText Gap.chars)) =
          .ok program)) := by
  constructor
  · intro bound
    exact place.ofSpecification_iff list.fits_text list.fits_eachText (list.agree_eachText bound)
      program
  · intro unbound
    exact place.ofSpecification_iff list.fits_text (list.fits_compared list.summands_sum)
      (list.agree_sumText unbound) program

/-- A maximum of two variables, with a place for what is said about them. -/
def sumObjective : Place where
  head := "max x + y ".toList
  divider := subjectTo
  lead := .first oneSpace.toGap
  sequel := .ending noGap

/-- The two variables compared with three. -/
def bothThree (comparator : Comparator) : NameList where
  first := (letterX.label, .comma noGap oneSpace.toGap)
  others := []
  last := letterY.label
  before := oneSpace.toGap
  comparator
  after := oneSpace.toGap
  target := { chars := ['3'], numeral := by decide, tight := by decide }

theorem ofSpecification_nameList_bothThree :
    (∃ program : LinearProgram Float,
      LinearProgram.ofSpecification "max x + y subject to x, y <= 3" = .ok program ∧
        LinearProgram.ofSpecification "max x + y subject to x <= 3, y <= 3" = .ok program) ∧
    ∃ program : LinearProgram Float,
      LinearProgram.ofSpecification "max x + y subject to x, y = 3" = .ok program ∧
        LinearProgram.ofSpecification "max x + y subject to x + y = 3" = .ok program := by
  have bound : (bothThree (.inequality .atMost)).IsBound := ⟨⟨.atMost, rfl⟩, by decide⟩
  have unbound : ¬ (bothThree .equal).IsBound := by
    rintro ⟨⟨kind, inequality⟩, -⟩
    cases inequality
  constructor
  · obtain ⟨program, read⟩ : ∃ program : LinearProgram Float,
        LinearProgram.ofSpecification "max x + y subject to x, y <= 3" = .ok program :=
      exists_program_of_isOk (by decide +kernel)
    have alike := (ofSpecification_nameList sumObjective (bothThree (.inequality .atMost))
      program).1 bound
    exact ⟨program, read, alike.mp read⟩
  · obtain ⟨program, read⟩ : ∃ program : LinearProgram Float,
        LinearProgram.ofSpecification "max x + y subject to x, y = 3" = .ok program :=
      exists_program_of_isOk (by decide +kernel)
    have alike := (ofSpecification_nameList sumObjective (bothThree .equal) program).2 unbound
    exact ⟨program, read, alike.mp read⟩

/-- Neither an equality nor a power of ten is given to each of the names. -/
theorem ofSpecification_list_one_constraint :
    let count (specification : String) : Option Nat :=
      (LinearProgram.ofSpecification specification :
        Except SpecificationError (LinearProgram Float)).toOption.map fun program =>
          program.constraints.length
    count "max x + y subject to x, y = 3" = some 1 ∧
      count "max x + y subject to x = 3, y = 3" = some 2 ∧
      count "max x + y subject to x, y <= 1e1" = some 1 ∧
      count "max x + y subject to x <= 1e1, y <= 1e1" = some 2 := by
  decide +kernel

end Specification

end TableauSimplex
