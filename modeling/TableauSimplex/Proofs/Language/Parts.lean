import TableauSimplex.Proofs.Language.Addition
import TableauSimplex.Proofs.Language.Division

/-!
# Dividing a specification

A divider is found where it stands and nowhere else, and every part of a list of constraints comes
out whole.
-/

set_option autoImplicit false

namespace TableauSimplex

open TableauSimplex.Text TableauSimplex.Language

namespace Grammar

/-- A text in which no divider begins and nothing separates parts. -/
structure Whole (rest text : List Char) : Prop where
  passes : Passes rest text
  unsplit : Unsplit rest text

theorem whole_nil (rest : List Char) : Whole rest [] where
  passes := passes_nil rest
  unsplit := unsplit_nil rest

theorem Whole.append {rest first second : List Char} (firstWhole : Whole (second ++ rest) first)
    (secondWhole : Whole rest second) : Whole rest (first ++ second) where
  passes := firstWhole.passes.append secondWhole.passes
  unsplit := firstWhole.unsplit.append secondWhole.unsplit

/-- Whether a character neither begins a divider or a separating word nor separates parts. -/
def isPlain (c : Char) : Bool :=
  !isLetter 's' c && !isLetter 'a' c && c != ',' && c != ';'

theorem whole_of_forall {text : List Char} (plain : ∀ c ∈ text, isPlain c = true)
    (rest : List Char) : Whole rest text := by
  induction text with
  | nil => exact whole_nil rest
  | cons c more induction =>
      have first := plain c List.mem_cons_self
      simp only [isPlain, Bool.and_eq_true, Bool.not_eq_true', bne_iff_ne] at first
      have single : Whole (more ++ rest) [c] :=
        { passes := (passes_nil _).cons (afterDivider?_of_other first.1.1.1 _)
          unsplit := unsplit_mark ⟨first.1.2, first.2⟩ first.1.1.2 _ }
      exact single.append (induction fun d member => plain d (List.mem_cons_of_mem c member))

theorem Name.isWord (name : Name) : ∀ c ∈ name.chars, isWord c = true :=
  fun _ member => isWord_of_identifier (name.mem_chars member)

theorem Name.whole (name : Name) {rest : List Char} (boundary : Boundary rest) :
    Whole rest name.chars where
  passes := passes_name name.isWord boundary
  unsplit := unsplit_name name.isWord name.ne_and boundary.not_word

theorem isPlain_of_isDigit {c : Char} (digit : isDigit c = true) : isPlain c = true := by
  have other (letter : Char) (small : letter.isLower = true) : isLetter letter c = false := by
    by_contra same
    rw [Bool.not_eq_false] at same
    have outside := (isWord_of_isLetter small same).2
    rw [digit] at outside
    cases outside
  have comma : c ≠ ',' := ne_of_isDigit digit (by decide)
  have semicolon : c ≠ ';' := ne_of_isDigit digit (by decide)
  simp [isPlain, other 's' (by decide), other 'a' (by decide), comma, semicolon]

theorem Figure.whole_text (figure : Figure) (rest : List Char) : Whole rest figure.chars := by
  refine whole_of_forall (fun c member => ?_) rest
  rcases figure.mem_chars member with digit | rfl
  · exact isPlain_of_isDigit digit
  · decide

theorem Gap.whole (gap : Gap) (rest : List Char) : Whole rest gap.squeezed :=
  whole_of_forall (forall_of_space gap.space_squeezed (by decide)) rest

theorem Sign.whole (sign : Sign) (rest : List Char) : Whole rest [sign.char] := by
  refine whole_of_forall (fun c member => ?_) rest
  rw [List.mem_singleton.mp member]
  cases sign <;> decide

theorem signText_whole (sign : Option (Sign × Gap)) (rest : List Char) :
    Whole rest (signText Gap.squeezed sign) := by
  cases sign with
  | none => exact whole_nil rest
  | some signed => exact Whole.append (signed.1.whole _) (signed.2.whole rest)

/-! ## Expressions and segments -/

theorem Item.whole (item : Item) {rest : List Char} (boundary : Boundary rest) :
    Whole rest (item.text Gap.squeezed) := by
  cases item with
  | constant figure => exact figure.whole_text rest
  | unit name => exact name.whole boundary
  | multiple figure before star name =>
      have named := name.whole boundary
      cases star with
      | none => exact ((figure.whole_text _).append (before.whole _)).append named
      | some after =>
          have star : Whole (after.squeezed ++ (name.chars ++ rest)) ['*'] :=
            whole_of_forall (by decide) _
          have starred : Whole (name.chars ++ rest) ('*' :: after.squeezed) :=
            star.append (after.whole _)
          exact (((figure.whole_text _).append (before.whole _)).append starred).append named

theorem Addend.whole (addend : Addend) {rest : List Char} (boundary : Boundary rest) :
    Whole rest (addend.text Gap.squeezed) :=
  (signText_whole addend.sign _).append (addend.item.whole boundary)

/-- Behind a gap a name has ended if no word goes on there. -/
theorem boundary_gap (gap : Gap) {c : Char} (outside : isWord c = false) (point : c ≠ '.')
    (space : c ≠ ' ') (rest : List Char) : Boundary (gap.squeezed ++ c :: rest) := by
  have other : isLetter 't' c = false := by
    by_contra same
    rw [Bool.not_eq_false] at same
    have word := (isWord_of_isLetter (by decide) same).1
    rw [outside] at word
    cases word
  unfold Gap.squeezed
  split
  · exact boundary_cons outside point space rest
  · exact boundary_space other rest

theorem Continuation.boundary (continuation : Continuation) (rest : List Char) :
    Boundary (continuation.text Gap.squeezed ++ rest) := by
  obtain ⟨before, sign, after, item⟩ := continuation
  have outside : isWord sign.char = false ∧ sign.char ≠ '.' ∧ sign.char ≠ ' ' := by
    cases sign <;> decide
  rw [Continuation.text, List.append_assoc]
  exact boundary_gap before outside.1 outside.2.1 outside.2.2 _

theorem whole_flatMap_continuation (others : List Continuation) {rest : List Char}
    (boundary : Boundary rest) :
    Whole rest (others.flatMap (Continuation.text Gap.squeezed)) ∧
      Boundary (others.flatMap (Continuation.text Gap.squeezed) ++ rest) := by
  induction others with
  | nil => exact ⟨whole_nil rest, boundary⟩
  | cons continuation more induction =>
      have here : Whole _ (continuation.text Gap.squeezed) :=
        (continuation.before.whole _).append (continuation.addend.whole induction.2)
      refine ⟨here.append induction.1, ?_⟩
      rw [List.flatMap_cons, List.append_assoc]
      exact continuation.boundary _

theorem Expression.whole (expression : Expression) {rest : List Char}
    (boundary : Boundary rest) : Whole rest (expression.text Gap.squeezed) := by
  obtain ⟨others, behindFirst⟩ := whole_flatMap_continuation expression.others boundary
  exact (expression.first.whole behindFirst).append others

theorem Comparator.whole (comparator : Comparator) (rest : List Char) :
    Whole rest comparator.chars := by
  refine whole_of_forall ?_ rest
  cases comparator with
  | inequality kind => cases kind <;> decide
  | equal => decide
  | doubled => decide

theorem Comparator.boundary (comparator : Comparator) (gap : Gap) (rest : List Char) :
    Boundary (gap.squeezed ++ (comparator.chars ++ rest)) := by
  cases comparator with
  | inequality kind =>
      cases kind <;> exact boundary_gap gap (by decide) (by decide) (by decide) _
  | equal => exact boundary_gap gap (by decide) (by decide) (by decide) _
  | doubled => exact boundary_gap gap (by decide) (by decide) (by decide) _

theorem targetText_whole (sign : Option Sign) (figure : Figure) (rest : List Char) :
    Whole rest (targetText sign figure) := by
  cases sign with
  | none => exact figure.whole_text rest
  | some sign => exact Whole.append (sign.whole _) (figure.whole_text rest)

/-- A comparison sign keeps a text in front of it whole, whatever it is compared with. -/
theorem Whole.signed {text rest : List Char} (whole : ∀ {rest}, Boundary rest → Whole rest text)
    (before after : Gap) (comparator : Comparator) :
    Whole rest (text ++ before.squeezed ++ comparator.chars ++ after.squeezed) := by
  have bounded := comparator.boundary before (after.squeezed ++ rest)
  exact (((whole bounded).append (before.whole _)).append (comparator.whole _)).append
    (after.whole rest)

/-- A comparison sign and a number keep a text in front of them whole. -/
theorem Whole.compared {text rest : List Char}
    (whole : ∀ {rest}, Boundary rest → Whole rest text) (before after : Gap)
    (comparator : Comparator) (sign : Option Sign) (figure : Figure) :
    Whole rest
      (text ++ before.squeezed ++ comparator.chars ++ after.squeezed
        ++ targetText sign figure) :=
  (Whole.signed whole before after comparator).append (targetText_whole sign figure rest)

theorem Comparison.whole (comparison : Comparison) (rest : List Char) :
    Whole rest (comparison.text Gap.squeezed) :=
  Whole.compared comparison.expression.whole comparison.before comparison.after
    comparison.comparator comparison.sign comparison.figure

theorem Bounds.closing_whole (bounds : Bounds) (rest : List Char) :
    Whole rest (bounds.closing Gap.squeezed) :=
  Whole.compared bounds.last.whole bounds.before bounds.after (.inequality bounds.inequality) _
    bounds.figure

/-! ## Joints -/

theorem Space.squeezed_eq (space : Space) : space.toGap.squeezed = [' '] :=
  if_neg space.chars_ne_nil

theorem isLetter_of_toLower {letter c : Char} (lowered : c.toLower = letter) :
    isLetter letter c = true := by
  simp [isLetter, lowered]

theorem Cased.exists_and (word : Cased "and") :
    ∃ a n d, word.chars = [a, n, d] ∧ a.toLower = 'a' ∧ n.toLower = 'n' ∧ d.toLower = 'd' := by
  have lower : word.chars.map Char.toLower = ['a', 'n', 'd'] := word.lower
  obtain ⟨a, more, shape, aLower, moreLower⟩ := List.map_eq_cons_iff.mp lower
  obtain ⟨n, last, rfl, nLower, lastLower⟩ := List.map_eq_cons_iff.mp moreLower
  obtain ⟨d, none, rfl, dLower, noneLower⟩ := List.map_eq_cons_iff.mp lastLower
  rw [List.map_eq_nil_iff.mp noneLower] at shape
  exact ⟨a, n, d, shape, aLower, nLower, dLower⟩

theorem Joint.boundary (joint : Joint) (rest : List Char) :
    Boundary (joint.text Gap.squeezed ++ rest) := by
  cases joint with
  | comma before after =>
      rw [Joint.text, List.append_assoc]
      exact boundary_gap before (by decide) (by decide) (by decide) _
  | semicolon before after =>
      rw [Joint.text, List.append_assoc]
      exact boundary_gap before (by decide) (by decide) (by decide) _
  | and before word after =>
      obtain ⟨a, n, d, shape, aLower, -, -⟩ := word.exists_and
      have other : isLetter 't' a = false := by
        rw [← isLetter_toLower, aLower]
        decide
      simp only [Joint.text, before.squeezed_eq, shape]
      exact boundary_space other _

theorem Cased.isCalm {word : String} (cased : Cased word) (calm : isCalm word.toList = true) :
    Language.isCalm cased.chars = true := by
  rw [← isCalm_map_toLower, cased.lower]
  exact calm

theorem Joint.passes (joint : Joint) (rest : List Char) :
    Passes rest (joint.text Gap.squeezed) := by
  cases joint with
  | comma before after =>
      have comma : Passes (after.squeezed ++ rest) [','] :=
        (passes_nil _).cons (afterDivider?_of_other (by decide) _)
      exact (before.whole _).passes.append (comma.append (after.whole rest).passes)
  | semicolon before after =>
      have semicolon : Passes (after.squeezed ++ rest) [';'] :=
        (passes_nil _).cons (afterDivider?_of_other (by decide) _)
      exact (before.whole _).passes.append (semicolon.append (after.whole rest).passes)
  | and before word after =>
      have calm := passes_of_isCalm (word.isCalm (by decide)) (after.toGap.squeezed ++ rest)
      exact ((before.toGap.whole _).passes.append calm).append (after.toGap.whole rest).passes

/-- Behind a separator a gap belongs to the next part. -/
theorem splitParts_gap (gap : Gap) (rest : List Char) :
    splitParts false (gap.squeezed ++ rest) =
      (splitParts false rest).modifyHead (gap.squeezed ++ ·) := by
  unfold Gap.squeezed
  split
  · obtain ⟨last, split⟩ := unsplit_nil rest false
    cases shape : splitParts false rest with
    | nil => exact absurd shape (splitParts_ne_nil false rest)
    | cons first others => exact shape
  · exact splitParts_cons (by decide) (startsAnd_of_other (by decide) _ _)

theorem splitParts_separator {c : Char} (separates : c = ',' ∨ c = ';') (afterWord : Bool)
    (rest : List Char) : splitParts afterWord (c :: rest) = [] :: splitParts false rest := by
  rw [splitParts, if_pos separates]

theorem splitParts_space (afterWord : Bool) (rest : List Char) :
    splitParts afterWord (' ' :: rest) = (splitParts false rest).modifyHead ([' '] ++ ·) := by
  have outside : isWord ' ' = false := by decide
  have split := splitParts_cons (c := ' ') (by decide)
    (startsAnd_of_other (by decide) afterWord rest)
  rwa [outside] at split

/-- The separating word behind a space, if no word goes on there. -/
theorem splitParts_and (word : Cased "and") (afterWord : Bool) {rest : List Char}
    (stops : ∀ c ∈ rest.head?, isWord c = false) :
    splitParts afterWord (' ' :: (word.chars ++ rest)) = [' '] :: splitParts true rest := by
  obtain ⟨a, n, d, shape, aLower, nLower, dLower⟩ := word.exists_and
  have begins : startsAnd false (a :: n :: d :: rest) = true := by
    have found : afterPhrase? "and".toList (a :: n :: d :: rest) = some rest := by
      simp [afterPhrase?, isLetter_of_toLower aLower, isLetter_of_toLower nLower,
        isLetter_of_toLower dLower]
    rw [startsAnd, found]
    cases rest with
    | nil => rfl
    | cons c more => simp [stops c rfl]
  have letter : a ≠ ',' ∧ a ≠ ';' := by
    constructor <;> rintro rfl <;> exact absurd aLower (by decide)
  rw [splitParts_space, shape, List.cons_append, List.cons_append, List.cons_append,
    List.nil_append, splitParts, if_neg (by simpa using letter), begins, if_pos rfl]
  rfl

/-- The part before a joint, and then the parts behind it. -/
theorem parts_joint {part : List Char} (starts : Starts isBlank part) (ends : Ends isBlank part)
    (joint : Joint) {rest : List Char}
    (unsplit : Unsplit (joint.text Gap.squeezed ++ rest) part) :
    parts (part ++ (joint.text Gap.squeezed ++ rest)) = part :: parts rest := by
  -- The spaces around a separator go to the parts beside it and are stripped there.
  have separated {before after : Gap} {c : Char} (separates : c = ',' ∨ c = ';')
      (unsplit : Unsplit (before.squeezed ++ c :: (after.squeezed ++ rest)) part) :
      parts (part ++ (before.squeezed ++ c :: (after.squeezed ++ rest))) =
        part :: parts rest := by
    have both : Unsplit (c :: (after.squeezed ++ rest)) (part ++ before.squeezed) :=
      unsplit.append (before.whole _).unsplit
    obtain ⟨last, split⟩ := both false
    rw [List.append_assoc, splitParts_separator separates, splitParts_gap] at split
    rw [parts_of_splitParts starts ends before.blank_squeezed (by simpa using split),
      parts_of_modifyHead after.blank_squeezed]
  cases joint with
  | comma before after =>
      simp only [Joint.text, List.append_assoc, List.cons_append] at unsplit ⊢
      exact separated (.inl rfl) unsplit
  | semicolon before after =>
      simp only [Joint.text, List.append_assoc, List.cons_append] at unsplit ⊢
      exact separated (.inr rfl) unsplit
  | and before word after =>
      have blank : ∀ c ∈ [' '], isBlank c = true := by decide
      simp only [Joint.text, before.squeezed_eq, after.squeezed_eq, List.append_assoc,
        List.cons_append, List.nil_append] at unsplit ⊢
      have stops : ∀ c ∈ (' ' :: rest).head?, isWord c = false := by
        rintro c head
        cases head
        decide
      obtain ⟨last, split⟩ := unsplit false
      rw [splitParts_and word last stops, splitParts_space] at split
      rw [parts_of_splitParts starts ends blank (by simpa using split)]
      exact congrArg (part :: ·) (parts_of_modifyHead blank)

theorem parts_single {part : List Char} (starts : Starts isBlank part)
    (ends : Ends isBlank part) (unsplit : Unsplit [] part) : parts part = [part] := by
  obtain ⟨last, split⟩ := unsplit false
  have ending : splitParts last [] = [[]] := by rw [splitParts]
  rw [List.append_nil, ending] at split
  have none : ∀ c ∈ ([] : List Char), isBlank c = true := by simp
  rw [parts_of_splitParts starts ends none split]
  rfl

/-! ## The parts of a segment -/

/-- The parts that a segment is split into. -/
def Segment.parts : Segment → List (List Char)
  | .compare comparison => [comparison.text Gap.squeezed]
  | .list bounds =>
      bounds.first.1.chars :: bounds.others.map (fun entry => entry.1.chars)
        ++ [bounds.closing Gap.squeezed]

theorem parts_listed (entry : Name × Joint) (rest : List Char) :
    Language.parts (listed Gap.squeezed entry ++ rest) =
      entry.1.chars :: Language.parts rest := by
  have whole := entry.1.whole (entry.2.boundary rest)
  rw [listed, List.append_assoc]
  exact parts_joint entry.1.starts entry.1.ends entry.2 whole.unsplit

/-- The names of a list are parts of their own. -/
theorem Bounds.parts (bounds : Bounds) (rest : List Char) :
    Language.parts (bounds.text Gap.squeezed ++ rest) =
      bounds.first.1.chars :: bounds.others.map (fun entry => entry.1.chars)
        ++ Language.parts (bounds.closing Gap.squeezed ++ rest) := by
  have others (entries : List (Name × Joint)) :
      Language.parts (entries.flatMap (listed Gap.squeezed)
          ++ (bounds.closing Gap.squeezed ++ rest)) =
        entries.map (fun entry => entry.1.chars)
          ++ Language.parts (bounds.closing Gap.squeezed ++ rest) := by
    induction entries with
    | nil => rfl
    | cons entry more induction =>
        rw [List.flatMap_cons, List.append_assoc, parts_listed, induction]
        rfl
  simp only [Bounds.text, List.append_assoc]
  rw [parts_listed, others]
  rfl

theorem Segment.parts_joint (segment : Segment) (joint : Joint) (rest : List Char) :
    Language.parts (segment.text Gap.squeezed ++ (joint.text Gap.squeezed ++ rest)) =
      segment.parts ++ Language.parts rest := by
  cases segment with
  | compare comparison =>
      have starts := Segment.starts Gap.squeezed (.compare comparison)
      have ends := Segment.ends Gap.squeezed (.compare comparison)
      exact Grammar.parts_joint starts ends joint (comparison.whole _).unsplit
  | list bounds =>
      have closing := Grammar.parts_joint (bounds.closing_starts _) (bounds.closing_ends _) joint
        (bounds.closing_whole (joint.text Gap.squeezed ++ rest)).unsplit
      rw [Segment.text, bounds.parts, closing, Segment.parts, List.append_assoc]
      rfl

theorem Segment.parts_single (segment : Segment) :
    Language.parts (segment.text Gap.squeezed) = segment.parts := by
  cases segment with
  | compare comparison =>
      have starts := Segment.starts Gap.squeezed (.compare comparison)
      have ends := Segment.ends Gap.squeezed (.compare comparison)
      exact Grammar.parts_single starts ends (comparison.whole []).unsplit
  | list bounds =>
      have closing := Grammar.parts_single (bounds.closing_starts _) (bounds.closing_ends _)
        (bounds.closing_whole []).unsplit
      have parts := bounds.parts []
      rw [List.append_nil, List.append_nil, closing] at parts
      exact parts

/-- The list of constraints is split into the parts of its segments. -/
theorem Specification.parts_constraintText (specification : Specification) :
    Language.parts (specification.constraintText Gap.squeezed) =
      specification.segments.flatMap Segment.parts := by
  have chain (first : Segment) (others : List (Joint × Segment)) :
      Language.parts (first.text Gap.squeezed ++
          others.flatMap fun entry => entry.1.text Gap.squeezed ++ entry.2.text Gap.squeezed) =
        (first :: others.map Prod.snd).flatMap Segment.parts := by
    induction others generalizing first with
    | nil => simpa using first.parts_single
    | cons entry more induction =>
        rw [List.flatMap_cons, List.append_assoc, first.parts_joint, induction]
        rfl
  exact chain specification.first specification.others

/-! ## No divider among the constraints -/

theorem Segment.passes (segment : Segment) (rest : List Char) :
    Passes rest (segment.text Gap.squeezed) := by
  cases segment with
  | compare comparison => exact (comparison.whole rest).passes
  | list bounds =>
      have entry (entry : Name × Joint) (rest : List Char) :
          Passes rest (listed Gap.squeezed entry) :=
        (entry.1.whole (entry.2.boundary rest)).passes.append (entry.2.passes rest)
      have others (entries : List (Name × Joint)) (rest : List Char) :
          Passes rest (entries.flatMap (listed Gap.squeezed)) := by
        induction entries with
        | nil => exact passes_nil rest
        | cons first more induction => exact (entry first _).append induction
      exact ((entry bounds.first _).append (others bounds.others _)).append
        (bounds.closing_whole rest).passes

theorem Specification.passes_constraintText (specification : Specification)
    (rest : List Char) : Passes rest (specification.constraintText Gap.squeezed) := by
  have others (entries : List (Joint × Segment)) : Passes rest
      (entries.flatMap fun entry => entry.1.text Gap.squeezed ++ entry.2.text Gap.squeezed) := by
    induction entries with
    | nil => exact passes_nil rest
    | cons entry more induction =>
        exact ((entry.1.passes _).append (entry.2.passes _)).append induction
  exact (specification.first.passes _).append (others specification.others)

end Grammar

end TableauSimplex
