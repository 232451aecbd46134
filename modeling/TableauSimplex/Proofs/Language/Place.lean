import TableauSimplex.Proofs.Language.SecondDivider
import TableauSimplex.Proofs.Language.Separator

/-!
# Places for a constraint

A constraint stands behind a divider or a separator, and in front of a separator or the end; around
these there may be any text at all.  The parts of the constraint are then some of the parts that a
specification is read from, and the others do not depend on it.  So two constraints whose parts are
read alike may stand for each other in any place.
-/

set_option autoImplicit false

namespace TableauSimplex

open TableauSimplex.Text TableauSimplex.Language

namespace Grammar

/-! ## What stands around a constraint -/

/-- What stands between a divider and a constraint: blanks, or any text and a separator. -/
inductive Lead where
  | first (gap : Gap)
  | later (text : List Char) (joint : Joint)

def Lead.chars : Lead → List Char
  | .first gap => gap.chars
  | .later text joint => text ++ joint.text Gap.chars

/-- What stands behind a constraint: blanks, or a separator and any text. -/
inductive Sequel where
  | ending (gap : Gap)
  | mark (gap : Gap) (c : Char) (separates : c = ',' ∨ c = ';') (rest : List Char)
  | and (space : Space) (word : Cased "and") (rest : List Char) (parted : Parted rest)

def Sequel.chars : Sequel → List Char
  | .ending gap => gap.chars
  | .mark gap c _ rest => gap.chars ++ c :: rest
  | .and space word rest _ => space.chars ++ (word.chars ++ rest)

structure Place where
  head : List Char
  divider : Divider
  lead : Lead
  sequel : Sequel

/-- The specification with a constraint in its place. -/
def Place.written (place : Place) (text : List Char) : String :=
  String.ofList (place.head ++ (place.divider.text Gap.chars
    ++ (place.lead.chars ++ (text ++ place.sequel.chars))))

/-- A text that begins with no blank and holds no divider, with its gaps squeezed. -/
structure Fits (text squeezed : List Char) : Prop where
  starts : Starts isBlank text
  squeezes : Squeezes text squeezed
  passes : ∀ {rest}, Boundary rest → Passes rest squeezed

/-! ## In front of a constraint -/

/-- A joint keeps the parts on its two sides apart, whatever they are. -/
theorem Joint.parts (joint : Joint) (front rest : List Char) :
    Language.parts (front ++ (joint.text Gap.squeezed ++ rest)) =
      Language.parts front ++ Language.parts rest := by
  have marked {before after : Gap} {c : Char} (separates : c = ',' ∨ c = ';') :
      Language.parts (front ++ (before.squeezed ++ c :: (after.squeezed ++ rest))) =
        Language.parts front ++ Language.parts rest := by
    rw [← List.append_assoc, parts_append_separator separates,
      parts_append_blank before.blank_squeezed, parts_blank_append after.blank_squeezed]
  cases joint with
  | comma before after =>
      simp only [Joint.text, List.append_assoc, List.cons_append]
      exact marked (.inl rfl)
  | semicolon before after =>
      simp only [Joint.text, List.append_assoc, List.cons_append]
      exact marked (.inr rfl)
  | and before word after =>
      have blank : ∀ c ∈ [' '], isBlank c = true := by decide
      have parted : Parted (' ' :: rest) := parted_cons (by decide) rest
      simp only [Joint.text, before.squeezed_eq, after.squeezed_eq, List.append_assoc,
        List.cons_append, List.nil_append]
      rw [parts_append_and word front parted, ← List.singleton_append, parts_blank_append blank]

theorem Joint.fresh (joint : Joint) (rest : List Char) :
    Fresh (joint.text Gap.squeezed ++ rest) := by
  have marked {before : Gap} {c : Char} (separates : c = ',' ∨ c = ';') (behind : List Char) :
      Fresh (before.squeezed ++ c :: behind) := by
    unfold Gap.squeezed
    split
    · refine fresh_cons ?_ behind
      rcases separates with rfl | rfl <;> decide +kernel
    · refine fresh_space ?_ behind
      rcases separates with rfl | rfl <;> decide
  cases joint with
  | comma before after =>
      simp only [Joint.text, List.append_assoc, List.cons_append]
      exact marked (.inl rfl) _
  | semicolon before after =>
      simp only [Joint.text, List.append_assoc, List.cons_append]
      exact marked (.inr rfl) _
  | and before word after =>
      obtain ⟨a, n, d, shape, aLower, -, -⟩ := word.exists_and
      have other : isLetter 't' a = false := by
        rw [← isLetter_toLower, aLower]
        decide
      simp only [Joint.text, before.squeezed_eq, shape]
      exact fresh_space other _

/-- A text behind which a constraint may stand: its parts end there, and it holds a divider or
lets the next one be found. -/
structure Opens (front : List Char) : Prop where
  parts : ∀ rest, parts (front ++ rest) = parts front ++ parts rest
  cut : (∃ after, (cutAtDivider front).2 = some after) ∨ ∀ rest, Passes rest front

theorem opens_gap (gap : Gap) : Opens gap.squeezed where
  parts rest := by
    have alone := parts_blank_append gap.blank_squeezed []
    rw [List.append_nil, parts_nil] at alone
    rw [parts_blank_append gap.blank_squeezed, alone, List.nil_append]
  cut := .inr fun rest => (gap.whole rest).passes

theorem opens_joint (front : List Char) (joint : Joint) :
    Opens (front ++ joint.text Gap.squeezed) where
  parts rest := by
    have alone := joint.parts front []
    rw [List.append_nil, parts_nil, List.append_nil] at alone
    rw [List.append_assoc, joint.parts, alone]
  cut := by
    cases divided : (cutAtDivider front).2 with
    | some after =>
        refine .inl ⟨after ++ joint.text Gap.squeezed, ?_⟩
        rw [cutAtDivider_append divided]
    | none =>
        exact .inr fun rest => (passes_of_fresh divided (joint.fresh rest)).append
          (joint.passes rest)

theorem exists_joint {front : List Char} (present : normaliseSpace front ≠ []) (joint : Joint) :
    ∃ seamed : Joint, ∀ text squeezed rest, Fits text squeezed →
      normaliseSpace (front ++ (joint.text Gap.chars ++ (text ++ rest))) =
        normaliseSpace front ++ (seamed.text Gap.squeezed ++ (squeezed ++ behind rest)) := by
  have spaces {seam : List Char} (space : seam = [] ∨ seam = [' ']) :
      ∃ gap : Gap, gap.squeezed = seam := by
    rcases space with rfl | rfl
    · exact ⟨⟨[], by simp⟩, rfl⟩
    · exact ⟨⟨[' '], by decide⟩, rfl⟩
  have marked (before after : Gap) {c : Char} (separates : c = ',' ∨ c = ';') :
      ∃ seam : Gap, ∀ text squeezed rest, Fits text squeezed →
        normaliseSpace (front ++ (before.chars ++ c :: (after.chars ++ (text ++ rest)))) =
          normaliseSpace front ++ (seam.squeezed ++ c :: (after.squeezed
            ++ (squeezed ++ behind rest))) := by
    obtain ⟨seam, space, -, seamed⟩ := exists_seam front before.blank
    obtain ⟨gap, rfl⟩ := spaces space
    refine ⟨gap, fun text squeezed rest fits => ?_⟩
    have outside := isBlank_eq_false_of_separator separates
    have gapped := Squeezes.gap after fits.starts fits.squeezes rest
    simp only [List.append_assoc] at gapped
    rw [seamed _ ⟨c, _, rfl, outside⟩, normaliseSpace_cons outside, gapped]
  cases joint with
  | comma before after =>
      obtain ⟨seam, seamed⟩ := marked before after (.inl rfl)
      refine ⟨.comma seam after, fun text squeezed rest fits => ?_⟩
      simpa only [Joint.text, List.append_assoc, List.cons_append] using
        seamed text squeezed rest fits
  | semicolon before after =>
      obtain ⟨seam, seamed⟩ := marked before after (.inr rfl)
      refine ⟨.semicolon seam after, fun text squeezed rest fits => ?_⟩
      simpa only [Joint.text, List.append_assoc, List.cons_append] using
        seamed text squeezed rest fits
  | and before word after =>
      obtain ⟨seam, -, nonempty, seamed⟩ := exists_seam front before.blank
      refine ⟨.and before word after, fun text squeezed rest fits => ?_⟩
      have outside := word.isBlank_eq_false (by decide)
      have starts : Starts isBlank word.chars :=
        starts_of_forall (word.chars_ne_nil (by decide)) outside
      have worded := squeezes_of_forall outside (after.chars ++ (text ++ rest))
      have gapped := Squeezes.gap after.toGap fits.starts fits.squeezes rest
      simp only [List.append_assoc] at gapped
      simp only [Joint.text, List.append_assoc]
      rw [seamed _ (starts.append _), ← behind_of_starts (starts.append _), worded, gapped,
        nonempty present before.chars_ne_nil, before.squeezed_eq]

theorem Place.exists_opens (place : Place) :
    ∃ seam front, (seam = [] ∨ seam = [' ']) ∧ Opens front ∧
      ∀ text squeezed, Fits text squeezed →
        normaliseSpace (place.written text).toList =
          normaliseSpace place.head ++ (seam ++ (place.divider.text Gap.squeezed
            ++ (front ++ (squeezed ++ behind place.sequel.chars)))) := by
  obtain ⟨head, divider, lead, sequel⟩ := place
  have noBlank : ∀ c ∈ ([] : List Char), isBlank c = true := List.forall_mem_nil _
  obtain ⟨seam, space, -, seamed⟩ := exists_seam head noBlank
  have behindDivider (text : List Char) :
      normaliseSpace (head ++ (divider.text Gap.chars ++ text)) =
        normaliseSpace head ++ (seam ++ (divider.text Gap.squeezed ++ behind text)) := by
    have starts := (divider.starts Gap.chars).append text
    have joined := seamed _ starts
    rwa [List.nil_append, ← behind_of_starts starts, divider.squeezes] at joined
  cases lead with
  | first gap =>
      refine ⟨seam, gap.squeezed, space, opens_gap gap, fun text squeezed fits => ?_⟩
      have gapped := Squeezes.gap gap fits.starts fits.squeezes sequel.chars
      simp only [List.append_assoc] at gapped
      rw [Place.written, String.toList_ofList, behindDivider, Lead.chars, gapped]
  | later earlier joint =>
      have present : normaliseSpace (head ++ (divider.text Gap.chars ++ earlier)) ≠ [] := by
        rw [behindDivider]
        simp [(divider.starts Gap.squeezed).ne_nil]
      obtain ⟨other, joined⟩ := exists_joint present joint
      refine ⟨seam, behind earlier ++ other.text Gap.squeezed, space, opens_joint _ other,
        fun text squeezed fits => ?_⟩
      have whole := joined text squeezed sequel.chars fits
      rw [behindDivider] at whole
      simpa only [Place.written, String.toList_ofList, Lead.chars, List.append_assoc] using whole

/-! ## Behind a constraint -/

theorem parted_behind {rest : List Char} (parted : Parted rest) : Parted (behind rest) := by
  cases rest with
  | nil => exact parted
  | cons c more =>
      by_cases blank : isBlank c = true
      · rw [behind, if_pos blank]
        split
        · rintro d ⟨⟩
        · exact parted_cons (by decide) _
      · rw [Bool.not_eq_true] at blank
        rw [behind_cons blank]
        exact parted_cons (parted c rfl) _

theorem parted_cutAtDivider {rest : List Char} (parted : Parted rest) :
    Parted (cutAtDivider rest).1 := by
  cases rest with
  | nil => exact parted
  | cons c more =>
      rw [cutAtDivider]
      split
      · rintro d ⟨⟩
      · exact parted_cons (parted c rfl) _

/-- A squeezed text that may stand behind a constraint. -/
inductive Closes : List Char → Prop where
  | ending : Closes []
  | mark (gap : Gap) {c : Char} (separates : c = ',' ∨ c = ';') (rest : List Char) :
      Closes (gap.squeezed ++ c :: rest)
  | and (word : Cased "and") {rest : List Char} (parted : Parted rest) :
      Closes (' ' :: (word.chars ++ rest))

theorem Sequel.closes (sequel : Sequel) : Closes (behind sequel.chars) := by
  cases sequel with
  | ending gap =>
      rw [Sequel.chars, behind_of_blank gap.blank]
      exact .ending
  | mark gap c separates rest =>
      have outside := isBlank_eq_false_of_separator separates
      have gapped := Squeezes.gap gap ⟨c, [], rfl, outside⟩ (Squeezes.nil.cons outside) rest
      simp only [List.append_assoc, List.singleton_append] at gapped
      rw [Sequel.chars, gapped]
      exact .mark gap separates _
  | and space word rest parted =>
      have outside := word.isBlank_eq_false (by decide)
      have starts : Starts isBlank word.chars :=
        starts_of_forall (word.chars_ne_nil (by decide)) outside
      have gapped := Squeezes.gap space.toGap starts (squeezes_of_forall outside) rest
      simp only [List.append_assoc, space.squeezed_eq] at gapped
      rw [Sequel.chars, gapped]
      exact .and word (parted_behind parted)

namespace Closes

variable {text : List Char} (closes : Closes text)

include closes

theorem boundary : Boundary text := by
  cases closes with
  | ending =>
      refine ⟨by rintro c ⟨⟩, fun phrase known => ?_⟩
      have letters : ∀ phrase ∈ [" to", " that", ".t."],
          afterPhrase? phrase.toList [] = none := by decide
      exact letters phrase known
  | mark gap separates rest =>
      rcases separates with rfl | rfl <;>
        exact boundary_gap gap (by decide) (by decide) (by decide) rest
  | and word parted =>
      obtain ⟨a, n, d, shape, aLower, -, -⟩ := word.exists_and
      have other : isLetter 't' a = false := by
        rw [← isLetter_toLower, aLower]
        decide
      rw [shape]
      exact boundary_space other _

theorem cut : Closes (cutAtDivider text).1 := by
  cases closes with
  | ending => exact .ending
  | @mark gap c separates rest =>
      have comma : afterDivider? (c :: rest) = none := by
        apply afterDivider?_of_other
        rcases separates with rfl | rfl <;> decide
      have passed := (gap.whole (c :: rest)).passes
      rw [Passes, cutAtDivider, comma] at passed
      rw [passed]
      exact .mark gap separates _
  | @and word rest parted =>
      have space : afterDivider? (' ' :: (word.chars ++ rest)) = none :=
        afterDivider?_of_other (by decide) _
      have passed := (passes_of_isCalm (word.isCalm (by decide)) rest).cons space
      rw [Passes, List.cons_append] at passed
      rw [passed]
      exact .and word (parted_cutAtDivider parted)

theorem parts (front : List Char) :
    Language.parts (front ++ text) = Language.parts front ++ Language.parts text := by
  have whole : ∃ behind, ∀ front, Language.parts (front ++ text) =
      Language.parts front ++ Language.parts behind := by
    cases closes with
    | ending => exact ⟨[], fun front => by rw [parts_nil, List.append_nil, List.append_nil]⟩
    | mark gap separates rest =>
        refine ⟨rest, fun front => ?_⟩
        rw [← List.append_assoc, parts_append_separator separates,
          parts_append_blank gap.blank_squeezed]
    | @and word rest parted => exact ⟨rest, fun front => parts_append_and word front parted⟩
  obtain ⟨behind, together⟩ := whole
  have alone := together []
  rw [List.nil_append, parts_nil, List.nil_append] at alone
  rw [together, alone]

end Closes

/-! ## The parts that a specification is read from -/

/-- What a specification is read from in front of its divider does not depend on the constraint in
a place.  The parts behind it hold those of the constraint, unless there is a divider between: then
they do not depend on the constraint either. -/
theorem Place.exists_parts (place : Place) :
    ∃ opening,
      (∀ text squeezed, Fits text squeezed →
        normaliseSpace (place.written text).toList ≠ [] ∧
          (cutAtDivider (normaliseSpace (place.written text).toList)).1 = opening) ∧
      ((∃ constraints, ∀ text squeezed, Fits text squeezed →
          constraintText (normaliseSpace (place.written text).toList) = constraints) ∨
        ∃ before behind, ∀ text squeezed, Fits text squeezed →
          Language.parts (constraintText (normaliseSpace (place.written text).toList)) =
            before ++ (Language.parts squeezed ++ behind)) := by
  obtain ⟨seam, front, space, opens, written⟩ := place.exists_opens
  have present (rest : List Char) : normaliseSpace place.head
      ++ (seam ++ (place.divider.text Gap.squeezed ++ rest)) ≠ [] := by
    simp [(place.divider.starts Gap.squeezed).ne_nil]
  cases divided : (cutAtDivider (normaliseSpace place.head)).2 with
  | some after =>
      refine ⟨(cutAtDivider (normaliseSpace place.head)).1, fun text squeezed fits => ?_,
        .inl ⟨constraintText (normaliseSpace place.head), fun text squeezed fits => ?_⟩⟩
      · rw [written text squeezed fits, cutAtDivider_append divided]
        exact ⟨present _, rfl⟩
      · rw [written text squeezed fits, constraintText_append_divider divided space]
  | none =>
      have cut (rest : List Char) : cutAtDivider (normaliseSpace place.head
          ++ (seam ++ (place.divider.text Gap.squeezed ++ rest))) =
            (normaliseSpace place.head ++ seam, some rest) := by
        have passed := passes_of_fresh divided (place.divider.fresh space rest)
        have seamPassed := passes_seam space (place.divider.text Gap.squeezed ++ rest)
        rw [Passes, place.divider.cutAtDivider, List.append_nil] at seamPassed
        rw [passed, seamPassed]
      have constraints (rest : List Char) : constraintText (normaliseSpace place.head
          ++ (seam ++ (place.divider.text Gap.squeezed ++ rest))) =
            strip (cutAtDivider rest).1 := by
        rw [constraintText, cut]
        rfl
      refine ⟨normaliseSpace place.head ++ seam, fun text squeezed fits => ?_, ?_⟩
      · rw [written text squeezed fits, cut]
        exact ⟨present _, rfl⟩
      rcases opens.cut with ⟨after, frontDivided⟩ | passes
      · refine .inl ⟨strip (cutAtDivider front).1, fun text squeezed fits => ?_⟩
        rw [written text squeezed fits, constraints, cutAtDivider_append frontDivided]
      · refine .inr ⟨Language.parts front,
          Language.parts (cutAtDivider (behind place.sequel.chars)).1, fun text squeezed fits => ?_⟩
        have closes := place.sequel.closes
        rw [written text squeezed fits, constraints, parts_strip, passes,
          fits.passes closes.boundary, opens.parts, closes.cut.parts]

end Grammar

/-! ## Constraints that stand for each other -/

namespace Language

theorem segments_append (waiting front back : List (List Char)) :
    segments waiting (front ++ back) =
      ((segments waiting front).1 ++ (segments (segments waiting front).2 back).1,
        (segments (segments waiting front).2 back).2) := by
  induction front generalizing waiting with
  | nil => rfl
  | cons part more induction =>
      rw [List.cons_append, segments, segments]
      split
      · exact induction _
      · rw [induction]
        rfl

theorem isName_of_mem_dangling {waiting parts : List (List Char)}
    (names : ∀ name ∈ waiting, isName name = true) :
    ∀ name ∈ (segments waiting parts).2, isName name = true := by
  induction parts generalizing waiting with
  | nil => exact names
  | cons part more induction =>
      rw [segments]
      split
      · rename_i name
        exact induction (List.forall_mem_append.mpr ⟨names, by simpa using name⟩)
      · exact induction (List.forall_mem_nil _)

section Reading

variable {α : Type} [Scalar α]

theorem readSegments_cons_eq_ok {segment : List Char} {rest : List (List Char)}
    {statements : List (Statement α)} :
    readSegments (segment :: rest) = .ok statements ↔
      ∃ own others, readSegment segment = .ok own ∧ readSegments rest = .ok others ∧
        statements = own ++ others := by
  rw [readSegments]
  cases readSegment (α := α) segment with
  | error error => simp [bind, Except.bind]
  | ok own =>
      cases readSegments (α := α) rest with
      | error error => simp [bind, Except.bind]
      | ok others => simp [bind, Except.bind, pure, Except.pure, eq_comm]

theorem readSegments_append_eq_ok {front back : List (List Char)}
    {statements : List (Statement α)} :
    readSegments (front ++ back) = .ok statements ↔
      ∃ first second, readSegments front = .ok first ∧ readSegments back = .ok second ∧
        statements = first ++ second := by
  induction front generalizing statements with
  | nil => simp [readSegments]
  | cons segment more induction =>
      simp only [List.cons_append, readSegments_cons_eq_ok, induction]
      constructor
      · rintro ⟨own, _, ownRead, ⟨first, second, firstRead, secondRead, rfl⟩, rfl⟩
        exact ⟨own ++ first, second, ⟨own, first, ownRead, firstRead, rfl⟩, secondRead,
          (List.append_assoc _ _ _).symm⟩
      · rintro ⟨_, second, ⟨own, first, ownRead, firstRead, rfl⟩, secondRead, rfl⟩
        exact ⟨own, first ++ second, ownRead, ⟨first, second, firstRead, secondRead, rfl⟩,
          List.append_assoc _ _ _⟩

/-- Two lists of parts are read alike, whatever names wait for them. -/
def Agree (α : Type) [Scalar α] (first second : List (List Char)) : Prop :=
  ∀ waiting, (∀ name ∈ waiting, isName name = true) →
    (segments waiting first).2 = (segments waiting second).2 ∧
      ∀ statements : List (Statement α),
        readSegments (segments waiting first).1 = .ok statements ↔
          readSegments (segments waiting second).1 = .ok statements

theorem Agree.between {first second : List (List Char)} (agree : Agree α first second)
    (before behind : List (List Char)) :
    Agree α (before ++ (first ++ behind)) (before ++ (second ++ behind)) := by
  intro waiting names
  have dangling : ∀ name ∈ (segments waiting before).2, isName name = true :=
    isName_of_mem_dangling names
  obtain ⟨same, reads⟩ := agree _ dangling
  simp only [segments_append, same, readSegments_append_eq_ok, reads, implies_true, and_self]

theorem Agree.symm {first second : List (List Char)} (agree : Agree α first second) :
    Agree α second first := fun waiting names =>
  ⟨(agree waiting names).1.symm, fun statements => ((agree waiting names).2 statements).symm⟩

theorem ofSpecification_of_agree {first second : String} {program : LinearProgram α}
    (empty : normaliseSpace first.toList = [] ↔ normaliseSpace second.toList = [])
    (opening : (cutAtDivider (normaliseSpace first.toList)).1 =
      (cutAtDivider (normaliseSpace second.toList)).1)
    (agree : Agree α (parts (constraintText (normaliseSpace first.toList)))
      (parts (constraintText (normaliseSpace second.toList))))
    (succeeds : LinearProgram.ofSpecification first = .ok program) :
    LinearProgram.ofSpecification second = .ok program := by
  obtain ⟨sense, objective, statements, stages, assembled⟩ := exists_stages_of_ok succeeds
  have none : ∀ name ∈ ([] : List (List Char)), isName name = true := List.forall_mem_nil _
  obtain ⟨same, reads⟩ := agree [] none
  have others : Stages (normaliseSpace second.toList) sense objective statements :=
    { text_ne_nil := mt empty.mpr stages.text_ne_nil
      objective_read := by
        rw [← opening]
        exact stages.objective_read
      none_dangling := same.symm.trans stages.none_dangling
      segments_read := (reads statements).mp stages.segments_read }
  rw [ofSpecification_of_stages others, assembled]

end Reading

end Language

namespace Grammar

/-- Constraints whose parts are read alike stand for each other in every place. -/
theorem Place.ofSpecification_iff {α : Type} [Scalar α] (place : Place)
    {first firstSqueezed second secondSqueezed : List Char} (firstFits : Fits first firstSqueezed)
    (secondFits : Fits second secondSqueezed)
    (agree : Agree α (Language.parts firstSqueezed) (Language.parts secondSqueezed))
    (program : LinearProgram α) :
    LinearProgram.ofSpecification (place.written first) = .ok program ↔
      LinearProgram.ofSpecification (place.written second) = .ok program := by
  obtain ⟨opening, opened, constraints⟩ := place.exists_parts
  obtain ⟨firstPresent, firstOpening⟩ := opened first firstSqueezed firstFits
  obtain ⟨secondPresent, secondOpening⟩ := opened second secondSqueezed secondFits
  have sameOpening := firstOpening.trans secondOpening.symm
  rcases constraints with ⟨text, same⟩ | ⟨before, behind, parts⟩
  · have sameText := (same first firstSqueezed firstFits).trans
      (same second secondSqueezed secondFits).symm
    rw [ofSpecification_congr (iff_of_false firstPresent secondPresent) sameOpening sameText]
  · have empty := iff_of_false firstPresent secondPresent
    have between : Agree α
        (Language.parts (constraintText (normaliseSpace (place.written first).toList)))
        (Language.parts (constraintText (normaliseSpace (place.written second).toList))) := by
      rw [parts first firstSqueezed firstFits, parts second secondSqueezed secondFits]
      exact agree.between before behind
    exact ⟨ofSpecification_of_agree empty sameOpening between,
      ofSpecification_of_agree empty.symm sameOpening.symm between.symm⟩

end Grammar

end TableauSimplex
