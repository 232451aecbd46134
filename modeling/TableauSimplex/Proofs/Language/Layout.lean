import TableauSimplex.Proofs.Language.Blank
import TableauSimplex.Proofs.Language.Character
import TableauSimplex.Proofs.Language.Grammar

/-!
# Single spaces for gaps

Normalising the blanks of a specification writes every gap between its parts as a single space, or
leaves it out if it is empty.  No part begins or ends with a blank, so the parts stay as they are.
-/

set_option autoImplicit false

namespace TableauSimplex

namespace Grammar

open TableauSimplex.Text TableauSimplex.Language

/-- Normalising blanks makes one text of another, whatever stands behind it. -/
def Squeezes (text squeezed : List Char) : Prop :=
  ∀ rest, behind (text ++ rest) = squeezed ++ behind rest

theorem Squeezes.nil : Squeezes [] [] := fun _ => rfl

theorem Squeezes.cons {c : Char} (outside : isBlank c = false) {text squeezed : List Char}
    (squeezes : Squeezes text squeezed) : Squeezes (c :: text) (c :: squeezed) := by
  intro rest
  rw [List.cons_append, behind_cons outside, squeezes rest, List.cons_append]

theorem Squeezes.append {first second firstSqueezed secondSqueezed : List Char}
    (firstSqueezes : Squeezes first firstSqueezed)
    (secondSqueezes : Squeezes second secondSqueezed) :
    Squeezes (first ++ second) (firstSqueezed ++ secondSqueezed) := by
  intro rest
  rw [List.append_assoc, firstSqueezes, secondSqueezes, List.append_assoc]

theorem squeezes_of_forall {text : List Char} (outside : ∀ c ∈ text, isBlank c = false) :
    Squeezes text text := by
  induction text with
  | nil => exact Squeezes.nil
  | cons c rest induction =>
      exact Squeezes.cons (outside c List.mem_cons_self)
        (induction fun d member => outside d (List.mem_cons_of_mem c member))

theorem Squeezes.gap (gap : Gap) {text squeezed : List Char} (starts : Starts isBlank text)
    (squeezes : Squeezes text squeezed) :
    Squeezes (gap.chars ++ text) (gap.squeezed ++ squeezed) := by
  intro rest
  have follows := starts.append rest
  rw [List.append_assoc, List.append_assoc, ← squeezes rest, Gap.squeezed]
  cases shape : gap.chars with
  | nil => rfl
  | cons c more =>
      have blank := gap.blank
      rw [shape] at blank
      have later : ∀ d ∈ more, isBlank d = true := fun d member =>
        blank d (List.mem_cons_of_mem c member)
      have present : words (more ++ (text ++ rest)) ≠ [] := by
        rw [words_append_of_blank later]
        exact words_ne_nil_of_starts follows
      rw [List.cons_append, behind, if_pos (blank c List.mem_cons_self), if_neg present,
        normaliseSpace_append_of_blank later, behind_of_starts follows,
        if_neg (List.cons_ne_nil c more)]
      rfl

theorem Squeezes.flatMap {β : Type} {text squeezed : β → List Char}
    (squeezes : ∀ part, Squeezes (text part) (squeezed part)) (parts : List β) :
    Squeezes (parts.flatMap text) (parts.flatMap squeezed) := by
  induction parts with
  | nil => exact Squeezes.nil
  | cons part rest induction => exact (squeezes part).append induction

/-! ## The characters of the parts -/

theorem isBlank_toLower (c : Char) : isBlank c.toLower = isBlank c := by
  rcases Nat.lt_or_ge c.toNat 128 with small | large
  · exact forall_ascii (P := fun c => isBlank c.toLower = isBlank c) (by decide +kernel) small
  · rw [toLower_of_not_ascii large]

theorem Cased.isBlank_eq_false {word : String} (cased : Cased word)
    (outside : ∀ c ∈ word.toList, isBlank c = false) : ∀ c ∈ cased.chars, isBlank c = false := by
  intro c member
  rw [← isBlank_toLower]
  apply outside
  rw [← cased.lower]
  exact List.mem_map_of_mem member

theorem Cased.chars_ne_nil {word : String} (cased : Cased word) (nonempty : word.toList ≠ []) :
    cased.chars ≠ [] := by
  intro empty
  have lower := cased.lower
  rw [empty] at lower
  exact nonempty lower.symm

theorem Figure.mem_chars {figure : Figure} {c : Char} (member : c ∈ figure.chars) :
    isDigit c = true ∨ c = '.' := by
  unfold Figure.chars at member
  split at member
  · exact .inl (figure.whole.digit c member)
  · rename_i fraction _
    rcases List.mem_append.mp member with whole | behind
    · exact .inl (figure.whole.digit c whole)
    · rcases List.mem_cons.mp behind with point | digit
      · exact .inr point
      · exact .inl (fraction.digit c digit)

theorem Figure.isBlank_eq_false (figure : Figure) : ∀ c ∈ figure.chars, isBlank c = false := by
  intro c member
  rcases figure.mem_chars member with digit | rfl
  · exact isBlank_eq_false_of_isDigit digit
  · decide

theorem Figure.chars_eq_cons (figure : Figure) :
    ∃ c rest, figure.chars = c :: rest ∧ isDigit c = true := by
  obtain ⟨c, rest, shape⟩ := List.exists_cons_of_ne_nil figure.whole.chars_ne_nil
  have digit : isDigit c = true := figure.whole.digit c (by rw [shape]; exact List.mem_cons_self)
  unfold Figure.chars
  split
  · exact ⟨c, rest, shape, digit⟩
  · exact ⟨c, _, by rw [shape]; rfl, digit⟩

theorem Figure.starts (figure : Figure) : Starts isBlank figure.chars := by
  obtain ⟨c, rest, shape, digit⟩ := figure.chars_eq_cons
  exact ⟨c, rest, shape, isBlank_eq_false_of_isDigit digit⟩

theorem Figure.ends (figure : Figure) : Ends isBlank figure.chars :=
  ends_of_forall figure.starts.ne_nil figure.isBlank_eq_false

theorem Name.mem_chars {name : Name} {c : Char} (member : c ∈ name.chars) :
    c.isAlphanum = true ∨ c = '_' := by
  rcases List.mem_cons.mp member with rfl | later
  · exact identifier_of_isNameStart name.first_start
  · exact name.rest_ascii c later

theorem Name.isBlank_eq_false (name : Name) : ∀ c ∈ name.chars, isBlank c = false :=
  fun _ member => isBlank_eq_false_of_identifier (name.mem_chars member)

theorem Name.starts (name : Name) : Starts isBlank name.chars :=
  starts_of_forall (List.cons_ne_nil _ _) name.isBlank_eq_false

theorem Name.ends (name : Name) : Ends isBlank name.chars :=
  ends_of_forall (List.cons_ne_nil _ _) name.isBlank_eq_false

theorem Sign.isBlank_eq_false (sign : Sign) : isBlank sign.char = false := by
  cases sign <;> decide

/-! ## The ends of the parts -/

section Ends

variable (write : Gap → List Char)

theorem Item.starts (item : Item) : Starts isBlank (item.text write) := by
  cases item with
  | constant figure => exact figure.starts
  | unit name => exact name.starts
  | multiple figure before star name =>
      cases star with
      | none => exact (figure.starts.append _).append _
      | some after =>
          simp only [Item.text, List.append_assoc]
          exact figure.starts.append _

theorem Item.ends (item : Item) : Ends isBlank (item.text write) := by
  cases item with
  | constant figure => exact figure.ends
  | unit name => exact name.ends
  | multiple figure before star name => cases star <;> exact name.ends.append _

theorem Addend.starts (addend : Addend) : Starts isBlank (addend.text write) := by
  unfold Addend.text
  cases addend.sign with
  | none => exact addend.item.starts write
  | some signed => exact ⟨signed.1.char, _, rfl, signed.1.isBlank_eq_false⟩

theorem Addend.ends (addend : Addend) : Ends isBlank (addend.text write) :=
  (addend.item.ends write).append _

theorem Expression.starts (expression : Expression) : Starts isBlank (expression.text write) :=
  (expression.first.starts write).append _

theorem Expression.ends (expression : Expression) : Ends isBlank (expression.text write) := by
  have continued (continuation : Continuation) : Ends isBlank (continuation.text write) :=
    (continuation.addend.ends write).append (write continuation.before)
  exact (expression.first.ends write).append_flatMap continued expression.others

theorem targetText_starts (sign : Option Sign) (figure : Figure) :
    Starts isBlank (targetText sign figure) := by
  cases sign with
  | none => exact figure.starts
  | some sign => exact ⟨sign.char, figure.chars, rfl, sign.isBlank_eq_false⟩

theorem targetText_ends (sign : Option Sign) (figure : Figure) :
    Ends isBlank (targetText sign figure) :=
  figure.ends.append _

theorem Bounds.closing_starts (bounds : Bounds) : Starts isBlank (bounds.closing write) := by
  simp only [Bounds.closing, List.append_assoc]
  exact bounds.last.starts.append _

theorem Bounds.closing_ends (bounds : Bounds) : Ends isBlank (bounds.closing write) :=
  (targetText_ends _ _).append _

theorem listed_starts (entry : Name × Joint) : Starts isBlank (listed write entry) :=
  entry.1.starts.append _

theorem Segment.starts (segment : Segment) : Starts isBlank (segment.text write) := by
  cases segment with
  | compare comparison =>
      simp only [Segment.text, Comparison.text, List.append_assoc]
      exact (comparison.expression.starts write).append _
  | list bounds =>
      simp only [Segment.text, Bounds.text, List.append_assoc]
      exact (listed_starts write bounds.first).append _

theorem Segment.ends (segment : Segment) : Ends isBlank (segment.text write) := by
  cases segment with
  | compare comparison => exact (targetText_ends _ _).append _
  | list bounds => exact (bounds.closing_ends write).append _

theorem Divider.starts (divider : Divider) : Starts isBlank (divider.text write) := by
  cases divider with
  | subjectTo first between second =>
      have word : Starts isBlank first.chars :=
        starts_of_forall (first.chars_ne_nil (by decide)) (first.isBlank_eq_false (by decide))
      exact (word.append _).append _
  | suchThat first between second =>
      have word : Starts isBlank first.chars :=
        starts_of_forall (first.chars_ne_nil (by decide)) (first.isBlank_eq_false (by decide))
      exact (word.append _).append _
  | abbreviated word =>
      exact starts_of_forall (word.chars_ne_nil (by decide)) (word.isBlank_eq_false (by decide))

theorem Specification.constraintText_starts (specification : Specification) :
    Starts isBlank (specification.constraintText write) :=
  (specification.first.starts write).append _

theorem Specification.constraintText_ends (specification : Specification) :
    Ends isBlank (specification.constraintText write) := by
  have joined (entry : Joint × Segment) :
      Ends isBlank (entry.1.text write ++ entry.2.text write) :=
    (entry.2.ends write).append (entry.1.text write)
  exact (specification.first.ends write).append_flatMap joined specification.others

end Ends

/-! ## The parts with their gaps squeezed -/

theorem Figure.squeezes (figure : Figure) : Squeezes figure.chars figure.chars :=
  squeezes_of_forall figure.isBlank_eq_false

theorem Name.squeezes (name : Name) : Squeezes name.chars name.chars :=
  squeezes_of_forall name.isBlank_eq_false

theorem Item.squeezes (item : Item) :
    Squeezes (item.text Gap.chars) (item.text Gap.squeezed) := by
  cases item with
  | constant figure => exact figure.squeezes
  | unit name => exact name.squeezes
  | multiple figure before star name =>
      cases star with
      | none =>
          simp only [Item.text, List.append_assoc]
          exact figure.squeezes.append (Squeezes.gap before name.starts name.squeezes)
      | some after =>
          simp only [Item.text, List.append_assoc, List.cons_append]
          have starred := Squeezes.cons (show isBlank '*' = false by decide)
            (Squeezes.gap after name.starts name.squeezes)
          exact figure.squeezes.append (Squeezes.gap before ⟨'*', _, rfl, by decide⟩ starred)

theorem Addend.squeezes (addend : Addend) :
    Squeezes (addend.text Gap.chars) (addend.text Gap.squeezed) := by
  obtain ⟨sign, item⟩ := addend
  cases sign with
  | none => exact item.squeezes
  | some signed =>
      exact Squeezes.cons signed.1.isBlank_eq_false
        (Squeezes.gap signed.2 (item.starts _) item.squeezes)

theorem Expression.squeezes (expression : Expression) :
    Squeezes (expression.text Gap.chars) (expression.text Gap.squeezed) :=
  expression.first.squeezes.append
    (Squeezes.flatMap
      (fun continuation => Squeezes.gap continuation.before (continuation.addend.starts _)
        continuation.addend.squeezes) expression.others)

theorem targetText_squeezes (sign : Option Sign) (figure : Figure) :
    Squeezes (targetText sign figure) (targetText sign figure) := by
  cases sign with
  | none => exact figure.squeezes
  | some sign => exact Squeezes.cons sign.isBlank_eq_false figure.squeezes

theorem Comparator.isBlank_eq_false (comparator : Comparator) :
    ∀ c ∈ comparator.chars, isBlank c = false := by
  cases comparator with
  | inequality kind => cases kind <;> decide
  | equal => decide
  | doubled => decide

theorem Comparator.chars_ne_nil (comparator : Comparator) : comparator.chars ≠ [] := by
  cases comparator with
  | inequality kind => cases kind <;> decide
  | equal => decide
  | doubled => decide

/-- A comparison sign and what it compares with behind a text, with gaps around the sign. -/
theorem Squeezes.compared {text squeezed target : List Char} (squeezes : Squeezes text squeezed)
    (before after : Gap) (comparator : Comparator) (starts : Starts isBlank target)
    (targetSqueezes : Squeezes target target) :
    Squeezes (text ++ before.chars ++ comparator.chars ++ after.chars ++ target)
      (squeezed ++ before.squeezed ++ comparator.chars ++ after.squeezed ++ target) := by
  simp only [List.append_assoc]
  have signStarts : Starts isBlank comparator.chars :=
    starts_of_forall comparator.chars_ne_nil comparator.isBlank_eq_false
  exact squeezes.append
    (Squeezes.gap before (signStarts.append _)
      ((squeezes_of_forall comparator.isBlank_eq_false).append
        (Squeezes.gap after starts targetSqueezes)))

theorem Bounds.closing_squeezes (bounds : Bounds) :
    Squeezes (bounds.closing Gap.chars) (bounds.closing Gap.squeezed) :=
  Squeezes.compared bounds.last.squeezes bounds.before bounds.after
    (.inequality bounds.inequality) (targetText_starts _ _) (targetText_squeezes _ _)

theorem Joint.squeezes (joint : Joint) {text squeezed : List Char} (starts : Starts isBlank text)
    (squeezes : Squeezes text squeezed) :
    Squeezes (joint.text Gap.chars ++ text) (joint.text Gap.squeezed ++ squeezed) := by
  cases joint with
  | comma before after =>
      simp only [Joint.text, List.append_assoc, List.cons_append]
      exact Squeezes.gap before ⟨',', _, rfl, by decide⟩
        (Squeezes.cons (by decide) (Squeezes.gap after starts squeezes))
  | semicolon before after =>
      simp only [Joint.text, List.append_assoc, List.cons_append]
      exact Squeezes.gap before ⟨';', _, rfl, by decide⟩
        (Squeezes.cons (by decide) (Squeezes.gap after starts squeezes))
  | and before word after =>
      simp only [Joint.text, List.append_assoc]
      have outside := word.isBlank_eq_false (by decide)
      have wordStarts : Starts isBlank word.chars :=
        starts_of_forall (word.chars_ne_nil (by decide)) outside
      exact Squeezes.gap before.toGap (wordStarts.append _)
        ((squeezes_of_forall outside).append (Squeezes.gap after.toGap starts squeezes))

theorem listed_squeezes (entry : Name × Joint) {text squeezed : List Char}
    (starts : Starts isBlank text) (squeezes : Squeezes text squeezed) :
    Squeezes (listed Gap.chars entry ++ text) (listed Gap.squeezed entry ++ squeezed) := by
  simp only [listed, List.append_assoc]
  exact entry.1.squeezes.append (entry.2.squeezes starts squeezes)

theorem Bounds.squeezes (bounds : Bounds) :
    Squeezes (bounds.text Gap.chars) (bounds.text Gap.squeezed) := by
  have others : ∀ entries : List (Name × Joint),
      Starts isBlank (entries.flatMap (listed Gap.chars) ++ bounds.closing Gap.chars) ∧
        Squeezes (entries.flatMap (listed Gap.chars) ++ bounds.closing Gap.chars)
          (entries.flatMap (listed Gap.squeezed) ++ bounds.closing Gap.squeezed) := by
    intro entries
    induction entries with
    | nil => exact ⟨bounds.closing_starts _, bounds.closing_squeezes⟩
    | cons entry rest induction =>
        simp only [List.flatMap_cons, List.append_assoc]
        exact ⟨(listed_starts _ entry).append _,
          listed_squeezes entry induction.1 induction.2⟩
  simp only [Bounds.text, List.append_assoc]
  exact listed_squeezes bounds.first (others bounds.others).1 (others bounds.others).2

theorem Segment.squeezes (segment : Segment) :
    Squeezes (segment.text Gap.chars) (segment.text Gap.squeezed) := by
  cases segment with
  | compare comparison =>
      exact Squeezes.compared comparison.expression.squeezes comparison.before comparison.after
        comparison.comparator (targetText_starts _ _) (targetText_squeezes _ _)
  | list bounds => exact bounds.squeezes

theorem Specification.constraintText_squeezes (specification : Specification) :
    Squeezes (specification.constraintText Gap.chars)
      (specification.constraintText Gap.squeezed) :=
  specification.first.squeezes.append
    (Squeezes.flatMap (fun entry => entry.1.squeezes (entry.2.starts _) entry.2.squeezes)
      specification.others)

theorem Divider.squeezes (divider : Divider) :
    Squeezes (divider.text Gap.chars) (divider.text Gap.squeezed) := by
  have word {spelling : String} (cased : Cased spelling)
      (outside : ∀ c ∈ spelling.toList, isBlank c = false) : Squeezes cased.chars cased.chars :=
    squeezes_of_forall (cased.isBlank_eq_false outside)
  cases divider with
  | subjectTo first between second =>
      have starts : Starts isBlank second.chars :=
        starts_of_forall (second.chars_ne_nil (by decide)) (second.isBlank_eq_false (by decide))
      simp only [Divider.text, List.append_assoc]
      exact (word first (by decide)).append
        (Squeezes.gap between.toGap starts (word second (by decide)))
  | suchThat first between second =>
      have starts : Starts isBlank second.chars :=
        starts_of_forall (second.chars_ne_nil (by decide)) (second.isBlank_eq_false (by decide))
      simp only [Divider.text, List.append_assoc]
      exact (word first (by decide)).append
        (Squeezes.gap between.toGap starts (word second (by decide)))
  | abbreviated cased => exact word cased (by decide)

theorem Keyword.isBlank_eq_false (keyword : Keyword) :
    ∀ c ∈ keyword.word.chars, isBlank c = false := by
  apply keyword.word.isBlank_eq_false
  have known : ∀ sense, ∀ spelling ∈ spellings sense, ∀ c ∈ spelling.toList,
      isBlank c = false := by
    intro sense
    cases sense <;> decide
  exact known keyword.sense keyword.spelling keyword.known

theorem Keyword.chars_ne_nil (keyword : Keyword) : keyword.word.chars ≠ [] := by
  apply keyword.word.chars_ne_nil
  have known : ∀ sense, ∀ spelling ∈ spellings sense, spelling.toList ≠ [] := by
    intro sense
    cases sense <;> decide
  exact known keyword.sense keyword.spelling keyword.known

theorem Specification.body_squeezes (specification : Specification) :
    Squeezes (specification.body Gap.chars) (specification.body Gap.squeezed) := by
  simp only [Specification.body, List.append_assoc]
  exact (squeezes_of_forall specification.keyword.isBlank_eq_false).append
    (Squeezes.gap _ ((specification.objective.starts _).append _)
      (specification.objective.squeezes.append
        (Squeezes.gap _ ((specification.divider.starts _).append _)
          (specification.divider.squeezes.append
            (Squeezes.gap _ (specification.constraintText_starts _)
              specification.constraintText_squeezes)))))

/-- Normalising the blanks of a specification leaves single spaces for its gaps. -/
theorem Specification.normaliseSpace_written (specification : Specification) :
    normaliseSpace specification.written = specification.body Gap.squeezed := by
  have starts : Starts isBlank (specification.body Gap.chars ++ specification.trail.chars) := by
    have keyword : Starts isBlank specification.keyword.word.chars :=
      starts_of_forall specification.keyword.chars_ne_nil specification.keyword.isBlank_eq_false
    simp only [Specification.body, List.append_assoc]
    exact keyword.append _
  have trailing := specification.body_squeezes specification.trail.chars
  rw [Specification.written, List.append_assoc,
    normaliseSpace_append_of_blank specification.lead.blank, ← behind_of_starts starts, trailing,
    behind_of_blank specification.trail.blank, List.append_nil]

end Grammar

end TableauSimplex
