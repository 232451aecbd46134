import TableauSimplex.Proofs.Language.Operand

/-!
# Reading expressions

An expression with its gaps written as single spaces is a row of operands with their signs, and no
star is in the way of a reader.  So it is read as the sums of its terms and the sum of its numbers.
-/

set_option autoImplicit false

namespace TableauSimplex

open TableauSimplex.Text TableauSimplex.Language

namespace Grammar

/-! ## Gaps as single spaces -/

namespace Gap

def narrow (gap : Gap) : Gap where
  chars := gap.squeezed
  blank := gap.blank_squeezed

theorem spaced_narrow (gap : Gap) : gap.narrow.Spaced :=
  gap.space_squeezed

def append (first second : Gap) : Gap where
  chars := first.chars ++ second.chars
  blank := List.forall_mem_append.mpr ⟨first.blank, second.blank⟩

theorem filter_star_squeezed (gap : Gap) : gap.squeezed.filter (· != '*') = gap.squeezed :=
  filter_star (forall_of_space gap.space_squeezed (by decide))

end Gap

/-! ## Addends -/

def Name.identifier (name : Name) : Identifier where
  first := name.first
  rest := name.rest
  first_start := name.first_start
  rest_ascii := name.rest_ascii

/-- An item without its star. -/
def Item.operand : Item → Operand
  | .constant figure => .constant figure
  | .unit name => .unit name.identifier
  | .multiple figure before none name => .multiple figure before.narrow name.identifier
  | .multiple figure before (some after) name =>
      .multiple figure (before.narrow.append after.narrow) name.identifier

theorem Item.spaced_operand (item : Item) : item.operand.Spaced := by
  cases item with
  | constant figure => trivial
  | unit name => trivial
  | multiple figure before star name =>
      cases star with
      | none => exact before.spaced_narrow
      | some after =>
          exact List.forall_mem_append.mpr ⟨before.spaced_narrow, after.spaced_narrow⟩

theorem Item.filter_text (item : Item) :
    (item.text Gap.squeezed).filter (· != '*') = item.operand.chars := by
  have name_kept (name : Name) : name.chars.filter (· != '*') = name.chars :=
    filter_star name.identifier.no_star
  cases item with
  | constant figure => exact filter_star figure.no_star
  | unit name => exact name_kept name
  | multiple figure before star name =>
      have figure_kept := filter_star figure.no_star
      cases star with
      | none =>
          simp only [text, List.filter_append, figure_kept, before.filter_star_squeezed, name_kept,
            List.append_assoc]
          rfl
      | some after =>
          simp only [text, List.filter_append, List.filter_cons, bne_self_eq_false,
            Bool.false_eq_true, if_false, figure_kept, before.filter_star_squeezed,
            after.filter_star_squeezed, name_kept, List.append_assoc]
          exact congrArg (figure.chars ++ ·) (List.append_assoc _ _ _).symm

namespace Addend

/-- The gap between the sign of an addend and its item. -/
def gap (addend : Addend) : Gap :=
  (addend.sign.map fun signed => signed.2.narrow).getD noGap

def entry (addend : Addend) : Entry :=
  addend.item.operand.entry addend.minus addend.gap

theorem spaced_gap (addend : Addend) : addend.gap.Spaced := by
  unfold gap
  cases addend.sign with
  | none => exact spaced_noGap
  | some signed => exact signed.2.spaced_narrow

theorem legible_entry (addend : Addend) : addend.entry.Legible :=
  Operand.legible_entry _ addend.item.spaced_operand addend.spaced_gap

theorem filter_text (addend : Addend) :
    (addend.text Gap.squeezed).filter (· != '*') = addend.entry.chars := by
  rw [text, List.filter_append, addend.item.filter_text, entry, Operand.chars_entry,
    ← List.append_assoc]
  congr 1
  unfold gap minus
  cases addend.sign with
  | none => rfl
  | some signed =>
      have kept : (signed.1.char != '*') = true := by cases signed.1 <;> decide
      simp [signText, kept, signed.2.filter_star_squeezed, Gap.narrow]

section Values

variable {α : Type} [Scalar α]

theorem term?_entry (addend : Addend) :
    addend.entry.term? = (addend.term? : Option (String × α)) := by
  obtain ⟨sign, item⟩ := addend
  rw [entry, Operand.term?_entry]
  cases item with
  | constant figure => rfl
  | unit name => rfl
  | multiple figure before star name => cases star <;> rfl

theorem constant?_entry (addend : Addend) :
    addend.entry.constant? = (addend.constant? : Option α) := by
  obtain ⟨sign, item⟩ := addend
  rw [entry, Operand.constant?_entry]
  cases item with
  | constant figure => rfl
  | unit name => rfl
  | multiple figure before star name => cases star <;> rfl

end Values

end Addend

/-! ## Expressions -/

namespace Expression

variable (expression : Expression)

/-- The addends as entries, each with the gap before it. -/
def entries : List (Gap × Entry) :=
  (noGap, expression.first.entry) ::
    expression.others.map fun continuation =>
      (continuation.before.narrow, continuation.addend.entry)

theorem orderly_entries : Orderly expression.entries noGap where
  spaced := by
    refine List.forall_mem_cons.mpr ⟨spaced_noGap, ?_⟩
    simp only [List.forall_mem_map]
    exact fun continuation _ => continuation.before.spaced_narrow
  legible := by
    refine List.forall_mem_cons.mpr ⟨expression.first.legible_entry, ?_⟩
    simp only [List.forall_mem_map]
    exact fun continuation _ => continuation.addend.legible_entry
  first := by
    rintro placed head
    cases head
    exact .inr rfl
  signed := by
    simp only [entries, List.tail_cons, List.forall_mem_map]
    exact fun continuation _ => (Operand.isSigned_entry _).mpr (Option.some_ne_none _)
  trail := spaced_noGap

theorem filter_text :
    (expression.text Gap.squeezed).filter (· != '*') = entriesText expression.entries noGap := by
  have continued (others : List Continuation) :
      (others.flatMap (Continuation.text Gap.squeezed)).filter (· != '*') =
        entriesText (others.map fun continuation =>
          (continuation.before.narrow, continuation.addend.entry)) noGap := by
    induction others with
    | nil => rfl
    | cons continuation rest induction =>
        rw [List.flatMap_cons, List.filter_append, induction, List.map_cons, entriesText_cons,
          Continuation.text, List.filter_append, continuation.before.filter_star_squeezed,
          continuation.addend.filter_text, List.append_assoc]
        rfl
  rw [text, List.filter_append, continued, expression.first.filter_text, entries, entriesText_cons]
  rfl

/-- What the entries come to is what the addends come to. -/
theorem filterMap_entries {β : Type} {ofEntry : Entry → Option β} {ofAddend : Addend → Option β}
    (same : ∀ addend : Addend, ofEntry addend.entry = ofAddend addend) :
    expression.entries.filterMap (fun placed => ofEntry placed.2) =
      expression.addends.filterMap ofAddend := by
  simp only [entries, addends, List.filterMap_cons, List.filterMap_map, Function.comp_def, same]

end Expression

/-- An expression is read as the sums of its terms, without the negligible ones, and the sum of
its numbers. -/
theorem readExpression_text {α : Type} [Scalar α] (expression : Expression) :
    readExpression (expression.text Gap.squeezed) =
      .ok
        { terms := (tally expression.terms).filter isRelevant
          constant := (expression.constant : α) } := by
  have terms := expression.filterMap_entries (Addend.term?_entry (α := α))
  have constants := expression.filterMap_entries (Addend.constant?_entry (α := α))
  rw [expression.orderly_entries.readExpression expression.filter_text, terms, constants]
  rfl

end Grammar

end TableauSimplex
