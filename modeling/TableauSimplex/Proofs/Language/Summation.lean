import TableauSimplex.Proofs.Language.Meaning

/-!
# Sums with free spaces

Any number of items joined by signs, with any numbers of spaces around the signs, around a star and
at both ends.  No digit, sign or name is attributed to another item than the one it stands in.  A
sum of a name is left out if it is not known to be more than a trillionth, so also if it is no
number.
-/

set_option autoImplicit false

namespace TableauSimplex

open TableauSimplex.Text TableauSimplex.Language

namespace Grammar

def spaces (count : Nat) : List Char :=
  List.replicate count ' '

theorem forall_mem_spaces {count : Nat} : ∀ c ∈ spaces count, c = ' ' :=
  fun _ member => List.eq_of_mem_replicate member

def Gap.spaces (count : Nat) : Gap where
  chars := Grammar.spaces count
  blank := forall_of_space forall_mem_spaces (by decide)

theorem Gap.spaced_spaces (count : Nat) : (Gap.spaces count).Spaced :=
  forall_mem_spaces

/-! ## Items and sums -/

/-- A figure, an identifier, or both with spaces and perhaps a star between them. -/
inductive Factor where
  | constant (figure : Figure)
  | unit (name : Identifier)
  | multiple (figure : Figure) (before : Nat) (star : Option Nat) (name : Identifier)

namespace Factor

def chars : Factor → List Char
  | .constant figure => figure.chars
  | .unit name => name.chars
  | .multiple figure before none name => figure.chars ++ (spaces before ++ name.chars)
  | .multiple figure before (some after) name =>
      figure.chars ++ (spaces before ++ '*' :: (spaces after ++ name.chars))

/-- A factor without its star. -/
def operand : Factor → Operand
  | .constant figure => .constant figure
  | .unit name => .unit name
  | .multiple figure before star name => .multiple figure (.spaces (before + star.getD 0)) name

theorem spaced_operand (factor : Factor) : factor.operand.Spaced := by
  cases factor with
  | constant figure => trivial
  | unit name => trivial
  | multiple figure before star name => exact Gap.spaced_spaces _

theorem filter_chars (factor : Factor) :
    factor.chars.filter (· != '*') = factor.operand.chars := by
  have space_kept (count : Nat) : (spaces count).filter (· != '*') = spaces count :=
    filter_star (forall_of_space forall_mem_spaces (by decide))
  cases factor with
  | constant figure => exact filter_star figure.no_star
  | unit name => exact filter_star name.no_star
  | multiple figure before star name =>
      have figure_kept := filter_star figure.no_star
      have name_kept := filter_star name.no_star
      cases star with
      | none =>
          simp only [chars, List.filter_append, figure_kept, space_kept, name_kept]
          rfl
      | some after =>
          have joined : spaces (before + after) = spaces before ++ spaces after :=
            List.replicate_add before after ' '
          simp [chars, operand, Operand.chars, Gap.spaces, figure_kept, space_kept, name_kept,
            joined]

end Factor

/-- A factor with the sign before it, if there is one, and the spaces before both. -/
structure Summand where
  sign : Option (Nat × Sign)
  before : Nat
  factor : Factor

/-- Summands in a row; only the first may do without a sign. -/
structure Summation where
  summands : List Summand
  trail : Nat
  signed : ∀ summand ∈ summands.tail, summand.sign ≠ none

namespace Summand

def chars (summand : Summand) : List Char :=
  match summand.sign with
  | none => spaces summand.before ++ summand.factor.chars
  | some (count, sign) =>
      spaces count ++ sign.char :: (spaces summand.before ++ summand.factor.chars)

section Values

variable {α : Type} [Scalar α]

/-- The name of a summand with its signed coefficient; a bare name counts once. -/
def term? (summand : Summand) : Option (String × α) :=
  summand.factor.operand.term? (summand.sign.map Prod.snd)

def constant? (summand : Summand) : Option α :=
  summand.factor.operand.constant? (summand.sign.map Prod.snd)

end Values

variable (summand : Summand)

def gap : Gap :=
  (summand.sign.map fun (count, _) => Gap.spaces count).getD noGap

def entry : Entry :=
  summand.factor.operand.entry (summand.sign.map Prod.snd) (.spaces summand.before)

theorem spaced_gap : summand.gap.Spaced := by
  unfold gap
  cases summand.sign with
  | none => exact spaced_noGap
  | some signed => exact Gap.spaced_spaces _

theorem filter_chars :
    summand.chars.filter (· != '*') = summand.gap.chars ++ summand.entry.chars := by
  have space_kept (count : Nat) : (spaces count).filter (· != '*') = spaces count :=
    filter_star (forall_of_space forall_mem_spaces (by decide))
  obtain ⟨sign, before, factor⟩ := summand
  cases sign with
  | none =>
      simp [chars, gap, entry, Operand.chars_entry, noGap, Gap.spaces, space_kept,
        factor.filter_chars]
  | some signed =>
      have kept : (signed.2.char != '*') = true := by cases signed.2 <;> decide
      simp [chars, gap, entry, Operand.chars_entry, Gap.spaces, space_kept, kept,
        factor.filter_chars]

end Summand

namespace Summation

def chars (sum : Summation) : List Char :=
  sum.summands.flatMap Summand.chars ++ spaces sum.trail

variable (sum : Summation)

def entries : List (Gap × Entry) :=
  sum.summands.map fun summand => (summand.gap, summand.entry)

theorem orderly : Orderly sum.entries (.spaces sum.trail) where
  spaced := by
    simp only [entries, List.forall_mem_map]
    exact fun summand _ => summand.spaced_gap
  legible := by
    simp only [entries, List.forall_mem_map]
    exact fun summand _ =>
      Operand.legible_entry _ summand.factor.spaced_operand (Gap.spaced_spaces _)
  first := by
    simp only [entries, List.head?_map, Option.mem_def, Option.map_eq_some_iff]
    rintro placed ⟨summand, _, rfl⟩
    cases shape : summand.sign with
    | none =>
        right
        simp [Summand.gap, shape, noGap]
    | some signed =>
        left
        refine (Operand.isSigned_entry _).mpr ?_
        simp [shape]
  signed := by
    simp only [entries, ← List.map_tail, List.forall_mem_map]
    intro summand member
    exact (Operand.isSigned_entry _).mpr fun none =>
      sum.signed summand member (Option.map_eq_none_iff.mp none)
  trail := Gap.spaced_spaces _

theorem filter_chars :
    sum.chars.filter (· != '*') = entriesText sum.entries (.spaces sum.trail) := by
  have space_kept : (spaces sum.trail).filter (· != '*') = spaces sum.trail :=
    filter_star (forall_of_space forall_mem_spaces (by decide))
  rw [chars, List.filter_append, space_kept, List.filter_flatMap]
  simp only [Summand.filter_chars, entriesText, entries, List.flatMap_map]
  rfl

end Summation

/-! ## The reading of a sum -/

section Values

variable {α : Type} [Scalar α]

/-- A sum is read, whatever its spaces: each name has the sum of its signed coefficients, from left
to right and from zero, in the order of first use and without the sums that are not more than a
trillionth; the constant is the sum of the signed numbers. -/
theorem readExpression_summation (sum : Summation) :
    readExpression sum.chars =
      .ok
        { terms := (tally (sum.summands.filterMap Summand.term?)).filter isRelevant
          constant := (sum.summands.filterMap Summand.constant?).foldl (· + ·) (0 : α) } := by
  have terms : (sum.entries.filterMap fun placed => placed.2.term?) =
      (sum.summands.filterMap Summand.term? : List (String × α)) := by
    simp only [Summation.entries, List.filterMap_map, Function.comp_def, Summand.entry,
      Operand.term?_entry]
    rfl
  have constants : (sum.entries.filterMap fun placed => placed.2.constant?) =
      (sum.summands.filterMap Summand.constant? : List α) := by
    simp only [Summation.entries, List.filterMap_map, Function.comp_def, Summand.entry,
      Operand.constant?_entry]
    rfl
  rw [sum.orderly.readExpression sum.filter_chars, terms, constants]

end Values

/-- A figure beyond the range of machine numbers. -/
def nines : Figure where
  whole :=
    { chars := List.replicate 401 '9'
      chars_ne_nil := by decide
      digit := fun c member => by
        rw [List.eq_of_mem_replicate member]
        decide }
  fraction := none

/-- Infinitely many of a name taken from as many. -/
def overflowing : Summation where
  summands :=
    let factor : Factor := .multiple nines 0 none letterX.identifier
    [⟨none, 0, factor⟩, ⟨some (1, .minus), 1, factor⟩]
  trail := 0
  signed := by simp

theorem readExpression_overflowing :
    readExpression (α := Float) overflowing.chars ≠
      .ok
        { terms := (tally (overflowing.summands.filterMap Summand.term?)).filter fun entry =>
            !decide (Scalar.magnitude entry.2 ≤ Scalar.tenth 12)
          constant := (overflowing.summands.filterMap Summand.constant?).foldl (· + ·) 0 } := by
  rw [overflowing.orderly.readExpression overflowing.filter_chars]
  intro same
  have terms := congrArg LinearForm.terms (Except.ok.inj same)
  exact absurd terms (by decide +kernel)

end Grammar

end TableauSimplex
