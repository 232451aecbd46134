import TableauSimplex.Proofs.Language.Reading
import TableauSimplex.Proofs.Machine
import TableauSimplex.Proofs.Solver.Rejection
import TableauSimplex.Proofs.Solver.Run

/-!
# Every program that is read is well formed

Whatever the text: if it gives a program at all, the program has different names for its variables
and one coefficient for each of them in its objective and in its constraints, which are numbered
from one.  Every constraint says something about a variable, and none says no more than that a
variable is not negative.  A solve never turns such a program away.
-/

set_option autoImplicit false

namespace TableauSimplex

open TableauSimplex.Language

section WellFormed

variable {α : Type} [Scalar α]

/-- Whether a constraint only says that one variable is not negative: it compares a multiple of
that variable with zero, and the sign of the coefficient is right for it. -/
def Constraint.IsSignBound (constraint : Constraint α) : Prop :=
  (constraint.target == 0) = true ∧ ∃ (position : Nat) (coefficient : α),
    constraint.coefficients[position]? = some coefficient ∧
      (constraint.relation = .atLeast ∧ 0 < coefficient ∨
        constraint.relation = .atMost ∧ coefficient < 0) ∧
      ∀ (other : Nat) (value : α), other ≠ position →
        constraint.coefficients[other]? = some value → (value == 0) = true

/-- A program with the given names for its variables, fit for a solve. -/
structure LinearProgram.WellFormed (program : LinearProgram α) (names : List String) : Prop where
  named : program.variableNames = some names
  names_ne_nil : names ≠ []
  names_nodup : names.Nodup
  objective_length : program.objective.length = names.length
  constraints_ne_nil : program.constraints ≠ []
  numbered : ∀ (position : Nat) (constraint : NamedConstraint α),
    program.constraints[position]? = some constraint →
      constraint.name = some s!"c{position + 1}"
  coefficients_length : ∀ constraint ∈ program.constraints,
    constraint.coefficients.length = names.length
  relevant : ∀ constraint ∈ program.constraints, ∃ coefficient ∈ constraint.coefficients,
    Scalar.tenth 12 < Scalar.magnitude coefficient
  not_isSignBound : ∀ constraint ∈ program.constraints, ¬ constraint.IsSignBound

theorem LinearProgram.WellFormed.solve_ne_problem {program : LinearProgram α}
    {names : List String} (wellFormed : program.WellFormed names) (options : Options α)
    (error : ProblemError) : program.solve options ≠ .error (.problem error) := by
  have narrow : variableCount program.system ≤ names.length := by
    rw [variableCount_le_iff]
    intro constraint member
    obtain ⟨given, givenMember, rfl⟩ := List.mem_map.mp member
    exact (wellFormed.coefficients_length given givenMember).le
  have fits : program.size = names.length := by
    rw [LinearProgram.size, wellFormed.objective_length]
    exact max_eq_right narrow
  rw [Ne, solve_eq_problem_iff]
  rintro (⟨empty, _⟩ | ⟨_, given, isGiven, misfit, _⟩)
  · exact wellFormed.constraints_ne_nil empty
  · rw [wellFormed.named] at isGiven
    cases isGiven
    exact misfit fits.symm

end WellFormed

namespace Language

variable {α : Type} [Scalar α]

/-! ## Statements -/

/-- A statement as a reading gives it: about one variable at least, about none of them twice, and
with no negligible coefficient. -/
structure Statement.Sound (statement : Statement α) : Prop where
  terms_ne_nil : statement.terms ≠ []
  names_nodup : (statement.terms.map Prod.fst).Nodup
  relevant : ∀ entry ∈ statement.terms, isRelevant entry = true

/-- The threshold of relevance tells one from zero. -/
structure TellsZeroFromOne (α : Type) [Scalar α] : Prop where
  one_relevant (name : String) : isRelevant (name, (1 : α)) = true
  zero_negligible (entry : String × α) (zero : (entry.2 == 0) = true) : isRelevant entry = false

theorem terms_of_readExpression {text : List Char} {form : LinearForm α}
    (read : readExpression text = .ok form) :
    ∃ items, form.terms = (tally items).filter isRelevant := by
  unfold readExpression at read
  simp only [sumTerms_nil, bind, Except.bind] at read
  cases coefficients : (findings (scan term (text.filter (· != '*')))).mapM (readTerm (α := α)) with
  | error error => simp [coefficients, Except.map] at read
  | ok items =>
      simp only [coefficients, Except.map] at read
      split at read
      · cases read
      · cases read
        exact ⟨items, rfl⟩

theorem sound_of_readComparison {segment : String} {expression target : List Char}
    {relation : Relation} {statement : Statement α}
    (read : readComparison segment expression relation target = .ok statement) :
    statement.Sound := by
  unfold readComparison at read
  split at read
  · cases read
  split at read
  · cases read
  rename_i form formRead
  split at read
  · cases read
  rename_i nonempty
  split at read
  · cases read
  cases read
  obtain ⟨items, terms⟩ := terms_of_readExpression formRead
  refine ⟨by simpa using nonempty, ?_, ?_⟩
  · change (form.terms.map Prod.fst).Nodup
    rw [terms]
    exact (nodup_fst_tally items).sublist (List.filter_sublist.map _)
  · intro entry member
    change entry ∈ form.terms at member
    rw [terms] at member
    exact (List.mem_filter.mp member).2

theorem sound_of_readSegment (tells : TellsZeroFromOne α) {segment : List Char}
    {statements : List (Statement α)} (read : readSegment segment = .ok statements) :
    ∀ statement ∈ statements, statement.Sound := by
  unfold readSegment at read
  split at read
  · split at read
    · cases read
    · cases read
      intro statement member
      obtain ⟨name, _, rfl⟩ := List.mem_map.mp member
      refine ⟨List.cons_ne_nil _ _, List.nodup_singleton _, ?_⟩
      intro entry isEntry
      rw [List.mem_singleton.mp isEntry]
      exact tells.one_relevant _
  · split at read
    · cases read
    · obtain ⟨statement, found, rfl⟩ := exists_of_map_eq_ok read
      intro other member
      rw [List.mem_singleton.mp member]
      exact sound_of_readComparison found

theorem sound_of_readSegments (tells : TellsZeroFromOne α) {segments : List (List Char)}
    {statements : List (Statement α)} (read : readSegments segments = .ok statements) :
    ∀ statement ∈ statements, statement.Sound := by
  induction segments generalizing statements with
  | nil =>
      cases read
      simp
  | cons segment rest induction =>
      unfold readSegments at read
      cases first : readSegment (α := α) segment with
      | error error => simp [first, bind, Except.bind] at read
      | ok found =>
          cases later : readSegments (α := α) rest with
          | error error => simp [first, later, bind, Except.bind] at read
          | ok others =>
              simp only [first, later, bind, Except.bind, pure, Except.pure,
                Except.ok.injEq] at read
              intro statement member
              rw [← read] at member
              rcases List.mem_append.mp member with here | there
              · exact sound_of_readSegment tells first statement here
              · exact induction later statement there

/-! ## Constraints -/

section Constraints

variable {statement : Statement α} {names : List String} (sound : statement.Sound)
  (covers : ∀ entry ∈ statement.terms, entry.1 ∈ names)

include sound covers

theorem Statement.Sound.exists_position {entry : String × α} (member : entry ∈ statement.terms) :
    ∃ position : Nat, names[position]? = some entry.1 ∧
      (names.map (coefficientIn statement.terms))[position]? = some entry.2 := by
  obtain ⟨position, found⟩ := List.mem_iff_getElem?.mp (covers entry member)
  refine ⟨position, found, ?_⟩
  rw [List.getElem?_map, found, Option.map_some, coefficientIn_of_mem sound.names_nodup member]

theorem Statement.Sound.exists_relevant :
    ∃ coefficient ∈ names.map (coefficientIn statement.terms),
      Scalar.tenth 12 < Scalar.magnitude coefficient := by
  obtain ⟨entry, rest, shape⟩ := List.exists_cons_of_ne_nil sound.terms_ne_nil
  have member : entry ∈ statement.terms := shape ▸ List.mem_cons_self
  obtain ⟨position, _, found⟩ := sound.exists_position covers member
  exact ⟨entry.2, List.mem_of_getElem? found, of_decide_eq_true (sound.relevant entry member)⟩

theorem Statement.Sound.isSignBound (tells : TellsZeroFromOne α) (nonempty : names ≠ [])
    (position : Nat)
    (bound : (statement.toConstraint names nonempty position).toConstraint.IsSignBound) :
    statement.isSignBound = true := by
  obtain ⟨target, place, coefficient, atPlace, sign, elsewhere⟩ := bound
  -- A coefficient in any other place would be negligible, and no coefficient of a statement is.
  have only : ∀ entry ∈ statement.terms, names[place]? = some entry.1 ∧ entry.2 = coefficient := by
    intro entry member
    obtain ⟨other, named, found⟩ := sound.exists_position covers member
    by_cases here : other = place
    · subst here
      exact ⟨named, Option.some.inj (found.symm.trans atPlace)⟩
    · have relevant := sound.relevant entry member
      rw [tells.zero_negligible entry (elsewhere other entry.2 here found)] at relevant
      cases relevant
  match shape : statement.terms with
  | [] => exact absurd shape sound.terms_ne_nil
  | [(name, given)] =>
      obtain ⟨_, same⟩ := only (name, given) (by simp [shape])
      change given = coefficient at same
      change (statement.target == 0) = true at target
      simp only [Statement.isSignBound, shape, target, Bool.true_and, same]
      rcases sign with ⟨relation, positive⟩ | ⟨relation, negative⟩
      · change statement.relation = .atLeast at relation
        rw [relation]
        exact decide_eq_true positive
      · change statement.relation = .atMost at relation
        rw [relation]
        exact decide_eq_true negative
  | first :: second :: rest =>
      -- Two entries would share the one name at this place.
      have firstNamed := (only first (by simp [shape])).1
      have secondNamed := (only second (by simp [shape])).1
      have nodup := sound.names_nodup
      rw [shape, List.map_cons, List.map_cons, List.nodup_cons] at nodup
      have same : first.1 = second.1 := Option.some.inj (firstNamed.symm.trans secondNamed)
      exact absurd (List.mem_cons.mpr (.inl same)) nodup.1

end Constraints

/-! ## Programs -/

theorem wellFormed_of_assemble (tells : TellsZeroFromOne α) {sense : Sense}
    {objective : List (String × α)} {statements : List (Statement α)}
    (sound : ∀ statement ∈ statements, statement.Sound) {program : LinearProgram α}
    (assembled : assemble sense objective statements = .ok program) :
    ∃ names, program.WellFormed names := by
  unfold assemble at assembled
  simp only at assembled
  split at assembled
  · rename_i nonempty
    split at assembled
    · cases assembled
    rename_i remains
    cases assembled
    refine ⟨_, rfl, nonempty, ?_, by simp, ?_, ?_, ?_, ?_, ?_⟩
    · rw [distinct_eq_eraseDups]
      exact nodup_eraseDups _
    · simpa using remains
    · intro position constraint found
      rw [List.getElem?_mapIdx, Option.map_eq_some_iff] at found
      obtain ⟨statement, _, rfl⟩ := found
      rfl
    · intro constraint member
      obtain ⟨position, inside, rfl⟩ := List.mem_mapIdx.mp member
      simp [Statement.toConstraint]
    all_goals
      intro constraint member
      obtain ⟨position, inside, rfl⟩ := List.mem_mapIdx.mp member
      have kept := List.getElem_mem inside
      obtain ⟨isStatement, notBound⟩ := List.mem_filter.mp kept
      have covers : ∀ entry ∈ (List.filter (fun statement => !statement.isSignBound)
          statements)[position].terms, entry.1 ∈ distinct (objective.map Prod.fst ++
            statements.flatMap fun statement => statement.terms.map Prod.fst) := by
        intro entry isEntry
        rw [distinct_eq_eraseDups, List.mem_eraseDups]
        exact List.mem_append_right _
          (List.mem_flatMap.mpr ⟨_, isStatement, List.mem_map_of_mem isEntry⟩)
    · exact (sound _ isStatement).exists_relevant covers
    · intro bound
      rw [(sound _ isStatement).isSignBound covers tells nonempty position bound] at notBound
      cases notBound
  · cases assembled

theorem tellsZeroFromOne_float : TellsZeroFromOne Float where
  one_relevant _ := decide_eq_true Float64.tenth_lt_magnitude_one
  zero_negligible _ zero := decide_eq_false (Float64.not_tenth_lt_magnitude_of_beq_zero zero)

end Language

/-- Every text is either refused or read as a program that is well formed and that no solve turns
away. -/
theorem ofSpecification_wellFormed (specification : String) :
    (∃ error, (LinearProgram.ofSpecification specification : Except _ (LinearProgram Float)) =
        .error error) ∨
      ∃ program : LinearProgram Float,
        LinearProgram.ofSpecification specification = .ok program ∧
          (∃ names, program.WellFormed names) ∧
            ∀ options error, program.solve options ≠ .error (.problem error) := by
  cases read : (LinearProgram.ofSpecification specification :
      Except SpecificationError (LinearProgram Float)) with
  | error error => exact .inl ⟨error, rfl⟩
  | ok program =>
      obtain ⟨sense, objective, statements, stages, assembled⟩ := exists_stages_of_ok read
      have sound := sound_of_readSegments tellsZeroFromOne_float stages.segments_read
      obtain ⟨names, wellFormed⟩ := wellFormed_of_assemble tellsZeroFromOne_float sound assembled
      exact .inr ⟨program, rfl, ⟨names, wellFormed⟩, wellFormed.solve_ne_problem⟩

end TableauSimplex
