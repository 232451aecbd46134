import TableauSimplex.Proofs.Language.Meaning
import TableauSimplex.Proofs.Solver.Verdict

/-!
# The optimum of a specification

A specification asks for values of its variables that are not negative, satisfy every segment and
make the objective as large or as small as possible.  The constant of an expression counts in a
segment, where it moves to the other side.  In the objective it does not: an optimal solution shows
the optimum of the terms alone.
-/

set_option autoImplicit false

namespace TableauSimplex

open TableauSimplex.Language

namespace Grammar

/-! ## Points that a specification admits -/

/-- The value of an expression at a point.  A negligible coefficient counts as zero. -/
def Expression.valueAt (expression : Expression) (point : String → ℚ) : ℚ :=
  ∑ name ∈ (expression.used ℚ).toFinset, expression.coefficient name * point name
    + expression.constant

/-- A comparison holds between its expression and its number, and a bound for each of its names. -/
def Segment.Holds (point : String → ℚ) : Segment → Prop
  | .compare comparison =>
      comparison.comparator.relation.Compares (comparison.expression.valueAt point)
        (comparison.figure.value comparison.sign)
  | .list bounds =>
      ∀ name ∈ bounds.names, bounds.inequality.relation.Compares (point name.string)
        (bounds.figure.value (if bounds.negative then some .minus else none))

namespace Specification

variable (specification : Specification)

structure Admits (point : String → ℚ) : Prop where
  nonneg : ∀ name, 0 ≤ point name
  holds : ∀ segment ∈ specification.segments, segment.Holds point

/-- A value of the whole objective that is reached at an admitted point and surpassed at none. -/
structure IsOptimum (value : ℚ) : Prop where
  attained : ∃ point, specification.Admits point ∧ specification.objective.valueAt point = value
  best : ∀ point, specification.Admits point →
    ¬ specification.keyword.sense.Better (specification.objective.valueAt point) value

end Specification

end Grammar

theorem Relation.compares_add_right (relation : Relation) (value constant target : ℚ) :
    relation.Compares (value + constant) target ↔ relation.Compares value (target - constant) := by
  cases relation with
  | atMost => exact le_sub_iff_add_le.symm
  | equal => exact eq_sub_iff_add_eq.symm
  | atLeast => exact sub_le_iff_le_add.symm

namespace Sense

theorem better_add_right (sense : Sense) (value other constant : ℚ) :
    sense.Better (value + constant) (other + constant) ↔ sense.Better value other := by
  cases sense <;> exact add_lt_add_iff_right constant

theorem eq_of_not_better {sense : Sense} {value other : ℚ} (first : ¬ sense.Better value other)
    (second : ¬ sense.Better other value) : value = other := by
  cases sense with
  | minimise => exact le_antisymm (not_lt.mp second) (not_lt.mp first)
  | maximise => exact le_antisymm (not_lt.mp first) (not_lt.mp second)

end Sense

namespace Grammar

theorem Specification.IsOptimum.unique {specification : Specification} {value other : ℚ}
    (first : specification.IsOptimum value) (second : specification.IsOptimum other) :
    value = other := by
  obtain ⟨point, admits, rfl⟩ := first.attained
  obtain ⟨otherPoint, otherAdmits, rfl⟩ := second.attained
  exact Sense.eq_of_not_better (second.best point admits) (first.best otherPoint otherAdmits)

/-! ## Rows at a point -/

namespace Row

variable {row : Row ℚ} {point : String → ℚ} {names : List String}

def Holds (row : Row ℚ) (point : String → ℚ) : Prop :=
  row.relation.Compares (∑ name ∈ row.names.toFinset, row.coefficient name * point name) row.target

/-- The names of a row are among the given ones and have all its coefficients. -/
structure Within (row : Row ℚ) (names : List String) : Prop where
  mem : ∀ name ∈ row.names, name ∈ names
  zero : ∀ name, name ∉ row.names → row.coefficient name = 0

theorem holds_of_isSignBound (bound : row.isSignBound = true) (nonneg : ∀ name, 0 ≤ point name) :
    row.Holds point := by
  obtain ⟨names, coefficient, relation, target⟩ := row
  match names with
  | [] => cases bound
  | [name] =>
      simp only [isSignBound, Bool.and_eq_true, beq_iff_eq] at bound
      obtain ⟨rfl, signed⟩ := bound
      simp only [Holds, List.toFinset_cons, List.toFinset_nil, insert_empty_eq,
        Finset.sum_singleton]
      cases relation with
      | atLeast => exact mul_nonneg (of_decide_eq_true signed).le (nonneg name)
      | atMost => exact mul_nonpos_of_nonpos_of_nonneg (of_decide_eq_true signed).le (nonneg name)
      | equal => cases signed
  | _ :: _ :: _ => cases bound

end Row

theorem Segment.holds_iff (segment : Segment) (point : String → ℚ) :
    segment.Holds point ↔ ∀ row ∈ (segment.rows : List (Row ℚ)), row.Holds point := by
  cases segment with
  | compare comparison =>
      simp only [Segment.rows, List.forall_mem_singleton]
      exact comparison.comparator.relation.compares_add_right _ _ _
  | list bounds =>
      simp only [Segment.rows, List.forall_mem_map]
      refine forall₂_congr fun name _ => ?_
      have value : ∑ other ∈ (bounds.row name : Row ℚ).names.toFinset,
          (bounds.row name : Row ℚ).coefficient other * point other = point name.string := by
        simp [Bounds.row]
      rw [Row.Holds, value]
      rfl

/-! ## The rows of a specification -/

theorem Expression.coefficient_eq_zero (expression : Expression) {name : String}
    (unused : name ∉ expression.used ℚ) : expression.coefficient name = (0 : ℚ) := by
  rw [Expression.coefficient]
  split
  · rename_i uses
    refine total_of_not_mem fun mentioned => unused ?_
    exact List.mem_filter.mpr ⟨List.mem_eraseDups.mpr mentioned, decide_eq_true uses⟩
  · rfl

namespace Specification

variable (specification : Specification)

theorem nodup_variableNames : (specification.variableNames ℚ).Nodup :=
  nodup_eraseDups _

theorem mem_variableNames {name : String} :
    name ∈ specification.variableNames ℚ ↔ name ∈ specification.objective.used ℚ ∨
      ∃ row ∈ (specification.rows : List (Row ℚ)), name ∈ row.names := by
  rw [variableNames, List.mem_eraseDups, List.mem_append, List.mem_flatMap]

theorem within_of_mem_rows {row : Row ℚ} (member : row ∈ specification.rows) :
    row.Within (specification.variableNames ℚ) where
  mem name used := specification.mem_variableNames.mpr (.inr ⟨row, member, used⟩)
  zero name unused := by
    obtain ⟨segment, _, rowMember⟩ := List.mem_flatMap.mp member
    cases segment with
    | compare comparison =>
        obtain rfl := List.mem_singleton.mp rowMember
        exact comparison.expression.coefficient_eq_zero unused
    | list bounds =>
        obtain ⟨other, -, rfl⟩ := List.mem_map.mp rowMember
        exact if_neg fun same => unused (List.mem_singleton.mpr same)

/-- At a point without negative values a specification holds where the rows do that it keeps. -/
theorem admits_iff {point : String → ℚ} :
    specification.Admits point ↔ (∀ name, 0 ≤ point name) ∧
      ∀ row ∈ (specification.kept : List (Row ℚ)), row.Holds point := by
  have rows_hold : (∀ segment ∈ specification.segments, segment.Holds point) ↔
      ∀ row ∈ (specification.rows : List (Row ℚ)), row.Holds point := by
    simp only [Segment.holds_iff, rows, List.forall_mem_flatMap]
  constructor
  · intro admits
    refine ⟨admits.nonneg, fun row member => ?_⟩
    exact rows_hold.mp admits.holds row (List.mem_filter.mp member).1
  · rintro ⟨nonneg, holds⟩
    refine ⟨nonneg, rows_hold.mpr fun row member => ?_⟩
    by_cases bound : row.isSignBound = true
    · exact row.holds_of_isSignBound bound nonneg
    · exact holds row (List.mem_filter.mpr ⟨member, by simpa using bound⟩)

end Specification

/-! ## Points and lists of values -/

section Values

variable {names : List String}

theorem dot_map (nodup : names.Nodup) (coefficient point : String → ℚ) :
    dot (names.map coefficient) (names.map point) =
      ∑ name ∈ names.toFinset, coefficient name * point name := by
  induction names with
  | nil => rfl
  | cons name rest induction =>
      obtain ⟨fresh, distinct⟩ := List.nodup_cons.mp nodup
      have outside : name ∉ rest.toFinset := fun member => fresh (List.mem_toFinset.mp member)
      rw [List.map_cons, List.map_cons, dot, induction distinct, List.toFinset_cons,
        Finset.sum_insert outside]

theorem sum_toFinset_of_subset {others : List String} (inside : ∀ name ∈ others, name ∈ names)
    {value : String → ℚ} (zero : ∀ name, name ∉ others → value name = 0) :
    ∑ name ∈ others.toFinset, value name = ∑ name ∈ names.toFinset, value name := by
  refine Finset.sum_subset (fun name member => ?_) fun name _ outside => zero name fun member => ?_
  · exact List.mem_toFinset.mpr (inside name (List.mem_toFinset.mp member))
  · exact outside (List.mem_toFinset.mpr member)

theorem Row.Within.dot_eq {row : Row ℚ} (within : row.Within names) (nodup : names.Nodup)
    (point : String → ℚ) :
    dot (names.map row.coefficient) (names.map point) =
      ∑ name ∈ row.names.toFinset, row.coefficient name * point name := by
  rw [dot_map nodup]
  refine (sum_toFinset_of_subset within.mem fun name unused => ?_).symm
  rw [within.zero name unused, zero_mul]

/-- The point with the given values for some variables, and zero for the others. -/
def pointOf (names : List String) (values : List ℚ) (name : String) : ℚ :=
  values[names.idxOf name]?.getD 0

theorem map_pointOf (nodup : names.Nodup) {values : List ℚ} (fits : values.length = names.length) :
    names.map (pointOf names values) = values := by
  apply List.ext_getElem
  · simp [fits]
  · intro position first second
    have bound : position < names.length := by simpa using first
    simp [pointOf, nodup.idxOf_getElem position bound, List.getElem?_eq_getElem second]

theorem pointOf_nonneg {values : List ℚ} (nonneg : ∀ value ∈ values, 0 ≤ value) (name : String) :
    0 ≤ pointOf names values name := by
  unfold pointOf
  cases found : values[names.idxOf name]? with
  | none => exact le_rfl
  | some value => exact nonneg value (List.mem_of_getElem? found)

end Values

/-! ## The program of a specification -/

namespace Specification.Describes

variable {specification : Specification} {program : LinearProgram ℚ}
  (describes : specification.Describes program)

include describes

theorem forall_system_iff (holds : List ℚ → Relation → ℚ → Prop) :
    (∀ constraint ∈ program.system,
        holds constraint.coefficients constraint.relation constraint.target) ↔
      ∀ row ∈ (specification.kept : List (Row ℚ)),
        holds ((specification.variableNames ℚ).map row.coefficient) row.relation row.target := by
  have listed : (∀ constraint ∈ program.system,
      holds constraint.coefficients constraint.relation constraint.target) ↔
        ∀ entry ∈ program.constraints.map (fun constraint =>
          (constraint.coefficients, constraint.relation, constraint.target, constraint.name)),
          holds entry.1 entry.2.1 entry.2.2.1 := by
    simp only [LinearProgram.system, List.forall_mem_map]
  rw [listed, describes.constraints]
  constructor
  · intro all row member
    obtain ⟨position, bound, rfl⟩ := List.mem_iff_getElem.mp member
    exact all _ (List.mem_mapIdx.mpr ⟨position, bound, rfl⟩)
  · intro all entry member
    obtain ⟨position, bound, rfl⟩ := List.mem_mapIdx.mp member
    exact all _ (List.getElem_mem bound)

theorem programSize_eq :
    programSize program.system program.objective = (specification.variableNames ℚ).length := by
  have objective : program.objective.length = (specification.variableNames ℚ).length := by
    rw [describes.objective, List.length_map]
  have system : variableCount program.system ≤ (specification.variableNames ℚ).length := by
    rw [variableCount_le_iff]
    refine (describes.forall_system_iff
      fun coefficients _ _ => coefficients.length ≤ _).mpr fun row _ => ?_
    exact (List.length_map _).le
  rw [programSize, objective, max_eq_right system]

theorem feasible_map_iff {point : String → ℚ} (nonneg : ∀ name, 0 ≤ point name) :
    Feasible program.system (specification.variableNames ℚ).length
        ((specification.variableNames ℚ).map point) ↔
      specification.Admits point := by
  have rows_hold := describes.forall_system_iff fun coefficients relation target =>
    relation.Compares (dot coefficients ((specification.variableNames ℚ).map point)) target
  have row_holds : ∀ row ∈ (specification.kept : List (Row ℚ)),
      (row.relation.Compares (dot ((specification.variableNames ℚ).map row.coefficient)
        ((specification.variableNames ℚ).map point)) row.target ↔ row.Holds point) := by
    intro row member
    have within := specification.within_of_mem_rows (List.mem_filter.mp member).1
    rw [within.dot_eq specification.nodup_variableNames, Row.Holds]
  rw [specification.admits_iff]
  constructor
  · intro feasible
    exact ⟨nonneg, fun row member =>
      (row_holds row member).mp (rows_hold.mp feasible.holds row member)⟩
  · rintro ⟨_, holds⟩
    exact
      { length_eq := List.length_map _
        nonneg := List.forall_mem_map.mpr fun name _ => nonneg name
        holds := rows_hold.mpr fun row member => (row_holds row member).mpr (holds row member) }

theorem dot_objective (point : String → ℚ) :
    dot program.objective ((specification.variableNames ℚ).map point)
        + specification.objective.constant =
      specification.objective.valueAt point := by
  rw [describes.objective, dot_map specification.nodup_variableNames, Expression.valueAt]
  congr 1
  refine (sum_toFinset_of_subset (fun name used => ?_) fun name unused => ?_).symm
  · exact specification.mem_variableNames.mpr (.inl used)
  · rw [specification.objective.coefficient_eq_zero unused, zero_mul]

/-- With the constant of the objective, an optimum of the program is one of the specification. -/
theorem isOptimum_add_constant {values : List ℚ}
    (feasible : Feasible program.system (programSize program.system program.objective) values)
    (best : ∀ point, Feasible program.system (programSize program.system program.objective) point →
      ¬ program.sense.Better (dot program.objective point) (dot program.objective values)) :
    specification.IsOptimum (dot program.objective values + specification.objective.constant) := by
  rw [describes.programSize_eq] at feasible best
  have nodup := specification.nodup_variableNames
  have same := map_pointOf nodup feasible.length_eq
  have nonneg : ∀ name, 0 ≤ pointOf (specification.variableNames ℚ) values name :=
    pointOf_nonneg feasible.nonneg
  constructor
  · refine ⟨pointOf (specification.variableNames ℚ) values, ?_, ?_⟩
    · rw [← describes.feasible_map_iff nonneg, same]
      exact feasible
    · rw [← describes.dot_objective, same]
  · intro point admits
    rw [← describes.dot_objective, ← describes.sense, Sense.better_add_right]
    exact best _ ((describes.feasible_map_iff admits.nonneg).mpr admits)

end Specification.Describes

/-- The variable `x` and six more are to be as large as possible, and `x` is at most four. -/
def raised : Specification :=
  specified maxWord (sum (.unit letterX) [spaced .plus (.constant (wholeNumber ['6']))])
    (compared (sum (.unit letterX) []) (.inequality .atMost) (wholeNumber ['4'])) []

end Grammar

/-! ## The objective value -/

namespace LinearProgram

variable {specification : Grammar.Specification} {program : LinearProgram ℚ} {options : Options ℚ}
  {solution : Solution ℚ}

/-- The value that an optimal solution shows needs the constant of the objective to be an optimum of
the specification. -/
theorem isOptimum_of_solve
    (read : ofSpecification (String.ofList specification.written) = .ok program)
    (noTolerance : options.tolerance = 0) (noAllowance : options.feasibilityTolerance = 0)
    (solved : program.solve options = .ok solution) (optimal : solution.status = .optimal) :
    ∃ value, solution.objectiveValue = some value ∧
      specification.IsOptimum (value + specification.objective.constant) := by
  have describes := specification.describes_of_ofSpecification read
  have answers := answers_of_solveSystem noTolerance noAllowance solved
  rw [Solution.Answers, optimal] at answers
  obtain ⟨values, _, shown, feasible, best⟩ := answers
  exact ⟨_, shown, describes.isOptimum_add_constant feasible best⟩

/-- Without tolerance an optimal solution of a specification shows the optimum of its objective less
the constant of the objective, and so the optimum itself only if that constant is zero. -/
theorem solve_objectiveValue_add_constant
    (read : ofSpecification (String.ofList specification.written) = .ok program)
    (noTolerance : options.tolerance = 0) (noAllowance : options.feasibilityTolerance = 0)
    (solved : program.solve options = .ok solution) (optimal : solution.status = .optimal) :
    ∃ value, solution.objectiveValue = some value ∧
      ∀ optimum, specification.IsOptimum optimum ↔
        optimum = value + specification.objective.constant := by
  obtain ⟨value, shown, isOptimum⟩ :=
    isOptimum_of_solve read noTolerance noAllowance solved optimal
  refine ⟨value, shown, fun optimum => ⟨fun other => other.unique isOptimum, ?_⟩⟩
  rintro rfl
  exact isOptimum

theorem exists_solve_raised :
    ∃ (program : LinearProgram ℚ) (solution : Solution ℚ),
      ofSpecification (String.ofList Grammar.raised.written) = .ok program ∧
        program.solve .exact = .ok solution ∧ solution.status = .optimal ∧
          solution.objectiveValue = some 4 := by
  have ran : (match ofSpecification (α := ℚ) (String.ofList Grammar.raised.written) with
      | .error _ => none
      | .ok program =>
          match program.solve .exact with
          | .error _ => none
          | .ok solution => some (solution.status, solution.objectiveValue)) =
        some (.optimal, some 4) := by
    decide +kernel
  split at ran
  · cases ran
  · rename_i program read
    split at ran
    · cases ran
    · rename_i solution solved
      obtain ⟨status, value⟩ := Prod.mk.inj (Option.some.inj ran)
      exact ⟨program, solution, read, solved, status, value⟩

theorem solve_objectiveValue_add_constant_raised :
    ∃ (program : LinearProgram ℚ) (solution : Solution ℚ),
      ofSpecification (String.ofList Grammar.raised.written) = .ok program ∧
        program.solve .exact = .ok solution ∧
          ∃ value, solution.objectiveValue = some value ∧
            ∀ optimum, Grammar.raised.IsOptimum optimum ↔
              optimum = value + Grammar.raised.objective.constant := by
  obtain ⟨program, solution, read, solved, optimal, _⟩ := exists_solve_raised
  exact ⟨program, solution, read, solved,
    solve_objectiveValue_add_constant read rfl rfl solved optimal⟩

/-- The solution shows four, and the optimum is ten. -/
theorem solve_objectiveValue_raised :
    String.ofList Grammar.raised.written = "max x + 6 subject to x <= 4" ∧
      ∃ (program : LinearProgram ℚ) (solution : Solution ℚ),
        ofSpecification (String.ofList Grammar.raised.written) = .ok program ∧
          program.solve .exact = .ok solution ∧ solution.status = .optimal ∧
            solution.objectiveValue = some 4 ∧ Grammar.raised.IsOptimum 10 ∧
              ¬ Grammar.raised.IsOptimum 4 := by
  obtain ⟨program, solution, read, solved, optimal, four⟩ := exists_solve_raised
  obtain ⟨value, shown, isOptimum⟩ := isOptimum_of_solve read rfl rfl solved optimal
  obtain rfl := Option.some.inj (four.symm.trans shown)
  have constant : (4 : ℚ) + Grammar.raised.objective.constant = 10 := by decide +kernel
  rw [constant] at isOptimum
  refine ⟨by decide +kernel, program, solution, read, solved, optimal, four, isOptimum, ?_⟩
  intro other
  exact absurd (other.unique isOptimum) (by norm_num)

end LinearProgram

end TableauSimplex
