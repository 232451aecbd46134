import TableauSimplex.Diagnosis
import TableauSimplex.Proofs.Solver.Rejection
import TableauSimplex.Proofs.Solver.Verdict

/-!
# What a diagnosis finds

A diagnosis of an infeasible program asks of one constraint after another whether the program
without it is still infeasible.  Without tolerance the constraints it names are exactly those
without which the others have a solution.  A program that names its variables cannot always be
diagnosed: without its widest constraint it may have fewer variables than names.
-/

set_option autoImplicit false

namespace TableauSimplex

/-! ## Systems with a solution -/

/-- Whether some point without negative values satisfies every constraint.  Values that the point
does not give are zero, so the number of variables plays no part. -/
def Satisfiable (constraints : List (Constraint ℚ)) : Prop :=
  ∃ point : List ℚ, (∀ value ∈ point, 0 ≤ value) ∧
    ∀ constraint ∈ constraints, constraint.Holds point

theorem satisfiable_nil : Satisfiable [] :=
  ⟨[], by simp, by simp⟩

theorem dot_resized (coefficients point : List ℚ) {size : Nat}
    (fits : coefficients.length ≤ size) :
    dot coefficients (List.ofFn fun index : Fin size => point[index.val]?.getD 0) =
      dot coefficients point := by
  induction coefficients generalizing point size with
  | nil => simp [dot]
  | cons coefficient rest induction =>
      cases size with
      | zero => simp at fits
      | succ size =>
          have restFits : rest.length ≤ size := by simpa using fits
          have tail := induction point.tail restFits
          rw [List.ofFn_succ, dot]
          cases point with
          | nil =>
              have restZero : dot rest [] = 0 := by cases rest <;> rfl
              simpa [dot, restZero] using tail
          | cons value values => simpa [dot] using tail

theorem satisfiable_iff_exists_feasible {constraints : List (Constraint ℚ)} {size : Nat}
    (fits : variableCount constraints ≤ size) :
    Satisfiable constraints ↔ ∃ point, Feasible constraints size point := by
  constructor
  · rintro ⟨point, nonneg, holds⟩
    refine ⟨List.ofFn fun index : Fin size => point[index.val]?.getD 0, List.length_ofFn, ?_, ?_⟩
    · intro value member
      obtain ⟨index, rfl⟩ := List.mem_ofFn.mp member
      cases found : point[index.val]? with
      | none => exact le_rfl
      | some given => exact nonneg given (List.mem_of_getElem? found)
    · intro constraint member
      rw [Constraint.Holds, dot_resized _ _ (variableCount_le_iff.mp fits constraint member)]
      exact holds constraint member
  · rintro ⟨point, feasible⟩
    exact ⟨point, feasible.nonneg, feasible.holds⟩

theorem Solution.Answers.infeasible_iff {solution : Solution ℚ}
    {constraints : List (Constraint ℚ)} {objective : List ℚ} {sense : Sense}
    (answers : solution.Answers constraints objective sense) :
    solution.status = .infeasible ↔ ¬ Satisfiable constraints := by
  rw [satisfiable_iff_exists_feasible (le_max_left _ objective.length), not_exists]
  rw [Solution.Answers] at answers
  cases status : solution.status with
  | optimal =>
      rw [status] at answers
      obtain ⟨values, _, _, feasible, _⟩ := answers
      exact iff_of_false (by simp) fun none => none values feasible
  | infeasible =>
      rw [status] at answers
      exact iff_of_true rfl answers
  | unbounded =>
      rw [status] at answers
      obtain ⟨point, feasible, _⟩ := answers 0
      exact iff_of_false (by simp) fun none => none point feasible

namespace LinearProgram

/-! ## One constraint after another -/

section Search

variable {α : Type} [Scalar α] {program : LinearProgram α} {options : Options α}

theorem isConflict_eq_error_iff {position : Nat} {error : SolveError} :
    program.isConflict options position = .error error ↔
      (program.without position).constraints ≠ [] ∧
        (program.without position).solve options = .error error := by
  unfold isConflict
  by_cases empty : (program.without position).constraints = []
  · simp [empty]
  · cases (program.without position).solve options <;> simp [empty, Except.map]

theorem conflictsFrom_eq_ok {names conflicts : List String} {position : Nat}
    (found : program.conflictsFrom options position names = .ok conflicts) {decides : Nat → Prop}
    [DecidablePred decides]
    (decided : ∀ index conflict, program.isConflict options index = .ok conflict →
      (conflict = true ↔ decides index)) :
    conflicts = ((names.zipIdx position).filter fun entry => decides entry.2).map Prod.fst := by
  induction names generalizing position conflicts with
  | nil => simpa [conflictsFrom] using found.symm
  | cons name rest induction =>
      rw [conflictsFrom] at found
      cases first : program.isConflict options position with
      | error error => simp [first, bind, Except.bind] at found
      | ok conflict =>
          cases later : program.conflictsFrom options (position + 1) rest with
          | error error => simp [first, later, bind, Except.bind] at found
          | ok others =>
              simp only [first, later, bind, Except.bind, pure, Except.pure,
                Except.ok.injEq] at found
              have meaning := decided position conflict first
              have tail := induction later
              by_cases named : decides position
              · rw [if_pos (meaning.mpr named)] at found
                simp [← found, named, tail]
              · rw [if_neg (meaning.not.mpr named)] at found
                simp [← found, named, tail]

theorem conflictsFrom_eq_error_iff {names : List String} {position : Nat} {error : SolveError} :
    program.conflictsFrom options position names = .error error ↔
      ∃ index, position ≤ index ∧ index < position + names.length ∧
        program.isConflict options index = .error error ∧
          ∀ earlier, position ≤ earlier → earlier < index →
            ∃ conflict, program.isConflict options earlier = .ok conflict := by
  induction names generalizing position with
  | nil =>
      simp only [conflictsFrom, reduceCtorEq, List.length_nil, false_iff]
      rintro ⟨index, lower, upper, _⟩
      omega
  | cons name rest induction =>
      have later : program.conflictsFrom options (position + 1) rest = .error error ↔ _ := induction
      rw [conflictsFrom]
      cases first : program.isConflict options position with
      | error failure =>
          simp only [bind, Except.bind, Except.error.injEq]
          constructor
          · rintro rfl
            exact ⟨position, le_rfl, by simp, first, fun earlier lower upper => by omega⟩
          · rintro ⟨index, lower, _, fails, before⟩
            rcases lower.eq_or_lt with rfl | after
            · exact Except.error.inj (first.symm.trans fails)
            · obtain ⟨conflict, succeeds⟩ := before position le_rfl after
              rw [first] at succeeds
              cases succeeds
      | ok conflict =>
          have remaining : ((do
              let others ← program.conflictsFrom options (position + 1) rest
              return if conflict then name :: others else others) = .error error) ↔
              program.conflictsFrom options (position + 1) rest = .error error := by
            cases program.conflictsFrom options (position + 1) rest <;>
              simp [bind, Except.bind, pure, Except.pure]
          refine remaining.trans (later.trans ?_)
          constructor
          · rintro ⟨index, lower, upper, fails, before⟩
            refine ⟨index, by omega, by simp only [List.length_cons]; omega, fails, ?_⟩
            intro earlier earlierLower earlierUpper
            rcases earlierLower.eq_or_lt with rfl | after
            · exact ⟨conflict, first⟩
            · exact before earlier after earlierUpper
          · rintro ⟨index, lower, upper, fails, before⟩
            have after : position ≠ index := by
              rintro rfl
              rw [first] at fails
              cases fails
            simp only [List.length_cons] at upper
            exact ⟨index, by omega, by omega, fails, fun earlier earlierLower =>
              before earlier (by omega)⟩

theorem diagnose_eq_ok {diagnosis : Diagnosis}
    (diagnosed : program.diagnose options = .ok diagnosis) :
    ∃ solution, program.solve options = .ok solution ∧ diagnosis.status = solution.status ∧
      if solution.status = .infeasible then
        program.conflictsFrom options 0 program.constraintNames = .ok diagnosis.conflicts
      else diagnosis.conflicts = [] := by
  unfold diagnose at diagnosed
  cases solved : program.solve options with
  | error error => simp [solved, bind, Except.bind] at diagnosed
  | ok solution =>
      refine ⟨solution, rfl, ?_⟩
      simp only [solved, bind, Except.bind] at diagnosed
      cases status : solution.status with
      | infeasible =>
          cases found : program.conflictsFrom options 0 program.constraintNames with
          | error error => simp [status, found] at diagnosed
          | ok conflicts =>
              simp only [status, found, pure, Except.pure, Except.ok.injEq] at diagnosed
              simp [← diagnosed]
      | optimal | unbounded =>
          simp only [status, pure, Except.pure, Except.ok.injEq] at diagnosed
          simp [← diagnosed]

theorem diagnose_of_infeasible {solution : Solution α}
    (solved : program.solve options = .ok solution) (infeasible : solution.status = .infeasible) :
    program.diagnose options =
      (program.conflictsFrom options 0 program.constraintNames).map fun conflicts =>
        { status := .infeasible, message := solution.message, conflicts,
          suggestions := suggestionsFor conflicts } := by
  unfold diagnose
  cases program.conflictsFrom options 0 program.constraintNames <;>
    simp [solved, infeasible, bind, Except.bind, pure, Except.pure, Except.map]

end Search

/-! ## The constraints in conflict -/

open scoped Classical in
/-- The names of the constraints without which the others have a solution, in their order. -/
noncomputable def culprits (program : LinearProgram ℚ) : List String :=
  (program.constraintNames.zipIdx.filter fun entry =>
    Satisfiable (program.without entry.2).system).map Prod.fst

section Exact

variable {program : LinearProgram ℚ} {options : Options ℚ}
  (noTolerance : options.tolerance = 0) (noAllowance : options.feasibilityTolerance = 0)

include noTolerance noAllowance

theorem infeasible_iff_of_solve {solution : Solution ℚ}
    (solved : program.solve options = .ok solution) :
    solution.status = .infeasible ↔ ¬ Satisfiable program.system :=
  (answers_of_solveSystem noTolerance noAllowance solved).infeasible_iff

theorem satisfiable_of_isConflict {position : Nat} {conflict : Bool}
    (decided : program.isConflict options position = .ok conflict) :
    conflict = true ↔ Satisfiable (program.without position).system := by
  unfold isConflict at decided
  split at decided
  · rename_i empty
    have noSystem := system_eq_nil_iff.mpr (List.isEmpty_iff.mp empty)
    cases decided
    exact iff_of_true rfl (noSystem ▸ satisfiable_nil)
  · obtain ⟨solution, solved, rfl⟩ := exists_of_map_eq_ok decided
    rw [bne_iff_ne, Ne, infeasible_iff_of_solve noTolerance noAllowance solved, not_not]

/-- A diagnosis without tolerance is right: a program that it calls infeasible has no solution, and
the constraints it names are exactly those without which there is one.  Any other program has a
solution, and no constraint is named. -/
theorem diagnose_names_culprits {diagnosis : Diagnosis}
    (diagnosed : program.diagnose options = .ok diagnosis) :
    (diagnosis.status = .infeasible →
        ¬ Satisfiable program.system ∧ diagnosis.conflicts = program.culprits) ∧
      (diagnosis.status ≠ .infeasible →
        Satisfiable program.system ∧ diagnosis.conflicts = []) := by
  obtain ⟨solution, solved, sameStatus, found⟩ := diagnose_eq_ok diagnosed
  have verdict := infeasible_iff_of_solve noTolerance noAllowance solved
  rw [sameStatus]
  constructor
  · intro infeasible
    rw [if_pos infeasible] at found
    refine ⟨verdict.mp infeasible, ?_⟩
    classical
    exact conflictsFrom_eq_ok found fun index conflict decided =>
      satisfiable_of_isConflict noTolerance noAllowance decided
  · intro feasible
    rw [if_neg feasible] at found
    exact ⟨not_not.mp (verdict.not.mp feasible), found⟩

end Exact

/-- Two bounds that contradict each other, and one without a name that matters to neither. -/
def contradictoryProgram : LinearProgram ℚ where
  objective := [1]
  constraints :=
    [{ Constraint.linear 1 [] .atMost 2 with name := some "ceiling" },
      { Constraint.linear 1 [] .atLeast 5 with name := none },
      { Constraint.linear 1 [1] .atMost 10 with name := some "room" }]

theorem diagnose_names_culprits_contradictory :
    ∃ diagnosis, contradictoryProgram.diagnose .exact = .ok diagnosis ∧
      diagnosis.conflicts = ["ceiling", "c2"] ∧
        contradictoryProgram.culprits = ["ceiling", "c2"] := by
  have ran : (contradictoryProgram.diagnose .exact).map
      (fun diagnosis => (diagnosis.status, diagnosis.conflicts)) =
        .ok (.infeasible, ["ceiling", "c2"]) := by decide +kernel
  obtain ⟨diagnosis, diagnosed, read⟩ := exists_of_map_eq_ok ran
  obtain ⟨status, conflicts⟩ := Prod.mk.inj read
  have right := (diagnose_names_culprits rfl rfl diagnosed).1 status
  exact ⟨diagnosis, diagnosed, conflicts, right.2.symm.trans conflicts⟩

/-! ## Programs that cannot be diagnosed -/

section Rejection

variable {α : Type} [Scalar α] {program : LinearProgram α} {options : Options α}
  {solution : Solution α}

omit [Scalar α] in
theorem size_without_le (program : LinearProgram α) (position : Nat) :
    (program.without position).size ≤ program.size := by
  apply max_le_max_right
  rw [variableCount_le_iff]
  intro constraint member
  obtain ⟨named, kept, rfl⟩ := List.mem_map.mp member
  exact coefficients_length_le (List.mem_map_of_mem (List.mem_of_mem_eraseIdx kept))

theorem length_variableNames_of_solve (solved : program.solve options = .ok solution)
    {names : List String} (named : program.variableNames = some names) :
    names.length = program.size := by
  have notRejected (error : ProblemError) : program.solve options ≠ .error (.problem error) := by
    simp [solved]
  by_contra misfit
  by_cases nonempty : program.constraints = []
  · exact notRejected _ (solve_eq_problem_iff.mpr (.inl ⟨nonempty, rfl⟩))
  · exact notRejected _ (solve_eq_problem_iff.mpr (.inr ⟨nonempty, names, named, misfit, rfl⟩))

/-- Of a program that has a solution, the question about one constraint is turned away exactly if
some constraints are left and they speak of fewer variables than there are names. -/
theorem isConflict_eq_problem_iff (solved : program.solve options = .ok solution)
    {position : Nat} {error : ProblemError} :
    program.isConflict options position = .error (.problem error) ↔
      ∃ names, program.variableNames = some names ∧
        (program.without position).constraints ≠ [] ∧
          (program.without position).size < names.length ∧
            error = .variableNameCount (program.without position).size names.length := by
  rw [isConflict_eq_error_iff, solve_eq_problem_iff]
  constructor
  · rintro ⟨remains, ⟨empty, _⟩ | ⟨_, names, named, misfit, reason⟩⟩
    · exact absurd empty remains
    · have fits := length_variableNames_of_solve solved named
      have narrower := program.size_without_le position
      exact ⟨names, named, remains, by omega, reason⟩
  · rintro ⟨names, named, remains, fewer, reason⟩
    exact ⟨remains, .inr ⟨remains, names, named, fewer.ne', reason⟩⟩

/-- An infeasible program is turned away by the diagnosis exactly if it names its variables and
there is a constraint without which the others speak of fewer variables than there are names,
unless the run for an earlier constraint has failed already. -/
theorem diagnose_eq_problem_iff (solved : program.solve options = .ok solution)
    (infeasible : solution.status = .infeasible) {error : ProblemError} :
    program.diagnose options = .error (.problem error) ↔
      ∃ position names, position < program.constraints.length ∧
        program.variableNames = some names ∧ (program.without position).constraints ≠ [] ∧
          (program.without position).size < names.length ∧
            error = .variableNameCount (program.without position).size names.length ∧
              ∀ earlier < position, ∃ conflict,
                program.isConflict options earlier = .ok conflict := by
  have searches : program.diagnose options = .error (.problem error) ↔
      program.conflictsFrom options 0 program.constraintNames = .error (.problem error) := by
    rw [diagnose_of_infeasible solved infeasible]
    cases program.conflictsFrom options 0 program.constraintNames <;> simp [Except.map]
  rw [searches, conflictsFrom_eq_error_iff]
  simp only [isConflict_eq_problem_iff solved, Nat.zero_le, true_and, Nat.zero_add, forall_const,
    constraintNames, List.length_mapIdx]
  constructor
  · rintro ⟨position, inside, ⟨names, named, remains, fewer, reason⟩, before⟩
    exact ⟨position, names, inside, named, remains, fewer, reason, before⟩
  · rintro ⟨position, names, inside, named, remains, fewer, reason, before⟩
    exact ⟨position, inside, ⟨names, named, remains, fewer, reason⟩, before⟩

end Rejection

/-- An infeasible program with names for two variables, the second of which is spoken of by its
last constraint only. -/
def lopsidedProgram : LinearProgram ℚ where
  objective := [1]
  constraints :=
    [{ Constraint.linear 1 [] .atMost (-1) with name := none },
      { Constraint.linear 0 [1] .atMost 5 with name := none }]
  variableNames := some ["x", "y"]

theorem diagnose_lopsided :
    (lopsidedProgram.solve .standard).map Solution.status = .ok .infeasible ∧
      lopsidedProgram.diagnose .standard = .error (.problem (.variableNameCount 1 2)) := by
  decide +kernel

theorem diagnose_eq_problem_iff_lopsided :
    ∃ solution, lopsidedProgram.solve .standard = .ok solution ∧
      solution.status = .infeasible ∧
        ∃ position names, position < 2 ∧ lopsidedProgram.variableNames = some names ∧
          (lopsidedProgram.without position).size < names.length := by
  obtain ⟨solution, solved, infeasible⟩ := exists_of_map_eq_ok
    (show (lopsidedProgram.solve .standard).map Solution.status = .ok .infeasible by
      decide +kernel)
  have rejected : lopsidedProgram.diagnose .standard =
      .error (.problem (.variableNameCount 1 2)) := by decide +kernel
  obtain ⟨position, names, inside, named, _, fewer, _⟩ :=
    (diagnose_eq_problem_iff solved infeasible).mp rejected
  exact ⟨solution, solved, infeasible, position, names, inside, named, fewer⟩

end LinearProgram

end TableauSimplex
