import TableauSimplex.Proofs.Solver.Correctness
import TableauSimplex.Proofs.Solver.Whole
import TableauSimplex.Proofs.Tableau.Whole

/-!
# Verdicts under tolerances

The tolerances are absolute, so a program whose numbers are small against them can be misjudged: a
coefficient that is as small as the tolerance is not there for the solver.  Where the tolerances
take no number of the exact solve for zero that is not, the verdicts are those of the exact solve.
That is so for programs in whole numbers that are not too large.
-/

set_option autoImplicit false

namespace TableauSimplex

namespace LinearProgram

/-- Whether the tolerance takes no number of the exact solve of a program for zero that is not. -/
def Undisturbed (program : LinearProgram ℚ) (options : Options ℚ) : Prop :=
  ∀ L (start : Tableau L ℚ),
    Tableau.build program.system program.objective program.sense = .ok ⟨L, start⟩ →
      start.Undisturbed options

/-- Whether the allowance takes no residual of the exact solve of a program for zero that is not. -/
def ResidualClear (program : LinearProgram ℚ) (options : Options ℚ) : Prop :=
  ∀ L (start : Tableau L ℚ),
    Tableau.build program.system program.objective program.sense = .ok ⟨L, start⟩ →
      start.ResidualClear options.sharpened

/-! ## Programs in whole numbers -/

/-- Whether a program is given in whole numbers, with coefficients of a bounded size. -/
structure Whole (program : LinearProgram ℚ) (size : ℚ) : Prop where
  large : 1 ≤ size
  system : ∀ constraint ∈ program.system, constraint.Whole size
  objective : ∀ x ∈ program.objective, x ∈ wholeNumbers

theorem whole_of_den {program : LinearProgram ℚ} {size : ℚ} (large : 1 ≤ size)
    (system : ∀ constraint ∈ program.system,
      (∀ x ∈ constraint.coefficients, x.den = 1 ∧ |x| ≤ size) ∧ constraint.target.den = 1)
    (objective : ∀ x ∈ program.objective, x.den = 1) : program.Whole size where
  large := large
  system constraint member := by
    obtain ⟨coefficients, target⟩ := system constraint member
    refine ⟨?_, mem_wholeNumbers_of_den target⟩
    intro x isCoefficient
    obtain ⟨whole, bounded⟩ := coefficients x isCoefficient
    exact ⟨mem_wholeNumbers_of_den whole, bounded⟩
  objective x member := mem_wholeNumbers_of_den (objective x member)

def determinantBound (program : LinearProgram ℚ) (size : ℚ) : ℚ :=
  program.system.length.factorial * size ^ program.system.length

variable {program : LinearProgram ℚ} {options : Options ℚ} {size : ℚ}

section Whole

variable (whole : program.Whole size) (allowing : 0 ≤ options.feasibilityTolerance)
  (smallAllowance : options.feasibilityTolerance * program.determinantBound size < 1)

include whole smallAllowance

theorem Whole.residualClear : program.ResidualClear options := by
  intro L start built
  have admissible := (Tableau.build_spec built).2
  have within := Tableau.wholeWithin_of_build whole.large built whole.system whole.objective
  exact Tableau.residualClear_of_whole within admissible rfl smallAllowance

include allowing

theorem Whole.undisturbed (tolerant : 0 ≤ options.tolerance)
    (small : options.tolerance * program.determinantBound size ^ 2 < 1) :
    program.Undisturbed options := by
  intro L start built
  obtain ⟨represents, admissible⟩ := Tableau.build_spec built
  have within := Tableau.wholeWithin_of_build whole.large built whole.system whole.objective
  exact Tableau.undisturbed_of_whole within represents admissible tolerant small allowing
    smallAllowance

end Whole

/-! ## Verdicts -/

section Verdict

variable {solution : Solution ℚ} (undisturbed : program.Undisturbed options)
  (tolerant : 0 ≤ options.tolerance) (allowing : 0 ≤ options.feasibilityTolerance)
  (solved : program.solve options = .ok solution)

include undisturbed tolerant solved

theorem solve_sharpened : program.solve options.sharpened = .ok solution := by
  obtain ⟨L, start, names, final, built, named, ends⟩ := solveSystem_eq_ok.mp solved
  obtain ⟨_, basic, admissible⟩ := Tableau.build_spec built
  rw [← (undisturbed L start built).solveNamed_sharpened ⟨basic, admissible.canonical⟩ tolerant]
    at ends
  exact solveSystem_eq_ok.mpr ⟨L, start, names, final, built, named, ends⟩

include allowing

theorem answers_of_undisturbed (residualClear : program.ResidualClear options) :
    solution.Answers program.system program.objective program.sense := by
  obtain ⟨L, start, names, final, built, named, ends⟩ :=
    solveSystem_eq_ok.mp (solve_sharpened undisturbed tolerant solved)
  rw [(residualClear L start built).solveNamed_eq allowing] at ends
  exact answers_of_solveSystem rfl rfl
    (solveSystem_eq_ok.mpr ⟨L, start, names, final, built, named, ends⟩)

end Verdict

end LinearProgram

/-! ## The standard options -/

section Standard

variable {program : LinearProgram ℚ} {solution : Solution ℚ}

/-- With the standard options every verdict is right if neither of the tolerances takes a number of
the exact solve for zero that is not, and the value of an optimal solution is the optimum. -/
theorem solve_standard_correct (undisturbed : program.Undisturbed .standard)
    (residualClear : program.ResidualClear .standard)
    (solved : program.solve .standard = .ok solution) :
    let size := programSize program.system program.objective
    (solution.status = .infeasible → ¬ ∃ point, Feasible program.system size point) ∧
    (solution.status = .unbounded → ∀ bound, ∃ point, Feasible program.system size point ∧
      program.sense.Better (dot program.objective point) bound) ∧
    (solution.status = .optimal → ∃ best, Feasible program.system size best ∧
      (∀ point, Feasible program.system size point →
        ¬ program.sense.Better (dot program.objective point) (dot program.objective best)) ∧
      solution.objectiveValue = some (dot program.objective best)) := by
  have answers := LinearProgram.answers_of_undisturbed undisturbed tolerance_standard_nonneg
    feasibilityTolerance_standard_nonneg solved residualClear
  unfold Solution.Answers at answers
  refine ⟨?_, ?_, ?_⟩
  · intro infeasible
    rw [infeasible] at answers
    rintro ⟨point, feasible⟩
    exact answers point feasible
  · intro unbounded
    rw [unbounded] at answers
    exact answers
  · intro optimal
    rw [optimal] at answers
    obtain ⟨best, _, value, feasible, unsurpassed⟩ := answers
    exact ⟨best, feasible, unsurpassed, value⟩

def blending : LinearProgram ℚ where
  sense := .minimise
  objective := [3, 2]
  constraints :=
    [⟨⟨[2, 1], .atLeast, 4, by decide⟩, none⟩, ⟨⟨[1, 3], .equal, 6, by decide⟩, none⟩]

theorem whole_blending : blending.Whole 3 :=
  LinearProgram.whole_of_den (by norm_num) (by decide +kernel) (by decide +kernel)

theorem determinantBound_blending : blending.determinantBound 3 = 18 := by
  decide +kernel

theorem undisturbed_blending {options : Options ℚ} (tolerance : options.tolerance = 1 / 10 ^ 9)
    (allowance : options.feasibilityTolerance = 1 / 10 ^ 6) : blending.Undisturbed options := by
  refine whole_blending.undisturbed ?_ ?_ ?_ ?_ <;>
    simp only [tolerance, allowance, determinantBound_blending] <;> norm_num

theorem solve_standard_correct_blending :
    ∃ solution, blending.solve .standard = .ok solution ∧
      ∃ best, Feasible blending.system 2 best ∧
        (∀ point, Feasible blending.system 2 point → dot [3, 2] best ≤ dot [3, 2] point) ∧
          solution.objectiveValue = some (dot [3, 2] best) := by
  obtain ⟨solution, solved, optimal⟩ := exists_solution_of_status
    (show (blending.solve .standard).map Solution.status = .ok .optimal by decide +kernel)
  have residualClear : blending.ResidualClear .standard := by
    apply whole_blending.residualClear
    rw [feasibilityTolerance_standard, determinantBound_blending]
    norm_num
  have verdict := solve_standard_correct
    (undisturbed_blending tolerance_standard feasibilityTolerance_standard) residualClear solved
  obtain ⟨best, feasible, unsurpassed, value⟩ := verdict.2.2 optimal
  exact ⟨solution, solved, best, feasible, fun point isFeasible =>
    not_lt.mp (unsurpassed point isFeasible), value⟩

def faintBound : LinearProgram ℚ where
  objective := [1]
  constraints := [⟨⟨[1 / 10000000000], .atMost, 1, by decide⟩, none⟩]

/-- The solver does not see the coefficient and calls the program unbounded, which it is not. -/
theorem solve_standard_faintBound :
    ∃ solution, faintBound.solve .standard = .ok solution ∧ solution.status = .unbounded ∧
      ¬ ∀ bound, ∃ point,
        Feasible faintBound.system (programSize faintBound.system faintBound.objective) point ∧
          faintBound.sense.Better (dot faintBound.objective point) bound := by
  obtain ⟨solution, solved, unbounded⟩ := exists_solution_of_status
    (show (faintBound.solve .standard).map Solution.status = .ok .unbounded by decide +kernel)
  refine ⟨solution, solved, unbounded, ?_⟩
  intro surpasses
  obtain ⟨point, feasible, better⟩ := surpasses 10000000000
  have size : programSize faintBound.system faintBound.objective = 1 := by decide +kernel
  obtain ⟨value, rfl⟩ := List.length_eq_one_iff.mp (feasible.length_eq.trans size)
  have holds := feasible.holds _ List.mem_cons_self
  simp only [Constraint.Holds, Relation.Compares, dot] at holds
  simp only [faintBound, Sense.Better, dot] at better
  linarith

/-- Programs in whole numbers whose determinants stay below a bound are judged rightly. -/
theorem answers_of_whole {size : ℚ} (whole : program.Whole size)
    (small : program.determinantBound size ^ 2 < 10 ^ 9)
    (solved : program.solve .standard = .ok solution) :
    solution.Answers program.system program.objective program.sense := by
  have smallTolerance : (Options.standard : Options ℚ).tolerance *
      program.determinantBound size ^ 2 < 1 := by
    rw [tolerance_standard]
    linarith
  have smallAllowance : (Options.standard : Options ℚ).feasibilityTolerance *
      program.determinantBound size < 1 := by
    rw [feasibilityTolerance_standard]
    nlinarith
  have allowing := feasibilityTolerance_standard_nonneg
  exact LinearProgram.answers_of_undisturbed
    (whole.undisturbed allowing smallAllowance tolerance_standard_nonneg smallTolerance)
    tolerance_standard_nonneg allowing solved (whole.residualClear smallAllowance)

end Standard

/-! ## Feasibility of the reported point -/

section Feasibility

variable {program : LinearProgram ℚ} {options : Options ℚ} {solution : Solution ℚ}

/-- With a billionth of tolerance and a millionth of allowance, under any rule: if the tolerance
takes no number of the exact solve for zero that is not, the values of an optimal solution are not
negative and every constraint holds within a millionth. -/
theorem solve_optimal_within (tolerance : options.tolerance = 1 / 10 ^ 9)
    (allowance : options.feasibilityTolerance = 1 / 10 ^ 6)
    (undisturbed : program.Undisturbed options) (solved : program.solve options = .ok solution)
    (optimal : solution.status = .optimal) :
    ∃ values, solution.values = some values ∧ (∀ value ∈ values, 0 ≤ value) ∧
      ∀ constraint ∈ program.system, constraint.HoldsWithin (1 / 10 ^ 6) values := by
  have tolerant : 0 ≤ options.tolerance := by
    rw [tolerance]
    norm_num
  have allowing : 0 ≤ options.sharpened.feasibilityTolerance := by
    rw [Options.sharpened, allowance]
    norm_num
  obtain ⟨L, start, names, final, built, _, ends⟩ :=
    solveSystem_eq_ok.mp (LinearProgram.solve_sharpened undisturbed tolerant solved)
  obtain ⟨values, sameValues, nonneg, violations, _⟩ :=
    Tableau.violations_of_optimal built rfl allowing ends optimal
  refine ⟨values, sameValues, nonneg, ?_⟩
  intro constraint member
  have one := List.single_le_sum (l := program.system.map fun constraint =>
    constraint.violation values) (by simpa using fun other _ => other.violation_nonneg values) _
    (List.mem_map_of_mem member)
  rw [Options.sharpened, allowance] at violations
  exact Constraint.holdsWithin_of_violation_le (one.trans violations)

def Options.standardBland : Options ℚ :=
  { (Options.standard : Options ℚ) with rule := .bland }

theorem solve_optimal_within_blending :
    ∃ solution values, blending.solve .standardBland = .ok solution ∧
      solution.values = some values ∧
        ∀ constraint ∈ blending.system, constraint.HoldsWithin (1 / 10 ^ 6) values := by
  have tolerance : Options.standardBland.tolerance = 1 / 10 ^ 9 := tolerance_standard
  have allowance : Options.standardBland.feasibilityTolerance = 1 / 10 ^ 6 :=
    feasibilityTolerance_standard
  obtain ⟨solution, solved, optimal⟩ := exists_solution_of_status
    (show (blending.solve .standardBland).map Solution.status = .ok .optimal by decide +kernel)
  obtain ⟨values, sameValues, _, holds⟩ := solve_optimal_within tolerance allowance
    (undisturbed_blending tolerance allowance) solved optimal
  exact ⟨solution, values, solved, sameValues, holds⟩

def faintEquation : LinearProgram ℚ where
  objective := [1]
  constraints :=
    [⟨.linear (1 / 10000000000) [] .equal 0, none⟩, ⟨.linear 1 [] .atMost 1000000, none⟩]

theorem solve_optimal_faintEquation :
    ∃ solution, faintEquation.solve .standard = .ok solution ∧ solution.status = .optimal ∧
      solution.values = some [1000000] ∧
        ¬ ∀ constraint ∈ faintEquation.system, constraint.HoldsWithin (1 / 10 ^ 6) [1000000] := by
  obtain ⟨solution, solved, read⟩ := exists_of_map_eq_ok
    (show (faintEquation.solve .standard).map
      (fun solution => (solution.status, solution.values)) = .ok (.optimal, some [1000000]) by
        decide +kernel)
  obtain ⟨status, values⟩ := Prod.mk.inj read
  refine ⟨solution, solved, status, values, ?_⟩
  intro holds
  have equation := holds _ List.mem_cons_self
  simp only [Constraint.HoldsWithin, Constraint.linear, dot] at equation
  norm_num at equation

end Feasibility

end TableauSimplex
