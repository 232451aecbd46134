import TableauSimplex.Proofs.Solver.Logged
import TableauSimplex.Proofs.Solver.Position
import TableauSimplex.Proofs.Solver.Rejection
import TableauSimplex.Proofs.Tableau.Ownership

/-!
# How a solve can end

A program is turned away before anything is written, and only if it has no constraints or names its
variables with a wrong count.  Every other program has a tableau with a column for each number that
its rows put there.  In every state that the solve of such a tableau reaches, the scans for a column
have candidates and the basis can be read; so the solve ends in a solution or in a broken invariant,
in any arithmetic.
-/

set_option autoImplicit false

namespace TableauSimplex

variable {σ α : Type}

/-! ## Programs that are turned away -/

/-- Whether a program is turned away: it has no constraints, or not one name for each variable. -/
def LinearProgram.Misfit (program : LinearProgram α) : Prop :=
  program.constraints = [] ∨
    ∃ names, program.variableNames = some names ∧ names.length ≠ program.size

variable [Scalar α]

theorem runSystem_eq_error {options : Options α} {constraints : List (Constraint α)}
    {objective : List α} {sense : Sense} {names : Option (List String)} {error : ProblemError}
    (failed : solveSystem options constraints objective sense names = .error (.problem error)) :
    runSystem options constraints objective sense names = .error error := by
  unfold solveSystem at failed
  cases ran : runSystem options constraints objective sense names with
  | error reason =>
      rw [ran] at failed
      cases failed
      rfl
  | ok solved =>
      -- A run that has begun fails with an error of its own.
      rw [ran] at failed
      simp only [ProgramRun.outcome] at failed
      cases ended : solved.run.outcome <;> simp [ended, Except.mapError] at failed

namespace LinearProgram

variable {program : LinearProgram α} {options : Options α}

theorem exists_problem_iff :
    (∃ error, program.solve options = .error (.problem error)) ↔ program.Misfit := by
  simp only [solve_eq_problem_iff]
  constructor
  · rintro ⟨_, ⟨noConstraints, _⟩ | ⟨_, names, named, miscounted, _⟩⟩
    · exact .inl noConstraints
    · exact .inr ⟨names, named, miscounted⟩
  · rintro (noConstraints | ⟨names, named, miscounted⟩)
    · exact ⟨_, .inl ⟨noConstraints, rfl⟩⟩
    · by_cases noConstraints : program.constraints = []
      · exact ⟨_, .inl ⟨noConstraints, rfl⟩⟩
      · exact ⟨_, .inr ⟨noConstraints, names, named, miscounted, rfl⟩⟩

theorem solveLogged_eq (writer : Writer σ) :
    program.solveLogged options writer =
      (program.solve options, writer.writeAll (messagesOf (program.run options))) :=
  solveSystemLogged_eq _ _ _ _ _ writer

theorem messagesOf_run_of_misfit (misfit : program.Misfit) :
    messagesOf (program.run options) = [] := by
  have refused : ∃ error, program.solve options = .error (.problem error) :=
    exists_problem_iff.mpr misfit
  obtain ⟨error, failed⟩ := refused
  rw [run, runSystem_eq_error failed, messagesOf]

theorem exists_ok_or_invariant (fits : ¬ program.Misfit) :
    (∃ solution, program.solve options = .ok solution) ∨
      ∃ broken, program.solve options = .error (.run (.invariant broken)) := by
  cases solved : program.solve options with
  | ok solution => exact .inl ⟨solution, rfl⟩
  | error failure =>
      cases failure with
      | problem error => exact absurd (exists_problem_iff.mp ⟨error, solved⟩) fits
      | run error =>
          cases error with
          | invariant broken => exact .inr ⟨broken, rfl⟩
          | position error => exact absurd solved (solveSystem_ne_position _ _ _ _ _ error)

end LinearProgram

/-! ## Places in the first tableau -/

/-- The layout has a decision column for every coefficient, a surplus column for every inequality
and an artificial column for every normal constraint that needs one, at the place that the
constraints before it leave. -/
structure Layout.Accommodates (L : Layout) (constraints : List (Constraint α))
    (objective : List α) : Prop where
  decisions_eq : L.decisions = max (variableCount constraints) objective.length
  surplus_eq : L.surplus = surplusCount constraints
  constraints_eq : L.constraints = constraints.length
  placed : ∀ row constraint, (constraints.map Constraint.normalised)[row]? = some constraint →
    Row.Placed L constraint (L.surplusPosition (constraints.map Constraint.normalised) row)
      (L.artificialPosition (constraints.map Constraint.normalised) row)

namespace Tableau

variable {L : Layout} {start : Tableau L α}

theorem accommodates_of_build {constraints : List (Constraint α)} {objective : List α}
    {sense : Sense} (built : build constraints objective sense = .ok ⟨L, start⟩) :
    L.Accommodates constraints objective := by
  have length_costs : (costs sense objective).length = objective.length := by
    cases sense <;> simp [costs]
  simp only [build] at built
  split at built
  · cases built
  · rename_i nonempty
    obtain ⟨rfl, _⟩ := Sigma.mk.inj (Except.ok.inj built)
    exact
      { decisions_eq := congrArg₂ max (variableCount_normalised constraints) length_costs
        surplus_eq := surplusCount_normalised constraints
        constraints_eq := List.length_map _
        placed := by
          intro row constraint found
          obtain ⟨bound, rfl⟩ := List.getElem?_eq_some_iff.mp found
          exact placed_ofConstraints _ _ nonempty ⟨row, bound⟩ }

/-! ## Places in the states of a solve -/

omit [Scalar α] in
theorem structuralColumns_ne_nil (L : Layout) : L.structuralColumns ≠ [] := by
  have bound := L.decisions_pos.trans_le L.decisions_le_structural
  refine List.ne_nil_of_mem (a := ⟨0, L.width_pos⟩) (List.mem_filter.mpr ⟨List.mem_finRange _, ?_⟩)
  simpa [Layout.isArtificial] using Nat.ne_of_gt bound

omit [Scalar α] in
theorem candidates_ne_nil (tableau : Tableau L α) : tableau.candidates ≠ [] := by
  unfold candidates
  split
  · exact List.ne_nil_of_mem (List.mem_finRange ⟨0, L.width_pos⟩)
  · exact structuralColumns_ne_nil L

/-- What the parts of a solve need of a tableau: something to choose an entering column from,
something to replace an artificial column by, and a basis that points at columns and gives a
point. -/
structure Addressable (tableau : Tableau L α) (tolerance : α) : Prop where
  candidates : tableau.candidates ≠ []
  structural : L.structuralColumns ≠ []
  basis : tableau.BasisInside
  point : ∃ values, tableau.point tolerance = .ok values

theorem BasisInside.addressable {tableau : Tableau L α} (inside : tableau.BasisInside)
    (tolerance : α) : tableau.Addressable tolerance where
  candidates := tableau.candidates_ne_nil
  structural := structuralColumns_ne_nil L
  basis := inside
  point := inside.exists_point tolerance

end Tableau

/-! ## The end of a solve -/

namespace LinearProgram

theorem exists_build_of_not_misfit {program : LinearProgram α} (fits : ¬ program.Misfit) :
    ∃ L, ∃ start : Tableau L α,
      Tableau.build program.system program.objective program.sense = .ok ⟨L, start⟩ := by
  have nonempty : program.system ≠ [] := fun empty => fits (.inl (system_eq_nil_iff.mp empty))
  obtain ⟨L, start, built, _⟩ :=
    Tableau.exists_build_decisions nonempty program.objective program.sense
  exact ⟨L, start, built⟩

/-- A program is turned away exactly for want of constraints or for a wrong count of names, and then
nothing is written.  Any other program ends in a solution or in a broken invariant: its tableau has
a place for all that its rows contain, and every tableau that its solve reaches can be read. -/
theorem solveLogged_refuses_iff_misfit (program : LinearProgram α) (options : Options α)
    (writer : Writer σ) :
    ((∃ error, (program.solveLogged options writer).1 = .error (.problem error)) ↔
      program.Misfit) ∧
    (program.Misfit → (program.solveLogged options writer).2 = writer) ∧
    (¬ program.Misfit →
      ((∃ solution, (program.solveLogged options writer).1 = .ok solution) ∨
        ∃ broken, (program.solveLogged options writer).1 = .error (.run (.invariant broken))) ∧
      ∃ L, ∃ start : Tableau L α,
        Tableau.build program.system program.objective program.sense = .ok ⟨L, start⟩ ∧
        L.Accommodates program.system program.objective ∧
        ∀ state, start.Reaches options state →
          state.tableau.Addressable options.tolerance) := by
  rw [solveLogged_eq]
  refine ⟨exists_problem_iff, fun misfit => ?_, fun fits => ⟨exists_ok_or_invariant fits, ?_⟩⟩
  · simp only [messagesOf_run_of_misfit misfit]
    rfl
  · obtain ⟨L, start, built⟩ := exists_build_of_not_misfit fits
    have inside := Tableau.basisInside_of_build built
    exact ⟨L, start, built, Tableau.accommodates_of_build built,
      fun state reached => (reached.basisInside inside).addressable options.tolerance⟩

/-- One constraint and an objective that speaks of a second variable, under the given names. -/
def lopsided (names : List String) : LinearProgram ℚ where
  objective := [1, 1]
  constraints := [{ Constraint.linear 1 [] .equal 2 with name := none }]
  variableNames := some names

theorem solveLogged_refuses_iff_misfit_lopsided :
    ((lopsided ["x"]).Misfit ∧
      (∃ error, ((lopsided ["x"]).solveLogged .standard .collecting).1 = .error (.problem error)) ∧
      ((lopsided ["x"]).solveLogged .standard .collecting).2 = .collecting) ∧
    (¬ (lopsided ["x", "y"]).Misfit ∧
      ∃ L, ∃ start : Tableau L ℚ,
        Tableau.build (lopsided ["x", "y"]).system [1, 1] .maximise = .ok ⟨L, start⟩ ∧
        L.Accommodates (lopsided ["x", "y"]).system [1, 1]) := by
  have short : (lopsided ["x"]).Misfit := .inr ⟨["x"], rfl, by decide⟩
  have full : ¬ (lopsided ["x", "y"]).Misfit := by
    rintro (empty | ⟨names, named, miscounted⟩)
    · exact List.cons_ne_nil _ _ empty
    · obtain rfl := Option.some.inj named
      exact miscounted (by decide)
  obtain ⟨refused, unwritten, _⟩ :=
    solveLogged_refuses_iff_misfit (lopsided ["x"]) .standard .collecting
  obtain ⟨_, _, settled⟩ :=
    solveLogged_refuses_iff_misfit (lopsided ["x", "y"]) .standard .collecting
  obtain ⟨L, start, built, accommodates, _⟩ := (settled full).2
  exact ⟨⟨short, refused.mpr short, unwritten short⟩, full, L, start, built, accommodates⟩

end LinearProgram

end TableauSimplex
