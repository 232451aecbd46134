import TableauSimplex.Proofs.Solver.Progress

/-!
# Rows that keep their artificial column

The hand-over exchanges only at rows whose target it has cleared, so it does not move the
objective.  A row that keeps its artificial column says nothing about the structural columns.  Only
these enter the basis in the second phase, so that no exchange meets such a row: it stays as the
hand-over has left it.
-/

set_option autoImplicit false

namespace TableauSimplex.Tableau

variable {L : Layout} {options : Options ℚ} {start tableau handed final : Tableau L ℚ}

/-! ## The objective during the hand-over -/

theorem objective_target_exchange_of_zero {entering : Fin L.width} {leaving : Fin L.constraints}
    (zero : (tableau.rows leaving).target = 0)
    (pivot : (tableau.rows leaving).entries entering ≠ 0) :
    (tableau.exchange entering leaving 0).objective.target = tableau.objective.target := by
  have row := row_exchange_exact tableau entering leaving pivot .objective
  simp only [reduceCtorEq, if_false] at row
  refine (congrArg Row.target row).trans ?_
  rw [Row.target_eliminate, Row.target_divide, zero, zero_div, mul_zero, sub_zero]
  rfl

theorem objective_target_expelArtificials (noTolerance : options.tolerance = 0)
    {rows : List (Fin L.constraints)} {pivots count : Nat}
    (ends : (expelArtificials options rows pivots tableau).EndsIn count final) :
    final.objective.target = tableau.objective.target := by
  induction rows generalizing pivots tableau with
  | nil =>
      obtain ⟨_, rfl⟩ := Run.endsIn_done.mp ends
      rfl
  | cons row rest induction =>
      rw [expelArtificials] at ends
      split at ends
      · simp only at ends
        split at ends
        · have kept := induction ends
          exact kept
        · rename_i entering chosen
          obtain ⟨_, _, exchanged, later⟩ := Run.endsIn_andThen.mp ends
          obtain ⟨_, _, rfl⟩ := endsIn_checkedExchange.mp exchanged
          rw [noTolerance] at chosen later
          have pivot : ((tableau.clearTarget row).rows row).entries entering ≠ 0 :=
            abs_pos.mp (replacement_spec chosen).2
          -- The target of the row is cleared before the exchange, so no multiple of it counts.
          have cleared := target_clearTarget_self tableau row
          exact (induction later).trans (objective_target_exchange_of_zero cleared pivot)
      · exact induction ends

theorem objective_target_handOver (noTolerance : options.tolerance = 0) {count : Nat}
    (ends : (handOver options tableau).EndsIn (some count) final) :
    final.objective.target = tableau.objective.target := by
  rw [handOver] at ends
  split at ends
  · simp at ends
  · obtain ⟨_, _, expelled, rest⟩ := Run.endsIn_andThen.mp ends
    obtain ⟨_, rfl⟩ := Run.endsIn_done.mp rest
    have kept := objective_target_expelArtificials noTolerance expelled
    exact kept

/-! ## Artificial rows in the second phase -/

/-- What holds in the second phase of a tableau with respect to the one in which the phase
began. -/
structure KeepsArtificialRows (handed tableau : Tableau L ℚ) : Prop where
  second : tableau.phase = .second
  admissible : ∃ basic, tableau.Admissible basic
  rows_eq : ∀ row, handed.isArtificialRow row = true → tableau.rows row = handed.rows row
  basis_eq : ∀ row, handed.isArtificialRow row = true → tableau.basis row = handed.basis row

theorem Admissible.idle_of_isArtificialRow {basic : Fin L.constraints → Fin L.width}
    (admissible : tableau.Admissible basic) (second : tableau.phase = .second)
    {row : Fin L.constraints} (artificial : tableau.isArtificialRow row = true) :
    tableau.Idle row :=
  admissible.idle second row ((isArtificialRow_iff admissible.canonical row).mp artificial)

theorem KeepsArtificialRows.exchange (keeps : KeepsArtificialRows handed tableau)
    {rule : ExchangeRule} {entering : Fin L.width} {leaving : Fin L.constraints}
    (chosen : tableau.Chosen rule entering leaving) :
    KeepsArtificialRows handed (tableau.exchange entering leaving 0) := by
  obtain ⟨basic, admissible⟩ := keeps.admissible
  have structural := mem_candidates.mp chosen.candidate keeps.second
  have zero {row : Fin L.constraints} (artificial : handed.isArtificialRow row = true) :
      (tableau.rows row).entries entering = 0 := by
    have still : tableau.isArtificialRow row = true := by
      rwa [isArtificialRow, keeps.basis_eq row artificial]
    exact (admissible.idle_of_isArtificialRow keeps.second still).2 entering structural
  -- The ratio test only lets rows with a positive entry leave, and here the entry is zero.
  have other {row : Fin L.constraints} (artificial : handed.isArtificialRow row = true) :
      row ≠ leaving := by
    rintro rfl
    exact chosen.positive.ne' (zero artificial)
  refine ⟨keeps.second, ⟨_, admissible.exchange chosen⟩, ?_, ?_⟩
  · intro row artificial
    rw [rows_exchange_of_zero chosen.positive.ne' (other artificial) (zero artificial)]
    exact keeps.rows_eq row artificial
  · intro row artificial
    rw [basis_exchange, if_neg (other artificial).symm]
    exact keeps.basis_eq row artificial

/-- What holds of the states of a solve that starts in the second phase. -/
def Keeping (handed : Tableau L ℚ) : SolveState L ℚ → Prop
  | .within state => KeepsArtificialRows handed state.tableau
  | .between _ _ => False

theorem Keeping.step {state next : SolveState L ℚ} (keeps : handed.Keeping state)
    (noTolerance : options.tolerance = 0) (step : state.Step options next) :
    handed.Keeping next := by
  cases step with
  | exchange move =>
      rw [noTolerance] at move ⊢
      exact KeepsArtificialRows.exchange keeps (chosen_of_nextMove move)
  | leave _ first _ =>
      have still := KeepsArtificialRows.second keeps
      rw [first] at still
      cases still
  | skip _ => exact keeps
  | keep _ _ => exact keeps
  | expel _ _ => exact keeps
  | enter _ => exact keeps.elim

theorem Reaches.keepsArtificialRows (noTolerance : options.tolerance = 0)
    (second : handed.phase = .second) (admissible : ∃ basic, handed.Admissible basic)
    {state : PhaseState L ℚ} (reached : handed.Reaches options (.within state)) :
    KeepsArtificialRows handed state.tableau :=
  reached.invariant handed.Keeping ⟨second, admissible, fun _ _ => rfl, fun _ _ => rfl⟩
    fun _ _ _ keeps step => Keeping.step keeps noTolerance step

/-! ## The hand-over of a program -/

/-- Without tolerance a hand-over that does not find the program infeasible succeeds.  No target is
negative then, the objective is where it was, and the rows that are still artificial are idle.  In
every state of the second phase that follows these rows are as the hand-over has left them, and no
artificial column enters the basis. -/
theorem handOver_settles_artificial_rows (noTolerance : options.tolerance = 0)
    {constraints : List (Constraint ℚ)} {objective : List ℚ} {sense : Sense}
    (built : build constraints objective sense = .ok ⟨L, start⟩) {state : PhaseState L ℚ}
    (reached : start.Reaches options (.within state))
    (feasible : (handOver options state.tableau).outcome ≠ .ok none) :
    ∃ count handed, (handOver options state.tableau).EndsIn (some count) handed ∧
      handed.phase = .second ∧ (∀ row, 0 ≤ (handed.rows row).target) ∧
      handed.objectiveValue = state.tableau.objectiveValue ∧
      (∀ row, handed.isArtificialRow row = true → (handed.rows row).target = 0 ∧
        ∀ column : Fin L.width, column.val < L.structural →
          (handed.rows row).entries column = 0) ∧
      (∀ later : PhaseState L ℚ, handed.Reaches options (.within later) →
        (∀ row, handed.isArtificialRow row = true →
          later.tableau.rows row = handed.rows row ∧
            later.tableau.basis row = handed.basis row) ∧
        ∀ entering leaving,
          later.nextMove options.tolerance options.rule = .exchange entering leaving →
            entering.val < L.structural) ∧
      ∀ names ceiling phaseOnePivots,
        (secondPhase options names ceiling phaseOnePivots handed).Within (handed.Shows options)
          (handed.Fails options) := by
  obtain ⟨_, startAdmissible⟩ := build_spec built
  obtain ⟨⟨basic, admissible⟩, _⟩ := reached.orderly noTolerance startAdmissible
  have residual : state.tableau.infeasibility ≤ options.feasibilityTolerance := by
    by_contra exceeds
    exact feasible (endsIn_handOver_none (not_le.mp exceeds)).1
  obtain ⟨count, handed, handedBasic, handedAdmissible, second, sameSense, _, returns⟩ :=
    exists_endsIn_handOver admissible residual
  have ends := returns options noTolerance rfl
  refine ⟨count, handed, ends, second, handedAdmissible.targets_nonneg, ?_, ?_, ?_, ?_⟩
  · rw [objectiveValue, objectiveValue, sameSense, objective_target_handOver noTolerance ends]
  · exact fun row artificial => handedAdmissible.idle_of_isArtificialRow second artificial
  · intro later laterReached
    have keeps := laterReached.keepsArtificialRows noTolerance second ⟨_, handedAdmissible⟩
    refine ⟨fun row artificial =>
      ⟨keeps.rows_eq row artificial, keeps.basis_eq row artificial⟩, ?_⟩
    intro entering leaving move
    rw [noTolerance] at move
    exact mem_candidates.mp (chosen_of_nextMove move).candidate keeps.second
  · exact fun names ceiling phaseOnePivots =>
      within_secondPhase names ceiling phaseOnePivots .start

/-- Two variables that cancel each other, and an equation that is stated twice.  The hand-over
exchanges the artificial variable of the first row, and the last row keeps its own. -/
def cancelledAndRepeated : List (Constraint ℚ) :=
  [.linear (-1) [-1] .equal 0, .linear 0 [0, 1, 1] .equal 2, .linear 0 [0, -2, -2] .equal (-4)]

theorem handOver_settles_artificial_rows_cancelledAndRepeated :
    ∃ L, ∃ start : Tableau L ℚ, ∃ state : PhaseState L ℚ, ∃ handed row,
      build cancelledAndRepeated [0, 0, 1, 3] .maximise = .ok ⟨L, start⟩ ∧
        start.Reaches .exact (.within state) ∧
        (handOver .exact state.tableau).EndsIn (some 1) handed ∧
        handed.objectiveValue = state.tableau.objectiveValue ∧
        handed.isArtificialRow row = true ∧ (handed.rows row).target = 0 := by
  have nonempty : cancelledAndRepeated ≠ [] := List.cons_ne_nil _ _
  obtain ⟨L, start, built⟩ := exists_build nonempty [0, 0, 1, 3] .maximise
  have ran : (build cancelledAndRepeated [0, 0, 1, 3] .maximise).map (fun start =>
      let run := (optimise .exact 100 start.2).andThen fun _ middle => handOver .exact middle
      run.outcome.map fun count =>
        (count, decide (∃ row, run.tableau.isArtificialRow row = true))) =
      .ok (.ok (some 1, true)) := by decide +kernel
  rw [built] at ran
  obtain ⟨count, succeeds, read⟩ := exists_of_map_eq_ok (Except.ok.inj ran)
  obtain ⟨rfl, kept⟩ := Prod.mk.inj read
  obtain ⟨row, artificial⟩ := of_decide_eq_true kept
  obtain ⟨_, _, optimised, hands⟩ := Run.endsIn_andThen.mp (Run.endsIn_of_ok succeeds)
  obtain ⟨state, reached, rfl, _⟩ := Reaches.start.optimiseFrom optimised
  have feasible : (handOver .exact state.tableau).outcome ≠ .ok none := by
    rw [hands.1]
    simp
  obtain ⟨_, handed, ends, _, _, objective, idle, _⟩ :=
    handOver_settles_artificial_rows rfl built reached feasible
  obtain rfl := ends.2.symm.trans hands.2
  exact ⟨L, start, state, _, row, built, reached, hands, objective, artificial,
    (idle row artificial).1⟩

end TableauSimplex.Tableau
