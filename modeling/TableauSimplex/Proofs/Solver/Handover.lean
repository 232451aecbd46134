import TableauSimplex.Proofs.Solver.Run
import TableauSimplex.Proofs.Solver.Step
import TableauSimplex.Solver.Handover

/-!
# Between the phases

Row by row the hand-over settles the basis: a settled row has a structural basic column, or says
nothing about the structural columns.  A row that is settled once stays so, because the exchanges
that follow do not meet it.  Without tolerance the hand-over never fails; it ends in an admissible
tableau of the second phase, and if the artificial variables are zero it changes no solution.
-/

set_option autoImplicit false

namespace TableauSimplex

theorem Run.EndsIn.unique {L : Layout} {α β : Type} {run : Run L α β} {value other : β}
    {tableau final : Tableau L α} (first : run.EndsIn value tableau)
    (second : run.EndsIn other final) : value = other ∧ tableau = final :=
  ⟨Except.ok.inj (first.1.symm.trans second.1), first.2.symm.trans second.2⟩

namespace Tableau

variable {L : Layout}

/-! ## Clearing targets -/

section ClearTarget

variable (tableau : Tableau L ℚ) (row : Fin L.constraints)

theorem rows_clearTarget (other : Fin L.constraints) :
    (tableau.clearTarget row).rows other =
      if row = other then { tableau.rows row with target := 0 } else tableau.rows other :=
  Family.get_set _ _ _ _

theorem target_clearTarget_self : ((tableau.clearTarget row).rows row).target = 0 := by
  rw [rows_clearTarget, if_pos rfl]

theorem entries_clearTarget (index : RowIndex L) :
    ((tableau.clearTarget row).row index).entries = (tableau.row index).entries := by
  cases index with
  | residual => rfl
  | objective => rfl
  | constraint other =>
      simp only [Tableau.row, rows_clearTarget]
      split
      · rename_i same
        rw [same]
      · rfl

theorem clearTarget_eq_self (zero : (tableau.rows row).target = 0) :
    tableau.clearTarget row = tableau := by
  have same : tableau.rows.set row { tableau.rows row with target := 0 } = tableau.rows := by
    apply Family.ext_get
    intro other
    rw [Family.get_set]
    split
    · rename_i here
      rw [← here]
      exact Row.ext_cells (fun _ => rfl) zero.symm
    · rfl
  exact congrArg (fun rows => { tableau with rows }) same

end ClearTarget

theorem Canonical.of_entries_eq {first second : Tableau L ℚ}
    {basic : Fin L.constraints → Fin L.width} (canonical : Canonical first basic)
    (basis : ∀ row, second.basis row = first.basis row)
    (entries : ∀ index, (second.row index).entries = (first.row index).entries) :
    Canonical second basic where
  basis_eq row := (basis row).trans (canonical.basis_eq row)
  unit row index := by
    rw [entries index]
    exact canonical.unit row index

/-! ## Settled rows -/

/-- A tableau in canonical form without negative targets in which all rows but the pending ones
are settled. -/
structure Settled (tableau : Tableau L ℚ) (basic : Fin L.constraints → Fin L.width)
    (pending : List (Fin L.constraints)) : Prop where
  canonical : tableau.Canonical basic
  targets_nonneg : ∀ row, 0 ≤ (tableau.rows row).target
  settled : ∀ row ∉ pending, (basic row).val < L.structural ∨ tableau.Idle row

namespace Settled

variable {tableau : Tableau L ℚ} {basic : Fin L.constraints → Fin L.width}
  {row : Fin L.constraints} {rest : List (Fin L.constraints)}

theorem skip (settled : Settled tableau basic (row :: rest))
    (structural : (basic row).val < L.structural) : Settled tableau basic rest where
  canonical := settled.canonical
  targets_nonneg := settled.targets_nonneg
  settled other notPending := by
    by_cases same : other = row
    · exact .inl (same ▸ structural)
    · exact settled.settled other (by simp [same, notPending])

theorem clearTarget {pending : List (Fin L.constraints)}
    (settled : Settled tableau basic pending) (row : Fin L.constraints) :
    Settled (tableau.clearTarget row) basic pending where
  canonical := settled.canonical.of_entries_eq (fun _ => rfl) (entries_clearTarget tableau row)
  targets_nonneg other := by
    rw [rows_clearTarget]
    split
    · exact le_rfl
    · exact settled.targets_nonneg other
  settled other notPending := by
    apply (settled.settled other notPending).imp_right
    intro idle
    have entries := entries_clearTarget tableau row (.constraint other)
    refine ⟨?_, ?_⟩
    · rw [rows_clearTarget]
      split
      · rfl
      · exact idle.1
    · intro column structural
      exact (congrArg (fun entries => entries.get column) entries).trans (idle.2 column structural)

theorem redundant (settled : Settled tableau basic (row :: rest))
    (cleared : (tableau.rows row).target = 0)
    (missing : tableau.replacement? row 0 = none) : Settled tableau basic rest where
  canonical := settled.canonical
  targets_nonneg := settled.targets_nonneg
  settled other notPending := by
    by_cases same : other = row
    · subst same
      exact .inr ⟨cleared, fun column structural =>
        abs_nonpos_iff.mp (small_of_replacement_none missing structural)⟩
    · exact settled.settled other (by simp [same, notPending])

/-- A pending row with a structural entry is settled by an exchange, which moves no target. -/
theorem replace {entering : Fin L.width} (settled : Settled tableau basic (row :: rest))
    (cleared : (tableau.rows row).target = 0)
    (chosen : tableau.replacement? row 0 = some entering) :
    Settled (tableau.exchange entering row 0) (Function.update basic row entering) rest := by
  obtain ⟨structural, large⟩ := replacement_spec chosen
  have pivot : (tableau.rows row).entries entering ≠ 0 := abs_pos.mp large
  refine ⟨settled.canonical.exchange pivot 0, ?_, ?_⟩
  · intro other
    rw [target_exchange_of_zero cleared pivot]
    exact settled.targets_nonneg other
  · intro other notPending
    by_cases same : other = row
    · rw [same, Function.update_self]
      exact .inl structural
    · rw [Function.update_of_ne same]
      apply (settled.settled other (by simp [same, notPending])).imp_right
      intro idle
      exact idle.of_rows_eq (rows_exchange_of_zero pivot same (idle.2 entering structural))

theorem leaveFirstPhase {pending : List (Fin L.constraints)}
    (settled : Settled tableau basic pending) :
    Settled tableau.leaveFirstPhase basic pending where
  canonical := settled.canonical.of_entries_eq (fun _ => rfl) fun index => by cases index <;> rfl
  targets_nonneg := settled.targets_nonneg
  settled := settled.settled

theorem admissible (settled : Settled tableau basic []) : Admissible tableau basic where
  canonical := settled.canonical
  targets_nonneg := settled.targets_nonneg
  idle _ row artificial :=
    (settled.settled row (by simp)).resolve_left (not_lt.mpr artificial)

end Settled

/-! ## The hand-over -/

def ArtificialsVanish (tableau : Tableau L ℚ) (basic : Fin L.constraints → Fin L.width) : Prop :=
  ∀ row, L.structural ≤ (basic row).val → (tableau.rows row).target = 0

theorem ArtificialsVanish.exchange {tableau : Tableau L ℚ}
    {basic : Fin L.constraints → Fin L.width} {entering : Fin L.width} {row : Fin L.constraints}
    (vanish : tableau.ArtificialsVanish basic) (zero : (tableau.rows row).target = 0)
    (pivot : (tableau.rows row).entries entering ≠ 0) :
    (tableau.exchange entering row 0).ArtificialsVanish (Function.update basic row entering) := by
  intro other artificial
  rw [target_exchange_of_zero zero pivot]
  by_cases same : other = row
  · rwa [same]
  · rw [Function.update_of_ne same] at artificial
    exact vanish other artificial

theorem isArtificialRow_iff {tableau : Tableau L ℚ} {basic : Fin L.constraints → Fin L.width}
    (canonical : Canonical tableau basic) (row : Fin L.constraints) :
    tableau.isArtificialRow row = true ↔ L.structural ≤ (basic row).val := by
  have bound := (basic row).isLt
  simp only [isArtificialRow, Layout.isArtificialBasic, canonical.basis_eq, Bool.and_eq_true,
    decide_eq_true_eq]
  omega

theorem ArtificialsVanish.clearTarget_eq {tableau : Tableau L ℚ}
    {basic : Fin L.constraints → Fin L.width} {row : Fin L.constraints}
    (vanish : tableau.ArtificialsVanish basic) (canonical : Canonical tableau basic)
    (artificial : tableau.isArtificialRow row = true) : tableau.clearTarget row = tableau :=
  clearTarget_eq_self tableau row (vanish row ((isArtificialRow_iff canonical row).mp artificial))

/-- What it means that expelling the artificial columns from some rows ends in a tableau.  It is
the same one for all options without tolerance. -/
structure Expels (rows : List (Fin L.constraints)) (tableau : Tableau L ℚ)
    (basic : Fin L.constraints → Fin L.width) (count : Nat) (final : Tableau L ℚ)
    (finalBasic : Fin L.constraints → Fin L.width) : Prop where
  settled : Settled final finalBasic []
  sense_eq : final.sense = tableau.sense
  equivalent : tableau.ArtificialsVanish basic → Equivalent tableau final
  endsIn : ∀ options : Options ℚ, options.tolerance = 0 → ∀ pivots,
    (expelArtificials options rows pivots tableau).EndsIn (pivots + count) final

namespace Expels

variable {tableau final : Tableau L ℚ} {basic finalBasic : Fin L.constraints → Fin L.width}
  {row : Fin L.constraints} {rest : List (Fin L.constraints)} {count : Nat}

theorem skip (expels : Expels rest tableau basic count final finalBasic)
    (structural : ¬ tableau.isArtificialRow row = true) :
    Expels (row :: rest) tableau basic count final finalBasic where
  settled := expels.settled
  sense_eq := expels.sense_eq
  equivalent := expels.equivalent
  endsIn options noTolerance pivots := by
    rw [expelArtificials, if_neg structural]
    exact expels.endsIn options noTolerance pivots

/-- Where the basic artificial variables are zero, clearing an artificial row changes nothing. -/
theorem redundant (expels : Expels rest (tableau.clearTarget row) basic count final finalBasic)
    (canonical : Canonical tableau basic) (artificial : tableau.isArtificialRow row = true)
    (missing : (tableau.clearTarget row).replacement? row 0 = none) :
    Expels (row :: rest) tableau basic count final finalBasic where
  settled := expels.settled
  sense_eq := expels.sense_eq
  equivalent vanish := by
    have equivalent := expels.equivalent
    rw [vanish.clearTarget_eq canonical artificial] at equivalent
    exact equivalent vanish
  endsIn options noTolerance pivots := by
    rw [expelArtificials, if_pos artificial]
    simp only [noTolerance, missing]
    exact expels.endsIn options noTolerance pivots

theorem replace {entering : Fin L.width}
    (expels : Expels rest ((tableau.clearTarget row).exchange entering row 0)
      (Function.update basic row entering) count final finalBasic)
    (canonical : Canonical tableau basic) (artificial : tableau.isArtificialRow row = true)
    (chosen : (tableau.clearTarget row).replacement? row 0 = some entering) :
    Expels (row :: rest) tableau basic (count + 1) final finalBasic := by
  obtain ⟨structural, large⟩ := replacement_spec chosen
  have pivot : ((tableau.clearTarget row).rows row).entries entering ≠ 0 := abs_pos.mp large
  have isArtificial := (isArtificialRow_iff canonical row).mp artificial
  have clearedCanonical : Canonical (tableau.clearTarget row) basic :=
    canonical.of_entries_eq (fun _ => rfl) (entries_clearTarget tableau row)
  refine ⟨expels.settled, expels.sense_eq.trans (sense_exchange ..), ?_, ?_⟩
  · intro vanish
    have cleared := target_clearTarget_self tableau row
    have equivalent := expels.equivalent
    rw [vanish.clearTarget_eq canonical artificial] at equivalent pivot cleared
    apply (equivalent_exchange tableau pivot).trans
    exact equivalent (vanish.exchange cleared pivot)
  · intro options noTolerance pivots
    have other : basic row ≠ entering := by
      rintro rfl
      omega
    have exchanged := clearedCanonical.endsIn_checkedExchange pivot other options
    rw [noTolerance] at exchanged
    have ends := expels.endsIn options noTolerance (pivots + 1)
    rw [Nat.add_assoc, Nat.add_comm 1] at ends
    rw [expelArtificials, if_pos artificial]
    simp only [noTolerance, chosen]
    exact Run.endsIn_andThen.mpr ⟨(), _, exchanged, ends⟩

end Expels

theorem exists_expels {basic : Fin L.constraints → Fin L.width}
    (rows : List (Fin L.constraints)) {tableau : Tableau L ℚ}
    (settled : Settled tableau basic rows) :
    ∃ count final finalBasic, Expels rows tableau basic count final finalBasic := by
  induction rows generalizing tableau basic with
  | nil =>
      refine ⟨0, tableau, basic, settled, rfl, fun _ => .refl _, ?_⟩
      intro options _ pivots
      simp [expelArtificials]
  | cons row rest induction =>
      by_cases artificial : tableau.isArtificialRow row = true
      · have cleared := target_clearTarget_self tableau row
        cases chosen : (tableau.clearTarget row).replacement? row 0 with
        | none =>
            obtain ⟨count, final, finalBasic, expels⟩ :=
              induction ((settled.clearTarget row).redundant cleared chosen)
            exact ⟨count, final, finalBasic, expels.redundant settled.canonical artificial chosen⟩
        | some entering =>
            obtain ⟨count, final, finalBasic, expels⟩ :=
              induction ((settled.clearTarget row).replace cleared chosen)
            exact ⟨count + 1, final, finalBasic,
              expels.replace settled.canonical artificial chosen⟩
      · have structural : (basic row).val < L.structural := by
          rw [isArtificialRow_iff settled.canonical row] at artificial
          omega
        obtain ⟨count, final, finalBasic, expels⟩ := induction (settled.skip structural)
        exact ⟨count, final, finalBasic, expels.skip artificial⟩

theorem Admissible.settled_clearResidual {tableau : Tableau L ℚ}
    {basic : Fin L.constraints → Fin L.width} (admissible : Admissible tableau basic) :
    Settled tableau.clearResidual basic L.constraintRows where
  canonical := admissible.canonical.of_entries_eq (fun _ => rfl) fun index => by cases index <;> rfl
  targets_nonneg := admissible.targets_nonneg
  settled row notPending := absurd (List.mem_finRange row) notPending

theorem clearResidual_eq_self {tableau : Tableau L ℚ} (zero : tableau.residual.target = 0) :
    tableau.clearResidual = tableau := by
  have same : { tableau.residual with target := 0 } = tableau.residual :=
    Row.ext_cells (fun _ => rfl) zero.symm
  exact congrArg (fun residual => { tableau with residual }) same

theorem equivalent_leaveFirstPhase (tableau : Tableau L ℚ) :
    Equivalent tableau tableau.leaveFirstPhase where
  solves_iff _ := Iff.rfl
  gap_eq _ _ index := by cases index <;> rfl

theorem endsIn_handOver_none {options : Options ℚ} {tableau : Tableau L ℚ}
    (residual : options.feasibilityTolerance < tableau.infeasibility) :
    (handOver options tableau).EndsIn none tableau := by
  rw [handOver, if_pos residual]
  simp

/-- With a small residual the hand-over ends in a tableau of the second phase, the same for all
options without tolerance.  If the artificial variables are zero it is an equivalent one. -/
theorem exists_endsIn_handOver {tableau : Tableau L ℚ}
    {basic : Fin L.constraints → Fin L.width} (admissible : Admissible tableau basic)
    {allowance : ℚ} (residual : tableau.infeasibility ≤ allowance) :
    ∃ count final finalBasic, Admissible final finalBasic ∧ final.phase = .second ∧
      final.sense = tableau.sense ∧
      (tableau.residual.target = 0 → tableau.ArtificialsVanish basic →
        Equivalent tableau final) ∧
      ∀ options : Options ℚ, options.tolerance = 0 → options.feasibilityTolerance = allowance →
        (handOver options tableau).EndsIn (some count) final := by
  obtain ⟨count, cleaned, finalBasic, expels⟩ :=
    exists_expels L.constraintRows admissible.settled_clearResidual
  refine ⟨count, cleaned.leaveFirstPhase, finalBasic, expels.settled.leaveFirstPhase.admissible,
    rfl, expels.sense_eq, ?_, ?_⟩
  · intro zero vanish
    have equivalent := expels.equivalent
    rw [clearResidual_eq_self zero] at equivalent
    exact (equivalent vanish).trans (equivalent_leaveFirstPhase cleaned)
  · intro options noTolerance allowed
    have within : ¬ options.feasibilityTolerance < tableau.infeasibility := by
      rw [allowed]
      exact not_lt.mpr residual
    have ends := expels.endsIn options noTolerance 0
    rw [Nat.zero_add] at ends
    rw [handOver, if_neg within]
    exact Run.endsIn_andThen.mpr ⟨count, cleaned, ends, by simp⟩

end Tableau

end TableauSimplex
