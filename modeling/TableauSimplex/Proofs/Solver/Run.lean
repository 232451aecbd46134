import TableauSimplex.Proofs.Tableau.Canonical
import TableauSimplex.Solver.Optimise

/-!
# How runs end

A run that does not fail ends in a value and a tableau.  Runs in sequence end where the last of
them ends, each starting from the tableau in which the one before it ended.
-/

set_option autoImplicit false

namespace TableauSimplex

/-- What is read off a successful answer is read off some value. -/
theorem exists_of_map_eq_ok {ε β γ : Type} {answer : Except ε β} {read : β → γ} {result : γ}
    (found : answer.map read = .ok result) : ∃ value, answer = .ok value ∧ read value = result := by
  cases answer with
  | error error => cases found
  | ok value => exact ⟨value, rfl, Except.ok.inj found⟩

variable {L : Layout} {α β γ : Type}

namespace Run

/-- Whether a run succeeds with the given value and tableau. -/
def EndsIn (run : Run L α β) (value : β) (tableau : Tableau L α) : Prop :=
  run.outcome = .ok value ∧ run.tableau = tableau

theorem endsIn_of_ok {run : Run L α β} {value : β} (succeeds : run.outcome = .ok value) :
    run.EndsIn value run.tableau :=
  ⟨succeeds, rfl⟩

theorem endsIn_settle {outcome : Except RunError β} {start final : Tableau L α} {value : β} :
    (settle outcome start).EndsIn value final ↔ outcome = .ok value ∧ start = final :=
  Iff.rfl

@[simp] theorem endsIn_done {start final : Tableau L α} {result value : β} :
    (done result start).EndsIn value final ↔ result = value ∧ start = final := by
  simp [done, endsIn_settle]

@[simp] theorem endsIn_note {event : Event L α} {start final : Tableau L α} {value : Unit} :
    (note event start).EndsIn value final ↔ start = final := by
  simp [EndsIn, note]

@[simp] theorem not_endsIn_fail [Scalar α] {fault : Fault} {start final : Tableau L α}
    {value : β} : ¬ (fail fault start).EndsIn value final := by
  simp [fail, endsIn_settle]

theorem endsIn_andThen {run : Run L α β} {next : β → Tableau L α → Run L α γ} {value : γ}
    {final : Tableau L α} :
    (run.andThen next).EndsIn value final ↔
      ∃ result middle, run.EndsIn result middle ∧ (next result middle).EndsIn value final := by
  constructor
  · intro ends
    cases succeeds : run.outcome with
    | error error => simp [EndsIn, andThen, succeeds] at ends
    | ok result =>
        refine ⟨result, run.tableau, endsIn_of_ok succeeds, ?_⟩
        simpa [EndsIn, andThen, succeeds] using ends
  · rintro ⟨result, middle, ⟨succeeds, rfl⟩, ends⟩
    simpa [EndsIn, andThen, succeeds] using ends

end Run

namespace Tableau

variable [Scalar α]

theorem endsIn_exchangeStep {tableau final : Tableau L α} {entering : Fin L.width}
    {leaving : Fin L.constraints} {tolerance : α} {value : Unit} :
    (tableau.exchangeStep entering leaving tolerance).EndsIn value final ↔
      tableau.basis leaving ≠ entering.val ∧
        tableau.exchange entering leaving tolerance = final := by
  unfold exchangeStep
  split
  · rename_i same
    simp [same]
  · rename_i other
    simp [Run.EndsIn, other]

theorem endsIn_checkedExchange {options : Options α} {tableau final : Tableau L α}
    {entering : Fin L.width} {leaving : Fin L.constraints} {value : Unit} :
    (checkedExchange options tableau entering leaving).EndsIn value final ↔
      tableau.basis leaving ≠ entering.val ∧
        (options.checksBasis = true → final.checkBasis options.tolerance = .ok ()) ∧
          tableau.exchange entering leaving options.tolerance = final := by
  simp only [checkedExchange, checkStep, Run.endsIn_andThen, endsIn_exchangeStep,
    Run.endsIn_settle]
  constructor
  · rintro ⟨_, _, ⟨other, rfl⟩, checked, rfl⟩
    exact ⟨other, fun checks => by simpa [checks] using checked, rfl⟩
  · rintro ⟨other, checked, rfl⟩
    refine ⟨(), _, ⟨other, rfl⟩, ?_, rfl⟩
    split
    · rename_i checks
      exact checked checks
    · rfl

/-- In canonical form an exchange on an entry that is not zero succeeds, and is all that happens. -/
theorem Canonical.checkedExchange_eq {tableau : Tableau L ℚ}
    {basic : Fin L.constraints → Fin L.width} (canonical : Canonical tableau basic)
    {entering : Fin L.width} {leaving : Fin L.constraints}
    (pivot : (tableau.rows leaving).entries entering ≠ 0) (other : basic leaving ≠ entering)
    (options : Options ℚ) :
    checkedExchange options tableau entering leaving =
      { outcome := .ok ()
        tableau := tableau.exchange entering leaving options.tolerance
        events := [.exchanged (tableau.basis leaving) (leaving.val + 2) entering.val] } := by
  have differs : tableau.basis leaving ≠ entering.val := by
    rw [canonical.basis_eq leaving]
    exact fun same => other (Fin.ext (Int.ofNat.inj same))
  have checks := (canonical.exchange pivot options.tolerance).checkBasis_eq_ok options.tolerance
  simp only [checkedExchange, exchangeStep, if_neg differs, Run.andThen, checkStep, Run.settle,
    checks, ite_self, List.append_nil]

theorem Canonical.endsIn_checkedExchange {tableau : Tableau L ℚ}
    {basic : Fin L.constraints → Fin L.width} (canonical : Canonical tableau basic)
    {entering : Fin L.width} {leaving : Fin L.constraints}
    (pivot : (tableau.rows leaving).entries entering ≠ 0) (other : basic leaving ≠ entering)
    (options : Options ℚ) :
    (checkedExchange options tableau entering leaving).EndsIn ()
      (tableau.exchange entering leaving options.tolerance) := by
  rw [canonical.checkedExchange_eq pivot other options]
  exact Run.endsIn_of_ok rfl

end Tableau

end TableauSimplex
