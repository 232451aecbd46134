import TableauSimplex.Proofs.Log.Following
import TableauSimplex.Proofs.Solver.Basis
import TableauSimplex.Proofs.Solver.Ceiling
import TableauSimplex.Proofs.Table

/-!
# The log of a solve

The log of a solve that gives a solution has a message for every exchange the solution counts, those
of the first phase before the start of the second one.  Followed from the first basis it ends in the
basis that the solution reports.
-/

set_option autoImplicit false

namespace TableauSimplex

theorem BasicKind.name_ne_unbounded (kind : BasicKind) : kind.name ≠ "unbounded" := by
  cases kind <;> decide

namespace Tableau

/-! ## The messages of the phases -/

section Messages

variable {L : Layout} {α : Type} [Scalar α] {options : Options α} {names : List String}
  {ceiling : Int} {tableau start optimised handed final : Tableau L α} {outcome : PhaseOutcome L}
  {solution : Solution α}

theorem messages_secondPhase {phaseOnePivots : Nat}
    (ends : (optimise options (max (ceiling - phaseOnePivots) 0) tableau).EndsIn outcome final) :
    (secondPhase options names ceiling phaseOnePivots tableau).messages =
      (Event.shown (.start .second) tableau).messages ++
        ((optimise options (max (ceiling - phaseOnePivots) 0) tableau).messages ++
          [Ending.finished.heading]) := by
  rw [secondPhase, Run.messages_note_andThen, Run.messages_andThen_of_ok ends.1,
    Run.messages_note_andThen]
  cases outcome.ray <;> simp [Run.messages, Run.done, Run.settle, Event.messages]

theorem messages_firstPhase_of_infeasible
    (ends : (optimise options ceiling tableau).EndsIn outcome optimised)
    (handsOver : (handOver options optimised).EndsIn none final) :
    (firstPhase options names ceiling tableau).messages =
      (Event.shown (.start .first) tableau).messages ++
        ((optimise options ceiling tableau).messages ++
          ((handOver options optimised).messages ++ [Ending.infeasible.heading])) := by
  obtain ⟨succeeds, rfl⟩ := ends
  rw [firstPhase, Run.messages_note_andThen, Run.messages_andThen_of_ok succeeds,
    Run.messages_andThen_of_ok handsOver.1, Run.messages_note_andThen]
  simp [Run.messages, Run.done, Run.settle, Event.messages]

theorem messages_firstPhase {extra : Nat}
    (ends : (optimise options ceiling tableau).EndsIn outcome optimised)
    (handsOver : (handOver options optimised).EndsIn (some extra) handed) :
    (firstPhase options names ceiling tableau).messages =
      (Event.shown (.start .first) tableau).messages ++
        ((optimise options ceiling tableau).messages ++
          ((handOver options optimised).messages ++
            (secondPhase options names ceiling (outcome.pivots + extra) handed).messages)) := by
  obtain ⟨succeeds, rfl⟩ := ends
  obtain ⟨handsOver, rfl⟩ := handsOver
  rw [firstPhase, Run.messages_note_andThen, Run.messages_andThen_of_ok succeeds,
    Run.messages_andThen_of_ok handsOver]

/-! ## What they tell -/

theorem leads_firstPhaseStart (tableau : Tableau L α) :
    Log.Leads (Event.shown (.start .first) tableau).messages tableau.rowNames tableau.rowNames 0 :=
  .of_asides (by
    simp [Event.messages, Log.isAside_firstPhaseStart, Log.isAside_grid, Log.isAside_summary])

theorem counted_of_endsIn_secondPhase {phaseOnePivots : Nat}
    (ends : (secondPhase options names ceiling phaseOnePivots tableau).EndsIn solution final) :
    solution.status ≠ .infeasible ∧ solution.phaseOnePivots = phaseOnePivots := by
  obtain ⟨outcome, _, reports⟩ := endsIn_secondPhase.mp ends
  exact ⟨reports.spec.1, reports.spec.2.1⟩

theorem exists_log_secondPhase {phaseOnePivots : Nat}
    (ends : (secondPhase options names ceiling phaseOnePivots tableau).EndsIn solution final) :
    ∃ rest,
      (secondPhase options names ceiling phaseOnePivots tableau).messages =
        Log.secondPhaseStart :: rest ∧
      Log.Leads rest tableau.rowNames final.rowNames (solution.pivots - phaseOnePivots) ∧
      rest.getLast? = some "Phase 2, end" := by
  obtain ⟨outcome, optimised, reports⟩ := endsIn_secondPhase.mp ends
  obtain ⟨_, _, counted, _⟩ := reports.spec
  have improved := follows_optimiseFrom options _ _ 0 0 tableau outcome final optimised
  have shown : Log.Leads [tableau.grid, tableau.summary] tableau.rowNames tableau.rowNames 0 :=
    .of_asides (by simp [Log.isAside_grid, Log.isAside_summary])
  have ended : Log.Leads [Ending.finished.heading] final.rowNames final.rowNames 0 :=
    .of_asides (by simp [Log.isAside_ending])
  refine ⟨_, messages_secondPhase optimised, ?_, ?_⟩
  · have leads := shown.append (improved.append ended)
    have total : (0 : Int) + ((outcome.pivots : Int) - (0 : Nat) + 0) =
        solution.pivots - phaseOnePivots := by omega
    rw [total] at leads
    exact leads
  · simp [List.getLast?_cons, List.getLast?_append, Ending.heading]

theorem leads_firstPhase_of_infeasible
    (ends : (optimise options ceiling tableau).EndsIn outcome optimised)
    (handsOver : (handOver options optimised).EndsIn none final) :
    Log.Leads (firstPhase options names ceiling tableau).messages tableau.rowNames final.rowNames
        outcome.pivots ∧
      (firstPhase options names ceiling tableau).messages.getLast? =
        some "Phase 1, end: infeasible" := by
  have walked := follows_optimiseFrom options _ _ 0 0 tableau outcome optimised ends
  have nothing := follows_handOver options optimised none final handsOver
  have ended : Log.Leads [Ending.infeasible.heading] final.rowNames final.rowNames 0 :=
    .of_asides (by simp [Log.isAside_ending])
  rw [messages_firstPhase_of_infeasible ends handsOver]
  constructor
  · have leads := (leads_firstPhaseStart tableau).append (walked.append (nothing.append ended))
    have total : (0 : Int) + ((outcome.pivots : Int) - (0 : Nat) +
        (((none : Option Nat).getD 0 : Nat) - 0 + 0)) = outcome.pivots := by
      simp
    rwa [total] at leads
  · simp [List.getLast?_append, Ending.heading]

/-- The log of a solve leads to the last basis, past the start of the second phase unless the
system is infeasible. -/
theorem exists_log_solveNamed (ends : (start.solveNamed options names).EndsIn solution final) :
    (solution.status = .infeasible ∧
      Log.Leads (start.solveNamed options names).messages start.rowNames final.rowNames
        solution.pivots ∧
      (start.solveNamed options names).messages.getLast? = some "Phase 1, end: infeasible") ∨
    (solution.status ≠ .infeasible ∧ ∃ earlier middle rest,
      (start.solveNamed options names).messages = earlier ++ Log.secondPhaseStart :: rest ∧
      Log.Leads earlier start.rowNames middle solution.phaseOnePivots ∧
      Log.Leads rest middle final.rowNames (solution.pivots - solution.phaseOnePivots) ∧
      rest.getLast? = some "Phase 2, end") := by
  rcases endsIn_solveNamed.mp ends with ⟨first, firstEnds⟩ | ⟨second, secondEnds⟩
  · have runs : start.solveNamed options names =
        firstPhase options names (options.maxPivots.getD L.pivotCeiling) start := by
      simp only [solveNamed, first]
    rw [runs]
    obtain ⟨outcome, optimised, walks, rest⟩ := endsIn_firstPhase.mp firstEnds
    rcases rest with ⟨handsOver, rfl⟩ | ⟨extra, handed, handsOver, secondEnds⟩
    · exact .inl ⟨rfl, leads_firstPhase_of_infeasible walks handsOver⟩
    · obtain ⟨rest, written, leads, ended⟩ := exists_log_secondPhase secondEnds
      obtain ⟨feasible, counted⟩ := counted_of_endsIn_secondPhase secondEnds
      have walked := follows_optimiseFrom options _ _ 0 0 start outcome optimised walks
      have expelled := follows_handOver options optimised (some extra) handed handsOver
      have earlier := (leads_firstPhaseStart start).append (walked.append expelled)
      have total : (0 : Int) + ((outcome.pivots : Int) - (0 : Nat) +
          (((some extra).getD 0 : Nat) - 0)) = solution.phaseOnePivots := by
        rw [counted, Option.getD_some]
        omega
      rw [total] at earlier
      rw [← counted] at leads
      refine .inr ⟨feasible, _, _, rest, ?_, earlier, leads, ended⟩
      rw [messages_firstPhase walks handsOver, written]
      simp only [List.append_assoc]
      rfl
  · have runs : start.solveNamed options names =
        secondPhase options names (options.maxPivots.getD L.pivotCeiling) 0 start := by
      simp only [solveNamed, second]
    rw [runs]
    obtain ⟨rest, written, leads, ended⟩ := exists_log_secondPhase secondEnds
    obtain ⟨feasible, counted⟩ := counted_of_endsIn_secondPhase secondEnds
    refine .inr ⟨feasible, [], start.rowNames, rest, written, ?_, ?_, ended⟩
    · rw [counted]
      exact .of_asides fun _ member => by cases member
    · rwa [counted]

end Messages

/-! ## The basis that a solution reports -/

section Basis

variable {L : Layout}

theorem mem_rowNames_iff_basisReport {α : Type} [Scalar α] (tableau : Tableau L α) (tolerance : α)
    (name : String) :
    name ∈ tableau.rowNames ↔
      ∃ kind, (name, kind) ∈ (tableau.basisReport tolerance).entries ∧ kind ≠ "unbounded" := by
  constructor
  · intro member
    obtain ⟨row, inside, rfl⟩ := List.mem_map.mp member
    obtain ⟨kind, found⟩ := Table.exists_mem_ofList
      (List.mem_map_of_mem (f := fun row => (tableau.rowName row,
        (tableau.basicValue tolerance (tableau.basis row)).1.name)) inside)
    refine ⟨kind, found, ?_⟩
    obtain ⟨other, _, same⟩ := List.mem_map.mp (Table.mem_of_mem_ofList found)
    obtain rfl := (Prod.mk.inj same).2
    exact BasicKind.name_ne_unbounded _
  · rintro ⟨kind, found, _⟩
    obtain ⟨row, inside, same⟩ := List.mem_map.mp (Table.mem_of_mem_ofList found)
    exact List.mem_map.mpr ⟨row, inside, (Prod.mk.inj same).1⟩

/-- The entry of a ray that is not basic adds nothing but itself to the report. -/
theorem mem_rowNames_iff_put {α : Type} [Scalar α] {tableau : Tableau L α} {ray : String}
    (outside : ray ∉ tableau.rowNames) (tolerance : α) (name : String) :
    name ∈ tableau.rowNames ↔
      ∃ kind, (name, kind) ∈ ((tableau.basisReport tolerance).put ray "unbounded").entries ∧
        kind ≠ "unbounded" := by
  rw [mem_rowNames_iff_basisReport tableau tolerance]
  constructor
  · rintro ⟨kind, found, bounded⟩
    have differs : name ≠ ray := by
      rintro rfl
      exact outside ((mem_rowNames_iff_basisReport tableau tolerance name).mpr
        ⟨kind, found, bounded⟩)
    exact ⟨kind, (Table.mem_putEntry_of_ne differs _).mpr found, bounded⟩
  · rintro ⟨kind, found, bounded⟩
    rcases Table.mem_of_mem_putEntry found with same | earlier
    · exact absurd (Prod.mk.inj same).2 bounded
    · exact ⟨kind, earlier, bounded⟩

variable {options : Options ℚ} {names : List String} {solution : Solution ℚ}
  {state : PhaseState L ℚ} {basic : Fin L.constraints → Fin L.width}

theorem Canonical.rowName_eq {tableau : Tableau L ℚ} (canonical : tableau.Canonical basic)
    (row : Fin L.constraints) : tableau.rowName row = L.columnName (basic row).val := by
  rw [rowName, canonical.basis_eq]
  rfl

theorem Canonical.columnName_not_mem {tableau : Tableau L ℚ} (canonical : tableau.Canonical basic)
    {column : Fin L.width} (nonbasic : ∀ row, basic row ≠ column) :
    L.columnName column.val ∉ tableau.rowNames := by
  intro member
  obtain ⟨row, _, same⟩ := List.mem_map.mp member
  rw [canonical.rowName_eq] at same
  exact nonbasic row (Fin.ext (L.columnName_injective (basic row).isLt column.isLt same))

/-- A column that can grow without end improves the objective, so it is not basic. -/
theorem Canonical.columnName_not_mem_rowNames (canonical : state.tableau.Canonical basic)
    (tolerant : 0 ≤ options.tolerance) {ray : Fin L.width}
    (unbounded : state.nextMove options.tolerance options.rule = .unbounded ray) :
    L.columnName ray.val ∉ state.tableau.rowNames := by
  have improves := (blocked_of_nextMove unbounded).1.trans_le (neg_nonpos.mpr tolerant)
  exact canonical.columnName_not_mem (canonical.ne_basic_of_driving_ne_zero improves.ne)

theorem Concludes.mem_rowNames_iff (concludes : Concludes options names state solution)
    (canonical : state.tableau.Canonical basic) (tolerant : 0 ≤ options.tolerance)
    (name : String) :
    name ∈ state.tableau.rowNames ↔
      ∃ kind, (name, kind) ∈ solution.basis.entries ∧ kind ≠ "unbounded" := by
  unfold Concludes at concludes
  cases phase : state.tableau.phase with
  | first =>
      simp only [phase] at concludes
      obtain ⟨_, _, pivots, rfl⟩ := concludes
      exact mem_rowNames_iff_basisReport _ _ name
  | second =>
      simp only [phase] at concludes
      obtain ⟨phaseOnePivots, outcome, finished, reports⟩ := concludes
      obtain ⟨_, _, _, report⟩ := reports.spec
      rw [report]
      cases ray : outcome.ray with
      | none => exact mem_rowNames_iff_basisReport _ _ name
      | some column =>
          rw [ray] at finished
          exact mem_rowNames_iff_put
            (canonical.columnName_not_mem_rowNames tolerant finished.1) _ name

end Basis

end Tableau

/-! ## Faithful logs -/

namespace Log

/-- What the log of a solve tells of its solution. -/
structure Faithful {L : Layout} {α : Type} (start : Tableau L α) (solution : Solution α)
    (messages : List String) : Prop where
  exchanges : (messages.countP isExchange : Int) = solution.pivots
  firstPhase : start.phase = .first → solution.status ≠ .infeasible →
    secondPhaseStart ∈ messages ∧
      ((messages.takeWhile (· ≠ secondPhaseStart)).countP isExchange : Int) =
        solution.phaseOnePivots
  basis : ∃ names, replay? start.rowNames messages = some names ∧
    ∀ name, name ∈ names ↔ ∃ kind, (name, kind) ∈ solution.basis.entries ∧ kind ≠ "unbounded"
  ending : messages.getLast? =
    some (if solution.status = .infeasible then "Phase 1, end: infeasible" else "Phase 2, end")

end Log

namespace Tableau

variable {L : Layout} {options : Options ℚ} {names : List String} {solution : Solution ℚ}
  {start final : Tableau L ℚ}

theorem faithful_of_endsIn (tolerant : 0 ≤ options.tolerance)
    (canonical : ∃ basic, start.Canonical basic)
    (ends : (start.solveNamed options names).EndsIn solution final) :
    Log.Faithful start solution (start.solveNamed options names).messages := by
  obtain ⟨state, reached, rfl, concludes⟩ := exists_concluding_state ends
  obtain ⟨basic, canonical⟩ := reached.exists_canonical tolerant canonical
  have basis := concludes.mem_rowNames_iff canonical tolerant
  rcases exists_log_solveNamed ends with
    ⟨infeasible, leads, ended⟩ | ⟨feasible, earlier, middle, rest, written, before, after, ended⟩
  · refine ⟨leads.counted, fun _ feasible => absurd infeasible feasible,
      ⟨_, leads.replayed, basis⟩, ?_⟩
    rw [ended, if_pos infeasible]
  · have plain : Log.isExchange Log.secondPhaseStart = false := by decide
    have sofar : (earlier ++ Log.secondPhaseStart :: rest).takeWhile
        (· ≠ Log.secondPhaseStart) = earlier := by
      rw [List.takeWhile_append_of_pos, List.takeWhile_cons_of_neg (by simp), List.append_nil]
      intro message member
      rw [decide_eq_true_eq]
      rintro rfl
      exact before.quiet member
    rw [written]
    refine ⟨?_, fun _ _ => ⟨List.mem_append_right _ List.mem_cons_self, ?_⟩, ⟨_, ?_, basis⟩, ?_⟩
    · rw [List.countP_append, List.countP_cons_of_neg (by simp [plain]), Nat.cast_add,
        before.counted, after.counted]
      omega
    · rw [sofar, before.counted]
    · rw [Log.replay?_append, before.replayed, Option.bind_some, Log.replay?, Log.follow?, plain,
        if_neg Bool.false_ne_true, Option.bind_some, after.replayed]
    · rw [if_neg feasible, List.getLast?_append, List.getLast?_cons, ended]
      rfl

end Tableau

/-- A fresh writer's sink is given the log of the solve, which is faithful, and the buffer holds the
same messages. -/
theorem solveSystemLogged_faithful {options : Options ℚ} (tolerant : 0 ≤ options.tolerance)
    {constraints : List (Constraint ℚ)} {objective : List ℚ} {sense : Sense}
    {names : Option (List String)} {σ : Type} {sink : String → σ → σ} {state : σ}
    {solution : Solution ℚ} {writer : Writer σ}
    (solves : solveSystemLogged options constraints objective sense names (.onto sink state) =
      (.ok solution, writer)) :
    ∃ (L : Layout) (start : Tableau L ℚ) (messages : List String),
      Tableau.build constraints objective sense = .ok ⟨L, start⟩ ∧
      Log.Faithful start solution messages ∧
      writer.state = messages.foldl (fun state message => sink message state) state ∧
      (solveSystemLogged options constraints objective sense names .collecting).2.state =
        messages ∧
      writer.buffer = String.intercalate "\n" messages := by
  rw [solveSystemLogged_eq, Writer.writeAll_of_sink rfl] at solves
  obtain ⟨solved, rfl⟩ := Prod.mk.inj solves
  rcases rejected_or_runs constraints objective sense names with
    ⟨error, rejected⟩ | ⟨L, start, used, built, _, runs⟩
  · rw [solveSystem_of_rejected (rejected options)] at solved
    cases solved
  · rw [solveSystem_of_run (runs options)] at solved
    have faithful := Tableau.faithful_of_endsIn tolerant
      (Tableau.exists_canonical_of_build built) (ProgramRun.endsIn_of_outcome solved)
    have told : messagesOf (runSystem options constraints objective sense names) =
        (start.solveNamed options used).messages := by
      rw [runs options]
      rfl
    rw [solveSystemLogged_eq, Writer.state_writeAll_collecting, told]
    exact ⟨L, start, _, built, faithful, rfl, rfl, rfl⟩

/-- One exchange in the first phase, and then a ray. -/
def raisedRay : List (Constraint ℚ) :=
  [.linear 1 [-1] .atLeast 1]

theorem solveSystemLogged_faithful_raisedRay :
    ∃ solution writer,
      solveSystemLogged .standard raisedRay [1] .maximise none .collecting =
        (.ok solution, writer) ∧
      solution.status = .unbounded ∧ solution.pivots = 1 ∧ solution.phaseOnePivots = 1 ∧
      ∃ L, ∃ start : Tableau L ℚ, Tableau.build raisedRay [1] .maximise = .ok ⟨L, start⟩ ∧
        Log.Faithful start solution writer.state := by
  obtain ⟨solution, solved, read⟩ := exists_of_map_eq_ok
    (show (solveSystem .standard raisedRay [1] .maximise none).map
        (fun solution => (solution.status, solution.pivots, solution.phaseOnePivots)) =
      .ok (.unbounded, 1, 1) by decide +kernel)
  obtain ⟨unbounded, pivots, phaseOnePivots⟩ : solution.status = .unbounded ∧
      solution.pivots = 1 ∧ solution.phaseOnePivots = 1 := by
    simpa using read
  have solves := solveSystemLogged_eq .standard raisedRay [1] .maximise none .collecting
  rw [solved] at solves
  obtain ⟨L, start, messages, built, faithful, _, collected, _⟩ :=
    solveSystemLogged_faithful tolerance_standard_nonneg solves
  rw [solves] at collected
  obtain rfl := collected
  exact ⟨solution, _, solves, unbounded, pivots, phaseOnePivots, L, start, built, faithful⟩

end TableauSimplex
