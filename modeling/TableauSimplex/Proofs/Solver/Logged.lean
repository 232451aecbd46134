import TableauSimplex.Proofs.Solver.Solve
import TableauSimplex.Solver.Logged

/-!
# What a writer is told

A logged run has the outcome of the run that only keeps its events, and ends in the same tableau,
whatever its writer.  The writer has then been told the messages of those events, one after the
other, also by a run that fails.
-/

set_option autoImplicit false

namespace TableauSimplex

variable {σ : Type} {L : Layout} {α β γ : Type}

/-! ## Writers and their messages -/

namespace Writer

def writeAll (writer : Writer σ) (messages : List String) : Writer σ :=
  messages.foldl write writer

theorem writeAll_append (writer : Writer σ) (first second : List String) :
    writer.writeAll (first ++ second) = (writer.writeAll first).writeAll second :=
  List.foldl_append

theorem writeAll_of_no_sink {writer : Writer σ} (missing : writer.sink = none)
    (messages : List String) : writer.writeAll messages = writer := by
  induction messages with
  | nil => rfl
  | cons message rest induction =>
      have idle : writer.write message = writer := by rw [write, missing]
      rw [writeAll, List.foldl_cons, idle]
      exact induction

/-- A sink is given every message once and in order, and the same messages are kept. -/
theorem writeAll_of_sink {writer : Writer σ} {sink : String → σ → σ}
    (found : writer.sink = some sink) (messages : List String) :
    writer.writeAll messages =
      { sink := some sink
        state := messages.foldl (fun state message => sink message state) writer.state
        lines := writer.lines ++ messages } := by
  induction messages generalizing writer with
  | nil =>
      obtain ⟨_, state, lines⟩ := writer
      obtain rfl := found
      simp [writeAll]
  | cons message rest induction =>
      have written : writer.write message =
          { sink := some sink
            state := sink message writer.state
            lines := writer.lines ++ [message] } := by
        rw [write, found]
      have kept : (writer.write message).sink = some sink := by rw [written]
      have told := induction kept
      rw [writeAll, List.foldl_cons]
      refine told.trans ?_
      simp [written]

/-- The sink that collects messages has exactly those that the writer was told. -/
theorem state_writeAll_collecting (messages : List String) :
    (collecting.writeAll messages).state = messages := by
  have collected (messages earlier : List String) :
      messages.foldl (fun state message => state ++ [message]) earlier = earlier ++ messages := by
    induction messages generalizing earlier with
    | nil => exact (List.append_nil earlier).symm
    | cons message rest induction => rw [List.foldl_cons, induction, List.append_assoc]; rfl
  have found : collecting.sink = some fun message state => state ++ [message] := rfl
  rw [writeAll_of_sink found]
  exact collected messages []

variable [Scalar α]

theorem writeTableau_eq (writer : Writer σ) (stage : Stage) (tableau : Tableau L α) :
    writer.writeTableau stage tableau =
      writer.writeAll (Event.shown stage tableau).messages := by
  unfold writeTableau
  split
  · rfl
  · rename_i disabled
    have missing : writer.sink = none := by simpa [isEnabled] using disabled
    exact (writeAll_of_no_sink missing _).symm

theorem writeExchange_eq (writer : Writer σ) (tableau : Tableau L α) (entering : Fin L.width)
    (leaving : Fin L.constraints) :
    writer.writeExchange tableau entering leaving =
      writer.writeAll
        (Event.exchanged (tableau.basis leaving) (leaving.val + 2) entering.val :
          Event L α).messages := by
  unfold writeExchange
  split
  · rfl
  · rename_i disabled
    have missing : writer.sink = none := by simpa [isEnabled] using disabled
    exact (writeAll_of_no_sink missing _).symm

end Writer

/-! ## Runs and logged runs -/

theorem Logged.andThen_assoc {δ : Type} (run : Logged σ L α β)
    (next : β → Tableau L α → Writer σ → Logged σ L α γ)
    (last : γ → Tableau L α → Writer σ → Logged σ L α δ) :
    (run.andThen next).andThen last =
      run.andThen fun value tableau writer => (next value tableau writer).andThen last := by
  unfold andThen
  cases run.outcome <;> rfl

namespace Run

variable [Scalar α]

theorem messages_andThen_of_ok {run : Run L α β} {next : β → Tableau L α → Run L α γ} {value : β}
    (succeeds : run.outcome = .ok value) :
    (run.andThen next).messages = run.messages ++ (next value run.tableau).messages := by
  rw [andThen, succeeds]
  exact List.flatMap_append

theorem messages_note_andThen (event : Event L α) (tableau : Tableau L α)
    (next : Unit → Tableau L α → Run L α γ) :
    ((note event tableau).andThen next).messages =
      event.messages ++ (next () tableau).messages := by
  simp [messages, note, andThen]

/-- The run with a writer that is told its messages. -/
def loggedBy (run : Run L α β) (writer : Writer σ) : Logged σ L α β where
  outcome := run.outcome
  tableau := run.tableau
  writer := writer.writeAll run.messages

theorem loggedBy_andThen (run : Run L α β) (next : β → Tableau L α → Run L α γ)
    (writer : Writer σ) :
    (run.andThen next).loggedBy writer =
      (run.loggedBy writer).andThen fun value tableau writer =>
        (next value tableau).loggedBy writer := by
  unfold Logged.andThen
  cases ends : run.outcome with
  | error error => simp only [loggedBy, andThen, ends, messages, Logged.settle]
  | ok value =>
      have messages : (run.andThen next).messages =
          run.messages ++ (next value run.tableau).messages := messages_andThen_of_ok ends
      simp only [loggedBy, ends, messages, Writer.writeAll_append]
      simp only [andThen, ends]

theorem loggedBy_note_andThen (event : Event L α) (tableau : Tableau L α)
    (next : Unit → Tableau L α → Run L α γ) (writer : Writer σ) :
    ((note event tableau).andThen next).loggedBy writer =
      (next () tableau).loggedBy (writer.writeAll event.messages) := by
  simp only [loggedBy, messages_note_andThen, Writer.writeAll_append]
  rfl

end Run

/-! ## The parts of a solve -/

namespace Tableau

variable [Scalar α] (options : Options α) (writer : Writer σ)

theorem exchangeStep_loggedBy (tableau : Tableau L α) (entering : Fin L.width)
    (leaving : Fin L.constraints) (tolerance : α) :
    (tableau.exchangeStep entering leaving tolerance).loggedBy writer =
      Logged.exchangeStep tableau entering leaving tolerance writer := by
  unfold exchangeStep Logged.exchangeStep
  split
  · rfl
  · rw [Writer.writeExchange_eq]
    simp [Run.loggedBy, Run.messages, Logged.done, Logged.settle]

theorem checkedExchange_loggedBy (tableau : Tableau L α) (entering : Fin L.width)
    (leaving : Fin L.constraints) :
    (checkedExchange options tableau entering leaving).loggedBy writer =
      Logged.checkedExchange options tableau entering leaving writer := by
  rw [checkedExchange, Run.loggedBy_andThen, exchangeStep_loggedBy]
  rfl

theorem optimiseFrom_loggedBy (limit : Int) (budget streak pivots : Nat)
    (tableau : Tableau L α) :
    (optimiseFrom options limit budget streak pivots tableau).loggedBy writer =
      Logged.optimiseFrom options limit budget streak pivots tableau writer := by
  induction budget generalizing streak pivots tableau writer with
  | zero =>
      unfold optimiseFrom Logged.optimiseFrom
      cases tableau.nextMove options.tolerance (ruleAfter options.rule streak) with
      | optimal => rfl
      | unbounded column => cases tableau.phase <;> rfl
      | exchange entering leaving => rfl
  | succ budget induction =>
      unfold optimiseFrom Logged.optimiseFrom
      cases tableau.nextMove options.tolerance (ruleAfter options.rule streak) with
      | optimal => rfl
      | unbounded column => cases tableau.phase <;> rfl
      | exchange entering leaving =>
          simp only
          rw [Run.loggedBy_andThen, Run.loggedBy_andThen, Logged.andThen_assoc,
            checkedExchange_loggedBy]
          congr 1
          funext _ next writer
          rw [Writer.writeTableau_eq, ← induction]
          -- Only the note of the new tableau stands between the exchange and the rest.
          exact (Run.loggedBy_andThen _ _ writer).symm.trans
            (Run.loggedBy_note_andThen _ next _ writer)

theorem expelArtificials_loggedBy (rows : List (Fin L.constraints)) (pivots : Nat)
    (tableau : Tableau L α) :
    (expelArtificials options rows pivots tableau).loggedBy writer =
      Logged.expelArtificials options rows pivots tableau writer := by
  induction rows generalizing pivots tableau writer with
  | nil => rfl
  | cons row rest induction =>
      rw [expelArtificials, Logged.expelArtificials]
      split
      · simp only
        cases (tableau.clearTarget row).replacement? row options.tolerance with
        | none => exact induction writer pivots _
        | some entering =>
            simp only
            rw [Run.loggedBy_andThen, checkedExchange_loggedBy]
            simp only [induction]
      · exact induction writer pivots tableau

theorem handOver_loggedBy (tableau : Tableau L α) :
    (handOver options tableau).loggedBy writer = Logged.handOver options tableau writer := by
  unfold handOver Logged.handOver
  split
  · rfl
  · rw [Run.loggedBy_andThen, expelArtificials_loggedBy]
    rfl

theorem secondPhase_loggedBy (names : List String) (ceiling : Int) (phaseOnePivots : Nat)
    (tableau : Tableau L α) :
    (secondPhase options names ceiling phaseOnePivots tableau).loggedBy writer =
      Logged.secondPhase options names ceiling phaseOnePivots tableau writer := by
  rw [secondPhase, Run.loggedBy_note_andThen, Run.loggedBy_andThen, optimise,
    optimiseFrom_loggedBy, Logged.secondPhase, Logged.optimise, Writer.writeTableau_eq]
  congr 1
  funext outcome final writer
  rw [Run.loggedBy_note_andThen]
  simp only
  cases outcome.ray <;> rfl

theorem firstPhase_loggedBy (names : List String) (ceiling : Int) (tableau : Tableau L α) :
    (firstPhase options names ceiling tableau).loggedBy writer =
      Logged.firstPhase options names ceiling tableau writer := by
  rw [firstPhase, Run.loggedBy_note_andThen, Run.loggedBy_andThen, optimise,
    optimiseFrom_loggedBy, Logged.firstPhase, Logged.optimise, Writer.writeTableau_eq]
  congr 1
  funext outcome optimised writer
  rw [Run.loggedBy_andThen, handOver_loggedBy]
  congr 1
  funext cleanUp handed writer
  cases cleanUp with
  | none =>
      rw [Run.loggedBy_note_andThen]
      rfl
  | some extra => exact secondPhase_loggedBy options writer names ceiling _ handed

/-- A solve with a writer is the solve that keeps its events, told to the writer. -/
theorem solveNamed_loggedBy (names : List String) (tableau : Tableau L α) :
    (solveNamed options names tableau).loggedBy writer =
      Logged.solveNamed options names tableau writer := by
  unfold solveNamed Logged.solveNamed
  cases tableau.phase with
  | first => exact firstPhase_loggedBy options writer names _ tableau
  | second => exact secondPhase_loggedBy options writer names _ 0 tableau

end Tableau

/-! ## Solves of systems -/

section Systems

variable [Scalar α]

/-- The messages of a run on a system.  A system that is turned away has none. -/
def messagesOf (answer : Except ProblemError (ProgramRun α)) : List String :=
  match answer with
  | .error _ => []
  | .ok solved => solved.messages

/-- A solve with a writer gives what the solve without one gives, and tells the writer its
messages. -/
theorem solveSystemLogged_eq (options : Options α) (constraints : List (Constraint α))
    (objective : List α) (sense : Sense) (names : Option (List String)) (writer : Writer σ) :
    solveSystemLogged options constraints objective sense names writer =
      (solveSystem options constraints objective sense names,
        writer.writeAll (messagesOf (runSystem options constraints objective sense names))) := by
  unfold solveSystemLogged solveSystem runSystem
  cases Tableau.build constraints objective sense with
  | error error => rfl
  | ok first =>
      obtain ⟨L, start⟩ := first
      cases named : Tableau.decisionNames L names with
      | error error => simp [Tableau.solve, named, bind, Except.bind, Except.map, messagesOf,
          Writer.writeAll]
      | ok used =>
          simp only [named, Tableau.solve, bind, Except.bind, Except.map, pure, Except.pure,
            messagesOf, ← Tableau.solveNamed_loggedBy]
          rfl

theorem LinearProgram.solveTraced_eq (program : LinearProgram α) (options : Options α) :
    program.solveTraced options = (program.solve options, messagesOf (program.run options)) := by
  rw [solveTraced, solveLogged, solveSystemLogged_eq]
  simp only [Writer.state_writeAll_collecting]
  rfl

end Systems

end TableauSimplex
