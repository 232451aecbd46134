import TableauSimplex.Solver.Basic
import TableauSimplex.Solver.Writer

/-!
# Solving with a writer

A logged run tells a writer what it does while it does it: of an exchange before it is made, of a
tableau once it is there.  So the log of a run that fails ends where the run does.
-/

set_option autoImplicit false

namespace TableauSimplex

/-- The outcome of a run, the tableau it reached, and the writer as the run leaves it. -/
structure Logged (σ : Type) (L : Layout) (α β : Type) where
  outcome : Except RunError β
  tableau : Tableau L α
  writer : Writer σ

namespace Logged

variable {σ : Type} {L : Layout} {α β γ : Type}

def settle (outcome : Except RunError β) (tableau : Tableau L α) (writer : Writer σ) :
    Logged σ L α β where
  outcome
  tableau
  writer

def done (value : β) (tableau : Tableau L α) (writer : Writer σ) : Logged σ L α β :=
  settle (.ok value) tableau writer

/-- Continues with the tableau and the writer that a run left, unless it failed. -/
def andThen (run : Logged σ L α β)
    (next : β → Tableau L α → Writer σ → Logged σ L α γ) : Logged σ L α γ :=
  match run.outcome with
  | .error error => settle (.error error) run.tableau run.writer
  | .ok value => next value run.tableau run.writer

variable [Scalar α]

def fail (fault : Fault) (tableau : Tableau L α) (writer : Writer σ) : Logged σ L α β :=
  settle (.error (.invariant (tableau.failure fault))) tableau writer

/-! ## Exchanges -/

def exchangeStep (tableau : Tableau L α) (entering : Fin L.width) (leaving : Fin L.constraints)
    (tolerance : α) (writer : Writer σ) : Logged σ L α Unit :=
  if tableau.basis leaving = entering.val then fail .sameVariable tableau writer
  else
    done () (tableau.exchange entering leaving tolerance)
      (writer.writeExchange tableau entering leaving)

def checkStep (options : Options α) (tableau : Tableau L α) (writer : Writer σ) :
    Logged σ L α Unit :=
  settle (if options.checksBasis then tableau.checkBasis options.tolerance else .ok ()) tableau
    writer

def checkedExchange (options : Options α) (tableau : Tableau L α) (entering : Fin L.width)
    (leaving : Fin L.constraints) (writer : Writer σ) : Logged σ L α Unit :=
  (exchangeStep tableau entering leaving options.tolerance writer).andThen
    fun _ next writer => checkStep options next writer

/-! ## Phases -/

/-- Runs the current phase with a budget of exchanges left out of a limit. -/
def optimiseFrom (options : Options α) (limit : Int) (budget streak pivots : Nat)
    (tableau : Tableau L α) (writer : Writer σ) : Logged σ L α (PhaseOutcome L) :=
  match tableau.nextMove options.tolerance (Tableau.ruleAfter options.rule streak) with
  | .optimal => done { pivots, ray := none } tableau writer
  | .unbounded column =>
      match tableau.phase with
      | .first => fail (.noLeavingRow (L.columnName column.val)) tableau writer
      | .second => done { pivots, ray := some column } tableau writer
  | .exchange entering leaving =>
      match budget with
      | 0 => fail (.pivotCeiling tableau.phase limit) tableau writer
      | budget + 1 =>
          let streak :=
            if tableau.isDegenerateAt options.tolerance leaving then streak + 1 else 0
          (checkedExchange options tableau entering leaving writer).andThen fun _ next writer =>
            optimiseFrom options limit budget streak (pivots + 1) next
              (writer.writeTableau (.step tableau.phase) next)

def optimise (options : Options α) (limit : Int) (tableau : Tableau L α) (writer : Writer σ) :
    Logged σ L α (PhaseOutcome L) :=
  optimiseFrom options limit limit.toNat 0 0 tableau writer

/-- Exchanges the artificial columns of the given rows, counting the exchanges. -/
def expelArtificials (options : Options α) (rows : List (Fin L.constraints)) (pivots : Nat)
    (tableau : Tableau L α) (writer : Writer σ) : Logged σ L α Nat :=
  match rows with
  | [] => done pivots tableau writer
  | row :: rest =>
      if tableau.isArtificialRow row then
        let cleared := tableau.clearTarget row
        match cleared.replacement? row options.tolerance with
        | none => expelArtificials options rest pivots cleared writer
        | some entering =>
            (checkedExchange options cleared entering row writer).andThen fun _ next writer =>
              expelArtificials options rest (pivots + 1) next writer
      else expelArtificials options rest pivots tableau writer

def handOver (options : Options α) (tableau : Tableau L α) (writer : Writer σ) :
    Logged σ L α (Option Nat) :=
  if options.feasibilityTolerance < tableau.infeasibility then done none tableau writer
  else
    (expelArtificials options L.constraintRows 0 tableau.clearResidual writer).andThen
      fun pivots next writer => done (some pivots) next.leaveFirstPhase writer

/-! ## Solves -/

def secondPhase (options : Options α) (names : List String) (ceiling : Int)
    (phaseOnePivots : Nat) (tableau : Tableau L α) (writer : Writer σ) :
    Logged σ L α (Solution α) :=
  (optimise options (max (ceiling - phaseOnePivots) 0) tableau
      (writer.writeTableau (.start .second) tableau)).andThen fun outcome tableau writer =>
    let writer := writer.write (Ending.heading .finished)
    let pivots := phaseOnePivots + outcome.pivots
    match outcome.ray with
    | some ray =>
        done (tableau.unboundedSolution options.tolerance ray phaseOnePivots pivots) tableau writer
    | none =>
        settle
          ((tableau.optimalSolution options.tolerance names phaseOnePivots pivots).mapError
            .position)
          tableau writer

def firstPhase (options : Options α) (names : List String) (ceiling : Int)
    (tableau : Tableau L α) (writer : Writer σ) : Logged σ L α (Solution α) :=
  (optimise options ceiling tableau (writer.writeTableau (.start .first) tableau)).andThen
    fun outcome tableau writer =>
      (handOver options tableau writer).andThen fun cleanUp tableau writer =>
        match cleanUp with
        | none =>
            done (tableau.infeasibleSolution options.tolerance outcome.pivots) tableau
              (writer.write (Ending.heading .infeasible))
        | some extra =>
            secondPhase options names ceiling (outcome.pivots + extra) tableau writer

def solveNamed (options : Options α) (names : List String) (tableau : Tableau L α)
    (writer : Writer σ) : Logged σ L α (Solution α) :=
  let ceiling : Int := options.maxPivots.getD L.pivotCeiling
  match tableau.phase with
  | .first => firstPhase options names ceiling tableau writer
  | .second => secondPhase options names ceiling 0 tableau writer

end Logged

variable {σ α : Type} [Scalar α]

/-- Solves a system and tells a writer of it.  A system that is turned away writes nothing. -/
def solveSystemLogged (options : Options α) (constraints : List (Constraint α))
    (objective : List α) (sense : Sense) (names : Option (List String)) (writer : Writer σ) :
    Except SolveError (Solution α) × Writer σ :=
  match Tableau.build constraints objective sense with
  | .error error => (.error (.problem error), writer)
  | .ok ⟨L, tableau⟩ =>
      match Tableau.decisionNames L names with
      | .error error => (.error (.problem error), writer)
      | .ok names =>
          let run := Logged.solveNamed options names tableau writer
          (run.outcome.mapError .run, run.writer)

namespace LinearProgram

def solveLogged (program : LinearProgram α) (options : Options α) (writer : Writer σ) :
    Except SolveError (Solution α) × Writer σ :=
  solveSystemLogged options program.system program.objective program.sense program.variableNames
    writer

/-- Solves a program and gives the messages of the run, also of one that fails. -/
def solveTraced (program : LinearProgram α) (options : Options α) :
    Except SolveError (Solution α) × List String :=
  let (outcome, writer) := program.solveLogged options .collecting
  (outcome, writer.state)

end LinearProgram

end TableauSimplex
