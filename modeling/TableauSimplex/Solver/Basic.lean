import TableauSimplex.Solver.Handover
import TableauSimplex.Solver.Solution
import TableauSimplex.Tableau.Build

/-!
# Solving a linear program

A run takes a tableau through the first phase, if it is still in it, and through the second.  The
two phases share one ceiling of exchanges.
-/

set_option autoImplicit false

namespace TableauSimplex

namespace Tableau

variable {L : Layout} {α : Type} [Scalar α]

/-- The names of the decision variables: those given, if there are as many, or else their labels
in the tableau. -/
def decisionNames (L : Layout) : Option (List String) → Except ProblemError (List String)
  | none => .ok ((List.range L.decisions).map L.columnName)
  | some names =>
      if names.length = L.decisions then .ok names
      else .error (.variableNameCount L.decisions names.length)

/-- The second phase, after a first one with some exchanges. -/
def secondPhase (options : Options α) (names : List String) (ceiling : Int)
    (phaseOnePivots : Nat) (tableau : Tableau L α) : Run L α (Solution α) :=
  (Run.note (.shown (.start .second) tableau) tableau).andThen fun _ tableau =>
    (optimise options (max (ceiling - phaseOnePivots) 0) tableau).andThen fun outcome tableau =>
      (Run.note (.ended .finished) tableau).andThen fun _ tableau =>
        let pivots := phaseOnePivots + outcome.pivots
        match outcome.ray with
        | some ray =>
            .done (tableau.unboundedSolution options.tolerance ray phaseOnePivots pivots) tableau
        | none =>
            .settle
              ((tableau.optimalSolution options.tolerance names phaseOnePivots pivots).mapError
                .position)
              tableau

def firstPhase (options : Options α) (names : List String) (ceiling : Int)
    (tableau : Tableau L α) : Run L α (Solution α) :=
  (Run.note (.shown (.start .first) tableau) tableau).andThen fun _ tableau =>
    (optimise options ceiling tableau).andThen fun outcome tableau =>
      (handOver options tableau).andThen fun cleanUp tableau =>
        match cleanUp with
        | none =>
            (Run.note (.ended .infeasible) tableau).andThen fun _ tableau =>
              .done (tableau.infeasibleSolution options.tolerance outcome.pivots) tableau
        | some extra =>
            secondPhase options names ceiling (outcome.pivots + extra) tableau

/-- Both phases under one ceiling. -/
def solveNamed (options : Options α) (names : List String) (tableau : Tableau L α) :
    Run L α (Solution α) :=
  let ceiling : Int := options.maxPivots.getD L.pivotCeiling
  match tableau.phase with
  | .first => firstPhase options names ceiling tableau
  | .second => secondPhase options names ceiling 0 tableau

def solve (options : Options α) (names : Option (List String)) (tableau : Tableau L α) :
    Except ProblemError (Run L α (Solution α)) :=
  (decisionNames L names).map fun names => tableau.solveNamed options names

end Tableau

/-- Why a program has no solution to show. -/
inductive SolveError where
  | problem (error : ProblemError)
  | run (error : RunError)
  deriving DecidableEq, Repr

def SolveError.text : SolveError → String
  | .problem error => error.message
  | .run error => error.text

structure ProgramRun (α : Type) where
  layout : Layout
  run : Run layout α (Solution α)

namespace ProgramRun

variable {α : Type}

def outcome (solved : ProgramRun α) : Except SolveError (Solution α) :=
  solved.run.outcome.mapError .run

def messages [Scalar α] (solved : ProgramRun α) : List String :=
  solved.run.messages

end ProgramRun

variable {α : Type} [Scalar α]

/-- The run on the tableau of a system of constraints and an objective. -/
def runSystem (options : Options α) (constraints : List (Constraint α)) (objective : List α)
    (sense : Sense) (names : Option (List String)) : Except ProblemError (ProgramRun α) := do
  let ⟨layout, tableau⟩ ← Tableau.build constraints objective sense
  let run ← tableau.solve options names
  return { layout, run }

def solveSystem (options : Options α) (constraints : List (Constraint α)) (objective : List α)
    (sense : Sense) (names : Option (List String)) : Except SolveError (Solution α) :=
  match runSystem options constraints objective sense names with
  | .error error => .error (.problem error)
  | .ok solved => solved.outcome

namespace LinearProgram

def run (program : LinearProgram α) (options : Options α) :
    Except ProblemError (ProgramRun α) :=
  runSystem options program.system program.objective program.sense program.variableNames

def solve (program : LinearProgram α) (options : Options α) : Except SolveError (Solution α) :=
  solveSystem options program.system program.objective program.sense program.variableNames

end LinearProgram

end TableauSimplex
