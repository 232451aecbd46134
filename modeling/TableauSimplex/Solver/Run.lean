import TableauSimplex.Tableau.Invariant

/-!
# Runs and their events

A run changes a tableau step by step.  It ends with a value or with an error; in both cases the
tableau it reached and the events on the way are kept.
-/

set_option autoImplicit false

namespace TableauSimplex

/-- The points of a run at which the whole tableau is shown. -/
inductive Stage where
  | start (phase : Phase)
  | step (phase : Phase)
  deriving DecidableEq, Repr

def Stage.heading : Stage → String
  | .start phase => phase.name ++ ", start"
  | .step phase => phase.name ++ ", step"

/-- How a run can end after its last exchange. -/
inductive Ending where
  | infeasible
  | finished
  deriving DecidableEq, Repr

def Ending.heading : Ending → String
  | .infeasible => "Phase 1, end: infeasible"
  | .finished => "Phase 2, end"

/-- What a run does: it shows a tableau, exchanges the basic column of a row of the matrix for
another, or ends. -/
inductive Event (L : Layout) (α : Type) where
  | shown (stage : Stage) (tableau : Tableau L α)
  | exchanged (leaving row entering : Int)
  | ended (ending : Ending)

namespace Event

variable {L : Layout} {α : Type} [Scalar α]

/-- The name of a row at a position of the matrix, by its basic column. -/
def leavingName (L : Layout) (leaving row : Int) : String :=
  if row = 0 then "I"
  else if row = 1 then "II"
  else L.basicName leaving

def exchangeText (L : Layout) (leaving row entering : Int) : String :=
  s!"Pivot: leaving {leavingName L leaving row} (row {row - 1}), "
    ++ s!"entering {L.basicName entering}"

def messages : Event L α → List String
  | .shown stage tableau => [stage.heading, tableau.grid, tableau.summary]
  | .exchanged leaving row entering => [exchangeText L leaving row entering]
  | .ended ending => [ending.heading]

end Event

/-- The outcome of a run, the tableau it reached, and what happened on the way. -/
structure Run (L : Layout) (α β : Type) where
  outcome : Except RunError β
  tableau : Tableau L α
  events : List (Event L α)

namespace Run

variable {L : Layout} {α β γ : Type}

/-- A run that changes nothing and ends as a computation does. -/
def settle (outcome : Except RunError β) (tableau : Tableau L α) : Run L α β where
  outcome
  tableau
  events := []

def fail [Scalar α] (fault : Fault) (tableau : Tableau L α) : Run L α β :=
  settle (.error (.invariant (tableau.failure fault))) tableau

def done (value : β) (tableau : Tableau L α) : Run L α β :=
  settle (.ok value) tableau

def note (event : Event L α) (tableau : Tableau L α) : Run L α Unit where
  outcome := .ok ()
  tableau
  events := [event]

/-- Continues a run from the tableau it reached, unless it failed. -/
def andThen (run : Run L α β) (next : β → Tableau L α → Run L α γ) : Run L α γ :=
  match run.outcome with
  | .error error => { outcome := .error error, tableau := run.tableau, events := run.events }
  | .ok value =>
      let rest := next value run.tableau
      { rest with events := run.events ++ rest.events }

def messages [Scalar α] (run : Run L α β) : List String :=
  run.events.flatMap Event.messages

end Run

end TableauSimplex
