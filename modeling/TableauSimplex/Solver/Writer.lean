import TableauSimplex.Solver.Run

/-!
# Writers

A writer passes messages on to a sink, one by one, and keeps them.  What the sink makes of a message
is a change of a state of its own.  A writer without a sink does nothing, so nothing is worded for
it either.
-/

set_option autoImplicit false

namespace TableauSimplex

structure Writer (σ : Type) where
  sink : Option (String → σ → σ)
  state : σ
  lines : List String

namespace Writer

variable {σ : Type}

def silent : Writer Unit where
  sink := none
  state := ()
  lines := []

/-- A fresh writer with a sink. -/
def onto (sink : String → σ → σ) (state : σ) : Writer σ where
  sink := some sink
  state
  lines := []

/-- A fresh writer whose sink collects the messages in their order. -/
def collecting : Writer (List String) :=
  onto (fun message collected => collected ++ [message]) []

def isEnabled (writer : Writer σ) : Bool :=
  writer.sink.isSome

def write (writer : Writer σ) (message : String) : Writer σ :=
  match writer.sink with
  | none => writer
  | some sink =>
      { writer with
        state := sink message writer.state
        lines := writer.lines ++ [message] }

/-- The messages kept so far, a line for each. -/
def buffer (writer : Writer σ) : String :=
  String.intercalate "\n" writer.lines

variable {L : Layout} {α : Type} [Scalar α]

def writeTableau (writer : Writer σ) (stage : Stage) (tableau : Tableau L α) : Writer σ :=
  if writer.isEnabled then
    ((writer.write stage.heading).write tableau.grid).write tableau.summary
  else writer

omit [Scalar α] in
/-- The message about an exchange, which names the basic column of the row as it still is. -/
def writeExchange (writer : Writer σ) (tableau : Tableau L α) (entering : Fin L.width)
    (leaving : Fin L.constraints) : Writer σ :=
  if writer.isEnabled then
    writer.write
      (Event.exchangeText L (tableau.basis leaving) (leaving.val + 2) entering.val)
  else writer

end Writer

end TableauSimplex
