import TableauSimplex.Language.Specification
import TableauSimplex.Schema.Encode
import TableauSimplex.Solver.Logged

/-!
# The tools

Every tool takes values that have been read already and answers with a document.  A failure is
part of the answer: a sentence about it stands beside empty results.  Only a position outside a
tableau leaves a tool as an error.
-/

set_option autoImplicit false

namespace TableauSimplex.Tool

/-- Options that were not given are the standard ones. -/
def orStandard {α : Type} [Scalar α] (options : Option (Options α)) : Options α :=
  options.getD .standard

def failureText (activity text : String) : String :=
  "Failed to " ++ activity ++ " problem: " ++ text

/-- What a tool tells of an activity: its value, or a sentence about its failure. -/
def caught {β : Type} (activity : String) :
    Except SolveError β → Except PositionError (Except String β)
  | .ok value => .ok (.ok value)
  | .error (.problem error) => .ok (.error (failureText activity error.message))
  | .error (.run (.invariant error)) => .ok (.error (failureText activity error.text))
  | .error (.run (.position error)) => .error error

section Replies

variable {α : Type} [Scalar α]

def solveReply (program : LinearProgram α) (options : Option (Options α)) :
    Except PositionError (Except String (Solution α)) :=
  caught "solve" (program.solveLogged (orStandard options) .silent).1

/-- The reply to a solve with the whole log of its run. -/
def traceReply (program : LinearProgram α) (options : Option (Options α)) :
    Except PositionError (Except String (Solution α) × String) :=
  let (outcome, messages) := program.solveTraced (orStandard options)
  (caught "solve" outcome).map fun reply => (reply, String.intercalate "\n" messages)

end Replies

def solve (program : LinearProgram Float) (options : Option (Options Float)) :
    Except PositionError Json :=
  (solveReply program options).map fun
    | .ok solution => solution.toJson
    | .error text => .object [("error", .text text), ("solution", .null)]

def trace (program : LinearProgram Float) (options : Option (Options Float)) :
    Except PositionError Json :=
  (traceReply program options).map fun
    | (.ok solution, log) => .object [("solution", solution.toJson), ("trace", .text log)]
    | (.error text, log) =>
        .object [("error", .text text), ("solution", .null), ("trace", .text log)]

def analyze (program : LinearProgram Float) : Except PositionError Json :=
  (caught "analyze" (program.diagnose .standard)).map fun
    | .ok diagnosis => diagnosis.toJson
    | .error text => .object [("error", .text text), ("conflicting_constraints", .list [])]

def parse (specification : String) : Json :=
  match LinearProgram.ofSpecification specification with
  | .ok program => LinearProgram.toJson program
  | .error error =>
      .object [("error", .text (failureText "parse" error.message)), ("problem", .null)]

end TableauSimplex.Tool
