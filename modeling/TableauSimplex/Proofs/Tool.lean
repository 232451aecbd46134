import TableauSimplex.Proofs.Solver.Logged
import TableauSimplex.Proofs.Solver.Position
import TableauSimplex.Tool

/-!
# The replies of the tools

No solve of a program reads a position outside its tableau, so every tool that solves answers.  The
tool that also gives the log solves the same way: a sink is told of a run and has no part in it.
-/

set_option autoImplicit false

namespace TableauSimplex.Tool

variable {α β : Type}

theorem exists_caught {answer : Except SolveError β}
    (inside : ∀ error, answer ≠ .error (.run (.position error))) (activity : String) :
    ∃ reply, caught activity answer = .ok reply := by
  cases answer with
  | ok value => exact ⟨.ok value, rfl⟩
  | error error =>
      cases error with
      | problem error => exact ⟨_, rfl⟩
      | run error =>
          cases error with
          | invariant error => exact ⟨_, rfl⟩
          | position error => exact absurd rfl (inside error)

section Replies

variable [Scalar α] (program : LinearProgram α) (options : Option (Options α))

theorem exists_reply :
    ∃ reply, solveReply program options = .ok reply ∧
      traceReply program options =
        .ok (reply, String.intercalate "\n" (messagesOf (program.run (orStandard options)))) := by
  obtain ⟨reply, answered⟩ :=
    exists_caught (solveSystem_ne_position (orStandard options) program.system program.objective
      program.sense program.variableNames) "solve"
  refine ⟨reply, ?_, ?_⟩
  · rw [solveReply, LinearProgram.solveLogged, solveSystemLogged_eq]
    exact answered
  · rw [traceReply, program.solveTraced_eq]
    exact congrArg (Except.map fun reply => (reply, _)) answered

/-- Both tools give the same reply: a solution, or the sentence about a failure.  Every writer is
told the same messages, and none of them changes the outcome or the tableau that a solve ends
in. -/
theorem traceReply_agrees :
    ∃ (reply : Except String (Solution α)) (messages : List String),
      solveReply program options = .ok reply ∧
      traceReply program options = .ok (reply, String.intercalate "\n" messages) ∧
      (∀ (σ : Type) (writer : Writer σ),
        program.solveLogged (orStandard options) writer =
          (program.solve (orStandard options), writer.writeAll messages)) ∧
      ∀ (L : Layout) (start : Tableau L α) (names : List String) (σ : Type) (writer : Writer σ),
        let logged := Logged.solveNamed (orStandard options) names start writer
        let silent := Logged.solveNamed (orStandard options) names start .silent
        logged.outcome = silent.outcome ∧ logged.tableau = silent.tableau := by
  obtain ⟨reply, solved, traced⟩ := exists_reply program options
  refine ⟨reply, _, solved, traced, ?_, ?_⟩
  · intro σ writer
    exact solveSystemLogged_eq _ _ _ _ _ writer
  · intro L start names σ writer
    simp only [← Tableau.solveNamed_loggedBy]
    exact ⟨rfl, rfl⟩

end Replies

/-- The two documents show one solution or one sentence about a failure. -/
theorem trace_shows_solve (program : LinearProgram Float) (options : Option (Options Float)) :
    ∃ log,
      (∃ solution : Solution Float,
        solve program options = .ok solution.toJson ∧
          trace program options =
            .ok (.object [("solution", solution.toJson), ("trace", .text log)])) ∨
      ∃ text,
        solve program options = .ok (.object [("error", .text text), ("solution", .null)]) ∧
          trace program options =
            .ok (.object [("error", .text text), ("solution", .null), ("trace", .text log)]) := by
  obtain ⟨reply, solved, traced⟩ := exists_reply program options
  rw [solve, trace, solved, traced]
  refine ⟨String.intercalate "\n" (messagesOf (program.run (orStandard options))), ?_⟩
  cases reply with
  | ok solution => exact .inl ⟨solution, rfl, rfl⟩
  | error text => exact .inr ⟨text, rfl, rfl⟩

end TableauSimplex.Tool
