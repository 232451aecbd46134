import TableauSimplex.Json.Reader
import TableauSimplex.Json.Writer
import TableauSimplex.Proofs.Solver.Correctness
import TableauSimplex.Proofs.Solver.Termination
import TableauSimplex.Schema.Row
import TableauSimplex.Solver.Manual
import TableauSimplex.Tool
import TableauSimplex.Proofs.Solver.Course
import TableauSimplex.Proofs.Solver.Basis
import TableauSimplex.Proofs.Solver.Progress
import TableauSimplex.Proofs.Tableau.Clearance
import TableauSimplex.Proofs.Solver.Clearance
import TableauSimplex.Proofs.Solver.Allowance
import TableauSimplex.Proofs.Tableau.Determinant
import TableauSimplex.Proofs.Solver.Whole
import TableauSimplex.Proofs.Solver.Tolerance
import TableauSimplex.Proofs.Solver.Idempotence
import TableauSimplex.Proofs.Solver.Redundancy
import TableauSimplex.Proofs.Tableau.Ownership
import TableauSimplex.Proofs.Solver.Rejection
import TableauSimplex.Proofs.Solver.Diagnosis
import TableauSimplex.Proofs.Language.Reading
import TableauSimplex.Proofs.Machine
import TableauSimplex.Proofs.Language.WellFormed
import TableauSimplex.Proofs.Language.Character
import TableauSimplex.Proofs.Language.Grammar
import TableauSimplex.Proofs.Language.Blank
import TableauSimplex.Proofs.Language.Layout
import TableauSimplex.Proofs.Language.Figure
import TableauSimplex.Proofs.Language.Addition
import TableauSimplex.Proofs.Language.Division
import TableauSimplex.Proofs.Language.Parts
import TableauSimplex.Proofs.Language.Opening
import TableauSimplex.Proofs.Language.Clause
import TableauSimplex.Proofs.Language.Meaning
import TableauSimplex.Proofs.Solver.Logged
import TableauSimplex.Proofs.Solver.Position
import TableauSimplex.Proofs.Tool
import TableauSimplex.Proofs.Solver.Budget
import TableauSimplex.Proofs.Solver.Ceiling
import TableauSimplex.Proofs.Log.Following
import TableauSimplex.Proofs.Log.Faithful
import TableauSimplex.Proofs.Solver.Uniqueness
import TableauSimplex.Proofs.Solver.Objective
import TableauSimplex.Proofs.Solver.Stall
import TableauSimplex.Proofs.Solver.SkewCube
import TableauSimplex.Proofs.Language.Stray
import TableauSimplex.Proofs.Solver.Ambiguity
import TableauSimplex.Proofs.Language.Coefficient
import TableauSimplex.Proofs.Language.Refusal
import TableauSimplex.Proofs.Language.Seam
import TableauSimplex.Proofs.Language.SecondDivider
import TableauSimplex.Proofs.Language.Separator
import TableauSimplex.Proofs.Language.Place
import TableauSimplex.Proofs.Language.Target
import TableauSimplex.Proofs.Language.Summand
import TableauSimplex.Proofs.Language.NameList
import TableauSimplex.Proofs.Language.Entry
import TableauSimplex.Proofs.Solver.Outcome
import TableauSimplex.Proofs.Language.Operand
import TableauSimplex.Proofs.Language.Point
import TableauSimplex.Proofs.Language.Optimum
import TableauSimplex.Proofs.Solver.Opposite
import TableauSimplex.Proofs.Solver.Mirror
import TableauSimplex.Proofs.Solver.Report
import TableauSimplex.Proofs.Tableau.Ratio
import TableauSimplex.Proofs.Solver.Equivalence
import TableauSimplex.Proofs.Number.Cell
