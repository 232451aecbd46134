import TableauSimplex.Proofs.Program.Feasible
import TableauSimplex.Proofs.Tableau.Equation

/-!
# The program a tableau stands for

A vector over the columns has a decision part, which is a point.  A tableau represents a program
if the feasible points are the decision parts of its non-negative solutions without artificial
part, if the gap of the residual row adds up the artificial part, and if the gap of the objective
row is the cost of the decision part.  Equivalent tableaux represent the same programs.
-/

set_option autoImplicit false

namespace TableauSimplex

namespace Layout

variable (L : Layout)

def decisionColumn (decision : Fin L.decisions) : Fin L.width :=
  decision.castLE (L.decisions_le_structural.trans L.structural_le_width)

def decisionPart (vector : Fin L.width → ℚ) : List ℚ :=
  List.ofFn fun decision => vector (L.decisionColumn decision)

/-- The sum of the artificial variables. -/
def artificialSum (vector : Fin L.width → ℚ) : ℚ :=
  ∑ column, if L.structural ≤ column.val then vector column else 0

/-- A vector without negative values and with zeros in the artificial columns. -/
structure Genuine (vector : Fin L.width → ℚ) : Prop where
  nonneg : ∀ column, 0 ≤ vector column
  artificial : ∀ column : Fin L.width, L.structural ≤ column.val → vector column = 0

variable {L}

theorem length_decisionPart (vector : Fin L.width → ℚ) :
    (L.decisionPart vector).length = L.decisions :=
  List.length_ofFn

theorem artificialSum_nonneg {vector : Fin L.width → ℚ} (nonneg : ∀ column, 0 ≤ vector column) :
    0 ≤ L.artificialSum vector := by
  apply Finset.sum_nonneg
  intro column _
  split
  · exact nonneg column
  · exact le_rfl

theorem Genuine.artificialSum_eq_zero {vector : Fin L.width → ℚ} (genuine : L.Genuine vector) :
    L.artificialSum vector = 0 := by
  apply Finset.sum_eq_zero
  intro column _
  split
  · rename_i isArtificial
    exact genuine.artificial column isArtificial
  · rfl

theorem genuine_of_artificialSum_eq_zero {vector : Fin L.width → ℚ}
    (nonneg : ∀ column, 0 ≤ vector column) (zero : L.artificialSum vector = 0) :
    L.Genuine vector where
  nonneg := nonneg
  artificial column isArtificial := by
    have summand (column : Fin L.width) :
        0 ≤ if L.structural ≤ column.val then vector column else 0 := by
      split
      · exact nonneg column
      · exact le_rfl
    have each := (Finset.sum_eq_zero_iff_of_nonneg fun column _ => summand column).mp zero
    simpa [isArtificial] using each column (Finset.mem_univ column)

end Layout

namespace Tableau

variable {L : Layout}

structure Represents (tableau : Tableau L ℚ) (constraints : List (Constraint ℚ))
    (objective : List ℚ) (sense : Sense) : Prop where
  sense_eq : tableau.sense = sense
  size_eq : L.decisions = programSize constraints objective
  sound : ∀ vector, tableau.Solves vector → L.Genuine vector →
    Feasible constraints L.decisions (L.decisionPart vector)
  complete : ∀ point, Feasible constraints L.decisions point →
    ∃ vector, tableau.Solves vector ∧ L.Genuine vector ∧ L.decisionPart vector = point
  residual_gap : ∀ vector, tableau.Solves vector →
    tableau.residual.gap vector = L.artificialSum vector
  objective_gap : ∀ vector, tableau.Solves vector →
    tableau.objective.gap vector = sense.cost (dot objective (L.decisionPart vector))

namespace Represents

variable {first second : Tableau L ℚ} {constraints : List (Constraint ℚ)} {objective : List ℚ}
  {sense : Sense}

theorem of_equivalent (represents : Represents first constraints objective sense)
    (equivalent : Equivalent first second) (sameSense : second.sense = first.sense) :
    Represents second constraints objective sense where
  sense_eq := sameSense.trans represents.sense_eq
  size_eq := represents.size_eq
  sound vector solves := represents.sound vector ((equivalent.solves_iff vector).mp solves)
  complete point feasible := by
    obtain ⟨vector, solves, rest⟩ := represents.complete point feasible
    exact ⟨vector, (equivalent.solves_iff vector).mpr solves, rest⟩
  residual_gap vector solves := by
    have firstSolves := (equivalent.solves_iff vector).mp solves
    exact (equivalent.gap_eq vector firstSolves .residual).trans
      (represents.residual_gap vector firstSolves)
  objective_gap vector solves := by
    have firstSolves := (equivalent.solves_iff vector).mp solves
    exact (equivalent.gap_eq vector firstSolves .objective).trans
      (represents.objective_gap vector firstSolves)

end Represents

end Tableau

end TableauSimplex
