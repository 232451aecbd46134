import Mathlib.Data.List.FinRange
import Mathlib.Tactic.Linarith
import TableauSimplex.Proofs.Tableau.Ratio

/-!
# What the choices guarantee

The entering column improves, and if there is none no candidate does; under Bland's rule no
candidate before it improves.  Without tolerance the leaving row has the least ratio among the
rows with a positive entry, and under Bland's rule the first basic column among equal ratios; if
there is none no row has a positive entry.
-/

set_option autoImplicit false

namespace TableauSimplex

/-! ## Best elements -/

section FirstBest

variable {β : Type} {noWorse : β → β → Bool} {score : β → ℚ}

theorem foldl_best
    (compares : ∀ first second, noWorse first second = true ↔ score first ≤ score second)
    (start : β) (items : List β) :
    let best := items.foldl
      (fun best next => if noWorse best best && !noWorse best next then next else best) start
    best ∈ start :: items ∧ ∀ item ∈ start :: items, score best ≤ score item := by
  induction items generalizing start with
  | nil => simp
  | cons next rest induction =>
      have reflexive : noWorse start start = true := (compares start start).mpr le_rfl
      simp only [List.foldl_cons, reflexive, Bool.true_and]
      by_cases kept : noWorse start next = true
      · obtain ⟨member, least⟩ := induction start
        simp only [kept, Bool.not_true, Bool.false_eq_true, if_false]
        refine ⟨?_, ?_⟩
        · rcases List.mem_cons.mp member with same | later
          · exact List.mem_cons.mpr (.inl same)
          · exact List.mem_cons_of_mem _ (List.mem_cons_of_mem _ later)
        · intro item isItem
          have startLeast := least start List.mem_cons_self
          rcases List.mem_cons.mp isItem with rfl | isItem
          · exact startLeast
          · rcases List.mem_cons.mp isItem with rfl | isItem
            · exact startLeast.trans ((compares start item).mp kept)
            · exact least item (List.mem_cons_of_mem _ isItem)
      · obtain ⟨member, least⟩ := induction next
        have smaller : score next < score start :=
          not_le.mp fun notLarger => kept ((compares start next).mpr notLarger)
        simp only [kept, Bool.not_false, if_true]
        refine ⟨List.mem_cons_of_mem _ member, ?_⟩
        intro item isItem
        rcases List.mem_cons.mp isItem with rfl | isItem
        · exact (least next List.mem_cons_self).trans smaller.le
        · exact least item isItem

/-- If elements are compared by a score, the one found has the least. -/
theorem firstBest_least
    (compares : ∀ first second, noWorse first second = true ↔ score first ≤ score second)
    {items : List β} {best : β} (found : firstBest noWorse items = some best) :
    best ∈ items ∧ ∀ item ∈ items, score best ≤ score item := by
  cases items with
  | nil => cases found
  | cons first rest =>
      obtain rfl := Option.some.inj found
      exact foldl_best compares first rest

theorem firstBest_eq_none {items : List β} (missing : firstBest noWorse items = none) :
    items = [] := by
  cases items with
  | nil => rfl
  | cons first rest => cases missing

end FirstBest

namespace Tableau

variable {L : Layout}

/-! ## Candidates -/

section Candidates

variable {α : Type} {tableau : Tableau L α}

theorem mem_structuralColumns {column : Fin L.width} :
    column ∈ L.structuralColumns ↔ column.val < L.structural := by
  simp [Layout.structuralColumns, Layout.columns, Layout.isArtificial]

theorem mem_candidates {column : Fin L.width} :
    column ∈ tableau.candidates ↔ (tableau.phase = .second → column.val < L.structural) := by
  unfold candidates
  cases tableau.phase with
  | first => simp [Layout.columns]
  | second => simp [mem_structuralColumns]

theorem pairwise_lt_candidates : tableau.candidates.Pairwise (· < ·) := by
  have all : L.columns.Pairwise (· < ·) := List.pairwise_lt_finRange _
  unfold candidates
  split
  · exact all
  · exact all.filter _

end Candidates

/-! ## The entering column -/

section Entering

variable {tableau : Tableau L ℚ} {tolerance : ℚ} {rule : ExchangeRule}

theorem improves_iff {column : Fin L.width} :
    tableau.improves tolerance column = true ↔ tableau.driving.entries column < -tolerance := by
  simp only [improves, decide_eq_true_eq]

/-- The steepest candidate has the least entry in the driving row. -/
theorem steepest_least {column : Fin L.width} (found : tableau.steepest = some column) :
    column ∈ tableau.candidates ∧ ∀ other ∈ tableau.candidates,
      tableau.driving.entries column ≤ tableau.driving.entries other := by
  exact firstBest_least (fun _ _ => decide_eq_true_iff) found

theorem entering_spec {column : Fin L.width}
    (chosen : tableau.entering? tolerance rule = some column) :
    column ∈ tableau.candidates ∧ tableau.driving.entries column < -tolerance := by
  cases rule with
  | bland =>
      exact ⟨List.mem_of_find?_eq_some chosen, improves_iff.mp (List.find?_some chosen)⟩
  | dantzig =>
      obtain ⟨steepest, improves⟩ := Option.filter_eq_some_iff.mp chosen
      exact ⟨(steepest_least steepest).1, improves_iff.mp improves⟩

theorem not_improving_of_entering_none (missing : tableau.entering? tolerance rule = none)
    {column : Fin L.width} (candidate : column ∈ tableau.candidates) :
    -tolerance ≤ tableau.driving.entries column := by
  cases rule with
  | bland =>
      have fails := List.find?_eq_none.mp missing column candidate
      exact not_lt.mp fun improving => fails (improves_iff.mpr improving)
  | dantzig =>
      cases steepest : tableau.steepest with
      | none =>
          have empty : tableau.candidates = [] := firstBest_eq_none steepest
          rw [empty] at candidate
          cases candidate
      | some least =>
          have fails := Option.filter_eq_none_iff.mp missing least steepest
          have bound : -tolerance ≤ tableau.driving.entries least :=
            not_lt.mp fun improving => fails (improves_iff.mpr improving)
          exact bound.trans ((steepest_least steepest).2 column candidate)

/-- Under Bland's rule the entering column is the first candidate that improves. -/
theorem not_improving_before_entering {column earlier : Fin L.width}
    (chosen : tableau.entering? tolerance .bland = some column)
    (candidate : earlier ∈ tableau.candidates) (before : earlier < column) :
    -tolerance ≤ tableau.driving.entries earlier := by
  obtain ⟨_, front, back, split, failing⟩ := List.find?_eq_some_iff_append.mp chosen
  have sorted := tableau.pairwise_lt_candidates
  rw [split] at candidate sorted
  have inFront : earlier ∈ front := by
    rcases List.mem_append.mp candidate with inFront | inBack
    · exact inFront
    · rcases List.mem_cons.mp inBack with rfl | inBack
      · exact absurd before (lt_irrefl _)
      · have after := (List.pairwise_cons.mp (List.pairwise_append.mp sorted).2.1).1 earlier inBack
        exact absurd before (lt_asymm after)
  have fails : ¬ tableau.improves tolerance earlier = true := by simpa using failing earlier inFront
  exact not_lt.mp fun improving => fails (improves_iff.mpr improving)

end Entering

/-! ## The leaving row -/

section Leaving

variable {tableau : Tableau L ℚ} {entering : Fin L.width} {rule : ExchangeRule}

theorem ratio_entry (row : Fin L.constraints) :
    tableau.ratio (.entry entering) row =
      (tableau.rows row).target / (tableau.rows row).entries entering :=
  rfl

/-- What the ratio test without tolerance finds among some rows. -/
def BestAmong (tableau : Tableau L ℚ) (entering : Fin L.width) (rule : ExchangeRule)
    (seen : List (Fin L.constraints)) : Option (Fin L.constraints) → Prop
  | none => ∀ row ∈ seen, (tableau.rows row).entries entering ≤ 0
  | some best =>
      0 < (tableau.rows best).entries entering ∧
        ∀ row ∈ seen, 0 < (tableau.rows row).entries entering →
          tableau.ratio (.entry entering) best ≤ tableau.ratio (.entry entering) row ∧
            (rule = .bland →
              tableau.ratio (.entry entering) row = tableau.ratio (.entry entering) best →
                tableau.basis best ≤ tableau.basis row)

/-- The ratio test finds the best among all rows. -/
theorem bestAmong_leaving (tableau : Tableau L ℚ) (entering : Fin L.width)
    (rule : ExchangeRule) :
    tableau.BestAmong entering rule L.constraintRows
      (tableau.leaving? (.entry entering) 0 rule) := by
  cases chosen : tableau.leaving? (.entry entering) 0 rule with
  | none => exact fun row _ => not_exceeds_of_leaving_none chosen row
  | some best =>
      refine ⟨exceeds_of_leaving chosen, fun row _ positive => ?_⟩
      obtain ⟨least, first⟩ := least_of_leaving chosen positive
      refine ⟨least, ?_⟩
      rintro rfl
      exact first

end Leaving

/-! ## The column that replaces an artificial one -/

section Replacement

variable {tableau : Tableau L ℚ} {row : Fin L.constraints} {tolerance : ℚ}

theorem largest_entry {column : Fin L.width}
    (found : firstBest
      (fun first second => decide (Scalar.magnitude ((tableau.rows row).entries second) ≤
        Scalar.magnitude ((tableau.rows row).entries first))) L.structuralColumns = some column) :
    column ∈ L.structuralColumns ∧ ∀ other ∈ L.structuralColumns,
      |(tableau.rows row).entries other| ≤ |(tableau.rows row).entries column| := by
  have compares (first second : Fin L.width) :
      decide (Scalar.magnitude ((tableau.rows row).entries second) ≤
          Scalar.magnitude ((tableau.rows row).entries first)) = true ↔
        -|(tableau.rows row).entries first| ≤ -|(tableau.rows row).entries second| := by
    rw [decide_eq_true_iff, Scalar.magnitude_eq_abs, Scalar.magnitude_eq_abs]
    exact neg_le_neg_iff.symm
  obtain ⟨member, least⟩ := firstBest_least compares found
  exact ⟨member, fun other isStructural => neg_le_neg_iff.mp (least other isStructural)⟩

theorem replacement_spec {column : Fin L.width}
    (chosen : tableau.replacement? row tolerance = some column) :
    column.val < L.structural ∧ tolerance < |(tableau.rows row).entries column| := by
  obtain ⟨largest, exceeds⟩ := Option.filter_eq_some_iff.mp chosen
  have notSmall : ¬ |(tableau.rows row).entries column| ≤ tolerance := by
    rw [← Scalar.magnitude_eq_abs]
    simpa using exceeds
  exact ⟨mem_structuralColumns.mp (largest_entry largest).1, not_le.mp notSmall⟩

theorem small_of_replacement_none (missing : tableau.replacement? row tolerance = none)
    {column : Fin L.width} (structural : column.val < L.structural) :
    |(tableau.rows row).entries column| ≤ tolerance := by
  have member := mem_structuralColumns.mpr structural
  have fails := Option.filter_eq_none_iff.mp missing
  rcases found : firstBest _ L.structuralColumns with _ | largest
  · rw [firstBest_eq_none found] at member
    cases member
  · have small : Scalar.magnitude ((tableau.rows row).entries largest) ≤ tolerance := by
      simpa using fails largest found
    rw [Scalar.magnitude_eq_abs] at small
    exact ((largest_entry found).2 column member).trans small

end Replacement

end Tableau

end TableauSimplex
