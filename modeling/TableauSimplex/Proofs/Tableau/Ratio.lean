import Mathlib.Data.List.FinRange
import Mathlib.Tactic.Linarith
import Mathlib.Tactic.Ring
import TableauSimplex.Proofs.Exact
import TableauSimplex.Tableau.Choice

/-!
# The ratio test

The test goes over the rows once and keeps a running best.  Rows with a cell that exceeds the
tolerance take part.  One of them displaces the best if its ratio is smaller by more than the
tolerance or, under Bland's rule, if it is tied with it and its basic column comes first.  In the
second case the ratio of the best may grow, so it may drift away from the least one by up to the
tolerance at every row.  It does not if ties are transitive, as they are without tolerance.
-/

set_option autoImplicit false

namespace TableauSimplex.Tableau

variable {L : Layout}

section Definitions

variable (tableau : Tableau L ℚ) (column : CellIndex L.width) (tolerance : ℚ)

def TakesPart (row : Fin L.constraints) : Prop :=
  tolerance < (tableau.rows row).cell column

instance (row : Fin L.constraints) : Decidable (tableau.TakesPart column tolerance row) :=
  inferInstanceAs (Decidable (_ < _))

/-- Whether the ratios of two rows are as good as equal. -/
def Tied (first second : Fin L.constraints) : Prop :=
  |tableau.ratio column first - tableau.ratio column second| ≤ tolerance

def TiesTransitive : Prop :=
  ∀ first second third, tableau.TakesPart column tolerance first →
    tableau.TakesPart column tolerance second → tableau.TakesPart column tolerance third →
      tableau.Tied column tolerance first second → tableau.Tied column tolerance second third →
        tableau.Tied column tolerance first third

/-- Whether a row that takes part displaces the best one. -/
def Displaces (rule : ExchangeRule) (row current : Fin L.constraints) : Prop :=
  tableau.ratio column row < tableau.ratio column current - tolerance ∨
    rule = .bland ∧ tableau.Tied column tolerance row current ∧
      tableau.basis row < tableau.basis current

instance (rule : ExchangeRule) (row current : Fin L.constraints) :
    Decidable (tableau.Displaces column tolerance rule row current) :=
  inferInstanceAs (Decidable (_ ∨ _ ∧ |_| ≤ _ ∧ _))

/-- Whether a row is preferred to one that it is tied with. -/
def Precedes (rule : ExchangeRule) (first second : Fin L.constraints) : Prop :=
  match rule with
  | .dantzig => first ≤ second
  | .bland => tableau.basis first ≤ tableau.basis second

/-- Whether the ratio of a row is at most some slack above that of another one. -/
def Near (slack : ℚ) (best row : Fin L.constraints) : Prop :=
  tableau.ratio column best ≤ tableau.ratio column row + slack

def Preferred (rule : ExchangeRule) (best row : Fin L.constraints) : Prop :=
  tableau.Near column tolerance best row ∧
    (tableau.Tied column tolerance row best → tableau.Precedes rule best row)

def participants (rows : List (Fin L.constraints)) : Nat :=
  rows.countP fun row => tableau.TakesPart column tolerance row

/-- What the running best is once some rows are seen: one of those that take part, which stands in
a relation to all of them, or none if there are none. -/
def Leads (relation : Fin L.constraints → Fin L.constraints → Prop)
    (seen : List (Fin L.constraints)) : Option (Fin L.constraints) → Prop
  | none => ∀ row ∈ seen, ¬ tableau.TakesPart column tolerance row
  | some best =>
      best ∈ seen ∧ tableau.TakesPart column tolerance best ∧
        ∀ row ∈ seen, tableau.TakesPart column tolerance row → relation best row

end Definitions

variable {tableau : Tableau L ℚ} {column : CellIndex L.width} {tolerance : ℚ}
  {rule : ExchangeRule} {row current : Fin L.constraints}

theorem Tied.symm (tied : tableau.Tied column tolerance row current) :
    tableau.Tied column tolerance current row := by
  rwa [Tied, abs_sub_comm]

theorem tiesTransitive_zero (tableau : Tableau L ℚ) (column : CellIndex L.width) :
    tableau.TiesTransitive column 0 := by
  intro first second third _ _ _ one other
  have same : tableau.ratio column first = tableau.ratio column second :=
    sub_eq_zero.mp (abs_nonpos_iff.mp one)
  rwa [Tied, same]

/-! ## One row -/

theorem betterLeaving_of_not_takesPart (best : Option (Fin L.constraints))
    (small : ¬ tableau.TakesPart column tolerance row) :
    tableau.betterLeaving column tolerance rule best row = best :=
  if_pos (not_lt.mp small)

theorem betterLeaving_none (takesPart : tableau.TakesPart column tolerance row) :
    tableau.betterLeaving column tolerance rule none row = some row :=
  if_neg (not_le.mpr takesPart)

theorem betterLeaving_some (takesPart : tableau.TakesPart column tolerance row) :
    tableau.betterLeaving column tolerance rule (some current) row =
      if tableau.Displaces column tolerance rule row current then some row else some current := by
  rw [betterLeaving, if_neg (not_le.mpr takesPart)]
  simp only [Scalar.magnitude_eq_abs]
  split
  · rename_i smaller
    rw [if_pos (.inl smaller)]
  · rename_i notSmaller
    exact if_congr (or_iff_right notSmaller).symm rfl rfl

theorem betterLeaving_eq (column : CellIndex L.width) (tolerance : ℚ) (rule : ExchangeRule)
    (best : Option (Fin L.constraints)) (row : Fin L.constraints) :
    tableau.betterLeaving column tolerance rule best row = best ∨
      tableau.betterLeaving column tolerance rule best row = some row ∧
        tolerance < (tableau.rows row).cell column := by
  by_cases takesPart : tableau.TakesPart column tolerance row
  · cases best with
    | none => exact .inr ⟨betterLeaving_none takesPart, takesPart⟩
    | some current =>
        rw [betterLeaving_some takesPart]
        split
        · exact .inr ⟨rfl, takesPart⟩
        · exact .inl rfl
  · exact .inl (betterLeaving_of_not_takesPart best takesPart)

/-! ## The scan -/

namespace Leads

variable {relation next : Fin L.constraints → Fin L.constraints → Prop}
  {seen : List (Fin L.constraints)} {best : Option (Fin L.constraints)}

theorem betterLeaving (leads : tableau.Leads column tolerance relation seen best)
    (widens : ∀ current other, relation current other → next current other)
    (itself : tableau.TakesPart column tolerance row → next row row)
    (displaces : ∀ current ∈ seen, tableau.TakesPart column tolerance current →
      tableau.TakesPart column tolerance row →
      tableau.Displaces column tolerance rule row current →
      ∀ other, tableau.TakesPart column tolerance other → relation current other → next row other)
    (stays : ∀ current ∈ seen, tableau.TakesPart column tolerance current →
      tableau.TakesPart column tolerance row →
      ¬ tableau.Displaces column tolerance rule row current → next current row) :
    tableau.Leads column tolerance next (seen ++ [row])
      (tableau.betterLeaving column tolerance rule best row) := by
  have isLast : row ∈ seen ++ [row] := List.mem_append_right _ (List.mem_singleton_self row)
  by_cases takesPart : tableau.TakesPart column tolerance row
  · cases best with
    | none =>
        rw [betterLeaving_none takesPart]
        refine ⟨isLast, takesPart, List.forall_mem_append.mpr
          ⟨?_, List.forall_mem_singleton.mpr itself⟩⟩
        exact fun other earlier otherTakesPart => absurd otherTakesPart (leads other earlier)
    | some current =>
        obtain ⟨isSeen, currentTakesPart, related⟩ := leads
        rw [betterLeaving_some takesPart]
        split
        · rename_i displaced
          refine ⟨isLast, takesPart, List.forall_mem_append.mpr
            ⟨?_, List.forall_mem_singleton.mpr itself⟩⟩
          exact fun other earlier otherTakesPart => displaces current isSeen currentTakesPart
            takesPart displaced other otherTakesPart (related other earlier otherTakesPart)
        · rename_i kept
          refine ⟨List.mem_append_left _ isSeen, currentTakesPart, List.forall_mem_append.mpr
            ⟨?_, List.forall_mem_singleton.mpr fun _ => ?_⟩⟩
          · exact fun other earlier otherTakesPart =>
              widens current other (related other earlier otherTakesPart)
          · exact stays current isSeen currentTakesPart takesPart kept
  · rw [betterLeaving_of_not_takesPart best takesPart]
    cases best with
    | none => exact List.forall_mem_append.mpr ⟨leads, List.forall_mem_singleton.mpr takesPart⟩
    | some current =>
        obtain ⟨isSeen, currentTakesPart, related⟩ := leads
        refine ⟨List.mem_append_left _ isSeen, currentTakesPart, List.forall_mem_append.mpr
          ⟨?_, List.forall_mem_singleton.mpr (absurd · takesPart)⟩⟩
        exact fun other earlier otherTakesPart =>
          widens current other (related other earlier otherTakesPart)

end Leads

/-- What every row keeps for the rows seen so far holds of the leaving row and all rows. -/
theorem leads_leaving
    (relation : List (Fin L.constraints) → Fin L.constraints → Fin L.constraints → Prop)
    (step : ∀ seen best row, (∀ earlier ∈ seen, earlier < row) →
      tableau.Leads column tolerance (relation seen) seen best →
        tableau.Leads column tolerance (relation (seen ++ [row])) (seen ++ [row])
          (tableau.betterLeaving column tolerance rule best row)) :
    tableau.Leads column tolerance (relation L.constraintRows) L.constraintRows
      (tableau.leaving? column tolerance rule) := by
  have scan (rows seen : List (Fin L.constraints)) (best : Option (Fin L.constraints))
      (sorted : (seen ++ rows).Pairwise (· < ·))
      (leads : tableau.Leads column tolerance (relation seen) seen best) :
      tableau.Leads column tolerance (relation (seen ++ rows)) (seen ++ rows)
        (rows.foldl (tableau.betterLeaving column tolerance rule) best) := by
    -- On the rows still to come, for whatever the best is to those seen so far.
    induction rows generalizing seen best with
    | nil => simpa using leads
    | cons row rest induction =>
        have behind (earlier : Fin L.constraints) (member : earlier ∈ seen) : earlier < row :=
          (List.pairwise_append.mp sorted).2.2 earlier member row List.mem_cons_self
        rw [List.foldl_cons, List.append_cons]
        rw [List.append_cons] at sorted
        exact induction _ _ sorted (step seen best row behind leads)
  exact scan L.constraintRows [] none (List.pairwise_lt_finRange _) nofun

theorem Leads.related {relation : Fin L.constraints → Fin L.constraints → Prop}
    (leads : tableau.Leads column tolerance relation L.constraintRows
      (tableau.leaving? column tolerance rule))
    (chosen : tableau.leaving? column tolerance rule = some current)
    (takesPart : tableau.TakesPart column tolerance row) : relation current row := by
  rw [chosen] at leads
  exact leads.2.2 row (List.mem_finRange row) takesPart

/-! ## The leaving row -/

theorem leads_leaving_true (rule : ExchangeRule) :
    tableau.Leads column tolerance (fun _ _ => True) L.constraintRows
      (tableau.leaving? column tolerance rule) :=
  leads_leaving (fun _ _ _ => True) fun _ _ _ _ leads =>
    leads.betterLeaving (fun _ _ _ => trivial) (fun _ => trivial)
      (fun _ _ _ _ _ _ _ _ => trivial) fun _ _ _ _ _ => trivial

theorem exceeds_of_leaving {leaving : Fin L.constraints}
    (chosen : tableau.leaving? column tolerance rule = some leaving) :
    tolerance < (tableau.rows leaving).cell column := by
  have leads : tableau.Leads column tolerance _ _ _ := leads_leaving_true rule
  rw [chosen] at leads
  exact leads.2.1

theorem not_exceeds_of_leaving_none
    (missing : tableau.leaving? column tolerance rule = none) (row : Fin L.constraints) :
    (tableau.rows row).cell column ≤ tolerance := by
  have leads : tableau.Leads column tolerance _ _ _ := leads_leaving_true rule
  rw [missing] at leads
  exact not_lt.mp (leads row (List.mem_finRange row))

theorem leaving_eq_none_iff :
    tableau.leaving? column tolerance rule = none ↔
      ∀ row, (tableau.rows row).cell column ≤ tolerance := by
  constructor
  · exact not_exceeds_of_leaving_none
  · intro small
    cases chosen : tableau.leaving? column tolerance rule with
    | none => rfl
    | some row => exact absurd (exceeds_of_leaving chosen) (not_lt.mpr (small row))

/-! ## Drift -/

theorem participants_concat (seen : List (Fin L.constraints))
    (takesPart : tableau.TakesPart column tolerance row) :
    tableau.participants column tolerance (seen ++ [row]) =
      tableau.participants column tolerance seen + 1 := by
  simp [participants, takesPart]

theorem participants_le_concat (tableau : Tableau L ℚ) (column : CellIndex L.width)
    (tolerance : ℚ) (seen : List (Fin L.constraints)) (row : Fin L.constraints) :
    tableau.participants column tolerance seen ≤
      tableau.participants column tolerance (seen ++ [row]) := by
  simp [participants]

theorem participants_pos {seen : List (Fin L.constraints)} (isSeen : current ∈ seen)
    (takesPart : tableau.TakesPart column tolerance current) :
    0 < tableau.participants column tolerance seen :=
  List.countP_pos_iff.mpr ⟨current, isSeen, decide_eq_true takesPart⟩

section Drift

variable (tolerant : 0 ≤ tolerance)

include tolerant

theorem leads_dantzig :
    tableau.Leads column tolerance (tableau.Near column tolerance) L.constraintRows
      (tableau.leaving? column tolerance .dantzig) := by
  apply leads_leaving fun _ => tableau.Near column tolerance
  intro seen best row _ leads
  apply leads.betterLeaving (fun _ _ near => near)
  · exact fun _ => le_add_of_nonneg_right tolerant
  · rintro current - - - (smaller | ⟨impossible, _⟩) other - near
    · unfold Near at near ⊢
      linarith
    · cases impossible
  · intro current _ _ _ stays
    have notSmaller := not_lt.mp fun smaller => stays (.inl smaller)
    unfold Near
    linarith

/-- Under Bland's rule every row that takes part can raise the ratio of the best by the
tolerance, except for the first one. -/
theorem leads_bland :
    tableau.Leads column tolerance
      (tableau.Near column
        (tolerance * (tableau.participants column tolerance L.constraintRows - 1)))
      L.constraintRows (tableau.leaving? column tolerance .bland) := by
  apply leads_leaving fun seen => tableau.Near column
    (tolerance * (tableau.participants column tolerance seen - 1))
  intro seen best row _ leads
  apply leads.betterLeaving
  · intro current other near
    have grows : (tableau.participants column tolerance seen : ℚ) ≤
        tableau.participants column tolerance (seen ++ [row]) :=
      Nat.cast_le.mpr (tableau.participants_le_concat column tolerance seen row)
    have slack := mul_le_mul_of_nonneg_left grows tolerant
    unfold Near at near ⊢
    linarith
  · intro takesPart
    have counted := participants_concat seen takesPart
    have slack : 0 ≤ tolerance * tableau.participants column tolerance seen :=
      mul_nonneg tolerant (Nat.cast_nonneg _)
    unfold Near
    rw [counted, Nat.cast_add_one]
    linarith
  · intro current _ _ takesPart displaced other _ near
    have counted := participants_concat seen takesPart
    have raised : tableau.ratio column row ≤ tableau.ratio column current + tolerance := by
      rcases displaced with smaller | ⟨_, tied, _⟩
      · linarith
      · linarith [(abs_le.mp tied).2]
    unfold Near at near ⊢
    rw [counted, Nat.cast_add_one]
    linarith
  · intro current isSeen currentTakesPart takesPart stays
    have notSmaller := not_lt.mp fun smaller => stays (.inl smaller)
    have counted := participants_concat seen takesPart
    have slack : tolerance ≤ tolerance * tableau.participants column tolerance seen :=
      le_mul_of_one_le_right tolerant
        (Nat.one_le_cast.mpr (participants_pos isSeen currentTakesPart))
    unfold Near
    rw [counted, Nat.cast_add_one]
    linarith

end Drift

/-! ## Transitive ties -/

/-- As long as ties are transitive the best is tied with the least ratio, and is the row that the
rule prefers among those tied with it. -/
theorem leads_of_transitive (rule : ExchangeRule) (tolerant : 0 ≤ tolerance)
    (transitive : tableau.TiesTransitive column tolerance) :
    tableau.Leads column tolerance (tableau.Preferred column tolerance rule) L.constraintRows
      (tableau.leaving? column tolerance rule) := by
  apply leads_leaving fun _ => tableau.Preferred column tolerance rule
  intro seen best row behind leads
  apply leads.betterLeaving (fun _ _ holds => holds)
  · refine fun _ => ⟨le_add_of_nonneg_right tolerant, fun _ => ?_⟩
    cases rule <;> exact le_rfl
  · rintro current - currentTakesPart takesPart displaced other otherTakesPart ⟨near, first⟩
    unfold Near at near
    rcases displaced with smaller | ⟨rfl, tied, before⟩
    · refine ⟨by unfold Near; linarith, fun tie => ?_⟩
      -- A row tied with the new best is tied with the old one too, and so are both of them.
      have tieCurrent : tableau.Tied column tolerance other current :=
        abs_le.mpr ⟨by linarith, by linarith [(abs_le.mp tie).2]⟩
      have both := transitive row other current takesPart otherTakesPart currentTakesPart
        tie.symm tieCurrent
      linarith [(abs_le.mp both).1]
    · have tiedOther (tie : tableau.Tied column tolerance other row) :
          tableau.basis row ≤ tableau.basis other :=
        before.le.trans (first (transitive other row current otherTakesPart takesPart
          currentTakesPart tie tied))
      refine ⟨?_, tiedOther⟩
      -- Otherwise the old best lies between the two ratios, tied with both.
      by_contra far
      have below := not_le.mp far
      have tieCurrent : tableau.Tied column tolerance other current :=
        abs_le.mpr ⟨by linarith, by linarith [(abs_le.mp tied).2]⟩
      have both := transitive other current row otherTakesPart currentTakesPart takesPart
        tieCurrent tied.symm
      linarith [(abs_le.mp both).1]
  · intro current isSeen _ _ stays
    have notSmaller := not_lt.mp fun smaller => stays (.inl smaller)
    refine ⟨by unfold Near; linarith, fun tie => ?_⟩
    cases rule with
    | dantzig => exact (behind current isSeen).le
    | bland => exact not_lt.mp fun before => stays (.inr ⟨rfl, tie, before⟩)

theorem least_of_leaving (chosen : tableau.leaving? column 0 rule = some current)
    (takesPart : tableau.TakesPart column 0 row) :
    tableau.ratio column current ≤ tableau.ratio column row ∧
      (tableau.ratio column row = tableau.ratio column current →
        tableau.Precedes rule current row) := by
  obtain ⟨near, first⟩ := (leads_of_transitive rule le_rfl
    (tableau.tiesTransitive_zero column)).related chosen takesPart
  refine ⟨near.trans_eq (add_zero _), fun same => first ?_⟩
  rw [Tied, same, sub_self, abs_zero]

/-! ## The test as a whole -/

/-- How far above the least ratio the rule can leave the best. -/
def slack (tableau : Tableau L ℚ) (column : CellIndex L.width) (tolerance : ℚ) :
    ExchangeRule → ℚ
  | .dantzig => tolerance
  | .bland => tolerance * (tableau.participants column tolerance L.constraintRows - 1)

/-- No row leaves exactly if none takes part.  Otherwise one that takes part does, and its ratio is
within the slack of the least one.  Where ties are transitive it is tied with the least one and
preferred among the rows tied with it.  Without tolerance it is the least one. -/
theorem leaving_ratio_spec (tolerant : 0 ≤ tolerance) (tableau : Tableau L ℚ)
    (column : CellIndex L.width) (rule : ExchangeRule) :
    (tableau.leaving? column tolerance rule = none ↔
        ∀ row, (tableau.rows row).cell column ≤ tolerance) ∧
      ∀ chosen, tableau.leaving? column tolerance rule = some chosen →
        tolerance < (tableau.rows chosen).cell column ∧
        ∀ row, tolerance < (tableau.rows row).cell column →
          tableau.ratio column chosen ≤
              tableau.ratio column row + tableau.slack column tolerance rule ∧
          (tableau.TiesTransitive column tolerance →
            tableau.ratio column chosen ≤ tableau.ratio column row + tolerance ∧
              (tableau.Tied column tolerance row chosen → tableau.Precedes rule chosen row)) ∧
          (tolerance = 0 →
            tableau.ratio column chosen ≤ tableau.ratio column row ∧
              (tableau.ratio column row = tableau.ratio column chosen →
                tableau.Precedes rule chosen row)) := by
  refine ⟨leaving_eq_none_iff, ?_⟩
  intro chosen isChosen
  refine ⟨exceeds_of_leaving isChosen, fun row takesPart => ⟨?_, ?_, ?_⟩⟩
  · cases rule with
    | dantzig => exact (leads_dantzig tolerant).related isChosen takesPart
    | bland => exact (leads_bland tolerant).related isChosen takesPart
  · intro transitive
    exact (leads_of_transitive rule tolerant transitive).related isChosen takesPart
  · rintro rfl
    exact least_of_leaving isChosen takesPart

abbrev squareLayout : Layout where
  decisions := 3
  surplus := 3
  artificial := 0
  constraints := 3
  decisions_pos := by decide
  constraints_pos := by decide

abbrev thirdColumn : CellIndex squareLayout.width :=
  .entry (2 : Fin 6)

/-- Ratios of zero, one and two billionths in the third column, while the basic columns fall.  Under
Bland's rule a solve of the constraints of its rows comes to it by two exchanges. -/
def nearTies : Tableau squareLayout ℚ where
  sense := .maximise
  phase := .second
  residual := .zero
  objective := ⟨⟨#v[0, 0, -1, 0, 1, 1]⟩, 3 / 10 ^ 9⟩
  rows := ⟨#v[⟨⟨#v[0, 0, 1, 1, 0, 0]⟩, 0⟩, ⟨⟨#v[0, 1, 1, 0, 1, 0]⟩, 1 / 10 ^ 9⟩,
    ⟨⟨#v[1, 0, 1, 0, 0, 1]⟩, 2 / 10 ^ 9⟩]⟩
  basis := ⟨#v[3, 1, 0]⟩

theorem leaving_nearTies :
    nearTies.leaving? thirdColumn (1 / 10 ^ 9) .bland = some (2 : Fin 3) ∧
      nearTies.TakesPart thirdColumn (1 / 10 ^ 9) (0 : Fin 3) ∧
      nearTies.ratio thirdColumn (0 : Fin 3) + 1 / 10 ^ 9 <
        nearTies.ratio thirdColumn (2 : Fin 3) := by
  decide +kernel

/-- With a tolerance the bound on the drift is attained, and without it the least ratio leaves. -/
theorem leaving_ratio_spec_nearTies :
    (0 : ℚ) ≤ 1 / 10 ^ 9 ∧
      nearTies.leaving? thirdColumn (1 / 10 ^ 9) .bland = some (2 : Fin 3) ∧
      nearTies.ratio thirdColumn (2 : Fin 3) ≤
        nearTies.ratio thirdColumn (0 : Fin 3) + 1 / 10 ^ 9 * ((3 : Nat) - 1) ∧
      nearTies.leaving? thirdColumn 0 .bland = some (0 : Fin 3) ∧
      nearTies.ratio thirdColumn (0 : Fin 3) ≤
        nearTies.ratio thirdColumn (2 : Fin 3) := by
  have tolerant : (0 : ℚ) ≤ 1 / 10 ^ 9 := by norm_num
  have drifts : nearTies.leaving? thirdColumn (1 / 10 ^ 9) .bland = some (2 : Fin 3) := by
    decide +kernel
  have sharp : nearTies.leaving? thirdColumn 0 .bland = some (0 : Fin 3) := by
    decide +kernel
  have count : nearTies.participants thirdColumn (1 / 10 ^ 9)
      squareLayout.constraintRows = 3 := by decide +kernel
  obtain ⟨_, near⟩ := ((leaving_ratio_spec tolerant nearTies thirdColumn .bland).2 _
    drifts)
  obtain ⟨_, least⟩ := ((leaving_ratio_spec le_rfl nearTies thirdColumn .bland).2 _
    sharp)
  have within := (near (0 : Fin 3) (by decide +kernel)).1
  rw [slack, count] at within
  exact ⟨tolerant, drifts, within, sharp, ((least (2 : Fin 3) (by decide +kernel)).2.2 rfl).1⟩

/-! ## Staircases -/

section Staircase

variable (L : Layout) (tolerance : ℚ)

/-- Rows whose ratios rise by the tolerance from one to the next, while their basic columns fall. -/
def staircase : Tableau L ℚ where
  sense := .maximise
  phase := .second
  residual := .zero
  objective := .zero
  rows := .ofFn fun row =>
    { entries := .constant L.width (tolerance + 1)
      target := (tolerance + 1) * (tolerance * row.val) }
  basis := .ofFn fun row => L.constraints - row.val

variable {L tolerance} (column : Fin L.width)

theorem takesPart_staircase (row : Fin L.constraints) :
    (staircase L tolerance).TakesPart (.entry column) tolerance row := by
  simp [TakesPart, staircase, Row.cell]

variable (tolerant : 0 ≤ tolerance)

include tolerant

theorem ratio_staircase (row : Fin L.constraints) :
    (staircase L tolerance).ratio (.entry column) row = tolerance * row.val := by
  have nonzero : tolerance + 1 ≠ 0 := by positivity
  simp [ratio, staircase, Row.cell, mul_div_cancel_left₀ _ nonzero]

theorem displaces_staircase {row : Fin L.constraints} {position : Nat}
    (next : row.val = position + 1) (bound : position < L.constraints) :
    (staircase L tolerance).Displaces (.entry column) tolerance .bland row ⟨position, bound⟩ := by
  refine .inr ⟨rfl, ?_, ?_⟩
  · have rise : tolerance * (position + 1 : Nat) - tolerance * position = tolerance := by
      push_cast
      ring
    rw [Tied, ratio_staircase column tolerant, ratio_staircase column tolerant, next, rise,
      abs_of_nonneg tolerant]
  · simp only [staircase, Family.get_ofFn]
    omega

theorem foldl_staircase (position : Nat) (bound : position < L.constraints) :
    (L.constraintRows.take (position + 1)).foldl
        ((staircase L tolerance).betterLeaving (.entry column) tolerance .bland) none =
      some ⟨position, bound⟩ := by
  have split (position : Nat) (bound : position < L.constraints) :
      L.constraintRows.take (position + 1) =
        L.constraintRows.take position ++ [⟨position, bound⟩] := by
    simp [Layout.constraintRows, List.take_add_one, bound]
  induction position with
  | zero =>
      rw [split 0 bound, List.foldl_concat, List.take_zero, List.foldl_nil,
        betterLeaving_none (takesPart_staircase column _)]
  | succ position induction =>
      rw [split (position + 1) bound, List.foldl_concat, induction (by omega),
        betterLeaving_some (takesPart_staircase column _)]
      exact if_pos (displaces_staircase column tolerant rfl _)

/-- Up a staircase Bland's rule goes from the least ratio to the greatest, so the bound on its drift
is attained. -/
theorem leaving_staircase :
    ∃ first last, (staircase L tolerance).leaving? (.entry column) tolerance .bland = some last ∧
      (staircase L tolerance).ratio (.entry column) last =
        (staircase L tolerance).ratio (.entry column) first +
          (staircase L tolerance).slack (.entry column) tolerance .bland := by
  have positive := L.constraints_pos
  have top : L.constraints - 1 < L.constraints := by omega
  refine ⟨⟨0, positive⟩, ⟨L.constraints - 1, top⟩, ?_, ?_⟩
  · have climbs := foldl_staircase column tolerant (L.constraints - 1) top
    rw [Nat.sub_add_cancel positive, List.take_of_length_le (by simp [Layout.constraintRows])]
      at climbs
    exact climbs
  · have all :
        (staircase L tolerance).participants (.entry column) tolerance L.constraintRows =
          L.constraints := by
      rw [participants, List.countP_eq_length.mpr]
      · exact List.length_finRange
      · exact fun row _ => decide_eq_true (takesPart_staircase column row)
    rw [slack, ratio_staircase column tolerant, ratio_staircase column tolerant, all,
      Nat.cast_sub positive]
    push_cast
    ring

end Staircase

end TableauSimplex.Tableau
