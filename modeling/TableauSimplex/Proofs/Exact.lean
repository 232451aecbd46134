import Mathlib.Data.Rat.Cast.Order
import Mathlib.Tactic.Linarith
import TableauSimplex.Program.Options

/-!
# Exact arithmetic

Over the rational numbers the distance from zero is the absolute value, the standard tolerances are
a billionth and a millionth, and a tolerance of zero takes nothing for zero that is not.
-/

set_option autoImplicit false

namespace TableauSimplex

/-- The standard options without tolerance. -/
def Options.exact : Options ℚ :=
  { (Options.standard : Options ℚ) with tolerance := 0, feasibilityTolerance := 0 }

/-- The same options without tolerance, except for the residual of the first phase. -/
def Options.sharpened (options : Options ℚ) : Options ℚ :=
  { options with tolerance := 0 }

theorem tolerance_standard : (Options.standard : Options ℚ).tolerance = 1 / 10 ^ 9 := by
  decide +kernel

theorem feasibilityTolerance_standard :
    (Options.standard : Options ℚ).feasibilityTolerance = 1 / 10 ^ 6 := by
  decide +kernel

theorem tolerance_standard_nonneg : 0 ≤ (Options.standard : Options ℚ).tolerance := by
  rw [tolerance_standard]
  norm_num

theorem feasibilityTolerance_standard_nonneg :
    0 ≤ (Options.standard : Options ℚ).feasibilityTolerance := by
  rw [feasibilityTolerance_standard]
  norm_num

namespace Scalar

theorem magnitude_eq_abs (x : ℚ) : magnitude x = |x| := by
  unfold magnitude
  split
  · exact (abs_of_neg ‹_›).symm
  · exact (abs_of_nonneg (not_lt.mp ‹_›)).symm

theorem magnitude_le_zero_iff (x : ℚ) : magnitude x ≤ 0 ↔ x = 0 := by
  rw [magnitude_eq_abs]
  exact abs_nonpos_iff

@[simp] theorem snap_exact (x : ℚ) : snap 0 x = x := by
  rw [snap, magnitude_eq_abs, if_neg]
  exact not_lt.mpr (abs_nonneg x)

@[simp] theorem snap_zero (tolerance : ℚ) : snap tolerance 0 = 0 := by
  unfold snap
  split <;> rfl

theorem snap_eq_self_iff {tolerance x : ℚ} : snap tolerance x = x ↔ x = 0 ∨ tolerance ≤ |x| := by
  rw [snap, magnitude_eq_abs]
  split
  · rename_i small
    exact ⟨fun zero => .inl zero.symm, fun kept => (kept.resolve_right (not_le.mpr small)).symm⟩
  · rename_i large
    exact iff_of_true rfl (.inr (not_lt.mp large))

theorem snap_of_lt {tolerance x : ℚ} (small : |x| < tolerance) : snap tolerance x = 0 := by
  rw [snap, magnitude_eq_abs, if_pos small]

theorem abs_snap_sub_le {tolerance : ℚ} (tolerant : 0 ≤ tolerance) (x : ℚ) :
    |snap tolerance x - x| ≤ tolerance := by
  rw [snap, magnitude_eq_abs]
  split
  · rename_i small
    rw [zero_sub, abs_neg]
    exact small.le
  · rw [sub_self, abs_zero]
    exact tolerant

/-! ## Numbers clear of a tolerance -/

/-- Whether a tolerance takes a number for zero only if it is. -/
def ClearOf (tolerance x : ℚ) : Prop :=
  x = 0 ∨ tolerance < |x|

namespace ClearOf

variable {tolerance x : ℚ} (clear : ClearOf tolerance x)

include clear

theorem neg : ClearOf tolerance (-x) := by
  rw [ClearOf, neg_eq_zero, abs_neg]
  exact clear

theorem snap_eq : snap tolerance x = x :=
  snap_eq_self_iff.mpr (clear.imp_right le_of_lt)

variable (tolerant : 0 ≤ tolerance)

include tolerant

theorem magnitude_le_iff : magnitude x ≤ tolerance ↔ magnitude x ≤ 0 := by
  rw [magnitude_le_zero_iff, magnitude_eq_abs]
  rcases clear with rfl | large
  · simpa using tolerant
  · exact iff_of_false (not_le.mpr large) (abs_pos.mp (tolerant.trans_lt large))

theorem le_iff : x ≤ tolerance ↔ x ≤ 0 := by
  rcases clear with rfl | large
  · exact iff_of_true tolerant le_rfl
  · refine ⟨fun below => ?_, fun nonpositive => nonpositive.trans tolerant⟩
    by_contra positive
    rw [abs_of_pos (not_le.mp positive)] at large
    exact absurd below (not_le.mpr large)

theorem lt_iff : tolerance < x ↔ 0 < x := by
  rw [← not_le, clear.le_iff tolerant, not_le]

theorem lt_neg_iff : x < -tolerance ↔ x < 0 := by
  rcases clear with rfl | large
  · simpa using tolerant
  · refine ⟨fun below => below.trans_le (neg_nonpos.mpr tolerant), fun negative => ?_⟩
    rw [abs_of_neg negative] at large
    exact lt_neg.mp large

end ClearOf

/-- Numbers that a tolerance keeps apart compare as without it. -/
theorem lt_sub_iff_of_clearOf {tolerance first second : ℚ}
    (apart : ClearOf tolerance (first - second)) (tolerant : 0 ≤ tolerance) :
    first < second - tolerance ↔ first < second := by
  have shifted : first < second - tolerance ↔ first - second < -tolerance := by
    constructor <;> intro less <;> linarith
  rw [shifted, apart.lt_neg_iff tolerant, sub_neg]

end Scalar

end TableauSimplex
