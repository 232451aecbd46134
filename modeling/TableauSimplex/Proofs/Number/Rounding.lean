import Mathlib.Algebra.Group.Int.Even
import Mathlib.Algebra.Order.Round
import Mathlib.Data.Rat.Floor
import Mathlib.Tactic.Linarith
import Mathlib.Tactic.Ring
import TableauSimplex.Number.Rounding

/-!
# Rounding to the nearest integer

Every number has one nearest integer, if a tie goes to the even one.  It is found from the integer
below and the part that is left of the number, and the rounded quotient of two natural numbers is
it.  Rounding goes with negation, so it is enough to round what is not negative.
-/

set_option autoImplicit false

namespace TableauSimplex

/-- Whether no integer is nearer to a number, and an integer that is as near as another is even. -/
structure NearestEven (x : ℚ) (n : ℤ) : Prop where
  near : |x - n| ≤ 1 / 2
  even : |x - n| = 1 / 2 → Even n

/-- The nearest integer, and of two that are equally near the even one. -/
def roundHalfEven (x : ℚ) : ℤ :=
  if Int.fract x < 1 / 2 then ⌊x⌋
  else if 1 / 2 < Int.fract x then ⌊x⌋ + 1
  else if Even ⌊x⌋ then ⌊x⌋
  else ⌊x⌋ + 1

theorem NearestEven.unique {x : ℚ} {first second : ℤ} (one : NearestEven x first)
    (other : NearestEven x second) : first = second := by
  by_contra different
  have apart : 1 ≤ |(first : ℚ) - second| := by
    exact_mod_cast Int.one_le_abs (sub_ne_zero.mpr different)
  have between := abs_sub_le (first : ℚ) x second
  rw [abs_sub_comm (first : ℚ) x] at between
  -- Both are half a unit away, so they are even and one apart.
  have oneEven := one.even (le_antisymm one.near (by linarith [other.near]))
  have otherEven := other.even (le_antisymm other.near (by linarith [one.near]))
  have close : |(first : ℚ) - second| ≤ 1 := by linarith [one.near, other.near]
  have closeInt : |first - second| ≤ 1 := by exact_mod_cast close
  obtain ⟨half, isDouble⟩ := oneEven.sub otherEven
  have nonzero : first - second ≠ 0 := sub_ne_zero.mpr different
  rw [abs_le] at closeInt
  omega

theorem nearestEven_roundHalfEven (x : ℚ) : NearestEven x (roundHalfEven x) := by
  have nonneg := Int.fract_nonneg x
  have small := Int.fract_lt_one x
  have below : |x - ⌊x⌋| = Int.fract x := abs_of_nonneg nonneg
  have above : |x - (⌊x⌋ + 1 : ℤ)| = 1 - Int.fract x := by
    have distance : x - (⌊x⌋ + 1 : ℤ) = -(1 - Int.fract x) := by
      rw [← Int.self_sub_floor]
      push_cast
      ring
    rw [distance, abs_neg, abs_of_pos (sub_pos.mpr small)]
  unfold roundHalfEven
  split
  · exact ⟨by linarith, fun tie => by linarith⟩
  · split
    · exact ⟨by linarith, fun tie => by linarith⟩
    · split
      · rename_i isEven
        exact ⟨by linarith, fun _ => isEven⟩
      · rename_i isOdd
        exact ⟨by linarith, fun _ => (Int.not_even_iff_odd.mp isOdd).add_one⟩

theorem roundHalfEven_neg (x : ℚ) : roundHalfEven (-x) = -roundHalfEven x := by
  have nearest := nearestEven_roundHalfEven x
  have same : |-x - (-roundHalfEven x : ℤ)| = |x - roundHalfEven x| := by
    rw [Int.cast_neg, neg_sub_neg, abs_sub_comm]
  have opposite : NearestEven (-x) (-roundHalfEven x) :=
    ⟨same.trans_le nearest.near, fun tie => (nearest.even (same.symm.trans tie)).neg⟩
  exact (nearestEven_roundHalfEven (-x)).unique opposite

theorem divideHalfEven_eq (numerator : Nat) {denominator : Nat} (positive : 0 < denominator) :
    (divideHalfEven numerator denominator : ℤ) = roundHalfEven (numerator / denominator) := by
  have floor : ⌊(numerator / denominator : ℚ)⌋ = (numerator / denominator : Nat) :=
    Rat.floor_natCast_div_natCast numerator denominator
  have fract : Int.fract (numerator / denominator : ℚ) =
      (numerator % denominator : Nat) / denominator :=
    Int.fract_div_natCast_eq_div_natCast_mod
  have positiveCast : (0 : ℚ) < denominator := Nat.cast_pos.mpr positive
  have less : Int.fract (numerator / denominator : ℚ) < 1 / 2 ↔
      2 * (numerator % denominator) < denominator := by
    rw [fract, div_lt_div_iff₀ positiveCast two_pos, one_mul, mul_comm]
    exact_mod_cast Iff.rfl
  have more : 1 / 2 < Int.fract (numerator / denominator : ℚ) ↔
      denominator < 2 * (numerator % denominator) := by
    rw [fract, div_lt_div_iff₀ two_pos positiveCast, one_mul, mul_comm _ (2 : ℚ)]
    exact_mod_cast Iff.rfl
  have even : Even ((numerator / denominator : Nat) : ℤ) ↔ numerator / denominator % 2 = 0 := by
    rw [Int.even_coe_nat, Nat.even_iff]
  simp only [divideHalfEven, roundHalfEven, floor, less, more, even]
  split_ifs <;> simp

end TableauSimplex
