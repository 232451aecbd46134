import Mathlib
import TableauSimplex.Scalar

/-!
# The numbers that machine numbers stand for

A finite machine number stands for a sign, a mantissa and a power of two.  The quantity that is read
off its bits is that number as a fraction, with a denominator that is not zero.
-/

set_option autoImplicit false

namespace TableauSimplex

/-- The number a signed fraction stands for. -/
def signedFraction (negative : Bool) (numerator denominator : Nat) : ℚ :=
  if negative then -(numerator / denominator) else numerator / denominator

theorem signedFraction_inj {negative : Bool}
    {numerator denominator otherNumerator otherDenominator : Nat} :
    signedFraction negative numerator denominator =
        signedFraction negative otherNumerator otherDenominator ↔
      (numerator / denominator : ℚ) = otherNumerator / otherDenominator := by
  unfold signedFraction
  split
  · exact neg_inj
  · rfl

theorem signedFraction_natAbs (numerator : ℤ) (denominator : Nat) :
    signedFraction (numerator < 0) numerator.natAbs denominator = numerator / denominator := by
  rw [signedFraction, Nat.cast_natAbs]
  rcases lt_or_ge numerator 0 with negative | nonneg
  · rw [if_pos (decide_eq_true negative), abs_of_neg negative, Int.cast_neg, neg_div, neg_neg]
  · rw [if_neg (by simpa using nonneg), abs_of_nonneg nonneg]

theorem powerOfTwo_pos (exponent : Nat) : 0 < powerOfTwo exponent :=
  Nat.two_pow_pos exponent

theorem fraction_scaled (mantissa : Nat) (exponent : ℤ) :
    ((mantissa * powerOfTwo exponent.toNat : Nat) : ℚ) / powerOfTwo (-exponent).toNat =
      mantissa * 2 ^ exponent := by
  rcases le_total 0 exponent with nonneg | nonpos
  · obtain ⟨size, rfl⟩ := Int.eq_ofNat_of_zero_le nonneg
    simp [powerOfTwo]
  · obtain ⟨size, isSize⟩ := Int.eq_ofNat_of_zero_le (neg_nonneg.mpr nonpos)
    obtain rfl : exponent = -size := by omega
    simp [powerOfTwo, div_eq_mul_inv]

def Double.exactValue (value : Double) : ℚ :=
  if value.negative then -(value.mantissa * 2 ^ value.exponent)
  else value.mantissa * 2 ^ value.exponent

namespace Float64

open Float.Model

/-- The number that an unpacked machine number stands for, if it is finite. -/
def unpackedValue : UnpackedFloat → ℚ
  | .finite sign mantissa exponent _ => sign.apply mantissa * 2 ^ exponent
  | _ => 0

/-- The number that a finite machine number stands for. -/
def exactValue (x : Float) : ℚ :=
  unpackedValue x.toModel.unpack

/-! ## The parts of the bits -/

section Parts

variable (bits : BitVec Format.binary64.numBits)

theorem toNat_unpackMantissa :
    (UnpackedFloat.unpackMantissa bits).toNat = bits.toNat % powerOfTwo 52 := by
  simp [UnpackedFloat.unpackMantissa, powerOfTwo]

theorem toNat_unpackExponent :
    (UnpackedFloat.unpackExponent bits).toNat =
      bits.toNat / powerOfTwo 52 % powerOfTwo 11 := by
  simp [UnpackedFloat.unpackExponent, powerOfTwo, Nat.shiftRight_eq_div_pow]

theorem toNat_unpackSign :
    (UnpackedFloat.unpackSign bits).toNat = bits.toNat / powerOfTwo 63 % 2 := by
  simp [UnpackedFloat.unpackSign, powerOfTwo, Nat.shiftRight_eq_div_pow]

theorem ofBits_toNat :
    DoubleClass.ofBits bits.toNat =
      let negative := (UnpackedFloat.unpackSign bits).toNat == 1
      let biased := (UnpackedFloat.unpackExponent bits).toNat
      let fraction := (UnpackedFloat.unpackMantissa bits).toNat
      if biased = 2047 then
        if fraction = 0 then .infinite negative else .notANumber
      else if biased = 0 then
        .finite { negative, mantissa := fraction, exponent := -1074, atBoundary := false }
      else
        .finite
          { negative
            mantissa := powerOfTwo 52 + fraction
            exponent := (biased : Int) - 1075
            atBoundary := fraction = 0 ∧ biased ≠ 1 } := by
  rw [toNat_unpackSign, toNat_unpackExponent, toNat_unpackMantissa]
  rfl

theorem toNat_one_append (fraction : BitVec 52) :
    (1#1 ++ fraction).toNat = powerOfTwo 52 + fraction.toNat := by
  rw [BitVec.toNat_append]
  have added := Nat.two_pow_add_eq_or_of_lt fraction.isLt 1
  simpa [powerOfTwo, Nat.shiftLeft_eq] using added.symm

end Parts

theorem unpackedValue_finite (sign : BitVec 1) {mantissa : Nat} (positive : 0 < mantissa)
    (exponent : ℤ) (atBoundary : Bool) :
    unpackedValue (.finite (.ofBitVec sign) mantissa exponent positive) =
      Double.exactValue { negative := sign.toNat == 1, mantissa, exponent, atBoundary } := by
  have either : sign = 0#1 ∨ sign = 1#1 := by decide +revert
  rcases either with rfl | rfl
  · rfl
  · simp [unpackedValue, Double.exactValue, UnpackedFloat.Sign.ofBitVec, UnpackedFloat.Sign.apply]

/-- The bits of a finite machine number are those of a double with the same value. -/
theorem exists_double (bits : BitVec Format.binary64.numBits)
    (finite : (UnpackedFloat.unpack Format.binary64 bits).isFinite = true) :
    ∃ value : Double, DoubleClass.ofBits bits.toNat = .finite value ∧
      unpackedValue (UnpackedFloat.unpack Format.binary64 bits) = value.exactValue := by
  rw [ofBits_toNat]
  revert finite
  fun_cases UnpackedFloat.unpack with
  | case1 => exact nofun
  | case2 => exact nofun
  | case3 mantissa exponent sign signed notInfinite zero empty =>
      intro _
      have noExponent : (UnpackedFloat.unpackExponent bits).toNat = 0 := congrArg BitVec.toNat zero
      have noMantissa : (UnpackedFloat.unpackMantissa bits).toNat = 0 := congrArg BitVec.toNat empty
      simp only [noExponent, noMantissa]
      exact ⟨_, rfl, by simp [unpackedValue, Double.exactValue]⟩
  | case4 mantissa exponent biased sign signed notInfinite zero filled =>
      intro _
      have noExponent : (UnpackedFloat.unpackExponent bits).toNat = 0 := congrArg BitVec.toNat zero
      have least : biased + 1 = -1074 := by
        simp [biased, exponent, noExponent, Format.exponentBias]
      simp only [noExponent, least]
      exact ⟨_, rfl, unpackedValue_finite ..⟩
  | case5 mantissa exponent biased sign signed notInfinite notZero =>
      intro _
      have below : (UnpackedFloat.unpackExponent bits).toNat ≠ 2047 := fun same =>
        notInfinite (BitVec.eq_of_toNat_eq same)
      have above : (UnpackedFloat.unpackExponent bits).toNat ≠ 0 := fun same =>
        notZero (BitVec.eq_of_toNat_eq same)
      have isBiased : biased = (UnpackedFloat.unpackExponent bits).toNat - 1075 := by
        simp [biased, exponent, Format.exponentBias]
      simp only [if_neg below, if_neg above, isBiased, toNat_one_append]
      exact ⟨_, rfl, unpackedValue_finite ..⟩

/-- The quantity of a finite machine number is the number it stands for. -/
theorem quantity_of_isFinite {x : Float} (finite : x.isFinite = true) :
    ∃ negative numerator denominator, 0 < denominator ∧
      quantity x = .finite negative numerator denominator ∧
      exactValue x = signedFraction negative numerator denominator := by
  obtain ⟨value, isValue, exact⟩ := exists_double x.toModel.toBits.toBitVec finite
  have read : quantity x = Quantity.ofDouble (.finite value) := congrArg Quantity.ofDouble isValue
  refine ⟨_, _, _, powerOfTwo_pos _, read, ?_⟩
  rw [signedFraction, fraction_scaled]
  exact exact

end Float64

end TableauSimplex
