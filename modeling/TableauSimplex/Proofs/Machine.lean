import Mathlib
import TableauSimplex.Scalar

/-!
# Machine arithmetic

Comparisons of machine numbers go by the numbers they stand for.  So both zeros, and nothing else,
compare as equal to zero, and no positive threshold lies below them.  Taking zero from a number
leaves its bits as they are, and so does negating it twice.
-/

set_option autoImplicit false

namespace TableauSimplex.Float64

open Float.Model

theorem exists_unpack_of_beq_zero {x : Float} (zero : (x == 0.0) = true) :
    ∃ sign, x.toModel.unpack = .zero sign := by
  have equal : x.toModel.unpack.compare (.zero .positive) = some .eq := by
    have unpacked : (0.0 : Float).toModel.unpack = .zero .positive := rfl
    rw [← unpacked]
    exact beq_iff_eq.mp zero
  revert equal
  cases x.toModel.unpack with
  | zero sign => exact fun _ => ⟨sign, rfl⟩
  | notANumber => exact nofun
  | infinity sign => cases sign <;> exact nofun
  | finite sign => cases sign <;> exact nofun

theorem lt_iff_compare (x y : Float) :
    x < y ↔ x.toModel.unpack.compare y.toModel.unpack = some .lt :=
  decide_eq_true_iff.trans beq_iff_eq

/-- A number that is equal to zero does not exceed a trillionth in magnitude. -/
theorem not_tenth_lt_magnitude_of_beq_zero {x : Float} (zero : (x == 0.0) = true) :
    ¬ (Scalar.tenth 12 : Float) < Scalar.magnitude x := by
  obtain ⟨sign, unpacked⟩ := exists_unpack_of_beq_zero zero
  have notNegative : ¬ x < 0.0 := by
    rw [lt_iff_compare, unpacked]
    cases sign <;> decide +kernel
  have itself : Scalar.magnitude x = x := if_neg notNegative
  rw [itself, lt_iff_compare, unpacked]
  cases sign <;> decide +kernel

theorem tenth_lt_magnitude_one : (Scalar.tenth 12 : Float) < Scalar.magnitude 1.0 := by
  decide +kernel

/-! ## Taking zero -/

/-- Unpacking loses nothing, because there is only one way to write what is no number. -/
theorem pack_unpack (model : Float.Model) : Float.Model.pack model.unpack = model := by
  obtain ⟨⟨bits⟩, valid⟩ := model
  have same : UnpackedFloat.pack Format.binary64 (UnpackedFloat.unpack Format.binary64 bits) =
      bits := UnpackedFloat.pack_unpack_of_valid valid
  simp only [Float.Model.pack, Float.Model.unpack, same]

/-- Taking zero from a number leaves it as it is, down to the sign of a zero. -/
theorem sub_zero (x : Float) : x - 0.0 = x := by
  have kept : UnpackedFloat.sub Format.binary64 x.toModel.unpack (.zero .positive) =
      x.toModel.unpack := by
    cases x.toModel.unpack with
    | zero sign => cases sign <;> rfl
    | notANumber => rfl
    | infinity sign => rfl
    | finite sign => rfl
  have packed := pack_unpack x.toModel
  rw [← kept] at packed
  exact congrArg Float.ofModel packed

/-! ## Negation -/

theorem unpack_packComponents_neg (sign : UnpackedFloat.Sign)
    (exponent : BitVec Format.binary64.exponentBits)
    (mantissa : BitVec Format.binary64.mantissaBitsWithoutImplicit) :
    UnpackedFloat.unpack Format.binary64
        (UnpackedFloat.packComponents Format.binary64 (-sign) exponent mantissa) =
      (UnpackedFloat.unpack Format.binary64
        (UnpackedFloat.packComponents Format.binary64 sign exponent mantissa)).neg := by
  simp only [UnpackedFloat.unpack, UnpackedFloat.unpackExponent_packComponents,
    UnpackedFloat.unpackMantissa_packComponents, UnpackedFloat.unpackSign_packComponents,
    UnpackedFloat.Sign.ofBitVec_toBitVec]
  split
  · split <;> rfl
  · split
    · split <;> rfl
    · rfl

theorem unpack_pack_unpack (bits : BitVec Format.binary64.numBits) :
    UnpackedFloat.unpack Format.binary64
        (UnpackedFloat.pack Format.binary64 (UnpackedFloat.unpack Format.binary64 bits)) =
      UnpackedFloat.unpack Format.binary64 bits := by
  rw [UnpackedFloat.pack_unpack]
  split
  · rename_i isNaN
    obtain ⟨exponent, mantissa⟩ := of_decide_eq_true isNaN
    rw [UnpackedFloat.unpack_packedNaN, UnpackedFloat.unpack, if_pos exponent, if_neg mantissa]
  · rfl

theorem unpack_neg (x : Float) : (-x).toModel.unpack = x.toModel.unpack.neg := by
  let bits : BitVec Format.binary64.numBits := x.toModel.toBits.toBitVec
  obtain ⟨turned, negates⟩ : ∃ turned, UnpackedFloat.unpack Format.binary64 turned =
      (UnpackedFloat.unpack Format.binary64 bits).neg := by
    refine ⟨_, (unpack_packComponents_neg (.ofBitVec (UnpackedFloat.unpackSign bits))
      (UnpackedFloat.unpackExponent bits) (UnpackedFloat.unpackMantissa bits)).trans ?_⟩
    rw [UnpackedFloat.packComponents_unpackSign_unpackExponent_unpackMantissa]
  have repacked := unpack_pack_unpack turned
  rw [negates] at repacked
  exact repacked

theorem neg_neg (x : Float) : - -x = x := by
  have twice : (- -x).toModel.unpack = x.toModel.unpack := by
    rw [unpack_neg, unpack_neg]
    cases x.toModel.unpack with
    | notANumber => rfl
    | infinity sign => cases sign <;> rfl
    | zero sign => cases sign <;> rfl
    | finite sign => cases sign <;> rfl
  have packed := pack_unpack (- -x).toModel
  rw [twice, pack_unpack] at packed
  exact congrArg Float.ofModel packed.symm

theorem beq_iff_compare (x y : Float) :
    (x == y) = true ↔ x.toModel.unpack.compare y.toModel.unpack = some .eq := by
  have unfolded : (x == y) = (x.toModel.unpack.compare y.toModel.unpack == some .eq) := rfl
  rw [unfolded, beq_iff_eq]

theorem le_iff_compare (x y : Float) :
    x ≤ y ↔ (x.toModel.unpack.compare y.toModel.unpack).any Ordering.isLE = true :=
  decide_eq_true_iff

/-- Of a number that is not zero and its negation exactly one is at least zero. -/
theorem zero_le_neg_iff {x : Float} (number : (x == x) = true) (nonzero : (x == 0.0) = false) :
    0.0 ≤ -x ↔ ¬ 0.0 ≤ x := by
  have unpacked : (0.0 : Float).toModel.unpack = .zero .positive := rfl
  rw [beq_iff_compare] at number
  rw [← Bool.not_eq_true, beq_iff_compare, unpacked] at nonzero
  rw [le_iff_compare, le_iff_compare, unpack_neg, unpacked]
  revert number nonzero
  cases x.toModel.unpack with
  | notANumber => exact nofun
  | infinity sign => cases sign <;> decide
  | zero sign => exact fun _ nonzero => absurd rfl nonzero
  | finite sign =>
      intro _ _
      cases sign with
      | negative => exact iff_of_true rfl Bool.false_ne_true
      | positive => exact iff_of_false Bool.false_ne_true (not_not_intro rfl)

end TableauSimplex.Float64
