import Mathlib.Algebra.Group.Nat.Defs
import PedestrianControl.Double

/-!
# Comparing with a NaN

A comparison unpacks the bits of its two doubles. The fields that it finds in them are those of `Double`, and from
those of a NaN it unpacks no number. So nothing is below a NaN (`Double.below_eq_false_of_isNaN`), and a positive
double is none.
-/

namespace PedestrianControl.Double

open Float.Model (UnpackedFloat)

/-! ## Fields -/

/-- The exponent field is the eleven bits above the fraction. -/
theorem exponentField_eq (d : Double) : d.exponentField = d.bits.toNat / 2 ^ 52 % 2 ^ 11 := by
  have hmask : (0x7FF : UInt64).toNat = 2 ^ 11 - 1 := rfl
  have hshift : (52 : UInt64).toNat % 64 = 52 := rfl
  rw [exponentField, UInt64.toNat_and, UInt64.toNat_shiftRight, hmask, hshift, Nat.and_two_pow_sub_one_eq_mod,
    Nat.shiftRight_eq_div_pow]

/-- The fraction is the low 52 bits. -/
theorem fraction_eq (d : Double) : d.fraction = d.bits.toNat % 2 ^ 52 := by
  have hmask : (0x000FFFFFFFFFFFFF : UInt64).toNat = 2 ^ 52 - 1 := rfl
  rw [fraction, UInt64.toNat_and, hmask, Nat.and_two_pow_sub_one_eq_mod]

/-- The exponent that the unpacking finds is the exponent field. -/
theorem toNat_unpackExponent (d : Double) :
    (@UnpackedFloat.unpackExponent .binary64 d.bits.toBitVec).toNat = d.exponentField := by
  rw [exponentField_eq, UnpackedFloat.unpackExponent, BitVec.toNat_cast, BitVec.extractLsb_toNat,
    Nat.shiftRight_eq_div_pow]
  rfl

/-- The significand that the unpacking finds is the fraction. -/
theorem toNat_unpackMantissa (d : Double) :
    (@UnpackedFloat.unpackMantissa .binary64 d.bits.toBitVec).toNat = d.fraction := by
  rw [fraction_eq, UnpackedFloat.unpackMantissa, BitVec.toNat_cast, BitVec.extractLsb_toNat,
    Nat.shiftRight_zero]
  rfl

/-! ## NaN -/

/-- A pattern that is no number unpacks as no number. -/
theorem unpack_toFloat_of_isNaN {d : Double} (h : d.isNaN = true) :
    d.toFloat.toModel.unpack = .notANumber := by
  rw [isNaN, Bool.and_eq_true, beq_iff_eq, bne_iff_ne] at h
  obtain ⟨hexponent, hfraction⟩ := h
  have hones : @UnpackedFloat.unpackExponent .binary64 d.bits.toBitVec = -1#11 :=
    BitVec.eq_of_toNat_eq (d.toNat_unpackExponent.trans hexponent)
  have hrest : @UnpackedFloat.unpackMantissa .binary64 d.bits.toBitVec ≠ 0#52 :=
    fun hzero => hfraction (d.toNat_unpackMantissa.symm.trans (congrArg BitVec.toNat hzero))
  have hunpacked : UnpackedFloat.unpack .binary64 d.bits.toBitVec = .notANumber :=
    (if_pos hones).trans (if_neg hrest)
  -- the payload is lost on the way, and the quiet NaN is unpacked again
  show (Float.Model.pack (UnpackedFloat.unpack .binary64 d.bits.toBitVec)).unpack = .notANumber
  rw [hunpacked]
  rfl

/-- Nothing is below a NaN. -/
theorem below_eq_false_of_isNaN {a b : Double} (h : b.isNaN = true) : a.below b = false := by
  have hcompare : a.toFloat.toModel.unpack.compare b.toFloat.toModel.unpack = none := by
    rw [unpack_toFloat_of_isNaN h]
    cases a.toFloat.toModel.unpack <;> rfl
  have hlt : a.toFloat.lt b.toFloat = false := by
    show decide (UnpackedFloat.lt _ _ = true) = false
    rw [UnpackedFloat.lt, hcompare]
    rfl
  show decide (a.toFloat.lt b.toFloat = true) = false
  rw [hlt]
  rfl

/-- A positive double is a number. -/
theorem isNaN_eq_false_of_isPositive {d : Double} (h : d.isPositive = true) : d.isNaN = false := by
  cases hnan : d.isNaN with
  | false => rfl
  | true => exact h.symm.trans (below_eq_false_of_isNaN hnan)

end PedestrianControl.Double
