import Mathlib
import StepPipeline.Json.Number

/-!
# Integers as floats

Floats are compared by size, and only what is not a number differs from itself. The float of an
integer is a number, however great the integer is (`Number.toFloat_int_beq_self`): it is rounded and
never the outcome of a calculation that has no result.
-/

namespace StepPipeline.Number

open Float.Model (Format UnpackedFloat)

/-- A float that is a number, finite or not. -/
def IsNumber (x : Float) : Prop := x.toModel.unpack ≠ .notANumber

variable {u : UnpackedFloat}

theorem beq_self_of_isNumber {x : Float} (h : IsNumber x) : (x == x) = true := by
  rw [Float.beq_self_iff]
  rintro rfl
  exact h rfl

/-! ## Packing -/

/-- The bits that are no number have the greatest exponent, and a mantissa. -/
theorem bits_of_unpack_eq {bits : BitVec Format.binary64.numBits}
    (h : UnpackedFloat.unpack .binary64 bits = .notANumber) :
    UnpackedFloat.unpackExponent bits = -1#(Format.binary64.exponentBits) ∧
      UnpackedFloat.unpackMantissa bits ≠ 0#(Format.binary64.mantissaBitsWithoutImplicit) := by
  unfold UnpackedFloat.unpack at h
  dsimp only at h
  split at h
  · next hexponent =>
    split at h
    · cases h
    · next hmantissa => exact ⟨hexponent, hmantissa⟩
  · split at h
    · split at h <;> cases h
    · cases h

theorem unpack_pack_ne (h : u ≠ .notANumber) : (Float.Model.pack u).unpack ≠ .notANumber := by
  intro hnone
  obtain ⟨hexponent, hmantissa⟩ := bits_of_unpack_eq hnone
  dsimp only [Float.Model.pack] at hexponent hmantissa
  cases u with
  | notANumber => exact h rfl
  | infinity s =>
      rw [UnpackedFloat.pack, UnpackedFloat.packedInfinity,
        UnpackedFloat.unpackMantissa_packComponents] at hmantissa
      exact hmantissa rfl
  | zero s =>
      rw [UnpackedFloat.pack, UnpackedFloat.packedZero,
        UnpackedFloat.unpackExponent_packComponents] at hexponent
      exact absurd hexponent (by decide)
  | finite s m e hm =>
      simp only [UnpackedFloat.pack] at hexponent hmantissa
      split at hexponent
      · next hbig =>
        rw [if_pos hbig, UnpackedFloat.packedInfinity,
          UnpackedFloat.unpackMantissa_packComponents] at hmantissa
        exact hmantissa rfl
      · next hsmall =>
        split at hexponent
        · -- The exponent of a finite float stays below the greatest one.
          rw [UnpackedFloat.unpackExponent_packComponents] at hexponent
          have hvalue := congrArg BitVec.toNat hexponent
          rw [BitVec.toNat_ofNat] at hvalue
          generalize (e + _ + _).toNat = biased at hsmall hvalue
          change ¬2048 ≤ biased + 1 at hsmall
          change biased % 2048 = 2047 at hvalue
          omega
        · rw [UnpackedFloat.unpackExponent_packComponents] at hexponent
          exact absurd hexponent (by decide)

/-! ## Arithmetic -/

theorem roundWithAccuracy_ne (s : UnpackedFloat.Sign) (m : Nat) (e : Int)
    (a : UnpackedFloat.Accuracy) :
    UnpackedFloat.roundWithAccuracy .binary64 s m e a ≠ .notANumber := by
  simp only [UnpackedFloat.roundWithAccuracy]
  split <;> intro hnone <;> cases hnone

theorem mul_finite_ne (h : u ≠ .notANumber) (s : UnpackedFloat.Sign) (m : Nat) (e : Int)
    (hm : 0 < m) : UnpackedFloat.mul .binary64 u (.finite s m e hm) ≠ .notANumber := by
  cases u with
  | notANumber => exact absurd rfl h
  | finite s' m' e' hm' => exact roundWithAccuracy_ne _ _ _ _
  | _ => intro hnone; cases hnone

theorem ofInt_ne (n : Int) : UnpackedFloat.ofInt .binary64 n ≠ .notANumber := by
  simp only [UnpackedFloat.ofInt, UnpackedFloat.normalize]
  split
  · exact roundWithAccuracy_ne _ _ _ _
  · intro hnone; cases hnone
  · exact roundWithAccuracy_ne _ _ _ _

theorem ofScientific_ne (n : Nat) : UnpackedFloat.ofScientific .binary64 n 0 ≠ .notANumber := by
  unfold UnpackedFloat.ofScientific
  split
  · intro hnone; cases hnone
  · split
    · intro hnone; cases hnone
    · split
      · intro hnone; cases hnone
      · rw [if_pos (Int.le_refl 0)]
        apply mul_finite_ne
        intro hnone
        cases hnone

theorem isNumber_ofNat (n : Nat) : IsNumber (Float.ofNat n) := by
  show IsNumber (Float.ofScientific n false 0)
  unfold Float.ofScientific
  split
  · -- A number that fits the mantissa is converted, and multiplied by one.
    have hone : (Float.ofBits 4607182418800017408).toModel.unpack =
        .finite .positive (2 ^ 52) (-52) (by decide) := by rfl
    apply unpack_pack_ne
    show UnpackedFloat.mul .binary64 (Float.Model.pack (.ofInt .binary64 _)).unpack
      (Float.ofBits 4607182418800017408).toModel.unpack ≠ _
    rw [hone]
    exact mul_finite_ne (unpack_pack_ne (ofInt_ne _)) _ _ _ _
  · exact unpack_pack_ne (ofScientific_ne n)

theorem isNumber_neg {x : Float} (h : IsNumber x) : IsNumber (-x) := by
  apply unpack_pack_ne
  unfold IsNumber at h
  cases hx : x.toModel.unpack with
  | notANumber => exact absurd hx h
  | _ => intro hnone; cases hnone

/-- An integer counts as equal to itself. -/
theorem toFloat_int_beq_self (n : Int) : ((int n).toFloat == (int n).toFloat) = true := by
  apply beq_self_of_isNumber
  cases n with
  | ofNat n => exact isNumber_ofNat n
  | negSucc n => exact isNumber_neg (isNumber_ofNat n.succ)

theorem toFloat_beq_of_same {m n : Number} (h : m.same n = true) :
    (m.toFloat == n.toFloat) = true := by
  cases m with
  | int m =>
      cases n with
      | int n =>
          obtain rfl : m = n := eq_of_beq h
          exact toFloat_int_beq_self m
      | float y => cases h
  | float x =>
      cases n with
      | int n => cases h
      | float y => exact h

end StepPipeline.Number
