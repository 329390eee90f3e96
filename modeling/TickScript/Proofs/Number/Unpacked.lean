import Mathlib

/-! # Machine numbers taken apart

    Arithmetic goes through the language's own floating-point types.  Their operations take
    patterns apart into a class (NaN, infinity, zero, finite), act on the classes, and put the
    result together again.

    Nothing becomes a NaN by being put together (`isNaN_unpack_pack`): a finite number of the
    format's range stays finite, and one that is too large becomes an infinity.  Nor does a finite
    number become one by being rounded (`isNaN_round`).
-/

namespace TickScript.Unpacked

open Float.Model (Format UnpackedFloat)
open Float.Model.UnpackedFloat

variable (spec : Format)

/-! ## Rounding -/

theorem isNaN_round (sign : Sign) (m : Nat) (e : Int) :
    (UnpackedFloat.round spec sign m e).isNaN = false := by
  -- a rounded number is a zero or finite
  have either {c : Prop} [Decidable c] (m : Nat) (e : Int) (positive : ¬ c → 0 < m) :
      (if zero : c then UnpackedFloat.zero sign else .finite sign m e (positive zero)).isNaN =
        false := by
    by_cases zero : c
    · rw [dif_pos zero]
      rfl
    · rw [dif_neg zero]
      rfl
  exact either ..

theorem isNaN_normalize (m e : Int) (sign : Sign) :
    (UnpackedFloat.normalize spec m e sign).isNaN = false := by
  unfold UnpackedFloat.normalize
  split
  · exact isNaN_round ..
  · rfl
  · exact isNaN_round ..

/-! ## Putting together and taking apart -/

variable {spec}

theorem isFinite_unpack {pattern : BitVec spec.numBits} (exponent : unpackExponent pattern ≠ -1#_) :
    (unpack spec pattern).isFinite := by
  unfold UnpackedFloat.unpack
  rw [if_neg exponent]
  by_cases least : unpackExponent pattern = 0#_
  · rw [if_pos least]
    by_cases fraction : unpackMantissa pattern = 0#_
    · rw [dif_pos fraction]
      rfl
    · rw [dif_neg fraction]
      rfl
  · rw [if_neg least]
    rfl

theorem isNaN_of_isFinite {f : UnpackedFloat} (finite : f.isFinite) : f.isNaN = false := by
  cases f with
  | notANumber => cases finite
  | infinity | zero | finite => rfl

/-- **A number of the format's range does not overflow.** -/
theorem unpackExponent_pack {sign : Sign} {m : Nat} {e : Int} {positive : 0 < m}
    (range : (e + spec.exponentBias + spec.mantissaBitsWithoutImplicit).toNat + 1 <
      2 ^ spec.exponentBits) :
    unpackExponent (pack spec (.finite sign m e positive)) ≠ -1#_ := by
  unfold UnpackedFloat.pack
  simp only
  rw [if_neg (Nat.not_le_of_lt range)]
  split
  · rw [unpackExponent_packComponents]
    intro full
    have value := congrArg BitVec.toNat full
    rw [BitVec.neg_one_eq_allOnes, BitVec.toNat_allOnes, BitVec.toNat_ofNat,
      Nat.mod_eq_of_lt (by omega)] at value
    omega
  · rw [unpackExponent_packComponents]
    simp [Nat.ne_of_gt spec.he]

theorem isNaN_unpack_infinity (sign : Sign) :
    (unpack spec (packedInfinity spec sign)).isNaN = false := by
  unfold UnpackedFloat.unpack packedInfinity
  simp only [unpackExponent_packComponents, unpackMantissa_packComponents, if_true]
  rfl

/-- **Nothing becomes a NaN** by being put together: what is too large becomes an infinity. -/
theorem isNaN_unpack_pack (f : UnpackedFloat) : (unpack spec (pack spec f)).isNaN = f.isNaN := by
  cases f with
  | notANumber => exact isNaN_iff.mpr unpack_packedNaN
  | infinity sign => exact isNaN_unpack_infinity sign
  | zero sign => exact congrArg UnpackedFloat.isNaN unpack_packedZero
  | finite sign m e positive =>
    by_cases range : (e + spec.exponentBias + spec.mantissaBitsWithoutImplicit).toNat + 1 <
        2 ^ spec.exponentBits
    · exact isNaN_of_isFinite (isFinite_unpack (unpackExponent_pack range))
    · have overflows : pack spec (.finite sign m e positive) = packedInfinity spec sign :=
        if_pos (Nat.le_of_not_lt range)
      rw [overflows]
      exact isNaN_unpack_infinity sign

/-- **Taking apart is final**: what is put together again is taken apart into the same class. -/
theorem unpack_pack_unpack (pattern : BitVec spec.numBits) (bits : 2 ≤ spec.exponentBits) :
    unpack spec (pack spec (unpack spec pattern)) = unpack spec pattern := by
  rw [pack_unpack pattern bits]
  by_cases nan : isNaNBits pattern
  · obtain ⟨exponent, fraction⟩ := of_decide_eq_true nan
    have class_ : unpack spec pattern = .notANumber := by
      unfold UnpackedFloat.unpack
      rw [if_pos exponent, if_neg fraction]
    rw [if_pos nan, unpack_packedNaN, class_]
  · rw [if_neg nan]

/-! ## Signs -/

/-- **The number is not negative**, or there is none. -/
def Nonnegative : UnpackedFloat → Prop
  | .notANumber => True
  | .infinity sign | .zero sign | .finite sign .. => sign = .positive

theorem nonnegative_unpack {pattern : BitVec spec.numBits} (sign : unpackSign pattern = 0#1) :
    Nonnegative (unpack spec pattern) := by
  unfold UnpackedFloat.unpack
  rw [sign]
  dsimp only
  split
  · split
    · rfl
    · trivial
  · split
    · split
      · rfl
      · rfl
    · rfl

/-- No such number is below zero. -/
theorem not_lt_zero {f : UnpackedFloat} (nonnegative : Nonnegative f) :
    f.lt (.zero .positive) = false := by
  cases f with
  | notANumber => rfl
  | infinity sign | zero sign | finite sign =>
    obtain rfl : sign = .positive := nonnegative
    rfl

end TickScript.Unpacked
