import Mathlib.Algebra.Group.Nat.Defs
import TickScript.Number.Single

/-! # Patterns of singles

    A pattern is a sign, an exponent and a fraction.  Its magnitude, the exponent and the fraction
    together, decides whether it is finite, an infinity or a NaN; the sign decides nothing.  The
    language's own type takes patterns apart into the same fields (`toNat_unpackExponent`,
    `toNat_unpackMantissa`) and so into the same kinds.
-/

namespace TickScript.Single

open Float.Model (Format UnpackedFloat)
open Float.Model.UnpackedFloat (unpackSign unpackExponent unpackMantissa)

variable {s : Single}

/-! ## The sign bit -/

theorem magnitude_neg (s : Single) : (-s).magnitude = s.magnitude := by
  show (s.bits ^^^ 0x80000000) &&& 0x7fffffff = s.bits &&& 0x7fffffff
  have distributes : (s.bits ^^^ 0x80000000) &&& 0x7fffffff =
      (s.bits &&& 0x7fffffff) ^^^ (0x80000000 &&& 0x7fffffff) := by
    apply UInt32.toBitVec_inj.mp
    ext i
    simp only [UInt32.toBitVec_and, UInt32.toBitVec_xor, BitVec.getElem_and, BitVec.getElem_xor]
    exact Bool.and_xor_distrib_right _ _ _
  rw [distributes]
  exact UInt32.xor_zero

theorem magnitude_abs (s : Single) : s.abs.magnitude = s.magnitude := by
  show (s.bits &&& 0x7fffffff) &&& 0x7fffffff = s.bits &&& 0x7fffffff
  rw [UInt32.and_assoc, UInt32.and_self]

theorem isNaN_neg (s : Single) : (-s).isNaN = s.isNaN := by
  rw [isNaN, magnitude_neg, isNaN]

theorem isNaN_abs (s : Single) : s.abs.isNaN = s.isNaN := by
  rw [isNaN, magnitude_abs, isNaN]

/-! ## Fields of a pattern -/

theorem toNat_magnitude (s : Single) : s.magnitude.toNat = s.bits.toNat % 2 ^ 31 := by
  have mask : (0x7fffffff : UInt32).toNat = 2 ^ 31 - 1 := rfl
  rw [magnitude, UInt32.toNat_and, mask, Nat.and_two_pow_sub_one_eq_mod]

/-- The pattern, as the bits that the language's type is made of. -/
abbrev pattern (s : Single) : BitVec Format.binary32.numBits := s.bits.toBitVec

theorem toNat_unpackExponent (s : Single) :
    (unpackExponent s.pattern).toNat = s.bits.toNat / 2 ^ 23 % 2 ^ 8 := by
  simp [unpackExponent, BitVec.extractLsb_toNat, Nat.shiftRight_eq_div_pow]

theorem toNat_unpackMantissa (s : Single) :
    (unpackMantissa s.pattern).toNat = s.bits.toNat % 2 ^ 23 := by
  simp [unpackMantissa, BitVec.extractLsb_toNat]

theorem toNat_unpackSign (s : Single) : (unpackSign s.pattern).toNat = s.bits.toNat / 2 ^ 31 := by
  have below := s.bits.toNat_lt
  have field : (unpackSign s.pattern).toNat = s.bits.toNat / 2 ^ 31 % 2 := by
    show ((s.pattern.extractLsb 31 31).cast rfl).toNat = _
    simp [BitVec.extractLsb_toNat, Nat.shiftRight_eq_div_pow]
  omega

theorem isNegative_eq (s : Single) : s.isNegative = decide (0 < s.bits.toNat / 2 ^ 31) := by
  refine decide_eq_decide.mpr (UInt32.le_iff_toNat_le.trans ?_)
  show 2 ^ 31 ≤ s.bits.toNat ↔ _
  omega

/-- **The view of a pattern**, by the fields that the language's type sees. -/
theorem scaled_fields (s : Single) :
    s.scaled =
      if (unpackExponent s.pattern).toNat = 0 then
        ⟨s.isNegative, (unpackMantissa s.pattern).toNat, -149⟩
      else
        ⟨s.isNegative, (unpackMantissa s.pattern).toNat + Nat.pow 2 23,
          (unpackExponent s.pattern).toNat - 150⟩ := by
  have exponent : (s.magnitude >>> 23).toNat = (unpackExponent s.pattern).toNat := by
    rw [toNat_unpackExponent, UInt32.toNat_shiftRight, toNat_magnitude, Nat.shiftRight_eq_div_pow]
    show s.bits.toNat % 2 ^ 31 / 2 ^ 23 = _
    omega
  have fraction : (s.bits &&& 0x007fffff).toNat = (unpackMantissa s.pattern).toNat := by
    have mask : (0x007fffff : UInt32).toNat = 2 ^ 23 - 1 := rfl
    rw [toNat_unpackMantissa, UInt32.toNat_and, mask, Nat.and_two_pow_sub_one_eq_mod]
  rw [scaled, exponent, fraction]

theorem negative_scaled (s : Single) : s.scaled.negative = s.isNegative := by
  rw [scaled_fields]
  split <;> rfl

/-- **Negation** changes the sign of the view. -/
theorem scaled_neg (s : Single) : (-s).scaled = { s.scaled with negative := !s.isNegative } := by
  have flipped : (-s).bits.toNat = s.bits.toNat ^^^ 2 ^ 31 := UInt32.toNat_xor ..
  have exponent : (unpackExponent (-s).pattern).toNat = (unpackExponent s.pattern).toNat := by
    rw [toNat_unpackExponent, toNat_unpackExponent, flipped, Nat.xor_div_two_pow,
      Nat.xor_mod_two_pow]
    exact Nat.xor_zero _
  have fraction : (unpackMantissa (-s).pattern).toNat = (unpackMantissa s.pattern).toNat := by
    rw [toNat_unpackMantissa, toNat_unpackMantissa, flipped, Nat.xor_mod_two_pow]
    exact Nat.xor_zero _
  have sign : (-s).isNegative = !s.isNegative := by
    have below := s.bits.toNat_lt
    have either : s.bits.toNat / 2 ^ 31 = 0 ∨ s.bits.toNat / 2 ^ 31 = 1 := by omega
    rw [isNegative_eq, isNegative_eq, flipped, Nat.xor_div_two_pow]
    rcases either with zero | one
    · rw [zero]
      rfl
    · rw [one]
      rfl
  rw [scaled_fields, scaled_fields, exponent, fraction, sign]
  split <;> rfl

/-- The exponent of a finite number is not all ones. -/
theorem unpackExponent_ne (finite : s.isFinite) : unpackExponent s.pattern ≠ (-1#_) := by
  intro full
  have exponent := s.toNat_unpackExponent
  rw [full] at exponent
  have ones : 255 = s.bits.toNat / 2 ^ 23 % 2 ^ 8 := exponent
  have below : s.magnitude.toNat < 0x7f800000 :=
    UInt32.lt_iff_toNat_lt.mp (of_decide_eq_true finite)
  rw [toNat_magnitude] at below
  omega

theorem unpackExponent_lt (finite : s.isFinite) : (unpackExponent s.pattern).toNat < 255 := by
  have below : (unpackExponent s.pattern).toNat < 256 := (unpackExponent s.pattern).isLt
  have notOnes : (unpackExponent s.pattern).toNat ≠ 255 :=
    fun full => unpackExponent_ne finite (BitVec.eq_of_toNat_eq full)
  omega

/-- A finite number has at most 24 digits, and its last one has a place below the 105th. -/
theorem scaled_lt (finite : s.isFinite) :
    s.scaled.mantissa < 2 ^ 24 ∧ s.scaled.exponent ≤ 104 := by
  have fraction : (unpackMantissa s.pattern).toNat < 2 ^ 23 := (unpackMantissa s.pattern).isLt
  have exponent := unpackExponent_lt finite
  rw [scaled_fields]
  split
  · have least : (-149 : Int) ≤ 104 := by decide
    exact ⟨Nat.lt_trans fraction (by decide), least⟩
  · refine ⟨?_, ?_⟩
    · show (unpackMantissa s.pattern).toNat + 2 ^ 23 < 2 ^ 24
      omega
    · show ((unpackExponent s.pattern).toNat : Int) - 150 ≤ 104
      omega

/-! ## Three kinds of singles -/

theorem isFinite_or (number : s.isNaN = false) : s.isFinite ∨ s.isInfinite := by
  have least : s.magnitude ≤ 0x7f800000 := UInt32.not_lt.mp (of_decide_eq_false number)
  by_cases top : s.magnitude = 0x7f800000
  · exact .inr (beq_iff_eq.mpr top)
  · exact .inl (decide_eq_true (UInt32.lt_of_le_of_ne least top))

theorem isNaN_of_isFinite (finite : s.isFinite) : s.isNaN = false := by
  have below : s.magnitude < 0x7f800000 := of_decide_eq_true finite
  exact decide_eq_false (UInt32.lt_asymm below)

def infinity : Single := ⟨0x7f800000⟩

/-- A NaN has all ones in its exponent and something in its fraction. -/
theorem isNaN_unpack (nan : s.isNaN) : (UnpackedFloat.unpack .binary32 s.pattern).isNaN := by
  have above : 0x7f800000 < s.magnitude.toNat :=
    UInt32.lt_iff_toNat_lt.mp (of_decide_eq_true nan)
  rw [toNat_magnitude] at above
  have exponent : unpackExponent s.pattern = (-1#_) := by
    have ones : s.bits.toNat / 2 ^ 23 % 2 ^ 8 = 255 := by omega
    exact BitVec.eq_of_toNat_eq (s.toNat_unpackExponent.trans ones)
  have fraction : unpackMantissa s.pattern ≠ 0#_ := by
    intro none
    have value := s.toNat_unpackMantissa
    rw [none] at value
    have rest : 0 = s.bits.toNat % 2 ^ 23 := value
    omega
  unfold UnpackedFloat.unpack
  rw [if_pos exponent, if_neg fraction]
  rfl

end TickScript.Single
