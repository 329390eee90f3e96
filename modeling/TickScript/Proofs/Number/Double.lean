import TickScript.Number.Double
import TickScript.Proofs.Number.Machine

/-! # When a double is a NaN

    A NaN comes through every operation of arithmetic (`Absorbs`) and compares with nothing
    (`number_of_le`).  Conversions in both directions make a NaN of a NaN and of nothing else
    (`isNaN_ofDouble`, `isNaN_toDouble`, `isNaN_ofInt64`).
-/

namespace TickScript

open Float.Model (UnpackedFloat)
open Float.Model.UnpackedFloat (unpackExponent)
open Unpacked (isNaN_unpack_pack isNaN_round isNaN_normalize isFinite_unpack isNaN_of_isFinite)

namespace Double

variable {x y : Float}

/-- The class of a double. -/
abbrev unpacked (x : Float) : UnpackedFloat := x.toModel.unpack

theorem unpacked_of_isNaN (nan : x.isNaN) : unpacked x = .notANumber :=
  UnpackedFloat.isNaN_iff.mp nan

/-! ## Arithmetic -/

/-- **A NaN on either side comes through.** -/
def Absorbs (op : Float → Float → Float) : Prop := ∀ x y, x.isNaN ∨ y.isNaN → (op x y).isNaN

/-- What keeps the class of a NaN keeps the NaN. -/
theorem absorbs_of_unpacked {op : Float → Float → Float}
    {onClass : UnpackedFloat → UnpackedFloat → UnpackedFloat}
    (same : ∀ x y, op x y = ⟨.pack (onClass (unpacked x) (unpacked y))⟩)
    (left : ∀ g, onClass .notANumber g = .notANumber)
    (right : ∀ f, onClass f .notANumber = .notANumber) : Absorbs op := by
  intro x y nan
  have class_ : onClass (unpacked x) (unpacked y) = .notANumber := by
    rcases nan with nan | nan
    · rw [unpacked_of_isNaN nan, left]
    · rw [unpacked_of_isNaN nan, right]
  rw [same, class_]
  rfl

theorem absorbs_add : Absorbs (· + ·) :=
  absorbs_of_unpacked (fun _ _ => rfl) (fun _ => rfl) fun f => by cases f <;> rfl

theorem absorbs_sub : Absorbs (· - ·) :=
  absorbs_of_unpacked (fun _ _ => rfl) (fun _ => rfl) fun f => by cases f <;> rfl

theorem absorbs_mul : Absorbs (· * ·) :=
  absorbs_of_unpacked (fun _ _ => rfl) (fun _ => rfl) fun f => by cases f <;> rfl

theorem absorbs_div : Absorbs (· / ·) :=
  absorbs_of_unpacked (fun _ _ => rfl) (fun _ => rfl) fun f => by cases f <;> rfl

theorem isNaN_nan : nan.isNaN := rfl

/-- The library's functions of one number. -/
theorem isNaN_lift (f : Float → Float) (nan : x.isNaN) : (lift f x).isNaN := by
  rw [lift, if_pos nan]
  exact isNaN_nan

/-- The library's functions of two numbers. -/
theorem absorbs_lift₂ (f : Float → Float → Float) : Absorbs (lift₂ f) := by
  intro x y nan
  have either : (x.isNaN || y.isNaN) = true := by
    rw [Bool.or_eq_true]
    exact nan
  rw [lift₂, if_pos either]
  exact isNaN_nan

/-! ## Comparison -/

/-- **A NaN compares with nothing.** -/
theorem number_of_le (le : x ≤ y) : x.isNaN = false ∧ y.isNaN = false := by
  have le : (unpacked x).le (unpacked y) = true := of_decide_eq_true le
  have number : ∀ f g : UnpackedFloat, f.le g = true → f.isNaN = false ∧ g.isNaN = false := by
    intro f g le
    cases f with
    | notANumber => cases le
    | infinity sign | zero sign | finite sign =>
      cases g with
      | notANumber => cases sign <;> cases le
      | infinity | zero | finite => exact ⟨rfl, rfl⟩
  exact number _ _ le

end Double

/-! ## Conversions -/

/-- **A pattern of the language's type.** -/
theorem Double.isNaN_ofBits (bits : UInt64) :
    (Float.ofBits bits).isNaN = (UnpackedFloat.unpack .binary64 bits.toBitVec).isNaN :=
  isNaN_unpack_pack _

namespace Single

/-- **Rounding to a single** makes a NaN of a NaN only. -/
theorem isNaN_ofDouble (x : Float) : (ofDouble x).isNaN = x.isNaN := by
  cases nan : x.isNaN with
  | true =>
    rw [ofDouble, if_pos nan]
    rfl
  | false =>
    -- the digits of a number are rounded, and the result is put together
    have shortened : (shorten (Double.unpacked x)).isNaN = false := by
      have number : (Double.unpacked x).isNaN = false := nan
      generalize Double.unpacked x = f at number
      cases f with
      | notANumber => cases number
      | infinity | zero => rfl
      | finite => exact isNaN_round ..
    have result : ofDouble x = ofUnpacked (shorten (Double.unpacked x)) :=
      if_neg (by rw [nan]; exact Bool.false_ne_true)
    rw [result, isNaN_ofUnpacked shortened]

/-- The exponent of a pattern that is put together of its three parts. -/
theorem toNat_unpackExponent_double {sign exponent fraction : UInt64}
    (hsign : sign.toNat / 2 ^ 52 % 2 ^ 11 = 0) (hexponent : exponent.toNat < 2 ^ 11)
    (hfraction : fraction.toNat < 2 ^ 52) :
    (@unpackExponent .binary64 (sign ||| exponent <<< 52 ||| fraction).toBitVec).toNat =
      exponent.toNat := by
  have field (bits : UInt64) : (@unpackExponent .binary64 bits.toBitVec).toNat =
      bits.toNat / 2 ^ 52 % 2 ^ 11 := by
    simp [unpackExponent, BitVec.extractLsb_toNat, Nat.shiftRight_eq_div_pow]
  have place : UInt64.toNat 52 % 64 = 52 := rfl
  have fits : exponent.toNat * 2 ^ 52 % 2 ^ 64 = exponent.toNat * 2 ^ 52 :=
    Nat.mod_eq_of_lt (by omega)
  have none : fraction.toNat / 2 ^ 52 = 0 := Nat.div_eq_of_lt hfraction
  rw [field, UInt64.toNat_or, UInt64.toNat_or, UInt64.toNat_shiftLeft, place, Nat.shiftLeft_eq,
    fits, Nat.or_div_two_pow, Nat.or_div_two_pow, none, Nat.or_zero, Nat.or_mod_two_pow, hsign,
    Nat.zero_or, Nat.mul_div_cancel _ (Nat.two_pow_pos 52), Nat.mod_eq_of_lt hexponent]

/-- Only the greatest exponent makes a NaN. -/
theorem isNaN_ofFields {sign exponent fraction : UInt64}
    (hsign : sign.toNat / 2 ^ 52 % 2 ^ 11 = 0) (hexponent : exponent.toNat < 2047)
    (hfraction : fraction.toNat < 2 ^ 52) :
    (Float.ofBits (sign ||| exponent <<< 52 ||| fraction)).isNaN = false := by
  rw [Double.isNaN_ofBits]
  refine Unpacked.isNaN_of_isFinite (isFinite_unpack fun full => ?_)
  have field := toNat_unpackExponent_double hsign (Nat.lt_succ_of_lt hexponent) hfraction
  rw [full] at field
  have ones : 2047 = exponent.toNat := field
  omega

/-- A mantissa whose leading digit is moved to place 52. -/
theorem aligned_lt (m : Nat) (top : m.log2 ≤ 52) : m * 2 ^ (52 - m.log2) < 2 ^ 53 := calc
  m * 2 ^ (52 - m.log2) < 2 ^ (m.log2 + 1) * 2 ^ (52 - m.log2) :=
    Nat.mul_lt_mul_of_pos_right Nat.lt_log2_self (Nat.two_pow_pos _)
  _ = 2 ^ 53 := by
    rw [← Nat.pow_add]
    congr 1
    omega

/-- **Widening** makes a NaN of a NaN only. -/
theorem isNaN_toDouble (s : Single) : s.toDouble.isNaN = s.isNaN := by
  unfold toDouble
  cases nan : s.isNaN with
  | true =>
    simp only [if_true]
    rfl
  | false =>
    simp only [Bool.false_eq_true, if_false]
    by_cases infinite : s.isInfinite
    · rw [if_pos infinite, Double.isNaN_ofBits]
      cases s.isNegative <;> rfl
    · rw [if_neg infinite]
      obtain ⟨few, low⟩ := scaled_lt ((isFinite_or nan).resolve_right infinite)
      split
      · cases s.isNegative <;> rfl
      case isFalse some =>
        -- the leading digit is one of 24, so the exponent stays below the last one
        have top : s.scaled.mantissa.log2 < 24 := (Nat.log2_lt some).mpr few
        have aligned := aligned_lt s.scaled.mantissa (Nat.le_of_lt (Nat.lt_trans top (by decide)))
        generalize s.scaled.mantissa = m at *
        generalize s.scaled.exponent = e at *
        have hexponent : (UInt64.ofNat ((m.log2 : Int) + e + 1023).toNat).toNat < 2047 := by
          rw [UInt64.toNat_ofNat', Nat.mod_eq_of_lt (by omega)]
          omega
        have hfraction : (UInt64.ofNat (m * Nat.pow 2 (52 - m.log2) - Nat.pow 2 52)).toNat <
            2 ^ 52 := by
          rw [Nat.pow_eq, Nat.pow_eq, UInt64.toNat_ofNat', Nat.mod_eq_of_lt (by omega)]
          omega
        have hsign : (if s.isNegative then 0x8000000000000000 else 0 : UInt64).toNat / 2 ^ 52 %
            2 ^ 11 = 0 := by
          cases s.isNegative <;> rfl
        exact isNaN_ofFields hsign hexponent hfraction

end Single

/-- **An integer** is a number. -/
theorem Double.isNaN_ofInt64 (i : Int64) : (ofInt64 i).isNaN = false := by
  have magnitude : (UInt64.ofNat i.toInt.natAbs).toFloat.isNaN = false :=
    (isNaN_unpack_pack _).trans (isNaN_normalize ..)
  unfold ofInt64
  split
  · have opposite (f : UnpackedFloat) : f.neg.isNaN = f.isNaN := by cases f <;> rfl
    exact ((isNaN_unpack_pack _).trans (opposite _)).trans magnitude
  · exact magnitude

end TickScript
