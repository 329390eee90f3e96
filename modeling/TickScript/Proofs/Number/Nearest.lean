import TickScript.Proofs.Number.Machine

/-! # Integers as singles

    A single has 24 binary digits.  An integer with more of them is rounded to the nearest number
    that ends in enough zeros, and to the even one of two that are as near.  `nearest` says so in
    integers alone; `toInt32_ofInt32` says that a number that becomes a single and an integer again
    is that one, moved into the range of its type.

    The language's own type rounds in two steps: it drops digits one by one and remembers the last
    of them, and whether there were others (`shiftRight_digits`); then it may be left with 25
    digits, of which all but the first are zeros, and drops one more (`roundWithAccuracy_exact`).
-/

namespace TickScript

open Float.Model (Format UnpackedFloat totalExponent)
open Float.Model.UnpackedFloat

/-! ## The nearest number -/

/-- **Without its last digits**, rounded to the nearest number, and to the even one of two. -/
def roundShift (m k : Nat) : Nat :=
  if 2 * (m % 2 ^ k) < 2 ^ k then m / 2 ^ k
  else if 2 ^ k < 2 * (m % 2 ^ k) then m / 2 ^ k + 1
  else m / 2 ^ k + m / 2 ^ k % 2

/-- The number of digits by which a number is too long for a single. -/
def excess (n : Nat) : Nat := n.log2 - 23

/-- **The nearest number of 24 digits.** -/
def nearestNat (n : Nat) : Nat := roundShift n (excess n) * 2 ^ excess n

/-- **The nearest integer of 24 digits.** -/
def nearest (i : Int) : Int :=
  if i < 0 then -(nearestNat i.natAbs : Int) else nearestNat i.natAbs

theorem roundShift_zero (m : Nat) : roundShift m 0 = m := by
  simp [roundShift, Nat.mod_one]

theorem roundShift_bounds (m k : Nat) :
    m / 2 ^ k ≤ roundShift m k ∧ roundShift m k ≤ m / 2 ^ k + 1 := by
  unfold roundShift
  split
  · omega
  · split
    · omega
    · omega

/-- Rounding moves a number by half a unit at most. -/
theorem roundShift_near (m k : Nat) :
    2 * (roundShift m k * 2 ^ k) ≤ 2 * m + 2 ^ k ∧ 2 * m ≤ 2 * (roundShift m k * 2 ^ k) + 2 ^ k := by
  have split_ : 2 ^ k * (m / 2 ^ k) + m % 2 ^ k = m := Nat.div_add_mod ..
  have below : m % 2 ^ k < 2 ^ k := Nat.mod_lt _ (Nat.two_pow_pos k)
  unfold roundShift
  generalize m / 2 ^ k = q at *
  generalize m % 2 ^ k = r at *
  generalize 2 ^ k = u at *
  have up : (q + 1) * u = u * q + u := by ring
  have same : q * u = u * q := Nat.mul_comm ..
  split
  · omega
  · split
    · omega
    · rcases Nat.mod_two_eq_zero_or_one q with even | odd
      · rw [even, Nat.add_zero]
        omega
      · rw [odd]
        omega

/-- **Few digits** are kept. -/
theorem nearestNat_of_le {n : Nat} (few : n ≤ 2 ^ 24) : nearestNat n = n := by
  rcases few.lt_or_eq with fewer | rfl
  · have none : excess n = 0 := by
      by_cases zero : n = 0
      · subst zero
        rfl
      · have top : n.log2 < 24 := (Nat.log2_lt zero).mpr fewer
        unfold excess
        omega
    rw [nearestNat, none, roundShift_zero, Nat.pow_zero, Nat.mul_one]
  · decide

theorem nearest_of_le {i : Int} (few : i.natAbs ≤ 2 ^ 24) : nearest i = i := by
  rw [nearest, nearestNat_of_le few]
  split <;> omega

/-- **A 32-bit integer is moved by 64 at most.** -/
theorem nearest_near {i : Int} (range : i.natAbs ≤ 2 ^ 31) : |nearest i - i| ≤ 64 := by
  have near : nearestNat i.natAbs ≤ i.natAbs + 64 ∧ i.natAbs ≤ nearestNat i.natAbs + 64 := by
    rcases range.lt_or_eq with below | last
    · have top : i.natAbs.log2 ≤ 30 := by
        by_cases zero : i.natAbs = 0
        · rw [zero]
          decide
        · exact Nat.le_of_lt_succ ((Nat.log2_lt zero).mpr below)
      have unit : 2 ^ excess i.natAbs ≤ 2 ^ 7 :=
        Nat.pow_le_pow_right (by decide) (by unfold excess; omega)
      have half := roundShift_near i.natAbs (excess i.natAbs)
      unfold nearestNat
      omega
    · rw [last]
      decide
  rw [abs_le, nearest]
  split <;> omega

/-! ## Digits that are dropped -/

/-- What is left of a number whose last digits are dropped: the others, the last of those that are
    dropped, and whether there is a one among the rest of them. -/
theorem shiftRight_digits (m k : Nat) :
    ExtendedMantissa.ofMantissaAndAccuracy m .exact >>> k =
      ⟨m / 2 ^ k, decide (2 ^ k ≤ 2 * (m % 2 ^ k)), decide (2 * (m % 2 ^ k) % 2 ^ k ≠ 0)⟩ := by
  induction k with
  | zero =>
    show (⟨m, false, false⟩ : ExtendedMantissa) = _
    simp [Nat.mod_one]
  | succ k ih =>
    show ExtendedMantissa.shiftRightOne (ExtendedMantissa.ofMantissaAndAccuracy m .exact >>> k) = _
    rw [ih, ExtendedMantissa.shiftRightOne]
    have rest : m / 2 ^ k / 2 = m / 2 ^ (k + 1) := by
      rw [Nat.div_div_eq_div_mul, Nat.pow_succ]
    have digits : m % 2 ^ (k + 1) = m % 2 ^ k + 2 ^ k * (m / 2 ^ k % 2) := Nat.mod_pow_succ ..
    have below : m % 2 ^ k < 2 ^ k := Nat.mod_lt _ (Nat.two_pow_pos k)
    have others : 2 * (m % 2 ^ (k + 1)) % 2 ^ (k + 1) = 2 * (m % 2 ^ k) := by
      rw [digits, Nat.pow_succ, Nat.mul_comm (2 ^ k) 2, Nat.mul_mod_mul_left,
        Nat.add_mul_mod_self_left, Nat.mod_eq_of_lt below]
    have before : (2 ^ k ≤ 2 * (m % 2 ^ k) ∨ 2 * (m % 2 ^ k) % 2 ^ k ≠ 0) ↔
        2 * (m % 2 ^ k) ≠ 0 := by
      by_cases small : 2 * (m % 2 ^ k) < 2 ^ k
      · rw [Nat.mod_eq_of_lt small]
        omega
      · omega
    have last : m / 2 ^ k % 2 ≠ 0 ↔ 2 ^ (k + 1) ≤ 2 * (m % 2 ^ (k + 1)) := by
      rw [digits, Nat.pow_succ]
      rcases Nat.mod_two_eq_zero_or_one (m / 2 ^ k) with zero | one
      · rw [zero]
        omega
      · rw [one]
        omega
    rw [rest, others, ← Bool.decide_or]
    congr 1
    · exact Bool.eq_iff_iff.mpr (bne_iff_ne.trans (last.trans decide_eq_true_iff.symm))
    · exact decide_eq_decide.mpr before

/-- **What the rest is rounded to.** -/
theorem roundedMantissa_shiftRight (m k : Nat) :
    (ExtendedMantissa.ofMantissaAndAccuracy m .exact >>> k).roundedMantissa = roundShift m k := by
  rw [shiftRight_digits]
  have below : m % 2 ^ k < 2 ^ k := Nat.mod_lt _ (Nat.two_pow_pos k)
  unfold roundShift ExtendedMantissa.roundedMantissa
  by_cases half : 2 ^ k ≤ 2 * (m % 2 ^ k)
  · rw [decide_eq_true half, if_neg (Nat.not_lt_of_le half)]
    by_cases others : 2 * (m % 2 ^ k) % 2 ^ k = 0
    · -- twice the rest is less than two units, so it is one
      have middle : ¬ 2 ^ k < 2 * (m % 2 ^ k) := by
        intro above
        rw [Nat.mod_eq_sub_mod half, Nat.mod_eq_of_lt (by omega)] at others
        omega
      rw [if_neg middle, decide_eq_false (not_not.mpr others)]
      rfl
    · have above : 2 ^ k < 2 * (m % 2 ^ k) := by
        refine Nat.lt_of_le_of_ne half fun same => others ?_
        rw [← same, Nat.mod_self]
      rw [if_pos above, decide_eq_true others]
      rfl
  · rw [decide_eq_false half, if_pos (Nat.lt_of_not_le half)]
    cases decide (2 * (m % 2 ^ k) % 2 ^ k ≠ 0) <;> rfl

/-! ## Rounding of machine numbers -/

theorem targetExponent_binary32 (e : Int) :
    Format.binary32.targetExponent e = max (e - 24) (-149) := rfl

/-- A number of the digits that are left. -/
def assemble (sign : Sign) (shifted : ExtendedMantissa × Int) : UnpackedFloat :=
  if zero : shifted.1.mantissa = 0 then .zero sign
  else .finite sign shifted.1.mantissa shifted.2 (Nat.pos_of_ne_zero zero)

/-- **The second step** of rounding: a mantissa of up to 25 digits. -/
def settle (sign : Sign) (m : Nat) (e : Int) : UnpackedFloat :=
  assemble sign (shiftToTargetExponent .binary32 m e .exact)

theorem roundWithAccuracy_steps {sign : Sign} {m : Nat} {e e' : Int} {em : ExtendedMantissa}
    (first : shiftToTargetExponent .binary32 m e .exact = (em, e')) :
    roundWithAccuracy .binary32 sign m e .exact = settle sign em.roundedMantissa e' := by
  unfold roundWithAccuracy
  rw [first]
  rfl

/-- 24 digits stay as they are. -/
theorem settle_fits {sign : Sign} {m : Nat} {e : Int} (positive : 0 < m) (top : m.log2 = 23)
    (range : -149 ≤ e) : settle sign m e = .finite sign m e positive := by
  have target : (Format.binary32.targetExponent (totalExponent m e) - e).toNat = 0 := by
    rw [targetExponent_binary32, totalExponent, top]
    omega
  have shifted : shiftToTargetExponent .binary32 m e .exact = (⟨m, false, false⟩, e) := by
    simp only [shiftToTargetExponent, shiftToExponent, target]
    exact congrArg (Prod.mk _) (Int.add_zero e)
  rw [settle, shifted]
  exact dif_neg (Nat.ne_of_gt positive)

/-- Of 25 digits only the first is a one, and the last zero is dropped. -/
theorem settle_carry {sign : Sign} {e : Int} (range : -149 ≤ e) :
    settle sign (2 ^ 24) e = .finite sign (2 ^ 23) (e + 1) (Nat.two_pow_pos 23) := by
  have target : (Format.binary32.targetExponent (totalExponent (2 ^ 24) e) - e).toNat = 1 := by
    rw [targetExponent_binary32, totalExponent, Nat.log2_two_pow]
    omega
  have shifted : shiftToTargetExponent .binary32 (2 ^ 24) e .exact =
      (⟨2 ^ 23, false, false⟩, e + 1) := by
    simp only [shiftToTargetExponent, shiftToExponent, target]
    rfl
  rw [settle, shifted]
  rfl

/-- How many units of 24 digits there are in a number that is too long. -/
theorem div_bounds {m k : Nat} (top : m.log2 = 23 + k) :
    2 ^ 23 ≤ m / 2 ^ k ∧ m / 2 ^ k < 2 ^ 24 := by
  have some : m ≠ 0 := by
    rintro rfl
    rw [Nat.log2_zero] at top
    omega
  have least : 2 ^ (23 + k) ≤ m := (Nat.le_log2 some).mp top.ge
  have most : m < 2 ^ (24 + k) := (Nat.log2_lt some).mp (by omega)
  rw [Nat.pow_add] at least most
  exact ⟨(Nat.le_div_iff_mul_le (Nat.two_pow_pos k)).mpr least,
    (Nat.div_lt_iff_lt_mul (Nat.two_pow_pos k)).mpr most⟩

/-- **A mantissa that is too long** is rounded to 24 digits. -/
theorem roundWithAccuracy_exact (sign : Sign) {m k : Nat} {e : Int} (top : m.log2 = 23 + k)
    (range : -149 ≤ e + k) :
    ∃ m' e' positive, roundWithAccuracy .binary32 sign m e .exact = .finite sign m' e' positive ∧
      m'.log2 = 23 ∧
      (m' = roundShift m k ∧ e' = e + k ∨ 2 * m' = roundShift m k ∧ e' = e + k + 1) := by
  have first : shiftToTargetExponent .binary32 m e .exact =
      (ExtendedMantissa.ofMantissaAndAccuracy m .exact >>> k, e + k) := by
    have target : (Format.binary32.targetExponent (totalExponent m e) - e).toNat = k := by
      rw [targetExponent_binary32, totalExponent, top]
      omega
    simp only [shiftToTargetExponent, shiftToExponent, target]
  obtain ⟨least, most⟩ := div_bounds top
  obtain ⟨above, below⟩ := roundShift_bounds m k
  rw [roundWithAccuracy_steps first, roundedMantissa_shiftRight]
  generalize roundShift m k = R at *
  by_cases carry : R = 2 ^ 24
  · subst carry
    exact ⟨2 ^ 23, e + k + 1, _, settle_carry range, Nat.log2_two_pow, .inr ⟨rfl, rfl⟩⟩
  · have positive : 0 < R := by omega
    have top' : R.log2 = 23 := (Nat.log2_eq_iff (by omega)).mpr ⟨by omega, by omega⟩
    exact ⟨R, e + k, _, settle_fits positive top' range, top', .inl ⟨rfl, rfl⟩⟩

theorem log2_shiftLeft {n : Nat} (some : n ≠ 0) (k : Nat) : (n <<< k).log2 = n.log2 + k := by
  obtain ⟨least, most⟩ := (Nat.log2_eq_iff some).mp rfl
  have some' : n <<< k ≠ 0 := by
    rw [Nat.shiftLeft_eq]
    exact Nat.mul_ne_zero some (Nat.two_pow_pos k).ne'
  rw [Nat.log2_eq_iff some', Nat.shiftLeft_eq, Nat.add_right_comm, Nat.pow_add, Nat.pow_add]
  exact ⟨Nat.mul_le_mul_right _ least, Nat.mul_lt_mul_of_pos_right most (Nat.two_pow_pos k)⟩

/-- A number that is short gets zeros behind the point, and one that is long loses digits. -/
theorem roundShift_aligned (n : Nat) :
    roundShift (n <<< (23 - n.log2)) (excess n) *
        2 ^ (-((23 - n.log2 : Nat) : Int) + excess n + 23).toNat =
      nearestNat n * 2 ^ 23 := by
  unfold nearestNat
  rcases Nat.le_total n.log2 23 with short | long
  · have none : excess n = 0 := Nat.sub_eq_zero_of_le short
    have places : (-((23 - n.log2 : Nat) : Int) + (0 : Nat) + 23).toNat = n.log2 := by omega
    rw [none, places, roundShift_zero, roundShift_zero, Nat.shiftLeft_eq, Nat.mul_assoc,
      ← Nat.pow_add, Nat.sub_add_cancel short, Nat.pow_zero, Nat.mul_one]
  · have none : 23 - n.log2 = 0 := Nat.sub_eq_zero_of_le long
    have places : (-((0 : Nat) : Int) + excess n + 23).toNat = excess n + 23 := by omega
    rw [none, places, Nat.shiftLeft_zero, Nat.pow_add, Nat.mul_assoc]

/-- **A positive number** is rounded to 24 digits, some of which may stand behind the point. -/
theorem round_nat (sign : Sign) {n : Nat} (some : n ≠ 0) :
    ∃ m e positive, UnpackedFloat.round .binary32 sign n 0 = .finite sign m e positive ∧
      m.log2 = 23 ∧ -23 ≤ e ∧ e ≤ excess n + 1 ∧
      m * 2 ^ (e + 23).toNat = nearestNat n * 2 ^ 23 := by
  have digits : (n <<< (23 - n.log2)).log2 = 23 + excess n := by
    rw [log2_shiftLeft some, excess]
    omega
  have range : (-149 : Int) ≤ -((23 - n.log2 : Nat) : Int) + excess n := by omega
  have steps : UnpackedFloat.round .binary32 sign n 0 =
      roundWithAccuracy .binary32 sign (n <<< (23 - n.log2)) (-((23 - n.log2 : Nat) : Int))
        .exact := by
    have zeros : (-Format.binary32.targetExponent (totalExponent n 0)).toNat = 23 - n.log2 := by
      rw [targetExponent_binary32, totalExponent]
      omega
    simp only [UnpackedFloat.round, decreaseExponent, Int.zero_sub, zeros]
  obtain ⟨m, e, positive, rounded, top, exact⟩ := roundWithAccuracy_exact sign digits range
  have aligned := roundShift_aligned n
  refine ⟨m, e, positive, steps.trans rounded, top, ?_⟩
  rcases exact with ⟨rfl, rfl⟩ | ⟨carried, rfl⟩
  · exact ⟨by omega, by omega, aligned⟩
  · refine ⟨by omega, by omega, ?_⟩
    have places : (-((23 - n.log2 : Nat) : Int) + excess n + 1 + 23).toNat =
        (-((23 - n.log2 : Nat) : Int) + excess n + 23).toNat + 1 := by
      unfold excess
      omega
    rw [places, Nat.pow_succ', ← Nat.mul_assoc, Nat.mul_comm m 2, carried, aligned]

/-! ## Patterns of whole numbers -/

namespace Single

variable {m : Nat} {e : Int} {positive : 0 < m}

/-- **What a pattern reads as**, if it was put together of 24 digits. -/
theorem scaled_ofUnpacked (top : m.log2 = 23) (least : -149 ≤ e) (most : e ≤ 104) :
    (ofUnpacked (.finite .positive m e positive)).scaled = ⟨false, m, e⟩ := by
  have digits : 2 ^ 23 ≤ m ∧ m < 2 ^ 24 := (Nat.log2_eq_iff positive.ne').mp top
  have packed : (ofUnpacked (.finite .positive m e positive)).pattern =
      packComponents .binary32 .positive (BitVec.ofNat 8 (e + 127 + (23 : Nat)).toNat)
        (BitVec.ofNat 23 m) := by
    have fits : ¬ 2 ^ 8 ≤ (e + 127 + (23 : Nat)).toNat + 1 := by omega
    have full : m.log2 + 1 = 24 := by rw [top]
    exact (if_neg fits).trans (if_pos full)
  have exponent : (unpackExponent (ofUnpacked (.finite .positive m e positive)).pattern).toNat =
      (e + 150).toNat := by
    rw [packed, unpackExponent_packComponents, BitVec.toNat_ofNat]
    show (e + 127 + (23 : Nat)).toNat % 2 ^ 8 = _
    omega
  have fraction : (unpackMantissa (ofUnpacked (.finite .positive m e positive)).pattern).toNat =
      m - 2 ^ 23 := by
    rw [packed, unpackMantissa_packComponents, BitVec.toNat_ofNat]
    show m % 2 ^ 23 = _
    omega
  have sign : (ofUnpacked (.finite .positive m e positive)).isNegative = false := by
    have none : unpackSign (ofUnpacked (.finite .positive m e positive)).pattern = 0#1 := by
      rw [packed, unpackSign_packComponents]
      rfl
    rw [isNegative_eq, ← toNat_unpackSign, none]
    rfl
  rw [scaled_fields, exponent, fraction, sign, if_neg (by omega)]
  congr 1
  · exact Nat.sub_add_cancel digits.1
  · omega

/-- **A whole number**, read from a view that may have zeros behind the point. -/
theorem truncate_whole {n : Nat} (least : -23 ≤ e) (value : m * 2 ^ (e + 23).toNat = n * 2 ^ 23)
    (negative : Bool) :
    Scaled.truncate ⟨negative, m, e⟩ = if negative then -(n : Int) else n := by
  unfold Scaled.truncate
  by_cases whole : 0 ≤ e
  · have places : (e + 23).toNat = e.toNat + 23 := by omega
    rw [places, Nat.pow_add, ← Nat.mul_assoc] at value
    have shifted : (m : Int) * 2 ^ e.toNat = n := by
      exact_mod_cast Nat.eq_of_mul_eq_mul_right (Nat.two_pow_pos 23) value
    rw [if_pos whole, ← shifted, Nat.pow_eq]
    cases negative with
    | true => simp [Scaled.signedMantissa]
    | false => simp [Scaled.signedMantissa]
  · have places : 23 = (-e).toNat + (e + 23).toNat := by omega
    have shifted : m = n * 2 ^ (-e).toNat := by
      refine Nat.eq_of_mul_eq_mul_right (Nat.two_pow_pos (e + 23).toNat) ?_
      rw [value, Nat.mul_assoc, ← Nat.pow_add, ← places]
    have some : ((2 ^ (-e).toNat : Nat) : Int) ≠ 0 :=
      Int.natCast_ne_zero.mpr (Nat.two_pow_pos _).ne'
    rw [if_neg whole, shifted, Nat.pow_eq]
    cases negative with
    | true =>
      show (-((n * 2 ^ (-e).toNat : Nat) : Int)).tdiv _ = -(n : Int)
      rw [Nat.cast_mul, ← neg_mul, Int.mul_tdiv_cancel _ some]
    | false =>
      show ((n * 2 ^ (-e).toNat : Nat) : Int).tdiv _ = n
      rw [Nat.cast_mul, Int.mul_tdiv_cancel _ some]

/-- The pattern of a natural number. -/
def ofNat (n : Nat) : Single := ofUnpacked (UnpackedFloat.ofNat .binary32 n)

/-- **A natural number as a single** reads as the nearest one of 24 digits. -/
theorem ofNat_reads {n : Nat} (range : n < 2 ^ 64) :
    (ofNat n).isNaN = false ∧ (ofNat n).isNegative = false ∧
      ∀ negative, Scaled.truncate { (ofNat n).scaled with negative := negative } =
        if negative then -(nearestNat n : Int) else nearestNat n := by
  by_cases zero : n = 0
  · subst zero
    exact ⟨by decide, by decide, by decide⟩
  · obtain ⟨m, e, positive, rounded, top, least, most, value⟩ := round_nat .positive zero
    have some : compare (n : Int) 0 = .gt := Int.compare_eq_gt.mpr (by omega)
    have number : UnpackedFloat.ofNat .binary32 n = .finite .positive m e positive := by
      rw [UnpackedFloat.ofNat, UnpackedFloat.ofInt, UnpackedFloat.normalize, some]
      exact rounded
    have short : n.log2 < 64 := (Nat.log2_lt zero).mpr range
    have scaled : (ofNat n).scaled = ⟨false, m, e⟩ := by
      rw [ofNat, number]
      refine scaled_ofUnpacked top (by omega) ?_
      unfold excess at most
      omega
    refine ⟨isNaN_ofUnpacked (by rw [number]; rfl), ?_, fun negative => ?_⟩
    · rw [← negative_scaled, scaled]
    · rw [scaled]
      exact truncate_whole least value negative

theorem natAbs_lt (i : Int64) : i.toInt.natAbs < 2 ^ 64 := by
  have least := i.le_toInt
  have most := i.toInt_lt
  omega

theorem ofInt64_eq (i : Int64) :
    ofInt64 i = if i < 0 then -ofNat i.toInt.natAbs else ofNat i.toInt.natAbs := by
  have same : (UInt64.ofNat i.toInt.natAbs).toNat = i.toInt.natAbs :=
    UInt64.toNat_ofNat_of_lt' (natAbs_lt i)
  have magnitude : (⟨(UInt64.ofNat i.toInt.natAbs).toFloat32.toBits⟩ : Single) =
      ofNat i.toInt.natAbs :=
    congrArg ofNat same
  exact congrArg (fun s : Single => if i < 0 then -s else s) magnitude

/-- **An integer as a single**, cut to an integer again. -/
theorem truncate_ofInt64 (i : Int64) :
    (ofInt64 i).isNaN = false ∧ (ofInt64 i).scaled.truncate = nearest i.toInt := by
  obtain ⟨number, plus, reads⟩ := ofNat_reads (natAbs_lt i)
  rw [ofInt64_eq]
  by_cases negative : i < 0
  · have below : i.toInt < 0 := Int64.lt_iff_toInt_lt.mp negative
    rw [if_pos negative, isNaN_neg, scaled_neg, plus]
    refine ⟨number, (reads true).trans ?_⟩
    rw [nearest, if_pos below, if_pos rfl]
  · have above : 0 ≤ i.toInt := Int.not_lt.mp fun below => negative (Int64.lt_iff_toInt_lt.mpr below)
    have same : (ofNat i.toInt.natAbs).scaled =
        { (ofNat i.toInt.natAbs).scaled with negative := false } := by
      rw [← plus, ← negative_scaled]
    rw [if_neg negative, same]
    refine ⟨number, (reads false).trans ?_⟩
    rw [nearest, if_neg (Int.not_lt.mpr above), if_neg Bool.false_ne_true]

/-- **A 32-bit integer as a single**, and as an integer again. -/
theorem toInt32_ofInt32 (i : Int32) :
    (ofInt32 i).toInt32 = Int32.ofIntClamp (nearest i.toInt) := by
  obtain ⟨number, cut⟩ := truncate_ofInt64 i.toInt64
  rw [toInt32, ofInt32, number, if_neg Bool.false_ne_true, cut, Int32.toInt_toInt64]

/-- A number that is not negative is none as a single. -/
theorem lt_zero_ofInt32 {i : Int32} (nonneg : 0 ≤ i) : (ofInt32 i).lt zero = false := by
  have above : ¬ i.toInt64 < 0 := by
    rw [Int64.lt_iff_toInt_lt, Int32.toInt_toInt64]
    exact Int.not_lt.mpr (Int32.le_iff_toInt_le.mp nonneg)
  rw [ofInt32, ofInt64_eq, if_neg above]
  exact lt_zero (ofNat_reads (natAbs_lt _)).2.1

end Single
end TickScript
