import Mathlib.Data.Int.ModEq
import TickScript.Value.Arithmetic

/-! # Integer arithmetic is exact modulo `2 ^ 32`

    Values enter integer arithmetic through a view of 32 bits, which loses something of most of
    them (`whole`):

        int      the high half
        float    the fraction, and what lies beyond the range
        bool     nothing; true is one
        unset    nothing; zero
        failed   that it failed; zero

    From there on nothing is lost but multiples of `2 ^ 32`.  Sums, differences and products are
    those of the integers, reduced once at the end.  A quotient is the integers' own, cut toward
    zero, and so is a remainder; only the quotient of the least integer by minus one has to be
    reduced (`Divided`).
-/

namespace TickScript

/-- **The nearest integer of 32 bits.** -/
def saturated (n : Int) : Int := max (-2 ^ 31) (min n (2 ^ 31 - 1))

theorem toInt_ofIntClamp (n : Int) :
    (Int32.ofIntClamp n).toInt = max (-2 ^ 31) (min n (2 ^ 31 - 1)) := by
  have least : Int32.minValue.toInt = -2 ^ 31 := rfl
  have most : Int32.maxValue.toInt = 2 ^ 31 - 1 := rfl
  by_cases above : Int32.minValue.toInt ≤ n
  · by_cases below : n ≤ Int32.maxValue.toInt
    · rw [Int32.toInt_ofIntClamp above below]
      omega
    · rw [Int32.ofIntClamp, dif_pos above, dif_neg below]
      omega
  · rw [Int32.ofIntClamp, dif_neg above]
    omega

namespace Value

/-! ## Views -/

/-- **The integer that an operation sees.** -/
def whole : Value → Int
  | float s => if s.isNaN then 0 else saturated s.scaled.truncate
  | int i => i.toInt.bmod (2 ^ 32)
  | bool b => if b then 1 else 0
  | unset | failed => 0

theorem toInt_toInt32 (v : Value) : v.toInt32.toInt = v.whole := by
  cases v with
  | unset => rfl
  | failed => rfl
  | int i => exact Int64.toInt_toInt32 i
  | bool b => cases b <;> rfl
  | float s =>
    simp only [toInt32, Single.toInt32, whole]
    by_cases nan : s.isNaN
    · rw [if_pos nan, if_pos nan]
      rfl
    · rw [if_neg nan, if_neg nan]
      exact toInt_ofIntClamp _

/-- The view of the divisor decides whether there is a quotient. -/
theorem toInt32_eq_zero_iff (v : Value) : v.toInt32 = 0 ↔ v.whole = 0 := by
  rw [← toInt_toInt32, ← Int32.toInt_inj]
  rfl

/-- **Operands of integer arithmetic**: no side is a float, or a side was never written. -/
def IntegerDomain (a b : Value) : Prop :=
  (a.isFloat = false ∧ b.isFloat = false) ∨ a = unset ∨ b = unset

theorem floating_of_integerDomain {a b : Value} (h : IntegerDomain a b) :
    a.floating b = false := by
  rcases h with ⟨left, right⟩ | rfl | rfl
  · simp [floating, left, right]
  · rfl
  · simp [floating, isUnset]

/-! ## Results -/

/-- **The value is an integer** of 32 bits. -/
structure IsWhole (v : Value) (n : Int) : Prop where
  value : ∃ i : Int64, v = int i ∧ i.toInt = n
  least : -2 ^ 31 ≤ n
  most : n < 2 ^ 31

theorem isWhole_ofInt32 {i : Int32} {n : Int} (same : i.toInt = n) : (ofInt32 i).IsWhole n := by
  subst same
  exact ⟨⟨i.toInt64, rfl, Int32.toInt_toInt64 i⟩, i.le_toInt, i.toInt_lt⟩

/-- In the integer domain, an operation is the one on views. -/
theorem arith_of_integerDomain {a b : Value} (h : IntegerDomain a b)
    (onSingle : Single → Single → Single) (onInt : Int32 → Int32 → Int32) :
    arith onSingle onInt a b = ofInt32 (onInt a.toInt32 b.toInt32) := by
  rw [arith, floating_of_integerDomain h, if_neg Bool.false_ne_true]

/-! ## Quotients and remainders -/

/-- **Quotient and remainder** of `x` by `y`, both of 32 bits. -/
structure Divided (x y q r : Int) : Prop where
  congruent : q * y + r ≡ x [ZMOD 2 ^ 32]
  /-- The remainder is smaller than the divisor. -/
  smaller : r.natAbs < y.natAbs
  /-- It has the sign of the dividend, if it has one. -/
  sign : r = 0 ∨ r.sign = x.sign
  /-- The quotient is cut toward zero, and the one that is too great is reduced. -/
  quotient : q = if x = -2 ^ 31 ∧ y = -1 then -2 ^ 31 else x.tdiv y

/-- A divisor that is no unit halves its dividend at least. -/
theorem natAbs_tdiv_le_half (x : Int) {y : Int} (divisor : y ≠ 0) (noUnit : y.natAbs ≠ 1) :
    (x.tdiv y).natAbs ≤ x.natAbs / 2 := by
  rw [Int.natAbs_tdiv]
  exact Nat.div_le_div_left (by omega) (by decide)

/-- **One quotient of all is out of range.** -/
theorem bmod_tdiv {x y : Int} (least : -2 ^ 31 ≤ x) (most : x < 2 ^ 31) (divisor : y ≠ 0) :
    (x.tdiv y).bmod (2 ^ 32) = if x = -2 ^ 31 ∧ y = -1 then -2 ^ 31 else x.tdiv y := by
  by_cases extreme : x = -2 ^ 31 ∧ y = -1
  · rw [if_pos extreme, extreme.1, extreme.2]
    rfl
  · rw [if_neg extreme]
    have inside : -2 ^ 31 ≤ x.tdiv y ∧ x.tdiv y < 2 ^ 31 := by
      by_cases unit : y.natAbs = 1
      · -- only the opposite of the least integer is out of range, and that is the extreme case
        rcases Int.natAbs_eq_iff.mp unit with rfl | rfl
        · rw [Nat.cast_one, Int.tdiv_one]
          exact ⟨least, most⟩
        · have opposite : x.tdiv (-(1 : Nat)) = -x := by
            rw [Int.tdiv_neg, Nat.cast_one, Int.tdiv_one]
          rw [opposite]
          omega
      · have half := natAbs_tdiv_le_half x divisor unit
        omega
    exact Int.bmod_eq_of_le_mul_two (by omega) (by omega)

theorem sign_tmod_of_ne_zero {x y : Int} (left : x.tmod y ≠ 0) : (x.tmod y).sign = x.sign := by
  rw [Int.sign_tmod, if_neg]
  exact fun divides => left (Int.tmod_eq_zero_of_dvd divides)

theorem divided {x y : Int} (least : -2 ^ 31 ≤ x) (most : x < 2 ^ 31) (divisor : y ≠ 0) :
    Divided x y ((x.tdiv y).bmod (2 ^ 32)) (x.tmod y) where
  congruent := by
    -- where the quotient is reduced, a multiple of the modulus is lost with it
    have reduced : (x.tdiv y).bmod (2 ^ 32) ≡ x.tdiv y [ZMOD 2 ^ 32] := Int.bmod_emod
    calc (x.tdiv y).bmod (2 ^ 32) * y + x.tmod y
      _ ≡ x.tdiv y * y + x.tmod y [ZMOD 2 ^ 32] := (reduced.mul_right y).add_right _
      _ = x := Int.tdiv_mul_add_tmod x y
  smaller := by
    rw [Int.natAbs_tmod]
    exact Nat.mod_lt _ (Int.natAbs_pos.mpr divisor)
  sign := by
    by_cases none : x.tmod y = 0
    · exact .inl none
    · exact .inr (sign_tmod_of_ne_zero none)
  quotient := bmod_tdiv least most divisor

theorem whole_range (v : Value) : -2 ^ 31 ≤ v.whole ∧ v.whole < 2 ^ 31 := by
  rw [← toInt_toInt32]
  exact ⟨v.toInt32.le_toInt, v.toInt32.toInt_lt⟩

/-! ## Division of values -/

theorem ofInt32_ne_failed (i : Int32) : ofInt32 i ≠ failed := by
  intro same
  cases same

theorem div_eq_failed_iff {a b : Value} (h : IntegerDomain a b) :
    div a b = failed ↔ b.whole = 0 := by
  rw [← toInt32_eq_zero_iff, div, floating_of_integerDomain h, if_neg Bool.false_ne_true]
  by_cases zero : b.toInt32 = 0
  · rw [if_pos zero]
    exact iff_of_true rfl zero
  · rw [if_neg zero]
    exact iff_of_false (ofInt32_ne_failed _) zero

theorem rem_eq_failed_iff (a b : Value) : rem a b = failed ↔ b.whole = 0 := by
  rw [← toInt32_eq_zero_iff, rem]
  by_cases zero : b.toInt32 = 0
  · rw [if_pos zero]
    exact iff_of_true rfl zero
  · rw [if_neg zero]
    exact iff_of_false (ofInt32_ne_failed _) zero

theorem isWhole_div {a b : Value} (h : IntegerDomain a b) (divisor : b.whole ≠ 0) :
    (div a b).IsWhole ((a.whole.tdiv b.whole).bmod (2 ^ 32)) := by
  have nonzero : ¬ b.toInt32 = 0 := by
    rwa [toInt32_eq_zero_iff]
  rw [div, floating_of_integerDomain h, if_neg Bool.false_ne_true, if_neg nonzero]
  apply isWhole_ofInt32
  rw [Int32.toInt_div, toInt_toInt32, toInt_toInt32]

theorem isWhole_rem (a : Value) {b : Value} (divisor : b.whole ≠ 0) :
    (rem a b).IsWhole (a.whole.tmod b.whole) := by
  have nonzero : ¬ b.toInt32 = 0 := by
    rwa [toInt32_eq_zero_iff]
  rw [rem, if_neg nonzero]
  apply isWhole_ofInt32
  rw [Int32.toInt_mod, toInt_toInt32, toInt_toInt32]

/-! ## The theorem -/

/-- **Integer arithmetic is exact modulo `2 ^ 32`.**  `x` and `y` are the views of the operands.
    In the integer domain, sum, difference and product are those of `x` and `y`, reduced to 32
    bits.  A quotient fails if and only if `y` is zero, and else comes with its remainder.  The
    remainder does not ask for the domain: of floats too, it is the one of their views. -/
theorem integer_arithmetic_exact (a b : Value) (x y : Int) (left : a.toInt32.toInt = x)
    (right : b.toInt32.toInt = y) :
    (a.whole = x ∧ b.whole = y) ∧
      (IntegerDomain a b →
        (add a b).IsWhole ((x + y).bmod (2 ^ 32)) ∧
        (sub a b).IsWhole ((x - y).bmod (2 ^ 32)) ∧
        (mul a b).IsWhole ((x * y).bmod (2 ^ 32)) ∧
        (div a b = failed ↔ y = 0) ∧
        (y ≠ 0 → ∃ q r, (div a b).IsWhole q ∧ (rem a b).IsWhole r ∧ Divided x y q r)) ∧
      (rem a b = failed ↔ y = 0) ∧
      (y ≠ 0 → (rem a b).IsWhole (x.tmod y)) := by
  rw [toInt_toInt32] at left right
  subst left right
  refine ⟨⟨rfl, rfl⟩, ?_, rem_eq_failed_iff a b, isWhole_rem a⟩
  intro domain
  refine ⟨?sum, ?difference, ?product, div_eq_failed_iff domain, ?division⟩
  case sum =>
    rw [add, arith_of_integerDomain domain]
    exact isWhole_ofInt32 (by rw [Int32.toInt_add, toInt_toInt32, toInt_toInt32])
  case difference =>
    rw [sub, arith_of_integerDomain domain]
    exact isWhole_ofInt32 (by rw [Int32.toInt_sub, toInt_toInt32, toInt_toInt32])
  case product =>
    rw [mul, arith_of_integerDomain domain]
    exact isWhole_ofInt32 (by rw [Int32.toInt_mul, toInt_toInt32, toInt_toInt32])
  case division =>
    intro divisor
    obtain ⟨least, most⟩ := a.whole_range
    exact ⟨_, _, isWhole_div domain divisor, isWhole_rem a divisor, divided least most divisor⟩

/-- The least integer, as what is left of a wide one, by minus one. -/
theorem integer_arithmetic_exact_least :
    (int 0x180000000).toInt32.toInt = -2 ^ 31 ∧ (int (-1)).toInt32.toInt = -1 ∧
      IntegerDomain (int 0x180000000) (int (-1)) ∧ (-1 : Int) ≠ 0 ∧
      ∃ q r, (div (int 0x180000000) (int (-1))).IsWhole q ∧
        (rem (int 0x180000000) (int (-1))).IsWhole r ∧ Divided (-2 ^ 31) (-1) q r := by
  have left : (int 0x180000000).toInt32.toInt = -2 ^ 31 := by decide
  have right : (int (-1)).toInt32.toInt = -1 := by decide
  have domain : IntegerDomain (int 0x180000000) (int (-1)) := .inl ⟨rfl, rfl⟩
  obtain ⟨-, arithmetic, -⟩ := integer_arithmetic_exact _ _ _ _ left right
  obtain ⟨-, -, -, -, divides⟩ := arithmetic domain
  exact ⟨left, right, domain, by decide, divides (by decide)⟩

example : div (int 0x180000000) (int (-1)) = int (-0x80000000) := by decide

end Value
end TickScript
