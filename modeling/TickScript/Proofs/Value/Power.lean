import TickScript.Value.Arithmetic
import Mathlib.Data.Nat.Bitwise
import Mathlib.Algebra.Group.Int.Defs

/-! # Integer powers

    Square and multiply looks at one bit of the exponent in each step, and multiplies by a square
    whose weight is the number of the step.  So the power is one to an exponent that is read off
    step by step, whichever bit each step looks at:

        exponent 11 = 1011     step  0  1  2  3    read
        current       bit looked at  0  1  2  3    1011 = 11
        legacy        bit looked at  2  1  0  3    1110 = 14

    The current order reads the exponent itself.  The legacy order reads the bits below the
    highest one backwards.
-/

namespace TickScript

/-! ## Numbers from bits -/

/-- One more bit on top of a number. -/
theorem ofBits_concat (bit : Nat → Bool) (n : Nat) :
    Nat.ofBits (fun i : Fin (n + 1) => bit i) =
      2 ^ n * (bit n).toNat + Nat.ofBits fun i : Fin n => bit i := by
  apply Nat.eq_of_testBit_eq
  intro j
  rw [Nat.testBit_two_pow_mul_add _ (Nat.ofBits_lt_two_pow _), Nat.testBit_ofBits,
    Nat.testBit_ofBits]
  rcases Nat.lt_trichotomy j n with below | rfl | above
  · have inside : j < n + 1 := by omega
    simp [below, inside]
  · cases top : bit j with
    | false => simp [top]
    | true => simp [top]
  · have outside : ¬ j < n + 1 := by omega
    have beyond : ¬ j < n := by omega
    have none : (bit n).toNat < 2 ^ (j - n) := by
      have one : (bit n).toNat < 2 := Bool.toNat_lt _
      have two : 2 ^ 1 ≤ 2 ^ (j - n) := Nat.pow_le_pow_right (by omega) (by omega)
      omega
    simp only [outside, beyond, dite_false, if_false]
    exact (Nat.testBit_lt_two_pow none).symm

/-- **The exponent that an order reads** in an exponent that is not zero. -/
def PowOrder.reads (order : PowOrder) (e : Nat) : Nat :=
  Nat.ofBits fun i : Fin (e.log2 + 1) => e.testBit (order.place e.log2 i)

theorem PowOrder.testBit_reads (order : PowOrder) (e j : Nat) :
    (order.reads e).testBit j = (decide (j ≤ e.log2) && e.testBit (order.place e.log2 j)) := by
  rw [reads, Nat.testBit_ofBits]
  by_cases inside : j ≤ e.log2
  · have inside' : j < e.log2 + 1 := by omega
    simp [inside, inside']
  · have outside : ¬ j < e.log2 + 1 := by omega
    simp [inside, outside]

/-- The current order reads the exponent itself. -/
theorem PowOrder.reads_current (e : Nat) : PowOrder.current.reads e = e := by
  have place (i : Nat) : PowOrder.current.place e.log2 i = i := by simp [place]
  simp only [reads, place]
  rw [Nat.ofBits_testBit]
  exact Nat.mod_eq_of_lt Nat.lt_log2_self

/-! ## Square and multiply -/

/-- One step, which looks at a bit: the power so far, and the square that is next. -/
def powStep (looked : Nat → Bool) (acc : Int32 × Int32) (step : Nat) : Int32 × Int32 :=
  (if looked step then acc.1 * acc.2 else acc.1, acc.2 * acc.2)

theorem intPow_eq_foldl (base exponent : Int32) (order : PowOrder) :
    intPow base exponent order =
      let e := exponent.toUInt32.toNat
      if e = 0 then 1
      else ((List.range (e.log2 + 1)).foldl (powStep fun i => e.testBit (order.place e.log2 i))
        (1, base)).1 := rfl

/-- **After some steps** the power is one to the bits looked at, and the square one to the weight
    of the next step. -/
theorem foldl_powStep (base : Int) (looked : Nat → Bool) (steps : Nat) :
    (List.range steps).foldl (powStep looked) (1, Int32.ofInt base) =
      (Int32.ofInt (base ^ Nat.ofBits fun i : Fin steps => looked i),
        Int32.ofInt (base ^ 2 ^ steps)) := by
  induction steps with
  | zero => simp
  | succ steps ih =>
    rw [List.range_succ, List.foldl_append, ih, ofBits_concat]
    show powStep looked _ steps = _
    have square : Int32.ofInt (base ^ 2 ^ steps) * Int32.ofInt (base ^ 2 ^ steps) =
        Int32.ofInt (base ^ 2 ^ (steps + 1)) := by
      rw [← Int32.ofInt_mul, ← pow_add, ← Nat.two_mul, Nat.pow_succ, Nat.mul_comm]
    unfold powStep
    rw [square]
    cases looked steps with
    | false => simp
    | true =>
      simp only [if_true, Bool.toNat_true, Nat.mul_one]
      rw [← Int32.ofInt_mul, ← pow_add, Nat.add_comm]

/-- **A power is one to the exponent that its order reads**, reduced to 32 bits. -/
theorem toInt_intPow {base exponent : Int32} (order : PowOrder)
    (some : exponent.toUInt32.toNat ≠ 0) :
    (intPow base exponent order).toInt =
      (base.toInt ^ order.reads exponent.toUInt32.toNat).bmod (2 ^ 32) := by
  have steps := foldl_powStep base.toInt
    (fun i => exponent.toUInt32.toNat.testBit (order.place exponent.toUInt32.toNat.log2 i))
    (exponent.toUInt32.toNat.log2 + 1)
  rw [Int32.ofInt_toInt] at steps
  rw [intPow_eq_foldl]
  simp only [some, if_false, steps]
  exact Int32.toInt_ofInt

/-- **Both orders compute powers.**  The exponent is read unsigned, and results are reduced to 32
    bits.  In the current order, the power is one to the exponent.  In the legacy order, it is one
    to the number that has the same highest bit and, below it, the bits of the exponent in reverse.
    The power to zero is one. -/
theorem intPow_reads_exponent (base exponent : Int32) :
    (intPow base exponent .current).toInt =
      (base.toInt ^ exponent.toUInt32.toNat).bmod (2 ^ 32) ∧
    (∀ h, exponent.toUInt32.toNat.testBit h = true →
      (∀ j > h, exponent.toUInt32.toNat.testBit j = false) →
        ∃ e, (∀ j, e.testBit j =
            if j < h then exponent.toUInt32.toNat.testBit (h - 1 - j) else decide (j = h)) ∧
          (intPow base exponent .legacy).toInt = (base.toInt ^ e).bmod (2 ^ 32)) ∧
    (exponent = 0 → ∀ order, intPow base exponent order = 1) := by
  let e := exponent.toUInt32.toNat
  refine ⟨?_, ?_, ?_⟩
  · by_cases none : e = 0
    · have one : intPow base exponent .current = 1 := if_pos none
      have none : exponent.toUInt32.toNat = 0 := none
      rw [one, none, pow_zero]
      rfl
    · rw [toInt_intPow .current none, PowOrder.reads_current]
  · intro h highest above
    have some : e ≠ 0 := by
      intro none
      have none : exponent.toUInt32.toNat = 0 := none
      rw [none] at highest
      simp at highest
    have log2 : e.log2 = h := by
      rw [Nat.log2_eq_iff some]
      exact ⟨Nat.ge_two_pow_of_testBit highest, Nat.lt_pow_two_of_testBit e above⟩
    refine ⟨PowOrder.legacy.reads e, ?_, toInt_intPow .legacy some⟩
    intro j
    rw [PowOrder.testBit_reads, log2, PowOrder.place]
    rcases Nat.lt_trichotomy j h with below | rfl | beyond
    · have other : j ≠ h := by omega
      simp [e, below, other, Nat.le_of_lt below]
    · simp [e, highest]
    · have other : j ≠ h := by omega
      have outside : ¬ j < h := by omega
      simp [other, outside, Nat.not_le.mpr beyond]
  · rintro rfl order
    rfl

/-- The legacy power of two to eleven is the fourteenth. -/
theorem intPow_reads_exponent_eleven :
    ∃ e', (∀ j, e'.testBit j =
        if j < 3 then (11).testBit (3 - 1 - j) else decide (j = 3)) ∧
      (intPow 2 11 .legacy).toInt = ((2 : Int) ^ e').bmod (2 ^ 32) := by
  have above : ∀ j > 3, (11).testBit j = false := by
    intro j above
    have small : 11 < 2 ^ j := Nat.lt_of_lt_of_le (by decide) (Nat.pow_le_pow_right (by decide) above)
    exact Nat.testBit_lt_two_pow small
  exact (intPow_reads_exponent 2 11).2.1 3 (by decide) above

/-- All bits set read the same in both orders. -/
example : intPow 3 (-1) .current = intPow 3 (-1) .legacy := by decide +kernel

end TickScript
