import TickScript.Number.Single

/-! # Words are spelt in one way

    Every value of a width has one spelling of that width, and every string of that width is the
    spelling of one value.  So reading a word and writing it undo each other, both ways.
-/

namespace TickScript

namespace Bytes

/-! ## Unsigned words -/

theorem word_lt (b : Bytes) : word b < Nat.pow 256 b.length := by
  induction b with
  | nil => exact Nat.one_pos
  | cons low rest ih =>
    have digit : low.toNat < 256 := low.toNat_lt
    have power : Nat.pow 256 (rest.length + 1) = 256 * Nat.pow 256 rest.length := Nat.mul_comm _ _
    rw [word, List.length_cons, power]
    omega

/-- Writing a word that was read gives its bytes. -/
theorem ofWord_word (b : Bytes) : ofWord b.length (word b) = b := by
  induction b with
  | nil => rfl
  | cons low rest ih =>
    have digit : low.toNat < 256 := low.toNat_lt
    have first : UInt8.ofNat (low.toNat + 256 * word rest) = low := by
      rw [← UInt8.toNat_inj, UInt8.toNat_ofNat']
      omega
    have others : (low.toNat + 256 * word rest) / 256 = word rest := by omega
    rw [word, List.length_cons, ofWord, first, others, ih]

/-- **A number has one spelling of each width that holds it.** -/
theorem eq_ofWord_iff {b : Bytes} {width n : Nat} :
    n < Nat.pow 256 width ∧ b = ofWord width n ↔ b.length = width ∧ word b = n := by
  constructor
  · rintro ⟨small, rfl⟩
    refine ⟨length_ofWord width n, ?_⟩
    rw [word_ofWord]
    exact Nat.mod_eq_of_lt small
  · rintro ⟨rfl, rfl⟩
    exact ⟨word_lt b, (ofWord_word b).symm⟩

/-! ## Words of a machine type -/

theorem toUInt32_ofUInt32 (n : UInt32) : toUInt32 (ofUInt32 n) = n := by
  have size : n.toNat % Nat.pow 256 4 = n.toNat := Nat.mod_eq_of_lt n.toNat_lt
  rw [toUInt32, ofUInt32, List.take_of_length_le (by simp), word_ofWord, size]
  exact UInt32.ofNat_toNat

theorem ofUInt32_toUInt32 {b : Bytes} (h : b.length = 4) : ofUInt32 (toUInt32 b) = b := by
  have small := word_lt b
  have spelt := ofWord_word b
  rw [h] at small spelt
  rw [ofUInt32, toUInt32, List.take_of_length_le (by omega), UInt32.toNat_ofNat',
    Nat.mod_eq_of_lt small, spelt]

theorem toInt32_ofInt32 (i : Int32) : toInt32 (ofInt32 i) = i :=
  congrArg UInt32.toInt32 (toUInt32_ofUInt32 i.toUInt32)

theorem ofInt32_toInt32 {b : Bytes} (h : b.length = 4) : ofInt32 (toInt32 b) = b :=
  ofUInt32_toUInt32 h

theorem toInt64_ofInt64 (i : Int64) : toInt64 (ofInt64 i) = i := by
  have size : i.toUInt64.toNat % Nat.pow 256 8 = i.toUInt64.toNat :=
    Nat.mod_eq_of_lt i.toUInt64.toNat_lt
  rw [toInt64, ofInt64, List.take_of_length_le (by simp), word_ofWord, size, UInt64.ofNat_toNat]
  rfl

@[simp] theorem length_ofUInt32 (n : UInt32) : (ofUInt32 n).length = 4 := length_ofWord ..

@[simp] theorem length_ofInt32 (i : Int32) : (ofInt32 i).length = 4 := length_ofWord ..

@[simp] theorem length_ofInt64 (i : Int64) : (ofInt64 i).length = 8 := length_ofWord ..

theorem eq_ofUInt32_iff {b : Bytes} {n : UInt32} :
    b = ofUInt32 n ↔ b.length = 4 ∧ toUInt32 b = n := by
  constructor
  · rintro rfl
    exact ⟨length_ofUInt32 n, toUInt32_ofUInt32 n⟩
  · rintro ⟨length, rfl⟩
    exact (ofUInt32_toUInt32 length).symm

theorem eq_ofInt32_iff {b : Bytes} {i : Int32} :
    b = ofInt32 i ↔ b.length = 4 ∧ toInt32 b = i := by
  constructor
  · rintro rfl
    exact ⟨length_ofInt32 i, toInt32_ofInt32 i⟩
  · rintro ⟨length, rfl⟩
    exact (ofInt32_toInt32 length).symm

end Bytes

namespace Single

theorem ofBytes_toBytes (s : Single) : ofBytes s.toBytes = s := by
  rw [ofBytes, toBytes, Bytes.toUInt32_ofUInt32]

@[simp] theorem length_toBytes (s : Single) : s.toBytes.length = 4 := Bytes.length_ofWord ..

theorem eq_toBytes_iff {b : Bytes} {s : Single} :
    b = s.toBytes ↔ b.length = 4 ∧ ofBytes b = s := by
  cases s with
  | mk bits => rw [toBytes, Bytes.eq_ofUInt32_iff, ofBytes, Single.mk.injEq]

end Single
end TickScript
