/-! # Byte strings and little-endian words

    Everything that is stored or executed is a `Bytes`, a list of octets.  Words are written low
    byte first.  `word` is the inverse of `ofWord` at every width, which is what the operand
    readers and the save-file codec rest on (`word_ofWord`).
-/

namespace TickScript

/-- **Byte string.**  Code, argument blocks and files. -/
abbrev Bytes := List UInt8

namespace Bytes

/-! ## Words -/

/-- The low `width` bytes of `n`, low byte first. -/
def ofWord : (width : Nat) → (n : Nat) → Bytes
  | 0, _ => []
  | width + 1, n => UInt8.ofNat n :: ofWord width (n / 256)

/-- The number that the bytes spell, low byte first. -/
def word : Bytes → Nat
  | [] => 0
  | b :: rest => b.toNat + 256 * word rest

@[simp] theorem length_ofWord (width n : Nat) : (ofWord width n).length = width := by
  induction width generalizing n with
  | zero => rfl
  | succ w ih => simp [ofWord, ih]

/-- Reading a word back gives the number modulo the width. -/
theorem word_ofWord (width n : Nat) : word (ofWord width n) = n % Nat.pow 256 width := by
  induction width generalizing n with
  | zero => simp [ofWord, word, Nat.mod_one]
  | succ w ih =>
    have low : (UInt8.ofNat n).toNat = n % 256 := UInt8.toNat_ofNat'
    have power : Nat.pow 256 (w + 1) = 256 * Nat.pow 256 w := Nat.mul_comm _ _
    rw [ofWord, word, ih, low, power, Nat.mod_mul]

/-- A signed 32-bit word. -/
def ofInt32 (i : Int32) : Bytes := ofWord 4 i.toUInt32.toNat

/-- A signed 64-bit word. -/
def ofInt64 (i : Int64) : Bytes := ofWord 8 i.toUInt64.toNat

/-- An unsigned 32-bit word. -/
def ofUInt32 (n : UInt32) : Bytes := ofWord 4 n.toNat

/-- The first four bytes as a signed word; missing bytes count as zero. -/
def toInt32 (b : Bytes) : Int32 := (UInt32.ofNat (word (b.take 4))).toInt32

/-- The first eight bytes as a signed word. -/
def toInt64 (b : Bytes) : Int64 := (UInt64.ofNat (word (b.take 8))).toInt64

/-- The first four bytes as an unsigned word. -/
def toUInt32 (b : Bytes) : UInt32 := UInt32.ofNat (word (b.take 4))

/-! ## Hexadecimal text -/

/-- Digit `d < 16` in lower case. -/
def hexDigit (d : Nat) : Char := (Nat.digitChar d)

/-- One byte as two lower-case digits. -/
def hexByte (b : UInt8) : List Char := [hexDigit (b.toNat / 16), hexDigit (b.toNat % 16)]

/-- The bytes as lower-case digits, two per byte. -/
def toHex (b : Bytes) : String := String.ofList (b.flatMap hexByte)

/-- The value of one hexadecimal digit of either case. -/
def hexValue? (c : Char) : Option Nat :=
  if '0' ≤ c ∧ c ≤ '9' then some (c.toNat - '0'.toNat)
  else if 'a' ≤ c ∧ c ≤ 'f' then some (c.toNat - 'a'.toNat + 10)
  else if 'A' ≤ c ∧ c ≤ 'F' then some (c.toNat - 'A'.toNat + 10)
  else none

end Bytes
end TickScript
