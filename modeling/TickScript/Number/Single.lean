import TickScript.Bytes

/-! # Single-precision numbers as bit patterns

    A `Single` is an IEEE 754 binary32 bit pattern, so equality of two of them is equality of
    bits, and NaN payloads survive every move, store and load.  Arithmetic goes through the
    language's own binary32 type, whose addition, product, quotient and comparisons are defined
    in the logic; everything else here (integer conversions, rounding, the total order) is
    integer arithmetic on the pattern.

    Views: `scaled` reads a finite pattern as `± mantissa · 2 ^ exponent`.
-/

namespace TickScript

/-- **Binary32 pattern.**  Sign bit, eight exponent bits, 23 fraction bits. -/
structure Single where
  bits : UInt32
  deriving DecidableEq, Inhabited

/-- **A signed multiple of a power of two**, `(-1)^negative · mantissa · 2^exponent`. -/
structure Scaled where
  negative : Bool
  mantissa : Nat
  exponent : Int
  deriving DecidableEq

namespace Scaled

/-- The signed mantissa. -/
def signedMantissa (s : Scaled) : Int := if s.negative then -(s.mantissa : Int) else s.mantissa

/-- Toward zero. -/
def truncate (s : Scaled) : Int :=
  if 0 ≤ s.exponent then s.signedMantissa * Nat.pow 2 s.exponent.toNat
  else s.signedMantissa.tdiv (Nat.pow 2 (-s.exponent).toNat)

/-- Toward minus infinity. -/
def floor (s : Scaled) : Int :=
  if 0 ≤ s.exponent then s.signedMantissa * Nat.pow 2 s.exponent.toNat
  else s.signedMantissa.fdiv (Nat.pow 2 (-s.exponent).toNat)

/-- Toward plus infinity. -/
def ceil (s : Scaled) : Int :=
  if 0 ≤ s.exponent then s.signedMantissa * Nat.pow 2 s.exponent.toNat
  else -(-s.signedMantissa).fdiv (Nat.pow 2 (-s.exponent).toNat)

end Scaled

namespace Single

/-! ## Constants and classes -/

def zero : Single := ⟨0⟩
def one : Single := ⟨0x3f800000⟩
/-- Minus one. -/
def negOne : Single := ⟨0xbf800000⟩
/-- One hundred, the unit of ratings. -/
def hundred : Single := ⟨0x42c80000⟩

/-- The quiet NaN that conversions produce. -/
def nan : Single := ⟨0x7fc00000⟩
/-- The NaN of an invalid operation on two numbers, such as `∞ - ∞`. -/
def invalid : Single := ⟨0xffc00000⟩

/-- The pattern without its sign. -/
def magnitude (s : Single) : UInt32 := s.bits &&& 0x7fffffff

def isNaN (s : Single) : Bool := s.magnitude > 0x7f800000
def isInfinite (s : Single) : Bool := s.magnitude == 0x7f800000
def isFinite (s : Single) : Bool := s.magnitude < 0x7f800000
def isNegative (s : Single) : Bool := s.bits ≥ 0x80000000

/-- A NaN with its quiet bit set and its payload kept. -/
def quiet (s : Single) : Single := ⟨s.bits ||| 0x00400000⟩

/-! ## Sign operations, exact on every pattern -/

def neg (s : Single) : Single := ⟨s.bits ^^^ 0x80000000⟩
def abs (s : Single) : Single := ⟨s.magnitude⟩

instance : Neg Single := ⟨neg⟩

/-! ## Arithmetic -/

/-- The pattern as a machine number; every NaN becomes the one NaN. -/
def toFloat32 (s : Single) : Float32 := Float32.ofBits s.bits

/-- **NaN rule of a two-operand operation.**  A NaN operand comes through quieted, the left one
    first; numbers with no numeric result give `invalid`. -/
def combine (op : Float32 → Float32 → Float32) (a b : Single) : Single :=
  if a.isNaN then a.quiet
  else if b.isNaN then b.quiet
  else
    let r := op a.toFloat32 b.toFloat32
    if r.isNaN then invalid else ⟨r.toBits⟩

def add : Single → Single → Single := combine (· + ·)
def sub : Single → Single → Single := combine (· - ·)
def mul : Single → Single → Single := combine (· * ·)
def div : Single → Single → Single := combine (· / ·)

instance : Add Single := ⟨add⟩
instance : Sub Single := ⟨sub⟩
instance : Mul Single := ⟨mul⟩
instance : Div Single := ⟨div⟩

/-! ## Comparison -/

/-- Numeric order; false when either side is a NaN. -/
def lt (a b : Single) : Bool := a.toFloat32.lt b.toFloat32
/-- Numeric order or equality; false when either side is a NaN. -/
def le (a b : Single) : Bool := a.toFloat32.le b.toFloat32
/-- Numeric equality: the two zeros agree, a NaN agrees with nothing. -/
def agrees (a b : Single) : Bool := a.toFloat32 == b.toFloat32

/-- **Key of the total order** in which `-NaN < -∞ < … < -0 < 0 < … < ∞ < NaN`. -/
def orderKey (s : Single) : Int :=
  if s.isNegative then -(s.magnitude.toNat : Int) - 1 else s.magnitude.toNat

/-! ## Reading the pattern -/

/-- A finite pattern as a multiple of a power of two.  An infinity reads as `± 2^128`, which
    lies beyond every integer type, so saturating conversions need no case for it. -/
def scaled (s : Single) : Scaled :=
  let exponent := (s.magnitude >>> 23).toNat
  let fraction := (s.bits &&& 0x007fffff).toNat
  if exponent = 0 then ⟨s.isNegative, fraction, -149⟩
  else ⟨s.isNegative, fraction + Nat.pow 2 23, exponent - 150⟩

/-! ## Integers -/

/-- Toward zero, saturating; a NaN gives zero. -/
def toInt32 (s : Single) : Int32 := if s.isNaN then 0 else Int32.ofIntClamp s.scaled.truncate

/-- Toward zero, saturating; a NaN gives zero. -/
def toInt64 (s : Single) : Int64 := if s.isNaN then 0 else Int64.ofIntClamp s.scaled.truncate

/-- The nearest single, ties to the even one. -/
def ofInt64 (i : Int64) : Single :=
  let m : Single := ⟨(UInt64.ofNat i.toInt.natAbs).toFloat32.toBits⟩
  if i < 0 then m.neg else m

/-- The nearest single, ties to the even one. -/
def ofInt32 (i : Int32) : Single := ofInt64 i.toInt64

/-- One for true, zero for false. -/
def ofBool (b : Bool) : Single := if b then one else zero

/-! ## Bytes -/

def toBytes (s : Single) : Bytes := Bytes.ofUInt32 s.bits
def ofBytes (b : Bytes) : Single := ⟨Bytes.toUInt32 b⟩

end Single
end TickScript
