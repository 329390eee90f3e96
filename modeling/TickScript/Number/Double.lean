import TickScript.Number.Single

/-! # Double-precision working values

    Transcendental functions are evaluated in binary64 by the platform's mathematical library
    and rounded to a `Single` at the end.  Each function here gives a NaN for a NaN argument by
    definition, so a failed input stays failed whatever the library does with it; on numbers it
    is the library's function.
-/

namespace TickScript

namespace Single

/-- The same value with more bits: exact on every pattern but the payload of a NaN. -/
def toDouble (s : Single) : Float :=
  let sign : UInt64 := if s.isNegative then 0x8000000000000000 else 0
  let m := s.scaled.mantissa
  if s.isNaN then Float.ofBits 0x7ff8000000000000
  else if s.isInfinite then Float.ofBits (sign ||| 0x7ff0000000000000)
  else if m = 0 then Float.ofBits sign
  else
    -- leading bit of the mantissa at place 52
    let top := m.log2
    let fraction := UInt64.ofNat (m * Nat.pow 2 (52 - top) - Nat.pow 2 52)
    let exponent := UInt64.ofNat ((top : Int) + s.scaled.exponent + 1023).toNat
    Float.ofBits (sign ||| (exponent <<< 52) ||| fraction)

/-- A number with its digits rounded to those of a single, ties to the even one. -/
def shorten : Float.Model.UnpackedFloat → Float.Model.UnpackedFloat
  | .finite sign mantissa exponent _ =>
    Float.Model.UnpackedFloat.round .binary32 sign mantissa exponent
  | other => other

/-- The nearest single; a NaN stays a NaN. -/
def ofDouble (x : Float) : Single :=
  if x.isNaN then nan
  else
    let number := Float.Model.UnpackedFloat.unpack .binary64 x.toBits.toBitVec
    ⟨⟨Float.Model.UnpackedFloat.pack .binary32 (shorten number)⟩⟩

end Single

namespace Double

/-- The quiet NaN. -/
def nan : Float := Float.ofBits 0x7ff8000000000000
/-- Ten. -/
def ten : Float := Float.ofBits 0x4024000000000000
/-- One half. -/
def half : Float := Float.ofBits 0x3fe0000000000000
def zero : Float := Float.ofBits 0
def one : Float := Float.ofBits 0x3ff0000000000000
/-- The double nearest to `π`. -/
def pi : Float := Float.ofBits 0x400921fb54442d18
/-- One hundred and eighty, half a turn in degrees. -/
def halfTurn : Float := Float.ofBits 0x4066800000000000

/-- The nearest double. -/
def ofInt64 (i : Int64) : Float :=
  let m := (UInt64.ofNat i.toInt.natAbs).toFloat
  if i < 0 then -m else m

/-! ## Functions that keep a NaN -/

/-- `f` on numbers; a NaN argument is the result. -/
def lift (f : Float → Float) (x : Float) : Float := if x.isNaN then nan else f x

/-- `f` on pairs of numbers; with a NaN argument the result is a NaN. -/
def lift₂ (f : Float → Float → Float) (x y : Float) : Float :=
  if x.isNaN || y.isNaN then nan else f x y

def exp := lift Float.exp
def ln := lift Float.log
def cos := lift Float.cos
def sin := lift Float.sin
def tan := lift Float.tan
def acos := lift Float.acos
def asin := lift Float.asin
def atan := lift Float.atan
def floor := lift Float.floor
def atan2 := lift₂ Float.atan2

/-- `x` to the power `y` by the library's own rules, which give one for `x ^ 0` and `1 ^ y`
    whatever the other argument is. -/
def pow (x y : Float) : Float := Float.pow x y

/-- Ten to the power `y`. -/
def exp10 (y : Float) : Float := lift (Float.pow ten) y

/-- Degrees to radians. -/
def radians (x : Float) : Float := x * (pi / halfTurn)
/-- Radians to degrees. -/
def degrees (x : Float) : Float := x * (halfTurn / pi)

/-- A finite double as a multiple of a power of two. -/
def scaled (x : Float) : Scaled :=
  let bits := x.toBits
  let negative : Bool := bits ≥ 0x8000000000000000
  let exponent := ((bits >>> 52) &&& 0x7ff).toNat
  let fraction := (bits &&& 0x000fffffffffffff).toNat
  if exponent = 0 then ⟨negative, fraction, -1074⟩
  else ⟨negative, fraction + Nat.pow 2 52, exponent - 1075⟩

end Double
end TickScript
