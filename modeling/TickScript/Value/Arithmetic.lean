import TickScript.Value.Basic

/-! # Arithmetic on values

    One rule decides the domain of a two-operand operation: if one side is a float and neither
    is unset it runs on singles, otherwise on the wrapping 32-bit views, and an integer result
    is widened.  No operation traps.  What has no result (a zero divisor, a logarithm of zero, a
    NaN) is `failed`.

    Integer powers exist in two bit orders, because content written for older engines depends
    on the reversed one.
-/

namespace TickScript

/-- **Bit order of integer powers.** -/
inductive PowOrder where
  /-- Every exponent bit, low to high. -/
  | current
  /-- The bits below the highest set bit from high to low, then that bit. -/
  | legacy
  deriving DecidableEq, Inhabited

/-- The exponent bit that step `step` of a power with highest bit `high` looks at. -/
def PowOrder.place (order : PowOrder) (high step : Nat) : Nat :=
  if step = high then step
  else match order with
    | .current => step
    | .legacy => high - 1 - step

/-- **Square and multiply**, reduced to 32 bits.  The exponent's bits are read unsigned. -/
def intPow (base exponent : Int32) (order : PowOrder) : Int32 :=
  let bits := exponent.toUInt32.toNat
  if bits = 0 then 1
  else
    let high := bits.log2
    let fold := fun (acc : Int32 × Int32) step =>
      (if bits.testBit (order.place high step) then acc.1 * acc.2 else acc.1, acc.2 * acc.2)
    ((List.range (high + 1)).foldl fold (1, base)).1

namespace Value

/-- Whether an operation on the two runs on singles. -/
def floating (a b : Value) : Bool := !a.isUnset && !b.isUnset && (a.isFloat || b.isFloat)

/-- A two-operand operation in the domain that the operands choose. -/
def arith (onSingle : Single → Single → Single) (onInt : Int32 → Int32 → Int32)
    (a b : Value) : Value :=
  if a.floating b then ofSingle (onSingle a.toSingle b.toSingle)
  else ofInt32 (onInt a.toInt32 b.toInt32)

/-- A comparison in the domain that the operands choose. -/
def compare (onSingle : Single → Single → Bool) (onInt : Int32 → Int32 → Bool)
    (a b : Value) : Value :=
  .bool (if a.floating b then onSingle a.toSingle b.toSingle else onInt a.toInt32 b.toInt32)

/-! ## One operand -/

/-- The opposite number.  A float is flipped in place. -/
def neg : Value → Value
  | float s => float (-s)
  | v => ofInt32 (-v.toInt32)

def bitNot (v : Value) : Value := ofInt32 (~~~v.toInt32)

def boolNot (v : Value) : Value := .bool (!v.toBool)

/-- The magnitude; the least integer is its own. -/
def abs : Value → Value
  | float s => float s.abs
  | v => ofInt32 (if v.toInt32 < 0 then -v.toInt32 else v.toInt32)

/-- A float rounded by `how` becomes an integer; any other value stays as it is. -/
def toWhole (how : Scaled → Int) : Value → Value
  | float s => if s.isNaN then failed else ofInt32 (Int32.ofIntClamp (how s.scaled))
  | v => v

/-- Rounds a float down to an integer. -/
def floor : Value → Value := toWhole Scaled.floor

/-- Rounds a float up to an integer. -/
def ceil : Value → Value := toWhole Scaled.ceil

/-- A function of the working value. -/
def mapDouble (f : Float → Float) (v : Value) : Value := ofDouble (f v.working)

def exp : Value → Value := mapDouble Double.exp
def cos : Value → Value := mapDouble Double.cos
def sin : Value → Value := mapDouble Double.sin
def tan : Value → Value := mapDouble Double.tan
def acos : Value → Value := mapDouble Double.acos
def asin : Value → Value := mapDouble Double.asin
def atan : Value → Value := mapDouble Double.atan
def radians : Value → Value := mapDouble Double.radians
def degrees : Value → Value := mapDouble Double.degrees

/-- The natural logarithm, `failed` unless the number is positive. -/
def ln (v : Value) : Value :=
  if v.working ≤ Double.zero then failed else ofDouble (Double.ln v.working)

/-- Minus one, zero or one. -/
def sign (v : Value) : Value :=
  if v.working < Double.zero then ofInt32 (-1)
  else if Double.zero < v.working then ofInt32 1
  else ofInt32 0

/-! ## Two operands: arithmetic -/

def add : Value → Value → Value := arith (· + ·) (· + ·)
def sub : Value → Value → Value := arith (· - ·) (· - ·)
def mul : Value → Value → Value := arith (· * ·) (· * ·)

/-- The quotient; an integer zero divisor gives `failed`. -/
def div (a b : Value) : Value :=
  if a.floating b then ofSingle (a.toSingle / b.toSingle)
  else if b.toInt32 = 0 then failed
  else ofInt32 (a.toInt32 / b.toInt32)

/-- The remainder with the sign of the left side, always of the integer views. -/
def rem (a b : Value) : Value :=
  if b.toInt32 = 0 then failed else ofInt32 (a.toInt32 % b.toInt32)

/-- The power: of doubles when a side is a float or the exponent is negative, else of integers
    in the given bit order. -/
def pow (order : PowOrder) (a b : Value) : Value :=
  if a.floating b || b.toSingle.lt Single.zero then
    ofDouble (Double.pow a.toSingle.toDouble b.toSingle.toDouble)
  else ofInt32 (intPow a.toInt32 b.toInt32 order)

/-! ## Two operands: comparison and logic -/

def gt : Value → Value → Value := compare (fun a b => b.lt a) (fun a b => b < a)
def ge : Value → Value → Value := compare (fun a b => b.le a) (fun a b => b ≤ a)
def lt : Value → Value → Value := compare Single.lt (fun a b => a < b)
def le : Value → Value → Value := compare Single.le (fun a b => a ≤ b)
def equals : Value → Value → Value := compare Single.agrees (fun a b => a == b)
def notEquals (a b : Value) : Value := (equals a b).boolNot

def bitAnd (a b : Value) : Value := ofInt32 (a.toInt32 &&& b.toInt32)
def bitOr (a b : Value) : Value := ofInt32 (a.toInt32 ||| b.toInt32)
def bitXor (a b : Value) : Value := ofInt32 (a.toInt32 ^^^ b.toInt32)

def boolAnd (a b : Value) : Value := .bool (a.toBool && b.toBool)
def boolOr (a b : Value) : Value := .bool (a.toBool || b.toBool)
def boolXor (a b : Value) : Value := .bool (a.toBool != b.toBool)

/-! ## Extended mathematics: always a float -/

/-- The logarithm of `v` to base `base`, `failed` unless both are positive. -/
def log (base v : Value) : Value :=
  if base.working ≤ Double.zero || v.working ≤ Double.zero then failed
  else ofDouble (Double.ln v.working / Double.ln base.working)

def max (a b : Value) : Value :=
  ofDouble (if b.working ≤ a.working then a.working else b.working)

def min (a b : Value) : Value :=
  ofDouble (if a.working ≤ b.working then a.working else b.working)

/-- The value moved into `low ..= high`; the lower bound is tried first. -/
def clamp (v low high : Value) : Value :=
  ofDouble <|
    if v.working ≤ low.working then low.working
    else if high.working ≤ v.working then high.working
    else v.working

def atan2 (y x : Value) : Value := ofDouble (Double.atan2 y.working x.working)

/-- The point between two values; the share is moved into `0 ..= 1`. -/
def lerp (v far amount : Value) : Value :=
  let t := amount.working
  let t := if t ≤ Double.zero then Double.zero else if Double.one ≤ t then Double.one else t
  ofDouble (v.working + (far.working - v.working) * t)

/-- Rounds at a number of decimal places, halves upward. -/
def round (v places : Value) : Value :=
  let shift := Double.exp10 places.working
  ofDouble (Double.floor (v.working * shift + Double.half) / shift)

end Value
end TickScript
