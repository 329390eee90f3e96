import TickScript.Number.Decimal

/-! # Tagged scalar values

    Every slot of a stack or window holds a `Value`.  Besides numbers and truth values there is
    the content of a slot nobody wrote (`unset`) and the result of a computation that failed or
    did not apply (`failed`); both read as zero through every view.

    Conversions are total: a float converts to an integer by truncation with saturation, a wide
    integer to 32 bits by dropping the high half.
-/

namespace TickScript

/-- **Scalar value.** -/
inductive Value where
  /-- A slot that was never written. -/
  | unset
  | float (s : Single)
  | int (i : Int64)
  | bool (b : Bool)
  /-- A computation that failed or did not apply. -/
  | failed
  deriving DecidableEq, Inhabited

namespace Value

/-! ## Construction -/

/-- A float, or `failed` if it is a NaN. -/
def ofSingle (s : Single) : Value := if s.isNaN then failed else float s

/-- The nearest float, or `failed` for a NaN. -/
def ofDouble (x : Float) : Value := ofSingle (Single.ofDouble x)

/-- A 32-bit integer, widened. -/
def ofInt32 (i : Int32) : Value := int i.toInt64

/-- A count, reduced to 32 bits. -/
def ofCount (n : Nat) : Value := ofInt32 (Int32.ofNat n)

/-! ## Tags -/

def isFloat : Value → Bool
  | float _ => true
  | _ => false

def isFailed : Value → Bool
  | failed => true
  | _ => false

def isUnset : Value → Bool
  | unset => true
  | _ => false

/-- The name of the tag. -/
def tagName : Value → String
  | unset => "none"
  | float _ => "float"
  | int _ => "int"
  | bool _ => "bool"
  | failed => "sf"

/-! ## Views -/

def toSingle : Value → Single
  | float s => s
  | int i => Single.ofInt64 i
  | bool b => Single.ofBool b
  | unset | failed => Single.zero

def toDouble : Value → Float
  | float s => s.toDouble
  | int i => Double.ofInt64 i
  | bool b => if b then Double.one else Double.zero
  | unset | failed => Double.zero

/-- A wide integer loses its high half; a float is truncated. -/
def toInt32 : Value → Int32
  | float s => s.toInt32
  | int i => i.toInt32
  | bool b => if b then 1 else 0
  | unset | failed => 0

def toInt64 : Value → Int64
  | float s => s.toInt64
  | int i => i
  | bool b => if b then 1 else 0
  | unset | failed => 0

def toBool : Value → Bool
  | float s => !s.agrees Single.zero
  | int i => i ≠ 0
  | bool b => b
  | unset | failed => false

/-- **Working value of extended mathematics.**  A failed input is a NaN, so that it stays
    failed. -/
def working : Value → Float
  | failed => Double.nan
  | v => v.toDouble

/-- Equality of tag and content, where content is compared as numbers: `0` equals `-0` and a
    NaN equals nothing. -/
def agrees : Value → Value → Bool
  | unset, unset => true
  | float a, float b => a.agrees b
  | int a, int b => a == b
  | bool a, bool b => a == b
  | failed, failed => true
  | _, _ => false

/-- The text of the value. -/
def text : Value → String
  | unset => "none"
  | float s => Decimal.plain.text s
  | int i => toString i.toInt
  | bool b => if b then "true" else "false"
  | failed => "sf"

end Value
end TickScript
