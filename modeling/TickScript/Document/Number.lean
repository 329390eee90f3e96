import TickScript.Bytes
import TickScript.Document.Moment

/-! # Numbers in documents

    Whole numbers have 64 bits and a sign.  They are decimal, or hexadecimal, octal or binary
    without a sign.  Fractions have a point or an exponent; what they say is not kept, but they
    may not be too large.  An underscore may stand between two digits.
-/

namespace TickScript.Document

/-- The least number that is nearer to what follows the greatest double than to that double. -/
def fractionBound : Nat := (Nat.pow 2 54 - 1) * Nat.pow 2 970

/-- Whether the digits, times ten to the power `scale`, reach the bound of fractions. -/
def exceedsFractions (digits : List Char) (scale : Int) : Bool :=
  let digits := digits.dropWhile (· = '0')
  -- the value lies below ten to this power, but not below a tenth of that
  let top := digits.length + scale
  if digits.isEmpty || top < 309 then false
  else if 309 < top then true
  else fractionBound * Nat.pow 10 (-scale).toNat ≤ decimalValue digits * Nat.pow 10 scale.toNat

/-- Digits in groups that single underscores separate; `needed` says that one has to follow. -/
def takeDigits (isDigit : Char → Bool) :
    (needed : Bool) → List Char → Except Nat (List Char × List Char)
  | needed, [] => if needed then .error 0 else .ok ([], [])
  | needed, c :: rest =>
    if isDigit c then (takeDigits isDigit false rest).map fun r => (c :: r.1, r.2)
    else if needed then .error (rest.length + 1)
    else if c = '_' then takeDigits isDigit true rest
    else .ok ([], c :: rest)

namespace Reader

/-- At least one digit. -/
def digits (isDigit : Char → Bool) : Reader (List Char) := takeDigits isDigit true

/-- A whole number, which has to fit; if not, the fault is where it starts. -/
def fitting (start : List Char) (n : Int) : Reader Datum :=
  if Int64.minValue.toInt ≤ n ∧ n ≤ Int64.maxValue.toInt then return .number n
  else ofOption start none

/-- A number in a base that is announced by two characters. -/
def inBase (base : Nat) : Reader Datum := do
  let start ← get
  set (start.drop 2)
  let valueOf (c : Char) := (Bytes.hexValue? c).filter (· < base)
  let values := (← digits fun c => (valueOf c).isSome).filterMap valueOf
  fitting start (values.foldl (fun n d => n * base + d) 0 : Nat)

/-- Takes a sign, if one follows; whether it is a minus. -/
def sign : Reader Bool := do
  if ← accept '-' then return true
  else
    let _ ← accept '+'
    return false

/-- The digits in front of the point; a zero in front stands alone. -/
def wholePart : Reader (List Char) := do
  if ← accept '0' then return ['0'] else digits Char.isDigit

/-- The digits behind the point, if there is one. -/
def fractionPart : Reader (Option (List Char)) := do
  if ← accept '.' then some <$> digits Char.isDigit else return none

/-- The exponent, if there is one. -/
def exponentPart : Reader (Option Int) := do
  match ← peek with
  | some 'e' | some 'E' =>
    set ((← get).drop 1)
    let negative ← sign
    let n : Int := decimalValue (← digits Char.isDigit)
    return some (if negative then -n else n)
  | _ => return none

/-- A decimal number. -/
def decimal : Reader Datum := do
  let start ← get
  let negative ← sign
  match ← peek with
  | some 'i' =>
    expect ['i', 'n', 'f']
    return .other
  | some 'n' =>
    expect ['n', 'a', 'n']
    return .other
  | _ =>
    let whole ← wholePart
    let fraction ← fractionPart
    let exponent ← exponentPart
    match fraction, exponent with
    | none, none =>
      let n : Int := decimalValue whole
      fitting start (if negative then -n else n)
    | _, _ =>
      let behind := fraction.getD []
      if !negative && exceedsFractions (whole ++ behind) (exponent.getD 0 - behind.length) then
        ofOption start none
      else return .other

/-- **A number or a moment.** -/
def numeral : Reader Datum := do
  if ← moment? then return .other
  else match ← get with
    | '0' :: 'x' :: _ => inBase 16
    | '0' :: 'o' :: _ => inBase 8
    | '0' :: 'b' :: _ => inBase 2
    | _ => decimal

end Reader
end TickScript.Document
