import TickScript.Number.Double

/-! # Decimal text of binary numbers

    Two exact conversions in whole-number arithmetic.

    * `shortest` finds the coarsest decimal grid that has a point in the interval of reals that
      round to the number, and of its points there the one nearest to the number.  The result
      has the fewest digits that read back.
    * `fixed` rounds to a given number of places, a tie going to the even digit.

    How the digits are laid out (point, exponent, `.0`) is a record, one for each output that
    prints numbers.
-/

namespace TickScript.Decimal

/-- What a value halfway between two candidates does. -/
inductive Tie where
  | up
  | even
  deriving DecidableEq

/-- **Digits and scale**, standing for `digits · 10^scale`. -/
structure Digits where
  digits : Nat
  scale : Int
  deriving DecidableEq

/-! ## Shortest digits -/

/-- The reals that round to `m · 2^e`, in units of `2^(e - 2)`: both ends, and whether they
    belong to it. -/
structure Interval where
  low : Nat
  mid : Nat
  high : Nat
  closed : Bool

/-- **Rounding interval** of a positive mantissa of `precision` bits.  Below a power of two the
    numbers are twice as dense, unless the exponent is already the least one. -/
def interval (precision : Nat) (leastExponent : Int) (m : Nat) (e : Int) : Interval :=
  let narrow := m = Nat.pow 2 (precision - 1) ∧ leastExponent < e
  ⟨4 * m - (if narrow then 1 else 2), 4 * m, 4 * m + 2, m % 2 = 0⟩

/-- Whether `a` lies in the interval after both are brought to one unit. -/
def Interval.holds (i : Interval) (unit : Nat) (a : Nat) : Bool :=
  if i.closed then i.low * unit ≤ a ∧ a ≤ i.high * unit
  else i.low * unit < a ∧ a < i.high * unit

/-- The point of the grid `10^k` that lies in the interval and is nearest to its number, if
    there is one.  Numbers are compared after multiplying by `num`, grid points by `den`. -/
def onGrid (tie : Tie) (i : Interval) (num den : Nat) : Option Nat :=
  let below := i.mid * num / den
  let above := below + 1
  let lowHit := decide (0 < below) && i.holds num (below * den)
  let highHit := i.holds num (above * den)
  match lowHit, highHit with
  | false, false => none
  | true, false => some below
  | false, true => some above
  | true, true =>
    let toBelow := i.mid * num - below * den
    let toAbove := above * den - i.mid * num
    if toBelow < toAbove then some below
    else if toAbove < toBelow then some above
    else match tie with
      | .up => some above
      | .even => some (if below % 2 = 0 then below else above)

/-- Tries the grids `10^k`, `10^(k-1)`, … -/
def search (tie : Tie) (i : Interval) (e : Int) : Nat → Int → Digits
  | 0, k => ⟨0, k⟩
  | fuel + 1, k =>
    -- number = mid · 2^(e-2), grid point = n · 10^k
    let two := (e - 2).toNat
    let twoDen := (2 - e).toNat
    let num := Nat.pow 2 two * Nat.pow 10 (-k).toNat
    let den := Nat.pow 2 twoDen * Nat.pow 10 k.toNat
    match onGrid tie i num den with
    | some n => ⟨n, k⟩
    | none => search tie i e fuel (k - 1)

/-- **Fewest digits that read back** as the positive `m · 2^e`. -/
def shortest (tie : Tie) (precision : Nat) (leastExponent : Int) (m : Nat) (e : Int) : Digits :=
  -- no grid coarser than the number itself can have a point in the interval
  let start : Int := ((m.log2 : Int) + 1 + max e 0) * 31 / 100 + 1
  search tie (interval precision leastExponent m e) e
    (start.toNat + (-e).toNat + 2) start

/-! ## Fixed places -/

/-- `num / den` to the nearest whole number, a tie to the even one. -/
def roundDiv (num den : Nat) : Nat :=
  let q := num / den
  let r := num % den
  if 2 * r < den then q
  else if den < 2 * r then q + 1
  else if q % 2 = 0 then q else q + 1

/-- Text of the digits of `n` with the point before the last `places` of them. -/
def pointed (n places : Nat) : String :=
  let text := toString n
  let padded := String.ofList (List.replicate (places + 1 - text.length) '0') ++ text
  let cut := padded.length - places
  String.ofList (padded.toList.take cut) ++
    (if places = 0 then "" else "." ++ String.ofList (padded.toList.drop cut))

/-- A finite number with exactly `places` decimals. -/
def fixed (places : Nat) (s : Scaled) : String :=
  let num := s.mantissa * Nat.pow 2 s.exponent.toNat * Nat.pow 10 places
  let den := Nat.pow 2 (-s.exponent).toNat
  (if s.negative then "-" else "") ++ pointed (roundDiv num den) places

/-! ## Layouts -/

/-- **Layout of shortest digits.**  A value whose leading digit stands at `10^p` is positional
    for `lowest ≤ p < highest` and has an exponent otherwise. -/
structure Layout where
  /-- Digits at an exact tie. -/
  tie : Tie
  /-- Least leading place written without an exponent. -/
  lowest : Option Int
  /-- First leading place written with an exponent. -/
  highest : Option Int
  /-- Whether a whole number is written with `.0`. -/
  wholePoint : Bool
  /-- Whether a positive exponent has a sign. -/
  exponentPlus : Bool

/-- The digits of `n · 10^k` without an exponent. -/
def Layout.positional (l : Layout) (d : Digits) : String :=
  let text := toString d.digits
  if 0 ≤ d.scale then
    text ++ String.ofList (List.replicate d.scale.toNat '0') ++ (if l.wholePoint then ".0" else "")
  else pointed d.digits (-d.scale).toNat

/-- The digits of `n · 10^k` with an exponent. -/
def Layout.scientific (l : Layout) (d : Digits) : String :=
  let text := toString d.digits
  let place := d.scale + text.length - 1
  let tail := String.ofList (text.toList.drop 1)
  String.ofList (text.toList.take 1) ++ (if tail.isEmpty then "" else "." ++ tail) ++ "e" ++
    (if 0 ≤ place && l.exponentPlus then "+" else "") ++ toString place

/-- A finite single in the layout. -/
def Layout.finite (l : Layout) (s : Single) : String :=
  let v := s.scaled
  let body :=
    if v.mantissa = 0 then l.positional ⟨0, 0⟩
    else
      let d := shortest l.tie 24 (-149) v.mantissa v.exponent
      let place := d.scale + (toString d.digits).length - 1
      let small := l.lowest.any (place < ·)
      let large := l.highest.any (· ≤ place)
      if small || large then l.scientific d else l.positional d
  (if v.negative then "-" else "") ++ body

/-- A single in the layout; the three other classes by name. -/
def Layout.text (l : Layout) (s : Single) : String :=
  if s.isNaN then "NaN"
  else if s.isInfinite then (if s.isNegative then "-inf" else "inf")
  else l.finite s

/-- **Plain numbers**, as scripts print them: never an exponent, no `.0`. -/
def plain : Layout := ⟨.up, none, none, false, false⟩

/-- **Literals in listings**: `.0` on whole numbers, an exponent below `1e-4` and from `1e16`. -/
def literal : Layout := ⟨.up, some (-4), some 16, true, false⟩

/-- **Numbers in data files**: `.0` on whole numbers, an exponent below `1e-6` and from `1e13`. -/
def dataNumber : Layout := ⟨.even, some (-6), some 13, true, true⟩

/-- A single with six decimals; the three other classes by name. -/
def sixPlaces (s : Single) : String :=
  if s.isNaN then "NaN"
  else if s.isInfinite then (if s.isNegative then "-inf" else "inf")
  else fixed 6 s.scaled

end TickScript.Decimal
