import TickScript.Document.Reader

/-! # Dates and times in documents

    A moment is a date, a time of the day, or both, then perhaps with the distance of its zone.
    Its fields have a fixed number of digits and fixed ranges; the days of a month are those of
    the calendar.  What a moment says is not kept.
-/

namespace TickScript.Document

/-- The number that decimal digits spell. -/
def decimalValue (digits : List Char) : Nat :=
  digits.foldl (fun n c => n * 10 + (c.toNat - '0'.toNat)) 0

/-- The days of a month. -/
def daysIn (year month : Nat) : Nat :=
  if month = 2 then
    if year % 4 = 0 ∧ (year % 100 ≠ 0 ∨ year % 400 = 0) then 29 else 28
  else if month = 4 ∨ month = 6 ∨ month = 9 ∨ month = 11 then 30
  else 31

namespace Reader

/-- A number of exactly `width` digits that lies in a range. -/
def field (width low high : Nat) : Reader Nat := fun text =>
  let digits := text.take width
  let n := decimalValue digits
  if digits.length = width ∧ digits.all Char.isDigit ∧ low ≤ n ∧ n ≤ high then
    .ok (n, text.drop width)
  else .error text.length

/-- Whether the reader finds what it looks for; nothing is taken. -/
def finds {α : Type} (r : Reader α) (text : List Char) : Bool := (r.run text).toBool

def hour : Reader Nat := field 2 0 23
def minute : Reader Nat := field 2 0 59
/-- A second; the last minute of a day may have one more. -/
def second : Reader Nat := field 2 0 60

/-- The start of a date: a year and a dash. -/
def yearDash : Reader Nat := do
  let year ← field 4 0 9999
  expect ['-']
  return year

/-- The start of a time: an hour and a colon. -/
def hourColon : Reader Unit := do
  let _ ← hour
  expect [':']

/-- A date. -/
def date : Reader Unit := do
  let year ← yearDash
  let month ← field 2 1 12
  expect ['-']
  let _ ← field 2 1 (daysIn year month)

/-- A part of a second, if one follows. -/
def partOfSecond : Reader Unit := fun text =>
  match text with
  | '.' :: c :: rest => .ok ((), if c.isDigit then rest.dropWhile Char.isDigit else text)
  | _ => .ok ((), text)

/-- A time of the day. -/
def time : Reader Unit := do
  hourColon
  let _ ← minute
  expect [':']
  let _ ← second
  partOfSecond

/-- The distance of a zone, if one follows. -/
def zone : Reader Unit := do
  match ← get with
  | 'Z' :: rest | 'z' :: rest => set rest
  | '+' :: rest | '-' :: rest =>
    set rest
    hourColon
    let _ ← minute
  | _ => return ()

/-- The time behind a date, if one follows. -/
def timeOfDate : Reader Unit := do
  match ← get with
  | c :: rest =>
    if (c = 'T' || c = 't' || c = ' ') && finds hourColon rest then
      set rest
      time
      zone
  | [] => return ()

/-- **A moment**, if one follows. -/
def moment? : Reader Bool := do
  let text ← get
  if finds yearDash text then
    date
    timeOfDate
    return true
  else if finds hourColon text then
    time
    return true
  else return false

end Reader
end TickScript.Document
