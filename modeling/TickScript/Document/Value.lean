import TickScript.Document.Key
import TickScript.Document.Number

/-! # Values in documents

    A value is a text, a number, a moment, a truth value, a list or a table in braces.  Lists and
    tables nest up to the limit.  A list may go over several lines, a table in braces may not.
-/

namespace TickScript.Document.Reader

/-- A word that means something, but nothing that is kept. -/
def word (letters : String) : Reader Datum := do
  expect letters.toList
  return .other

/-- A value with nothing in it. -/
def scalar : Reader Datum := do
  match ← peek with
  | some '"' | some '\'' => .text <$> quoted true
  | some 't' => word "true"
  | some 'f' => word "false"
  | some 'i' => word "inf"
  | some 'n' => word "nan"
  | some c => if c.isDigit || c == '+' || c == '-' then numeral else fail
  | none => fail

/-- The items of a list, up to the closing bracket. -/
def items (item : Reader Datum) : (budget : Nat) → Reader (List Item)
  | 0 => fail
  | budget + 1 => do
    gap
    if ← accept ']' then return []
    else
      let first ← placed item
      gap
      if ← accept ',' then return first :: (← items item budget)
      else
        expect [']']
        return [first]

/-- The keys and items of a table in braces from `start` on.  Where no key follows, what is left
    is again `start`. -/
def members (item : Reader Datum) :
    (budget : Nat) → (start : List Char) → Reader (List (List Key × Item))
  | 0, _ => fail
  | budget + 1, start => do
    spaces
    match ← dottedKey? with
    | none =>
      set start
      return []
    | some path =>
      expect ['=']
      spaces
      let first ← placed item
      spaces
      let rest ← get
      if ← accept ',' then return (path, first) :: (← members item budget rest)
      else return [(path, first)]

/-- A list. -/
def list (item : Reader Datum) : Reader Datum := do
  expect ['[']
  .list false <$> items item ((← get).length + 1)

/-- A table in braces.  What it says twice is a fault at its start. -/
def braces (item : Reader Datum) : Reader Datum := do
  expect ['\x7b']
  let start ← get
  let members ← members item (start.length + 1) start
  let entries ← ofOption start
    (members.foldlM (fun d (m : List Key × Item) => addValue m.2 m.1 d) ([] : Document))
  spaces
  expect ['\x7d']
  return .table .braces entries

/-- **A value** that nests at most so deep. -/
def value : (depth : Nat) → Reader Datum
  | 0 => scalar
  | depth + 1 => do
    match ← peek with
    | some '[' => list (value depth)
    | some '\x7b' => braces (value depth)
    | _ => scalar

end TickScript.Document.Reader
