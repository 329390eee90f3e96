import TickScript.Document.Value

/-! # Reading documents

    A document is a sequence of lines: blank ones and comments, headers that open a table, and
    `key = value` below them.  A header in single brackets opens one table, a header in double
    brackets adds a table to a list.
-/

namespace TickScript.Document

namespace Reader

/-- A header: its path, and whether its brackets are double. -/
def header : Reader (List Key × Bool) := do
  match ← get with
  | '[' :: '[' :: rest =>
    set rest
    spaces
    let path ← dottedKey
    expect [']', ']']
    return (path, true)
  | '[' :: c :: rest =>
    set (c :: rest)
    spaces
    let path ← dottedKey
    expect [']']
    return (path, false)
  | _ => fail

/-- A key and its value. -/
def assignment : Reader (List Key × Item) := do
  let path ← dottedKey
  expect ['=']
  spaces
  return (path, ← placed (value nestingLimit))

/-- The lines from here on; `here` is the path of the last header.  What is said twice is a fault
    at the start of its line. -/
def lines : (budget : Nat) → (here : List Key) → Document → Reader Document
  | 0, _, _ => fail
  | budget + 1, here, d => do
    gap
    let start ← get
    match start.head? with
    | none => return d
    | some '[' =>
      let (path, growing) ← header
      lineEnd
      lines budget path (← ofOption start (d.addHeader start.length growing path))
    | some _ =>
      let (path, item) ← assignment
      lineEnd
      lines budget here (← ofOption start (d.below (addValue item path) here))

end Reader

/-- **Reads a document**; a fault is a place.  A mark of the byte order may stand in front. -/
def ofText (text : String) : Except Nat Document :=
  let text := match text.toList with
    | '\uFEFF' :: rest => rest
    | text => text
  (·.1) <$> (Reader.lines (text.length + 1) [] []).run text

end TickScript.Document
