import TickScript.Save.Data
import TickScript.Number.Decimal

/-! # Save data for readers

    Two ways to write what a save file holds: lines for people, and a JSON document for programs.
    Both keep the order of the file.
-/

namespace TickScript.SaveData

/-! ## Lines -/

/-- Lines for values that have no name but a place. -/
def placedLines (texts : List String) : String :=
  String.join (texts.zipIdx.map fun e => s!"  [{e.2}] " ++ e.1 ++ "\n")

/-- A line for each entry. -/
def entryLines : SaveData → String
  | names t => String.join (t.entries.map fun e =>
      "  " ++ e.1 ++ " = " ++ Decimal.plain.text e.2 ++ "\n")
  | ints values => placedLines (values.map fun v => toString v.toInt)
  | floats values => placedLines (values.map Decimal.plain.text)

/-- **The data as lines**: kind, number of entries, entries. -/
def lines (d : SaveData) : String :=
  "kind: " ++ d.kind.label ++ "\n" ++ s!"entries: {d.size}\n" ++ d.entryLines

/-! ## JSON -/

/-- A character of a JSON string. -/
def jsonChar (c : Char) : List Char :=
  if c = '"' then ['\\', '"']
  else if c = '\\' then ['\\', '\\']
  else if c = '\x08' then ['\\', 'b']
  else if c = '\t' then ['\\', 't']
  else if c = '\n' then ['\\', 'n']
  else if c = '\x0c' then ['\\', 'f']
  else if c = '\r' then ['\\', 'r']
  else if c.toNat < 0x20 then
    ['\\', 'u', '0', '0', Bytes.hexDigit (c.toNat / 16), Bytes.hexDigit (c.toNat % 16)]
  else [c]

/-- A JSON string. -/
def jsonString (s : String) : String :=
  String.ofList (['"'] ++ s.toList.flatMap jsonChar ++ ['"'])

/-- A JSON number; there is none for infinities. -/
def jsonNumber (s : Single) : String :=
  if s.isNaN || s.isInfinite then "null" else Decimal.dataNumber.text s

/-- Members of a list or an object that is a value of the document, a line for each. -/
def jsonGroup (opening closing : String) (members : List String) : String :=
  if members.isEmpty then opening ++ closing
  else opening ++ "\n" ++ ",\n".intercalate (members.map ("    " ++ ·)) ++ "\n  " ++ closing

/-- The word for a kind. -/
def jsonKind : SaveKind → String
  | .names => "map"
  | .ints => "int_vars"
  | .floats => "float_vars"

/-- The entries: an object of named numbers, or a list. -/
def jsonValues : SaveData → String
  | names t => jsonGroup "\x7b" "\x7d" (t.entries.map fun e =>
      jsonString e.1 ++ ": " ++ jsonNumber e.2)
  | ints values => jsonGroup "[" "]" (values.map fun v => toString v.toInt)
  | floats values => jsonGroup "[" "]" (values.map jsonNumber)

/-- **The data as a JSON document** of two members, kind and values. -/
def json (d : SaveData) : String :=
  "\x7b\n  " ++ jsonString "kind" ++ ": " ++ jsonString (jsonKind d.kind) ++ ",\n  " ++
    jsonString "values" ++ ": " ++ d.jsonValues ++ "\n\x7d"

end TickScript.SaveData
