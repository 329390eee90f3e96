import TickScript.NameTable
import TickScript.Text.Utf8
import TickScript.Files.Tree

/-! # Save data and its byte form

    A save file holds one of an entity's three stores.  All words are little-endian:

        "TKSV"  version: 2 bytes  kind: 1 byte  count: 4 bytes
        named numbers:  (name length: 4 bytes, name in UTF-8, single) × count
        integers:       4 bytes × count
        singles:        4 bytes × count

    Reading stops after the counted entries; bytes that follow are not looked at.
-/

namespace TickScript

/-- **Which store a file holds.** -/
inductive SaveKind where
  | names
  | ints
  | floats
  deriving DecidableEq

namespace SaveKind

/-- The kind that a number selects. -/
def ofCode? (code : Int32) : Option SaveKind :=
  if code = 0 then some names
  else if code = 1 then some ints
  else if code = 2 then some floats
  else none

/-- The number of a kind. -/
def code : SaveKind → UInt8
  | names => 0
  | ints => 1
  | floats => 2

/-- The name that messages use. -/
def label : SaveKind → String
  | names => "Map"
  | ints => "IntVars"
  | floats => "FloatVars"

end SaveKind

/-- Why save data cannot be read or a save file cannot be used. -/
inductive SaveFault where
  | badMagic
  | unsupportedVersion (version : Nat)
  | unknownKind (code : UInt8)
  | kindMismatch (expected found : SaveKind)
  | truncated (offset : Nat)
  | invalidUtf8 (offset : Nat)
  | pathRejected (path : String)
  | file (fault : FileFault)
  deriving DecidableEq

/-- The one version of the format. -/
def saveVersion : Nat := 1

/-- The text of a fault. -/
def SaveFault.message : SaveFault → String
  | badMagic => "Not a save-state file (bad magic)"
  | unsupportedVersion v =>
    s!"Save-state version {v} is not supported (expected {saveVersion})"
  | unknownKind c => s!"Unknown save-state kind {c}"
  | kindMismatch expected found =>
    "Save-state holds " ++ found.label ++ ", expected " ++ expected.label
  | truncated offset => s!"Save-state truncated at byte {offset}"
  | invalidUtf8 offset => s!"Invalid UTF-8 in map key at byte {offset}"
  | pathRejected path => "Save path '" ++ path ++ "' must stay inside the save directory"
  | file fault => fault.message

/-- **Contents of a save file.** -/
inductive SaveData where
  | names (table : NameTable)
  | ints (values : List Int32)
  | floats (values : List Single)
  deriving DecidableEq

namespace SaveData

def kind : SaveData → SaveKind
  | names _ => .names
  | ints _ => .ints
  | floats _ => .floats

/-- The number of entries. -/
def size : SaveData → Nat
  | names t => t.size
  | ints vs => vs.length
  | floats vs => vs.length

/-! ## Writing -/

/-- The four bytes that every file starts with. -/
def magic : Bytes := [0x54, 0x4b, 0x53, 0x56]

/-- One named number. -/
def nameBytes (e : String × Single) : Bytes :=
  let name := Utf8.encode e.1
  Bytes.ofWord 4 name.length ++ name ++ e.2.toBytes

/-- The entries, one after the other. -/
def body : SaveData → Bytes
  | names t => t.entries.flatMap nameBytes
  | ints vs => vs.flatMap Bytes.ofInt32
  | floats vs => vs.flatMap Single.toBytes

/-- **Byte form.** -/
def toBytes (d : SaveData) : Bytes :=
  magic ++ Bytes.ofWord 2 saveVersion ++ [d.kind.code] ++ Bytes.ofWord 4 d.size ++ d.body

/-! ## Reading -/

/-- A place in the bytes: how many were read, and those that remain. -/
structure Cursor where
  offset : Nat
  rest : Bytes

/-- A reader that moves a cursor or faults. -/
abbrev Reader := StateT Cursor (Except SaveFault)

/-- The next `n` bytes. -/
def take (n : Nat) : Reader Bytes := fun c =>
  if c.rest.length < n then .error (.truncated c.offset)
  else .ok (c.rest.take n, ⟨c.offset + n, c.rest.drop n⟩)

/-- One named number. -/
def readName : Reader (String × Single) := do
  let length := Bytes.word (← take 4)
  let offset := (← get).offset
  let name ← take length
  match Utf8.decode? name with
  | none => throw (.invalidUtf8 offset)
  | some name => return (name, Single.ofBytes (← take 4))

/-- `count` things in a row. -/
def readMany (one : Reader α) : Nat → Reader (List α)
  | 0 => return []
  | count + 1 => do
    let first ← one
    return first :: (← readMany one count)

/-- The entries of a file of the given kind. -/
def readBody (kind : SaveKind) (count : Nat) : Reader SaveData :=
  match kind with
  | .names => do return .names (NameTable.ofList (← readMany readName count))
  | .ints => do return .ints (← readMany (Bytes.toInt32 <$> take 4) count)
  | .floats => do return .floats (← readMany (Single.ofBytes <$> take 4) count)

/-- A whole file. -/
def reader : Reader SaveData := do
  if (← take 4) ≠ magic then throw .badMagic
  let version := Bytes.word (← take 2)
  if version ≠ saveVersion then throw (.unsupportedVersion version)
  let code := (← take 1).headD 0
  match SaveKind.ofCode? (Int32.ofNat code.toNat) with
  | none => throw (.unknownKind code)
  | some kind => readBody kind (Bytes.word (← take 4))

/-- **Reads the byte form.** -/
def ofBytes (b : Bytes) : Except SaveFault SaveData := (·.1) <$> reader.run ⟨0, b⟩

end SaveData
end TickScript
