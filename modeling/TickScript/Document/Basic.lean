import TickScript.Document.Place

/-! # Documents

    A settings file is a document in the TOML format: tables of keys whose values are texts,
    whole numbers, lists and tables.  The format has other values too (fractions, truth values,
    dates), but no setting takes one, so what they say is not kept.

    A document may not say anything twice.  Whether a table may still be added to depends on how
    it came to be, so each table keeps its origin.  Keys and items keep their places, for a
    fault that is found later is reported where it stands.
-/

namespace TickScript

/-- **How a table came to be.** -/
inductive TableOrigin where
  /-- Written in braces, and complete. -/
  | braces
  /-- Opened by a header of its own. -/
  | header
  /-- On the way to the table of a header. -/
  | path
  /-- On the way to the value of a dotted key. -/
  | dotted
  deriving DecidableEq

/-- **Value of a key.** -/
inductive Datum where
  | text (s : String)
  | number (n : Int)
  /-- A fraction, a truth value or a date. -/
  | other
  /-- A growing list has a table for each header that names it. -/
  | list (growing : Bool) (items : List (Placed Datum))
  | table (origin : TableOrigin) (entries : List (Placed String × Placed Datum))
  deriving Inhabited

/-- A part of a dotted key. -/
abbrev Key := Placed String

/-- **A value and its place.**  The place of a table that only lies on the way to others is that
    of its key. -/
abbrev Item := Placed Datum

/-- **Document**: its entries in the order in which they were written. -/
abbrev Document := List (Key × Item)

namespace Document

/-- The item of a key. -/
def item? (d : Document) (name : String) : Option Item :=
  (d.find? fun e => e.1.value == name).map (·.2)

/-- The document with one item in place of the item of the same key. -/
def replace (d : Document) (name : String) (item : Item) : Document :=
  d.map fun e => if e.1.value == name then (e.1, item) else e

/-- The document without a key. -/
def erase (d : Document) (name : String) : Document := d.filter fun e => e.1.value != name

/-! ## Tables on the way -/

/-- **Changes the table of a key.**  One that is not there is made with the given origin; one
    that is there has to have an origin that is let pass.  The key of a growing list leads to the
    last of its tables, wherever a table on the way to a header would be let pass. -/
def within (made : TableOrigin) (passes : TableOrigin → Bool) (key : Key)
    (change : Document → Option Document) (d : Document) : Option Document :=
  match d.item? key.value with
  | none => do
    let entries ← change []
    return d ++ [(key, ⟨key.left, .table made entries⟩)]
  | some ⟨left, .table origin entries⟩ =>
    if passes origin then do
      let entries ← change entries
      return d.replace key.value ⟨left, .table origin entries⟩
    else none
  | some ⟨left, .list true items⟩ =>
    match items.getLast?, passes .path with
    | some ⟨start, .table origin entries⟩, true => do
      let entries ← change entries
      let last : Item := ⟨start, .table origin entries⟩
      return d.replace key.value ⟨left, .list true (items.dropLast ++ [last])⟩
    | _, _ => none
  | some _ => none

/-- Changes the table that a header names, which may not be in braces. -/
def below (change : Document → Option Document) :
    (path : List Key) → Document → Option Document
  | [] => change
  | key :: rest => within .path (· ≠ .braces) key (below change rest)

/-! ## Headers -/

/-- Opens a table, which may be on the way to an earlier header but may not have been opened or
    written in another way. -/
def openTable (left : Nat) (key : Key) (d : Document) : Option Document :=
  match d.item? key.value with
  | none => some (d ++ [(key, ⟨left, .table .header []⟩)])
  | some ⟨_, .table .path entries⟩ =>
    some (d.erase key.value ++ [(key, ⟨left, .table .header entries⟩)])
  | some _ => none

/-- Adds a table to a growing list. -/
def openRow (left : Nat) (key : Key) (d : Document) : Option Document :=
  let row : Item := ⟨left, .table .header []⟩
  match d.item? key.value with
  | none => some (d ++ [(key, ⟨left, .list true [row]⟩)])
  | some ⟨first, .list true rows⟩ =>
    some (d.replace key.value ⟨first, .list true (rows ++ [row])⟩)
  | some _ => none

/-- **Opens the table of a header**, which stands where `left` characters are left. -/
def addHeader (left : Nat) (growing : Bool) (path : List Key) (d : Document) : Option Document :=
  match path.getLast? with
  | none => none
  | some key => d.below (if growing then openRow left key else openTable left key) path.dropLast

/-! ## Values -/

/-- **Adds the value of a dotted key.**  The table that gets it has to be made by dotted keys
    too, unless the key has no dots; the tables above that one may also be on the way to a
    header. -/
def addValue (item : Item) : (path : List Key) → Document → Option Document
  | [], _ => none
  | [key], d => if (d.item? key.value).isSome then none else some (d ++ [(key, item)])
  | key :: rest, d =>
    d.within .dotted (fun o => o = .dotted || (o = .path && 1 < rest.length)) key
      (addValue item rest)

end Document
end TickScript
