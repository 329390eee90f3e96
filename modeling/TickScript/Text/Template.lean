import TickScript.Value.Basic

/-! # Message templates

    A template is text with slots for parameters.  `%d` and `%i` show an integer, `%f` a number
    with six decimals and `%v` a value as it is; each takes the next parameter.  `%%` is a
    percent sign, `\n` and `\t` are a line break and a tab.  Everything else stands for itself,
    and so does a slot that finds no parameter left.
-/

namespace TickScript

/-- What a slot shows. -/
inductive SlotKind where
  | integer
  | sixPlaces
  | natural
  deriving DecidableEq

namespace SlotKind

/-- The kind of slot that a letter behind a percent sign makes. -/
def ofChar? (c : Char) : Option SlotKind :=
  if c = 'd' ∨ c = 'i' then some integer
  else if c = 'f' then some sixPlaces
  else if c = 'v' then some natural
  else none

/-- The text of a parameter in the slot. -/
def text (k : SlotKind) (v : Value) : String :=
  match k with
  | integer => toString v.toInt32.toInt
  | sixPlaces => Decimal.sixPlaces v.toSingle
  | natural => v.text

end SlotKind

namespace Template

/-- **A part of a template.** -/
inductive Piece where
  | char (c : Char)
  /-- A slot, with the letter that made it. -/
  | slot (kind : SlotKind) (letter : Char)
  deriving DecidableEq

/-- The piece that two neighbouring characters form together. -/
def pair? (c d : Char) : Option Piece :=
  if c = '\\' then
    if d = 'n' then some (.char '\n') else if d = 't' then some (.char '\t') else none
  else if c = '%' then
    if d = '%' then some (.char '%') else (SlotKind.ofChar? d).map (Piece.slot · d)
  else none

/-- The pieces of a template. -/
def pieces : List Char → List Piece
  | [] => []
  | [c] => [.char c]
  | c :: d :: rest =>
    match pair? c d with
    | some p => p :: pieces rest
    | none => .char c :: pieces (d :: rest)

/-- Shows the pieces, taking parameters from the list. -/
def fill : List Piece → List Value → String
  | [], _ => ""
  | .char c :: rest, params => String.singleton c ++ fill rest params
  | .slot kind _ :: rest, v :: params => kind.text v ++ fill rest params
  | .slot _ letter :: rest, [] => "%" ++ String.singleton letter ++ fill rest []

end Template

/-- **A template with its slots filled.** -/
def fillTemplate (template : String) (params : List Value) : String :=
  Template.fill (Template.pieces template.toList) params

end TickScript
