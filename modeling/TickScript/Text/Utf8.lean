import TickScript.Bytes

/-! # UTF-8

    A decoder that runs octet by octet, and its two uses: reading text that must be valid
    (`decode?`) and reading text that may be anything (`lossy`), where each longest prefix of a
    character that cannot be completed counts as one replacement character.
-/

namespace TickScript.Utf8

/-- **A character under way**: the bits so far, the octets still owed after the next one, and
    the range the next octet must lie in. -/
structure Pending where
  bits : Nat
  owed : Nat
  low : UInt8
  high : UInt8

/-- A decoded character, or octets that form none. -/
inductive Piece where
  | char (c : Char)
  | bad
  deriving DecidableEq

/-- The octet `b` between characters. -/
def start (b : UInt8) : List Piece × Option Pending :=
  let n := b.toNat
  if n < 0x80 then ([.char (Char.ofNat n)], none)
  else if n < 0xc2 then ([.bad], none)
  else if n < 0xe0 then ([], some ⟨n - 0xc0, 0, 0x80, 0xbf⟩)
  else if n = 0xe0 then ([], some ⟨0, 1, 0xa0, 0xbf⟩)
  else if n = 0xed then ([], some ⟨0xd, 1, 0x80, 0x9f⟩)
  else if n < 0xf0 then ([], some ⟨n - 0xe0, 1, 0x80, 0xbf⟩)
  else if n = 0xf0 then ([], some ⟨0, 2, 0x90, 0xbf⟩)
  else if n < 0xf4 then ([], some ⟨n - 0xf0, 2, 0x80, 0xbf⟩)
  else if n = 0xf4 then ([], some ⟨4, 2, 0x80, 0x8f⟩)
  else ([.bad], none)

/-- The next octet.  One that does not fit ends the pending character and starts afresh. -/
def step : Option Pending → UInt8 → List Piece × Option Pending
  | none, b => start b
  | some p, b =>
    if p.low ≤ b ∧ b ≤ p.high then
      let bits := p.bits * 64 + b.toNat % 64
      match p.owed with
      | 0 => ([.char (Char.ofNat bits)], none)
      | owed + 1 => ([], some ⟨bits, owed, 0x80, 0xbf⟩)
    else
      let (pieces, next) := start b
      (.bad :: pieces, next)

/-- The pieces of a byte string after the pending character. -/
def pieces : Option Pending → Bytes → List Piece
  | none, [] => []
  | some _, [] => [.bad]
  | p, b :: rest =>
    let (out, next) := step p b
    out ++ pieces next rest

/-- All characters, if every piece is one. -/
def characters? : List Piece → Option (List Char)
  | [] => some []
  | .char c :: rest => (characters? rest).map (c :: ·)
  | .bad :: _ => none

/-- **Strict reading**: the text whose encoding the bytes are. -/
def decode? (b : Bytes) : Option String := (characters? (pieces none b)).map String.ofList

/-- The character that stands for octets that form none. -/
def replacement : Char := Char.ofNat 0xfffd

/-- **Lossy reading**: every piece that is no character becomes `replacement`. -/
def lossy (b : Bytes) : String :=
  String.ofList <| (pieces none b).map fun
    | .char c => c
    | .bad => replacement

/-- **Encoding of a text.** -/
def encode (s : String) : Bytes := s.toList.flatMap String.utf8EncodeChar

end TickScript.Utf8
