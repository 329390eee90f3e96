import TickScript.Bytes
import TickScript.Text.Blank

/-! # Code as hexadecimal text

    On the command line code is a text of hexadecimal digits.  White space is ignored, and so is
    every `0x` in front.  Two digits make a byte, and a plus may stand for the first of them.
    Lengths are counted in bytes of UTF-8, as is the place of a pair that is wrong.
-/

namespace TickScript

/-- **Why a text is no code.** -/
inductive HexFault where
  | oddLength
  /-- Two bytes that spell text, but no digits. -/
  | notDigits (pair : String) (index : Nat)
  /-- Two bytes that cut a character; the first of its bytes has this index among them. -/
  | cutCharacter (index : Nat)
  deriving DecidableEq

/-- The text of a fault. -/
def HexFault.message : HexFault → String
  | oddLength => "hex input has an odd number of digits"
  | notDigits pair index => "invalid hex digits '" ++ pair ++ s!"' at byte {index}"
  | cutCharacter index => s!"incomplete utf-8 byte sequence from index {index}"

namespace HexText

/-- Without the marks of the base in front. -/
def dropMarks : List Char → List Char
  | '0' :: 'x' :: rest => dropMarks rest
  | text => text

/-- **The characters that count.** -/
def digits (text : String) : List Char :=
  (dropMarks (Text.trimBlank text.toList)).filter fun c => !Text.isBlank c

/-- The value of two digits. -/
def pair? (c d : Char) : Option UInt8 := do
  let high ← if c = '+' then some 0 else Bytes.hexValue? c
  let low ← Bytes.hexValue? d
  return UInt8.ofNat (high * 16 + low)

/-- The bytes that pairs of digits spell; `index` counts the pairs before. -/
def pairs : (index : Nat) → List Char → Except HexFault Bytes
  | _, [] => .ok []
  | index, c :: rest =>
    if c.utf8Size = 1 then
      match rest with
      | [] => .error .oddLength
      | d :: rest =>
        if d.utf8Size = 1 then
          match pair? c d with
          | some b => (b :: ·) <$> pairs (index + 1) rest
          | none => .error (.notDigits (String.ofList [c, d]) index)
        else .error (.cutCharacter 1)
    else if c.utf8Size = 2 then .error (.notDigits (String.singleton c) index)
    else .error (.cutCharacter 0)

/-- **The bytes that a text spells.** -/
def parse (text : String) : Except HexFault Bytes :=
  let cs := digits text
  if (String.ofList cs).utf8ByteSize % 2 = 0 then pairs 0 cs else .error .oddLength

end HexText
end TickScript
