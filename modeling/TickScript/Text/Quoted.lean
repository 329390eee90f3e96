import TickScript.Text.Lower
import TickScript.Text.HiddenTable
import TickScript.Bytes

/-! # Texts quoted for a reader

    A quoted text shows what it holds: quotes and backslashes have a backslash in front, a few
    controls have a letter, and characters that would not be seen are written by number.
-/

namespace TickScript.Text

/-- Whether a character is hidden in print. -/
def isHidden (c : Char) : Bool :=
  if c.toNat < 0x10000 then inRanges hiddenLow c.toNat else inRanges hiddenHigh c.toNat

/-- The hexadecimal digits of a number. -/
def hexText (n : Nat) : List Char := Nat.toDigits 16 n

/-- A character between double quotes. -/
def quoteChar (c : Char) : List Char :=
  if c = '\x00' then ['\\', '0']
  else if c = '\t' then ['\\', 't']
  else if c = '\n' then ['\\', 'n']
  else if c = '\r' then ['\\', 'r']
  else if c = '"' then ['\\', '"']
  else if c = '\\' then ['\\', '\\']
  else if isHidden c then ['\\', 'u', '\x7b'] ++ hexText c.toNat ++ ['\x7d']
  else [c]

/-- **A text between double quotes.** -/
def quoted (s : String) : String :=
  String.ofList (['"'] ++ s.toList.flatMap quoteChar ++ ['"'])

end TickScript.Text
