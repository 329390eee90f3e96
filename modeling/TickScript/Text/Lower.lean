import TickScript.Text.CaseTable

/-! # Lowercase text

    Names of map entries and of constants are looked up in lower case.  Lowering is the full
    mapping of the Unicode Standard: character by character, except that a capital I with a dot
    becomes two characters and a capital sigma has a form of its own at the end of a word.
-/

namespace TickScript.Text

/-- Whether the code point lies in one of the ranges. -/
def inRanges (ranges : List (Nat × Nat)) (n : Nat) : Bool :=
  ranges.any fun r => r.1 ≤ n && n ≤ r.2

/-- Whether the run maps the code point. -/
def CaseRun.covers (r : CaseRun) (n : Nat) : Bool :=
  r.first ≤ n && n ≤ r.last && (n - r.first) % r.stride == 0

/-- The one-character lowercase form; a character without one is its own. -/
def lowerChar (c : Char) : Char :=
  match caseRuns.find? (·.covers c.toNat) with
  | some r => Char.ofNat ((c.toNat : Int) + r.shift).toNat
  | none => c

/-- Whether the first character that is not skipped has case. -/
def startsCased (cs : List Char) : Bool :=
  match cs.find? (fun c => !inRanges caseIgnorable c.toNat) with
  | some c => inRanges casedLetters c.toNat
  | none => false

/-- **Lowercase form in context**: `before` holds the characters to the left, nearest first. -/
def lowerIn (before : List Char) (c : Char) (after : List Char) : List Char :=
  if c = 'Σ' then [if startsCased before && !startsCased after then 'ς' else 'σ']
  else if c = 'İ' then ['i', Char.ofNat 0x307]
  else [lowerChar c]

/-- Lowers the characters of a text whose earlier part is `before`, nearest first. -/
def lowerFrom : (before after : List Char) → List Char
  | _, [] => []
  | before, c :: rest => lowerIn before c rest ++ lowerFrom (c :: before) rest

/-- **Lowercase form of a text.** -/
def lower (s : String) : String := String.ofList (lowerFrom [] s.toList)

/-- Lowercase form of the ASCII letters only. -/
def lowerAscii (s : String) : String := s.map Char.toLower

end TickScript.Text
