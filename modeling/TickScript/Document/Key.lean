import TickScript.Document.Quoted

/-! # Keys of documents

    A key is a word or a quoted text, or several of them between dots.  How deep a document goes
    is limited, so the parts of a key are limited too.
-/

namespace TickScript.Document

/-- How deep keys and values may nest. -/
def nestingLimit : Nat := 79

namespace Reader

/-- Whether the character may stand in a key without quotes. -/
def isKeyChar (c : Char) : Bool := c.isAlphanum || c == '_' || c == '-'

/-- A part of a key, if one follows. -/
def keyPart? : Reader (Option Key) := do
  match ← peek with
  | some '"' | some '\'' => some <$> placed (quoted false)
  | _ =>
    let word ← placed (takeWhile isKeyChar)
    if word.value.isEmpty then return none
    else return some ⟨word.left, String.ofList word.value⟩

/-- The parts behind the first, at most `budget`.  A dot that no part follows stays. -/
def keyParts : (budget : Nat) → Reader (List Key)
  | 0 => return []
  | budget + 1 => do
    let start ← get
    if ← accept '.' then
      spaces
      match ← keyPart? with
      | some key =>
        spaces
        return key :: (← keyParts budget)
      | none =>
        set start
        return []
    else return []

/-- A dotted key and the blanks behind it; none if no key follows or it has too many parts. -/
def dottedKey? : Reader (Option (List Key)) := do
  match ← keyPart? with
  | none => return none
  | some key =>
    spaces
    let path := key :: (← keyParts (← get).length)
    return if path.length ≤ nestingLimit then some path else none

/-- **A dotted key** and the blanks behind it. -/
def dottedKey : Reader (List Key) := do
  let start ← get
  ofOption start (← dottedKey?)

end Reader
end TickScript.Document
