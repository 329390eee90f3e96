import TickScript.Document.Basic

/-! # Readers of parts of a text

    A reader takes characters from the front of a text.  Where the text is malformed it answers
    with the place of the fault.
-/

namespace TickScript.Document

/-- **A reader** of a part of the text; a fault is a place. -/
abbrev Reader := StateT (List Char) (Except Nat)

namespace Reader

/-- Gives up at the next character. -/
def fail {α : Type} : Reader α := fun text => .error text.length

/-- Continues with a result that may be missing; then the fault is where this text is left. -/
def ofOption {α : Type} (start : List Char) (a : Option α) : Reader α :=
  fun text => match a with
    | some a => .ok (a, text)
    | none => .error start.length

/-- What is read, with its place. -/
def placed {α : Type} (r : Reader α) : Reader (Placed α) := do
  let start ← get
  return ⟨start.length, ← r⟩

/-- The next character, which stays. -/
def peek : Reader (Option Char) := fun text => .ok (text.head?, text)

/-- These characters have to follow. -/
def expect (word : List Char) : Reader Unit := fun text =>
  if word.isPrefixOf text then .ok ((), text.drop word.length) else .error text.length

/-- Takes the next character if it is this one. -/
def accept (c : Char) : Reader Bool
  | d :: rest => if c = d then .ok (true, rest) else .ok (false, d :: rest)
  | [] => .ok (false, [])

/-- The characters up to the first that is not in the class. -/
def takeWhile (p : Char → Bool) : Reader (List Char) :=
  fun text => .ok (text.takeWhile p, text.dropWhile p)

end Reader

/-! ## Blanks, line ends and comments -/

/-- Whether a character may stand in a line without an escape. -/
def isPlain (c : Char) : Bool := c == '\t' || (0x20 ≤ c.toNat && c.toNat ≠ 0x7f)

namespace Reader

/-- Whether the character is a blank within a line. -/
def isSpace (c : Char) : Bool := c == ' ' || c == '\t'

/-- Skips blanks within a line. -/
def spaces : Reader Unit := do
  let _ ← takeWhile isSpace

/-- Skips blanks, line ends and comments. -/
def skipGap : (inComment : Bool) → List Char → Except Nat (Unit × List Char)
  | _, [] => .ok ((), [])
  | _, '\r' :: '\n' :: rest => skipGap false rest
  | _, '\n' :: rest => skipGap false rest
  | true, c :: rest => if isPlain c then skipGap true rest else .error (rest.length + 1)
  | false, '#' :: rest => skipGap true rest
  | false, c :: rest => if isSpace c then skipGap false rest else .ok ((), c :: rest)

/-- Skips blanks, line ends and comments. -/
def gap : Reader Unit := skipGap false

/-- Ends a line, on which nothing but a comment may be left. -/
def lineEnd : Reader Unit := do
  spaces
  if ← accept '#' then
    let _ ← takeWhile isPlain
  match ← get with
  | [] => return ()
  | '\n' :: rest | '\r' :: '\n' :: rest => set rest
  | _ => fail

end Reader
end TickScript.Document
