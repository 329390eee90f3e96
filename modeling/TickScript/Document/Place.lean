/-! # Places in a text

    A place in a text is given by how many characters are left there.  A reader that sees only
    what it has not read yet can tell its place, whatever stands in front of it.  People are told
    the line and the column instead, both counted from one.
-/

namespace TickScript

/-- **Something written in a text**, with the number of characters left where it starts. -/
structure Placed (α : Type) where
  left : Nat
  value : α
  deriving Inhabited

/-- **Line and column.** -/
structure Position where
  line : Nat
  column : Nat
  deriving DecidableEq

namespace Position

/-- The characters behind the last line end. -/
def lastLine (text : List Char) : List Char := (text.reverse.takeWhile (· ≠ '\n')).reverse

/-- The position behind some characters, in columns of the given width for each character. -/
def behind (width : Char → Nat) (text : List Char) : Position :=
  ⟨text.count '\n' + 1, (lastLine text).foldl (fun n c => n + width c) 1⟩

/-- **The position of a place.**  A column is a character, but in front of a character of several
    bytes it is a byte.  The end of a text is one column behind its last character, also if that
    is a line end. -/
def ofLeft (text : List Char) (left : Nat) : Position :=
  let before := text.take (text.length - left)
  match text.drop (text.length - left), text with
  | c :: _, _ => behind (if c.utf8Size = 1 then fun _ => 1 else Char.utf8Size) before
  | [], [] => ⟨1, 1⟩
  | [], _ :: _ =>
    let last := behind (fun _ => 1) text.dropLast
    ⟨last.line, last.column + 1⟩

end Position
end TickScript
