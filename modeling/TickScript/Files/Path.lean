/-! # Path texts

    A path is read as its `/`-separated components.  Empty components and `.` mean nothing and
    are dropped; `..` is kept, for what it means depends on the tree.  A path that ends in a
    separator or in `.` can only name a directory.
-/

namespace TickScript

/-- **A path text, read.** -/
structure Path where
  /-- Starts at the root of the tree, not in the working directory. -/
  absolute : Bool
  /-- Components other than empty ones and `.`. -/
  names : List String
  /-- Can only name a directory. -/
  directory : Bool
  deriving DecidableEq

namespace Path

/-- The components between the separators, empty ones included. -/
def split (text : List Char) : List String := (text.splitOn '/').map String.ofList

/-- Whether a component counts. -/
def significant (name : String) : Bool := name ≠ "" && name ≠ "."

/-- Reads a path text. -/
def parse (text : String) : Path :=
  let parts := split text.toList
  let last := parts.getLast?.getD ""
  { absolute := text.toList.head? == some '/'
    names := parts.filter significant
    directory := !significant last || last == ".." }

/-- The text of a path below a directory: nothing is inserted before the first name or after a
    separator. -/
def join (dir path : String) : String :=
  if dir = "" then path
  else if dir.toList.getLast? = some '/' then dir ++ path
  else dir ++ "/" ++ path

/-! ## Directories above -/

/-- Drops components that mean nothing from the end, but never the first; components stand in
    reverse order. -/
def dropIdle : List String → List String
  | a :: b :: rest => if significant a then a :: b :: rest else dropIdle (b :: rest)
  | parts => parts

/-- The text with these components, in reverse order; one empty component is the root or no
    path at all. -/
def unsplit (absolute : Bool) (parts : List String) : String :=
  if absolute && parts == [""] then "/" else "/".intercalate parts.reverse

/-- The directories above the one with these components, which are in reverse order. -/
def aboveParts (absolute : Bool) : (budget : Nat) → (parts : List String) → List String
  | 0, _ => []
  | budget + 1, parts =>
    match dropIdle parts with
    | [] | [""] => []
    | _ :: rest =>
      let rest := dropIdle rest
      unsplit absolute rest :: aboveParts absolute budget rest

/-- **The directories above a path**, from the nearest on.  They are found by the text alone: the
    last component is dropped, also if it is `..`. -/
def above (text : String) : List String :=
  let parts := split text.toList
  aboveParts (text.toList.head? == some '/') parts.length parts.reverse

end Path
end TickScript
