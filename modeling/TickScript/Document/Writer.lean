import TickScript.Document.Quoted

/-! # Writing documents

    The texts of values and sections.  A list of two or more items has a line for each.
-/

namespace TickScript.Document

/-- **The text of a list.** -/
def listText : List String → String
  | [] => "[]"
  | [item] => "[" ++ item ++ "]"
  | items => "[\n" ++ String.join (items.map fun item => "    " ++ item ++ ",\n") ++ "]"

/-- **The text of a section**: its header, and a line for each value. -/
def sectionText (name : String) (values : List (String × String)) : String :=
  "[" ++ name ++ "]\n" ++ String.join (values.map fun v => v.1 ++ " = " ++ v.2 ++ "\n")

/-- A blank line between the sections. -/
def sectionsText (sections : List String) : String := "\n".intercalate sections

end TickScript.Document
