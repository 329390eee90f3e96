import TickScript.Bytes
import TickScript.Files.Path

/-! # A tree of directories and files

    The part of a file system that the program can observe: which names exist, which are
    directories, and what the files hold.  A location is the list of names from the root.  A
    path is followed name by name, and every name before the last has to be a directory.
-/

namespace TickScript

/-- Why a path could not be used. -/
inductive FileFault where
  | notFound
  | notDirectory
  | isDirectory
  | alreadyExists
  | nameTooLong
  | zeroInName
  /-- A fault of a real file system that has no place in the tree. -/
  | other (reason : String)
  deriving DecidableEq

/-- The wording of the operating system.  The fault that never reaches it has no number. -/
def FileFault.message : FileFault → String
  | .notFound => "No such file or directory (os error 2)"
  | .alreadyExists => "File exists (os error 17)"
  | .notDirectory => "Not a directory (os error 20)"
  | .isDirectory => "Is a directory (os error 21)"
  | .nameTooLong => "File name too long (os error 36)"
  | .zeroInName => "file name contained an unexpected NUL byte"
  | .other reason => reason

/-- What a location holds. -/
inductive FileNode where
  | directory
  | file (content : Bytes)
  deriving DecidableEq

/-- Names from the root. -/
abbrev Location := List String

/-- **File tree**: the locations below the root that exist. -/
structure FileTree where
  nodes : List (Location × FileNode)
  deriving DecidableEq

namespace FileTree

/-- The tree with a root and nothing in it. -/
def empty : FileTree := ⟨[]⟩

instance : Inhabited FileTree := ⟨empty⟩

/-- What a location holds; the root is a directory. -/
def node? (t : FileTree) (place : Location) : Option FileNode :=
  match place with
  | [] => some .directory
  | _ => (t.nodes.find? fun e => e.1 == place).map (·.2)

/-- Puts a node at a location. -/
def put (t : FileTree) (place : Location) (node : FileNode) : FileTree :=
  ⟨(place, node) :: t.nodes.filter fun e => e.1 != place⟩

/-- The longest name a directory can hold, in bytes. -/
def nameLimit : Nat := 255

/-- The longest path text that can be followed, in bytes. -/
def pathLimit : Nat := 4095

/-- Whether the location is a directory. -/
def checkDirectory (t : FileTree) (place : Location) : Except FileFault Unit :=
  match t.node? place with
  | none => .error .notFound
  | some (.file _) => .error .notDirectory
  | some .directory => .ok ()

/-- Follows names from a location; all but the last have to lead through directories. -/
def follow (t : FileTree) : Location → List String → Except FileFault Location
  | place, [] => .ok place
  | place, name :: rest => do
    t.checkDirectory place
    if name = ".." then t.follow place.dropLast rest
    else if nameLimit < name.utf8ByteSize then .error .nameTooLong
    else t.follow (place ++ [name]) rest

/-- The location a path text names, seen from a working directory.  A path that is too long is
    refused before anything is looked up. -/
def locate (t : FileTree) (working : Location) (text : String) : Except FileFault Location :=
  if text.toList.contains '\x00' then .error .zeroInName
  else if text = "" then .error .notFound
  else if pathLimit < text.utf8ByteSize then .error .nameTooLong
  else
    let p := Path.parse text
    t.follow (if p.absolute then [] else working) p.names

/-- **Content of a file.** -/
def read (t : FileTree) (working : Location) (text : String) : Except FileFault Bytes := do
  let place ← t.locate working text
  match t.node? place with
  | none => .error .notFound
  | some .directory => .error .isDirectory
  | some (.file content) =>
    if (Path.parse text).directory then .error .notDirectory else .ok content

/-- Whether the path names something. -/
def holds (t : FileTree) (working : Location) (text : String) : Bool :=
  match t.locate working text with
  | .error _ => false
  | .ok place =>
    match t.node? place with
    | none => false
    | some .directory => true
    | some (.file _) => !(Path.parse text).directory

/-! ## Writing

    A write that faults may have made directories before; they stay. -/

/-- Makes the location and everything above it a directory. -/
def makeDirectories (t : FileTree) (above : Location) :
    List String → FileTree × Except FileFault Unit
  | [] => (t, .ok ())
  | name :: rest =>
    let place := above ++ [name]
    if nameLimit < name.utf8ByteSize then (t, .error .nameTooLong)
    else match t.node? place with
      | some (.file _) => (t, .error (if rest.isEmpty then .alreadyExists else .notDirectory))
      | some .directory => t.makeDirectories place rest
      | none => (t.put place .directory).makeDirectories place rest

/-- Writes a file in a directory that exists. -/
def overwrite (t : FileTree) (working : Location) (text : String) (content : Bytes) :
    Except FileFault FileTree := do
  let place ← t.locate working text
  let directory := (Path.parse text).directory
  match t.node? place with
  | some .directory => throw .isDirectory
  | some (.file _) => if directory then throw .notDirectory else return t.put place (.file content)
  | none => if directory then throw .isDirectory else return t.put place (.file content)

/-- **Writes a file**, making the directories above it. -/
def write (t : FileTree) (working : Location) (text : String) (content : Bytes) :
    FileTree × Except FileFault Unit :=
  let p := Path.parse text
  let above := p.names.dropLast
  if above.any fun name => name.toList.contains '\x00' then (t, .error .zeroInName)
  else if (Path.above text).head?.any (pathLimit < ·.utf8ByteSize) then (t, .error .nameTooLong)
  else match t.makeDirectories (if p.absolute then [] else working) above with
    | (t, .error f) => (t, .error f)
    | (t, .ok ()) =>
      match t.overwrite working text content with
      | .error f => (t, .error f)
      | .ok t => (t, .ok ())

end FileTree
end TickScript
