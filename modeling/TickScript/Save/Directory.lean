import TickScript.Save.Data

/-! # The save directory

    Scripts name save files relative to one directory and must not leave it: a path that is
    empty, starts at the root or has a `..` among its components is rejected.
-/

namespace TickScript.SaveDirectory

/-- Whether a relative path stays below the directory it is joined to. -/
def stays (path : String) : Bool :=
  path ≠ "" && !(Path.parse path).absolute && !(Path.parse path).names.contains ".."

/-- **The path of a save file.** -/
def resolve (dir path : String) : Except SaveFault String :=
  if stays path then .ok (Path.join dir path) else .error (.pathRejected path)

/-- Writes save data, making the directories above the file; they stay also if it cannot be
    written. -/
def write (t : FileTree) (path : String) (data : SaveData) : FileTree × Except SaveFault Unit :=
  let (t, result) := t.write [] path data.toBytes
  (t, result.mapError .file)

/-- Save data at a path, given what the bytes there are; a path that does not exist holds
    none. -/
def decode (content : Except FileFault Bytes) : Except SaveFault (Option SaveData) :=
  match content with
  | .ok b => some <$> SaveData.ofBytes b
  | .error .notFound => .ok none
  | .error f => .error (.file f)

/-- Reads save data; a file that does not exist is none. -/
def read (t : FileTree) (path : String) : Except SaveFault (Option SaveData) :=
  decode (t.read [] path)

end TickScript.SaveDirectory
