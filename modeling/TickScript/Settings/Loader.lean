import TickScript.Settings.File
import TickScript.Settings.Environment

/-! # Loading settings

    Settings come from a file, overridden by the environment.  The file is either named, and then
    has to exist, or found: it is the one with a fixed name in a directory or in the nearest
    directory above it that has one.  Without a file everything has its default.

    What surrounds the program is a record of actions in some monad, so that loading is the same
    function over a simulated tree and over a real one.
-/

namespace TickScript

/-- **What can be asked of the files.** -/
structure FileAccess (m : Type → Type) where
  read : String → m (Except FileFault Bytes)
  holds : String → m Bool

/-- **Settings and where they came from.** -/
structure LoadedSettings where
  settings : Settings
  /-- The path of the file, if there is one. -/
  source : Option String

namespace LoadedSettings

/-- The name of a settings file that can be found. -/
def fileName : String := "tickvm.toml"

variable {m : Type → Type} [Monad m]

/-- The first of some directories that has a settings file, as the path of that file. -/
def find (files : FileAccess m) : (dirs : List String) → m (Option String)
  | [] => return none
  | dir :: rest => do
    let path := Path.join dir fileName
    if ← files.holds path then return some path else find files rest

/-- What the environment makes of the settings of a file, checked. -/
def finish (overrides : Overrides) (source : Option String) (s : Settings) :
    Except SettingsFault LoadedSettings := do
  let s ← overrides.apply s
  s.validate
  return ⟨s, source⟩

/-- **Loads settings from a named file.** -/
def ofFile (files : FileAccess m) (overrides : Overrides) (path : String) :
    m (Except SettingsFault LoadedSettings) := do
  let content ← files.read path
  return (Settings.ofFile path content).bind (finish overrides (some path))

/-- **Loads the settings that hold in a directory.** -/
def ofDirectory (files : FileAccess m) (overrides : Overrides) (dir : String) :
    m (Except SettingsFault LoadedSettings) := do
  match ← find files (dir :: Path.above dir) with
  | some path => ofFile files overrides path
  | none => return finish overrides none .empty

end LoadedSettings
end TickScript
