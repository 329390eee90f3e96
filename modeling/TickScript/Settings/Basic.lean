import TickScript.Value.Arithmetic
import TickScript.Document.Place
import TickScript.Files.Path
import TickScript.Text.Blank
import TickScript.Text.Lower

/-! # Settings

    Every setting is optional and belongs to one of four sections.  A setting that is absent has
    a default, so an empty file and a missing file mean the same.  Settings are layered: what a
    later layer sets replaces what an earlier one set.
-/

namespace TickScript

/-- **Which bit order integer powers use.** -/
inductive PowSetting where
  /-- Chosen by the engine version of each library. -/
  | automatic
  | current
  | legacy
  deriving DecidableEq, Inhabited

/-- The word for a choice. -/
def PowSetting.word : PowSetting → String
  | automatic => "auto"
  | current => "current"
  | legacy => "legacy"

/-- Limits of evaluation. -/
structure RuntimeSection where
  maxStateChanges : Option UInt32
  maxLoopIterations : Option UInt32
  stackCapacity : Option Nat
  deriving DecidableEq

/-- Switches for content of older engines. -/
structure CompatSection where
  powBitOrder : Option PowSetting
  /-- The major versions that use the current order when the choice is automatic. -/
  currentPowMajors : Option (List UInt32)
  deriving DecidableEq

/-- Where save files are. -/
structure StorageSection where
  saveDir : Option String
  deriving DecidableEq

/-- What is logged. -/
structure LoggingSection where
  filter : Option String
  deriving DecidableEq

/-- **Settings.** -/
structure Settings where
  runtime : Option RuntimeSection
  compat : Option CompatSection
  storage : Option StorageSection
  logging : Option LoggingSection
  deriving DecidableEq

/-- Why settings cannot be used. -/
inductive SettingsFault where
  | notFound (path : String)
  /-- The file could not be read; the text says why. -/
  | unreadable (reason : String)
  /-- The file is no well-formed list of known settings. -/
  | malformed (path : String) (position : Position)
  | invalid (field reason : String)
  deriving DecidableEq

/-- The text of a fault. -/
def SettingsFault.message : SettingsFault → String
  | notFound path => "Configuration file not found: " ++ path
  | unreadable reason => "Failed to read configuration file: " ++ reason
  | malformed path position =>
    "Invalid TOML syntax in " ++ path ++ ": TOML parse error at line " ++ toString position.line ++
      ", column " ++ toString position.column
  | invalid field reason => "Invalid value for '" ++ field ++ "': " ++ reason

/-- Reads a choice of bit order; case does not matter. -/
def PowSetting.ofText (text : String) : Except SettingsFault PowSetting :=
  let word := Text.lowerAscii text
  match [automatic, current, legacy].find? fun p => p.word == word with
  | some p => .ok p
  | none => .error (.invalid "compat.pow_bit_order"
      ("expected auto, current or legacy, got '" ++ word ++ "'"))

namespace Settings

/-- Nothing is set. -/
def empty : Settings := ⟨none, none, none, none⟩

/-- The section, or an empty one. -/
def runtimeSection (s : Settings) : RuntimeSection := s.runtime.getD ⟨none, none, none⟩

/-- The section, or an empty one. -/
def compatSection (s : Settings) : CompatSection := s.compat.getD ⟨none, none⟩

/-! ## Values and defaults -/

/-- How many states an entity may enter in one turn. -/
def maxStateChanges (s : Settings) : UInt32 := (s.runtime.bind (·.maxStateChanges)).getD 2500

/-- How often one activation of a loop may start its body. -/
def maxLoopIterations (s : Settings) : UInt32 :=
  (s.runtime.bind (·.maxLoopIterations)).getD 1000000

/-- The room that the operand stack starts with. -/
def stackCapacity (s : Settings) : Nat := (s.runtime.bind (·.stackCapacity)).getD 64

def powBitOrder (s : Settings) : PowSetting := (s.compat.bind (·.powBitOrder)).getD .automatic

/-- Whether a major version uses the current order when the choice is automatic. -/
def isCurrentPowMajor (s : Settings) (major : UInt32) : Bool :=
  match s.compat.bind (·.currentPowMajors) with
  | some majors => majors.contains major
  | none => major == 1

/-- The directory of save files, given the directory of the user's data, if there is one. -/
def saveDir (s : Settings) (dataDir : Option String) : String :=
  match s.storage.bind (·.saveDir) with
  | some dir => dir
  | none =>
    match dataDir with
    | some dir => Path.join (Path.join dir "tickvm") "saves"
    | none => "saves"

def logFilter (s : Settings) : String := (s.logging.bind (·.filter)).getD "info"

/-- **The bit order of integer powers** in libraries made for a major version. -/
def powOrderFor (s : Settings) (major : UInt32) : PowOrder :=
  match s.powBitOrder with
  | .current => .current
  | .legacy => .legacy
  | .automatic => if s.isCurrentPowMajor major then .current else .legacy

/-! ## Validity -/

/-- The first setting that is out of its range. -/
def firstInvalid (s : Settings) : Option SettingsFault :=
  if s.runtime.bind (·.maxStateChanges) = some 0 then
    some (.invalid "runtime.max_state_changes_per_tick" "must be at least 1")
  else if s.runtime.bind (·.maxLoopIterations) = some 0 then
    some (.invalid "runtime.max_loop_iterations" "must be at least 1")
  else if s.storage.bind (·.saveDir) = some "" then
    some (.invalid "storage.save_dir" "path cannot be empty")
  else if (s.logging.bind (·.filter)).any fun f => f.toList.all Text.isBlank then
    some (.invalid "logging.filter" "filter cannot be empty")
  else none

/-- **Checks the ranges** of what is set. -/
def validate (s : Settings) : Except SettingsFault Unit :=
  match s.firstInvalid with
  | some f => .error f
  | none => .ok ()

/-! ## Layers -/

/-- **What `s` sets, overridden by what `later` sets.** -/
def merge (s later : Settings) : Settings where
  runtime := match later.runtime with
    | none => s.runtime
    | some r =>
      let mine := s.runtimeSection
      some ⟨r.maxStateChanges.or mine.maxStateChanges,
        r.maxLoopIterations.or mine.maxLoopIterations, r.stackCapacity.or mine.stackCapacity⟩
  compat := match later.compat with
    | none => s.compat
    | some c =>
      let mine := s.compatSection
      some ⟨c.powBitOrder.or mine.powBitOrder, c.currentPowMajors.or mine.currentPowMajors⟩
  storage := match later.storage.bind (·.saveDir) with
    | none => s.storage
    | some dir => some ⟨some dir⟩
  logging := match later.logging.bind (·.filter) with
    | none => s.logging
    | some filter => some ⟨some filter⟩

end Settings
end TickScript
