import TickScript.Bytecode.Listing
import TickScript.CommandLine.HexText
import TickScript.CommandLine.Request
import TickScript.Save.Report
import TickScript.Scene
import TickScript.Settings.Loader
import TickScript.Text.Quoted

/-! # Running the command

    A run answers with an exit status and the texts of both outputs.  Settings are loaded before
    anything else is done, so a fault in them precedes every other.
-/

namespace TickScript.CommandLine

/-- **What a run needs to know of its surroundings.** -/
structure Host (m : Type → Type) where
  files : FileAccess m
  /-- The variable that names a settings file. -/
  settingsFile : Option String
  overrides : Overrides
  /-- The directory of the user's data. -/
  dataDir : Option String
  workingDir : String

/-- **Outcome of a run.** -/
structure Outcome where
  status : Nat
  output : String
  errors : String
  deriving DecidableEq

/-! ## Failures -/

/-- **A failure** and what caused it, each caused by the next. -/
structure Failure where
  message : String
  causes : List String
  deriving DecidableEq

namespace Failure

/-- Lines after the first are indented. -/
def indent (width : Nat) (text : String) : String :=
  let margin := List.replicate width ' '
  String.ofList (text.toList.flatMap fun c => if c = '\n' then '\n' :: margin else [c])

/-- A number, four places to the right. -/
def numbered (cause : String × Nat) : String :=
  let digits := toString cause.2
  String.ofList (List.replicate (5 - digits.length) ' ') ++ digits ++ ": " ++ indent 7 cause.1

/-- The causes; several are numbered. -/
def causeLines : List String → List String
  | [cause] => ["    " ++ indent 4 cause]
  | causes => causes.zipIdx.map numbered

/-- **The text of a failure.** -/
def text (f : Failure) : String :=
  "Error: " ++ f.message ++ "\n" ++
    if f.causes.isEmpty then ""
    else "\nCaused by:\n" ++ String.join ((causeLines f.causes).map (· ++ "\n"))

/-- A failure without a cause. -/
def plain (message : String) : Failure := ⟨message, []⟩

/-- The failure of something that needed this to succeed. -/
def within (context : String) (f : Failure) : Failure := ⟨context, f.message :: f.causes⟩

/-- A fault of settings. -/
def ofSettings (f : SettingsFault) : Failure :=
  match f with
  | .unreadable reason => ⟨f.message, [reason]⟩
  | _ => plain f.message

/-- A fault of save data. -/
def ofSave (f : SaveFault) : Failure :=
  match f with
  | .file reason => ⟨f.message, [reason.message]⟩
  | _ => plain f.message

end Failure

/-! ## Requests -/

/-- The listing of code given as text. -/
def listHex (text : String) : Except Failure String := do
  let code ← (HexText.parse text).mapError fun f => .plain f.message
  return Expression.listing code

/-- The listing of a file. -/
def listFile (path : String) (content : Except FileFault Bytes) : Except Failure String := do
  let code ← content.mapError fun f => (Failure.plain f.message).within
    ("Failed to read file: " ++ path)
  return Expression.listing code

/-- **The machine that evaluates code** of the command line. -/
def machine (settings : Settings) (dataDir : Option String) (legacyPow profile : Bool) :
    Machine :=
  { Machine.fresh settings.maxLoopIterations.toNat (settings.saveDir dataDir) with
    powOrder := if legacyPow then .legacy else .current
    profile := if profile then .on else .off }

/-- Two players, and nothing else; code runs for the first of them. -/
def twoPlayers : Roster × EntityId :=
  let (roster, first) := (Roster.ofSeed 0).addPlayer 1 "p1"
  ((roster.addPlayer 2 "p2").1, first)

/-- **The value of code**, and the counts of its instructions if they were asked for. -/
def evaluate (m : Machine) (text : String) : Except Failure String := do
  let code ← (HexText.parse text).mapError fun f => .plain f.message
  let (roster, first) := twoPlayers
  let scene : Scene :=
    { machine := m, roster := roster, files := .empty, console := [], memory := .empty }
  match Act.evaluate code first scene with
  | .error f _ => .error (.plain ("evaluation failed: " ++ f.message))
  | .ok v scene =>
    let profile := scene.machine.profile
    return v.text ++ "\n" ++ if profile.enabled then profile.report else ""

/-- **What a save file holds.** -/
def inspect (path : String) (json : Bool) (content : Except FileFault Bytes) :
    Except Failure String := do
  let data ← (SaveDirectory.decode content).mapError fun f =>
    (Failure.ofSave f).within ("Failed to read save file: " ++ path)
  match data with
  | none => .error (.plain ("Save file not found: " ++ path))
  | some data => return if json then data.json ++ "\n" else data.lines

/-- **The settings in force.** -/
def describe (loaded : LoadedSettings) (dataDir : Option String) (pathOnly : Bool) : String :=
  if pathOnly then loaded.source.getD "(defaults)" ++ "\n"
  else
    (loaded.source.map fun path => "# " ++ path ++ "\n").getD "" ++ loaded.settings.toText ++
      "# effective save_dir = " ++ Text.quoted (loaded.settings.saveDir dataDir) ++ "\n"

variable {m : Type → Type} [Monad m]

/-- **Answers a request.** -/
def answer (host : Host m) (loaded : LoadedSettings) : Request → m (Except Failure String)
  | .listHex text => return listHex text
  | .listFile path => return listFile path (← host.files.read path)
  | .evaluate text legacyPow profile =>
    return evaluate (machine loaded.settings host.dataDir legacyPow profile) text
  | .inspect path json => return inspect path json (← host.files.read path)
  | .settings pathOnly => return .ok (describe loaded host.dataDir pathOnly)

/-- **Loads the settings** of a run. -/
def loadSettings (host : Host m) (file : Option String) : m (Except Failure LoadedSettings) := do
  match file with
  | some path =>
    let loaded ← LoadedSettings.ofFile host.files host.overrides path
    return loaded.mapError fun f =>
      (Failure.ofSettings f).within ("Failed to load config: " ++ path)
  | none =>
    let loaded ← LoadedSettings.ofDirectory host.files host.overrides host.workingDir
    return loaded.mapError .ofSettings

/-! ## Runs -/

/-- The version of the command. -/
def version : String := "0.1.0"

/-- What the commands are called with. -/
def usage : String :=
  "Tools for tickvm state controller bytecode.\n\n" ++
  "Usage: tickvm [--config <FILE>] <COMMAND>\n\n" ++
  "Commands:\n" ++
  "  disasm <FILE> | --hex <HEX>               List the instructions of an expression\n" ++
  "  eval <HEX> [--legacy-pow] [--profile]     Evaluate an expression\n" ++
  "  save inspect <FILE> [--json]              Show a save-state file\n" ++
  "  config [--path]                           Show the effective configuration\n"

/-- The outcome of a request. -/
def Outcome.ofResult : Except Failure String → Outcome
  | .ok text => ⟨0, text, ""⟩
  | .error f => ⟨1, "", f.text⟩

/-- The outcome of a command line that is no request. -/
def Outcome.ofStop : Stop → Outcome
  | .version path => ⟨0, "-".intercalate path ++ " " ++ version ++ "\n", ""⟩
  | .help _ => ⟨0, usage, ""⟩
  | .misuse => ⟨2, "", "error: invalid arguments\n\n" ++ usage⟩

/-- **Runs the command.** -/
def run (host : Host m) (args : List String) : m Outcome := do
  match parse host.settingsFile args with
  | .error stop => return .ofStop stop
  | .ok invocation =>
    match ← loadSettings host invocation.settingsFile with
    | .error f => return .ofResult (.error f)
    | .ok loaded => return .ofResult (← answer host loaded invocation.request)

end TickScript.CommandLine
