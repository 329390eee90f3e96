import TickScript.CommandLine.Grammar

/-! # What can be asked for on the command line

    The grammar of the command and the requests that it expresses.  Every command takes
    `--config`; the innermost one counts, and a variable of the environment stands in for all
    that are missing.
-/

namespace TickScript.CommandLine

/-- **Requests.** -/
inductive Request where
  /-- List the code in a file. -/
  | listFile (path : String)
  /-- List code given as hexadecimal text. -/
  | listHex (text : String)
  /-- Evaluate code given as hexadecimal text. -/
  | evaluate (text : String) (legacyPow profile : Bool)
  /-- Show a save file. -/
  | inspect (path : String) (json : Bool)
  /-- Show the settings, or only where they come from. -/
  | settings (pathOnly : Bool)
  deriving DecidableEq

/-- **A request and the settings file it is to use**, if one is named. -/
structure Invocation where
  settingsFile : Option String
  request : Request
  deriving DecidableEq

/-! ## The grammar -/

/-- The option that every command takes. -/
def settingsFileRule : ValueRule := ⟨"config", false⟩

def listingRule : CommandRule :=
  .mk "disasm" ["d"] [] [settingsFileRule, ⟨"hex", true⟩] [⟨"file", false⟩] []

def evaluationRule : CommandRule :=
  .mk "eval" ["e"] ["legacy-pow", "profile"] [settingsFileRule] [⟨"hex", true⟩] []

def inspectionRule : CommandRule :=
  .mk "inspect" [] ["json"] [settingsFileRule] [⟨"file", false⟩] []

def saveRule : CommandRule := .mk "save" [] [] [settingsFileRule] [] [inspectionRule]

def settingsRule : CommandRule := .mk "config" [] ["path"] [settingsFileRule] [] []

/-- **The whole command.** -/
def rootRule : CommandRule :=
  .mk "tickvm" [] [] [settingsFileRule] []
    [listingRule, evaluationRule, saveRule, settingsRule]

/-! ## Requests -/

namespace Level

/-- An option or operand that was given. -/
def value? (l : Level) (name : String) : Option String := l.values.lookup name

/-- Whether a flag was given. -/
def has (l : Level) (flag : String) : Bool := l.flags.contains flag

end Level

/-- The settings file at one level: the one given, or the one of the environment, which has to
    have a name if it is needed. -/
def levelFile (fromEnvironment : Option String) (l : Level) : Except Stop (Option String) :=
  match l.value? settingsFileRule.name with
  | some path => .ok (some path)
  | none => if fromEnvironment = some "" then .error .misuse else .ok none

/-- **The settings file to use.** -/
def settingsFile (fromEnvironment : Option String) (levels : List Level) :
    Except Stop (Option String) := do
  let given ← levels.mapM (levelFile fromEnvironment)
  return (given.findSome? id).or fromEnvironment

/-- The request of the innermost command. -/
def request (path : List String) (l : Level) : Except Stop Request :=
  match path with
  | ["tickvm", "disasm"] =>
    match l.value? "file", l.value? "hex" with
    | some file, none => .ok (.listFile file)
    | none, some hex => .ok (.listHex hex)
    | _, _ => .error .misuse
  | ["tickvm", "eval"] =>
    match l.value? "hex" with
    | some hex => .ok (.evaluate hex (l.has "legacy-pow") (l.has "profile"))
    | none => .error .misuse
  | ["tickvm", "save", "inspect"] =>
    match l.value? "file" with
    | some file => .ok (.inspect file (l.has "json"))
    | none => .error .misuse
  | ["tickvm", "config"] => .ok (.settings (l.has "path"))
  | _ => .error .misuse

/-- **Reads a command line.**  The environment may name a settings file too. -/
def parse (fromEnvironment : Option String) (args : List String) : Except Stop Invocation := do
  let given ← read rootRule args
  match given.levels with
  | [] => .error .misuse
  | innermost :: _ =>
    let file ← settingsFile fromEnvironment given.levels
    return ⟨file, ← request given.path innermost⟩

end TickScript.CommandLine
