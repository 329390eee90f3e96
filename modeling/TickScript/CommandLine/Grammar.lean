/-! # Reading command lines

    A command has flags, options with a value, operands in a fixed order and, instead of
    operands, subcommands.  `--name value` and `--name=value` mean the same; behind `--` all is
    operand.  Nothing may be given twice, and nothing unknown may be given.

    A request for the version or for help ends reading at once, and so does a mistake.  The value
    of an option or operand is held back until the next argument of the same command: a
    subcommand is read before the last value in front of it is looked at.
-/

namespace TickScript.CommandLine

/-- An option with a value, or an operand. -/
structure ValueRule where
  name : String
  mayBeEmpty : Bool
  deriving DecidableEq

/-- **What may be given to a command.** -/
inductive CommandRule where
  | mk (name : String) (aliases flags : List String) (options operands : List ValueRule)
    (subcommands : List CommandRule)

namespace CommandRule

def name : CommandRule → String
  | mk name .. => name

def aliases : CommandRule → List String
  | mk _ aliases .. => aliases

def flags : CommandRule → List String
  | mk _ _ flags .. => flags

def options : CommandRule → List ValueRule
  | mk _ _ _ options .. => options

def operands : CommandRule → List ValueRule
  | mk _ _ _ _ operands _ => operands

def subcommands : CommandRule → List CommandRule
  | mk _ _ _ _ _ subcommands => subcommands

/-- The subcommand that a word names. -/
def subcommand? (r : CommandRule) (word : String) : Option CommandRule :=
  r.subcommands.find? fun s => s.name == word || s.aliases.contains word

end CommandRule

/-- **Why reading ended early.** -/
inductive Stop where
  | misuse
  | version (path : List String)
  | help (path : List String)
  deriving DecidableEq

/-- A value that was not looked at yet; an option may still wait for it. -/
structure Held where
  rule : ValueRule
  value : Option String

/-- **What was given to one command so far.** -/
structure Level where
  rule : CommandRule
  flags : List String
  /-- Options and operands by name. -/
  values : List (String × String)
  held : Option Held
  /-- The operands that are still missing. -/
  missing : List ValueRule
  /-- Behind `--`. -/
  trailing : Bool

namespace Level

/-- Nothing was given. -/
def start (r : CommandRule) : Level := ⟨r, [], [], none, r.operands, false⟩

/-- Looks at a value: it has to be there and new, and may have to have text. -/
def take (l : Level) (rule : ValueRule) (value : Option String) : Except Stop Level :=
  match value with
  | none => .error .misuse
  | some text =>
    if (text = "" && !rule.mayBeEmpty) || (l.values.lookup rule.name).isSome then .error .misuse
    else .ok { l with values := l.values ++ [(rule.name, text)] }

/-- Looks at the value that is held back. -/
def settle (l : Level) : Except Stop Level :=
  match l.held with
  | none => .ok l
  | some h => { l with held := none }.take h.rule h.value

/-- Whether an option waits for its value. -/
def waits (l : Level) : Bool := l.held.any (·.value.isNone)

/-- A flag. -/
def addFlag (l : Level) (name : String) : Except Stop Level := do
  let l ← l.settle
  if l.flags.contains name || !l.rule.flags.contains name then .error .misuse
  else .ok { l with flags := l.flags ++ [name] }

/-- An operand. -/
def addOperand (l : Level) (text : String) : Except Stop Level := do
  let l ← l.settle
  match l.missing with
  | [] => .error .misuse
  | rule :: rest => .ok { l with held := some ⟨rule, some text⟩, missing := rest }

/-- An option or flag with two dashes, with the text behind its equals sign. -/
def addLong (l : Level) (path : List String) (name : String) (attached : Option String) :
    Except Stop Level := do
  match l.rule.options.find? (·.name == name) with
  | some rule =>
    let l ← l.settle
    match attached with
    | some text => l.take rule (some text)
    | none => .ok { l with held := some ⟨rule, none⟩ }
  | none =>
    if attached.isSome then .error .misuse
    else if name = "version" then
      let _ ← l.settle
      .error (.version path)
    else if name = "help" then
      let _ ← l.settle
      .error (.help path)
    else l.addFlag name

/-- Flags with one dash; the first decides. -/
def addShort (l : Level) (path : List String) (letters : List Char) : Except Stop Level := do
  match letters with
  | 'V' :: _ =>
    let _ ← l.settle
    .error (.version path)
  | 'h' :: _ =>
    let _ ← l.settle
    .error (.help path)
  | _ => .error .misuse

/-- The text in front of the first equals sign and the text behind it. -/
def splitEquals (text : List Char) : String × Option String :=
  let name := String.ofList (text.takeWhile (· != '='))
  match text.dropWhile (· != '=') with
  | [] => (name, none)
  | _ :: rest => (name, some (String.ofList rest))

/-- An argument that is no subcommand. -/
def add (l : Level) (path : List String) (arg : String) : Except Stop Level :=
  if l.trailing then l.addOperand arg
  else match arg.toList with
    | ['-', '-'] => .ok { l with trailing := true }
    | '-' :: '-' :: text =>
      let (name, attached) := splitEquals text
      l.addLong path name attached
    | '-' :: c :: rest => l.addShort path (c :: rest)
    | _ =>
      if l.waits then .ok { l with held := l.held.map fun h => { h with value := some arg } }
      else l.addOperand arg

end Level

/-- Follows the names of subcommands for help.  There is help on `help` itself wherever there
    are subcommands, but nothing can be named behind it. -/
def helpOn (path : List String) : CommandRule → List String → Stop
  | _, [] => .help path
  | r, word :: rest =>
    match r.subcommand? word with
    | some s => helpOn (path ++ [s.name]) s rest
    | none =>
      if word = "help" && !r.subcommands.isEmpty && rest.isEmpty then .help path else .misuse

/-- **Reads arguments** into the levels of the commands named, from the innermost out.  `above`
    are the commands around the present one. -/
def readLevels (l : Level) (above : List Level) : (args : List String) → Except Stop (List Level)
  | [] => .ok (l :: above)
  | arg :: rest =>
    let path := (above.map (·.rule.name)).reverse ++ [l.rule.name]
    if l.trailing || l.waits then do readLevels (← l.add path arg) above rest
    else match l.rule.subcommand? arg with
      | some s => readLevels (.start s) (l :: above) rest
      | none =>
        if arg = "help" && !l.rule.subcommands.isEmpty then .error (helpOn path l.rule rest)
        else do readLevels (← l.add path arg) above rest

/-- **What a whole command line gives.** -/
structure Given where
  /-- The names of the commands, from the outermost in. -/
  path : List String
  /-- What the commands were given, from the innermost out. -/
  levels : List Level

/-- **Reads a command line.**  A command that has subcommands needs one. -/
def read (r : CommandRule) (args : List String) : Except Stop Given := do
  let levels ← readLevels (.start r) [] args
  let levels ← levels.mapM Level.settle
  match levels with
  | l :: _ => if l.rule.subcommands.isEmpty then pure () else throw .misuse
  | [] => pure ()
  return ⟨(levels.map (·.rule.name)).reverse, levels⟩

end TickScript.CommandLine
