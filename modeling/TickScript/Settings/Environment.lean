import TickScript.Settings.Basic

/-! # Settings from the environment

    Four environment variables override settings.  A variable that is set overrides even if its
    text is empty; whether the result is valid is checked afterwards.
-/

namespace TickScript

/-- **The variables that override settings**, as far as they are set. -/
structure Overrides where
  saveDir : Option String
  logFilter : Option String
  powBitOrder : Option String
  maxLoopIterations : Option String

/-- No variable is set. -/
def Overrides.none : Overrides := ⟨.none, .none, .none, .none⟩

/-! ## Numbers -/

/-- Why a text is no number of 32 bits. -/
inductive NumberFault where
  | empty
  | invalidDigit
  | tooLarge
  deriving DecidableEq

/-- The text of a fault. -/
def NumberFault.message : NumberFault → String
  | empty => "cannot parse integer from empty string"
  | invalidDigit => "invalid digit found in string"
  | tooLarge => "number too large to fit in target type"

/-- Reads digits behind those that spell `n`; the first that does not fit decides the fault. -/
def readDigits (n : Nat) : List Char → Except NumberFault Nat
  | [] => .ok n
  | c :: rest =>
    if c.isDigit then
      let next := n * 10 + (c.toNat - '0'.toNat)
      if next < UInt32.size then readDigits next rest else .error .tooLarge
    else .error .invalidDigit

/-- **Reads a number of 32 bits**; a plus may stand in front of the digits. -/
def readWord (text : String) : Except NumberFault UInt32 :=
  match text.toList with
  | [] => .error .empty
  | ['+'] => .error .invalidDigit
  | '+' :: digits => UInt32.ofNat <$> readDigits 0 digits
  | digits => UInt32.ofNat <$> readDigits 0 digits

/-! ## Overriding -/

/-- The value of the variable for the limit of loop iterations. -/
def readLimit (text : String) : Except SettingsFault UInt32 :=
  (readWord text).mapError fun f => .invalid "TICKVM_MAX_LOOP_ITERATIONS" f.message

/-- **What the variables make of settings.** -/
def Overrides.apply (o : Overrides) (s : Settings) : Except SettingsFault Settings := do
  let s := match o.saveDir with
    | some dir => { s with storage := some ⟨some dir⟩ }
    | .none => s
  let s := match o.logFilter with
    | some filter => { s with logging := some ⟨some filter⟩ }
    | .none => s
  let s ← match o.powBitOrder with
    | some text => do
      let order ← PowSetting.ofText text
      pure { s with compat := some { s.compatSection with powBitOrder := some order } }
    | .none => pure s
  match o.maxLoopIterations with
  | some text => do
    let limit ← readLimit text
    return { s with runtime := some { s.runtimeSection with maxLoopIterations := some limit } }
  | .none => return s

/-- **The directory of the user's data**, given the texts of the variables that place it: an
    absolute one of its own, or one below the home directory. -/
def dataDirectory (own home : Option String) : Option String :=
  match own.filter fun dir => (Path.parse dir).absolute with
  | some dir => some dir
  | .none => (home.filter (· ≠ "")).map fun dir => Path.join dir ".local/share"

end TickScript
