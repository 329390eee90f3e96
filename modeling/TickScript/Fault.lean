import TickScript.Value.Basic
import TickScript.Save.Data

/-! # Fatal faults of script execution

    A fault ends the logic of the running entity for the current tick.  What merely does not
    apply (a role nobody fills, an index out of range) is no fault but a `failed` value or an
    effect that does nothing.
-/

namespace TickScript

/-- **Handle of an entity.**  Never given out twice by one roster. -/
abbrev EntityId := Nat

/-- **Cause of an aborted run.** -/
inductive Fault where
  | stackUnderflow
  | unknownOpcode (opcode : UInt8) (offset : Nat)
  | truncatedOperand (offset : Nat)
  /-- Values left on the operand stack by the program of a state, bottom first. -/
  | stackImbalance (state : Int32) (left : List Value)
  | argumentCount (function : String) (expected found : Nat)
  | returnCount (function : String) (expected found : Nat)
  | localSlot (slot size : Nat)
  | noWindow
  | missingEntity (id : EntityId)
  | loopLimit (limit : Nat)
  | stringIndex (index : Int32)
  | malformedArgs (offset : Nat)
  | missingArgument (tag : UInt8) (needed : Nat)
  | save (fault : SaveFault)
  /-- An expression that ran longer than its budget of instructions. -/
  | outOfFuel
  deriving DecidableEq

/-- A byte as `0x` and two digits. -/
def byteText (b : UInt8) : String := "0x" ++ String.ofList (Bytes.hexByte b)

/-- The text of a fault. -/
def Fault.message : Fault → String
  | stackUnderflow => "Operand stack underflow"
  | unknownOpcode opcode offset => s!"Unknown opcode {byteText opcode} at offset {offset}"
  | truncatedOperand offset => s!"Truncated operand at offset {offset}"
  | stackImbalance state left =>
    let count := left.length
    s!"Operand stack holds {count} value(s) at end of state {state}"
  | argumentCount f expected found =>
    s!"Function '{f}' expects {expected} argument(s), stack holds {found}"
  | returnCount f expected found =>
    s!"Function '{f}' returns {expected} value(s), call site binds {found}"
  | localSlot slot size => s!"Local slot {slot} is outside the current window of {size}"
  | noWindow => "No variable window is active"
  | missingEntity id => s!"Entity #{id} is not live"
  | loopLimit limit => s!"Loop exceeded {limit} iterations"
  | stringIndex index => s!"String pool index {index} out of range"
  | malformedArgs offset => s!"Malformed argument block at offset {offset}"
  | missingArgument tag needed =>
    s!"Argument tag {tag} needs at least {needed} expression(s)"
  | save fault => "Save-state file error: " ++ fault.message
  | outOfFuel => "Expression ran out of its instruction budget"

end TickScript
