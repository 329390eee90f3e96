import TickScript.StringPool
import TickScript.Value.Arithmetic
import TickScript.Machine.Stack
import TickScript.Machine.Windows
import TickScript.Machine.Profile

/-! # The machine that runs scripts

    What scripts share while they run: the operand stack, the variable windows, a loop signal,
    and the library they take their strings and power order from.  Stack, windows and signal are
    scratch state, which a fault drops.
-/

namespace TickScript

/-- **A signal to the nearest loop**, taken once. -/
inductive LoopSignal where
  /-- Leave the loop. -/
  | leave
  /-- Go on with the next iteration. -/
  | proceed
  deriving DecidableEq

/-- **Machine.** -/
structure Machine where
  stack : Stack
  windows : Windows
  signal : Option LoopSignal
  strings : StringPool
  powOrder : PowOrder
  /-- How often a loop may start its body. -/
  loopLimit : Nat
  saveDir : String
  profile : Profile
  /-- How many instructions of one expression may follow each other. -/
  budget : Nat

namespace Machine

/-- A budget that only an endless expression exhausts. -/
def ampleBudget : Nat := 1000000000000000

/-- **A machine at rest**, without a library. -/
def fresh (loopLimit : Nat) (saveDir : String) : Machine where
  stack := []
  windows := .empty
  signal := none
  strings := .empty
  powOrder := .current
  loopLimit := loopLimit
  saveDir := saveDir
  profile := .off
  budget := ampleBudget

/-- Drops the scratch state. -/
def reset (m : Machine) : Machine :=
  { m with stack := [], windows := .empty, signal := none }

/-- Takes strings and power order from a library. -/
def bind (m : Machine) (strings : StringPool) (powOrder : PowOrder) : Machine :=
  { m with strings := strings, powOrder := powOrder }

/-- The stack must be empty at the end of a state's program. -/
def checkBalance (m : Machine) (state : Int32) : Except Fault Unit :=
  if m.stack = [] then .ok () else .error (.stackImbalance state m.stack.bottomFirst)

end Machine
end TickScript
