import TickScript.Effect.Basic

/-! # Controllers, blocks and functions

    A program is a tree.  A block gates a list of controllers behind the hit pause, a persistence
    counter and a guard, and may repeat them; a controller does one thing, which may be to run a
    block or to call a function.
-/

namespace TickScript

/-- **What a block does while its entity is in hit pause.** -/
inductive PauseMode where
  /-- Nothing. -/
  | skip
  /-- Runs as usual. -/
  | run
  /-- Runs every other time, tracked by a toggle. -/
  | alternate (slot : Nat)
  deriving DecidableEq

/-- **Runs the body only every so often.**  Period zero is once. -/
structure Persistence where
  slot : Nat
  period : Int32
  deriving DecidableEq

/-- What the counter is set to after the body ran. -/
def Persistence.reload (p : Persistence) : Int32 :=
  if p.period = 0 then Int32.maxValue else p.period

/-- **A loop over a half-open range of integers.** -/
structure ForLoop where
  start : Expression
  /-- The slot that shows the counter to the body, which may change it. -/
  slot : Option UInt8
  stop : Expression
  step : Expression
  deriving DecidableEq

/-- **Whether a block repeats its body.** -/
inductive LoopKind where
  | once
  /-- As long as the guard holds. -/
  | whileGuard
  | forRange (loop : ForLoop)
  deriving DecidableEq

mutual

/-- **Controller.** -/
inductive Controller where
  | block (b : Block)
  /-- Evaluates an expression for what it does. -/
  | evaluate (code : Expression)
  /-- Stores the value of an expression in a slot of the newest window. -/
  | assign (slot : UInt8) (code : Expression)
  | signal (s : LoopSignal)
  /-- Calls a function and binds its results to slots of the newest window. -/
  | call (f : Function) (args : List Expression) (rets : List UInt8)
  | nothing
  | effect (kind : EffectKind) (args : ArgBlock)

/-- **Block.** -/
structure Block where
  guard : Option Expression
  body : List Controller
  /-- Runs instead of the body if the guard fails; loops have none. -/
  otherwise : Option Block
  pause : PauseMode
  persistence : Option Persistence
  /-- Whether controllers of the body that are no blocks run in hit pause. -/
  ignoresPause : Bool
  loop : LoopKind

/-- **Function.**  Results live in the slots behind the arguments. -/
structure Function where
  name : String
  argCount : Nat
  retCount : Nat
  /-- Slots, arguments and results included. -/
  localCount : Nat
  persistenceSlots : Nat
  toggleSlots : Nat
  body : List Controller

end

/-- **A block** that runs its body whenever it may. -/
def Block.plain (body : List Controller) : Block :=
  ⟨none, body, none, .skip, none, false, .once⟩

instance : Inhabited Controller := ⟨.nothing⟩
instance : Inhabited Block := ⟨.plain []⟩
instance : Inhabited Function := ⟨⟨"", 0, 0, 0, 0, 0, []⟩⟩

/-- Whether the controller decides for itself what to do in hit pause. -/
def Controller.isBlock : Controller → Bool
  | .block _ => true
  | _ => false

/-- The size of the window of a call. -/
def Function.windowSize (f : Function) : Nat := max f.localCount (f.argCount + f.retCount)

end TickScript
