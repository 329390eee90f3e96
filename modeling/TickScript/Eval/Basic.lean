import TickScript.Machine.Basic
import TickScript.Entity.Stores
import TickScript.Roster.Roles

/-! # Acting on stack and roster

    An instruction acts on a `Bench`: the operand stack, the profile and the roster.  Windows,
    strings and the power order are given from outside and stay as they are.  A fault keeps what
    was done before it.
-/

namespace TickScript

/-- **What an expression acts on.** -/
structure Bench where
  stack : Stack
  profile : Profile
  roster : Roster

/-- **What an expression reads only.** -/
structure EvalContext where
  windows : Windows
  strings : StringPool
  powOrder : PowOrder

/-- An action of an expression. -/
abbrev Eval := EStateM Fault Bench

namespace Eval

/-- A result that may be a fault. -/
def ofExcept : Except Fault α → Eval α
  | .ok a => pure a
  | .error f => throw f

/-! ## Stack -/

def push (v : Value) : Eval Unit := modify fun b => { b with stack := b.stack.push v }

def pop : Eval Value := do
  let b ← get
  let (v, rest) ← ofExcept b.stack.pop
  set { b with stack := rest }
  return v

/-- The top value. -/
def top : Eval Value := do ofExcept (← get).stack.top

/-- Changes the stack by a function that may fault. -/
def onStack (f : Stack → Except Fault Stack) : Eval Unit := do
  let b ← get
  let stack ← ofExcept (f b.stack)
  set { b with stack := stack }

/-- Replaces the top value. -/
def modifyTop (f : Value → Value) : Eval Unit := onStack (Stack.modifyTop f)

/-- Pops the right side and folds it into the left. -/
def fold (f : Value → Value → Value) : Eval Unit := do
  let right ← pop
  modifyTop (f · right)

/-! ## Roster -/

def roster : Eval Roster := return (← get).roster

/-- The entity that must be live. -/
def entity (id : EntityId) : Eval Entity := do ofExcept ((← roster).get id)

/-- Changes an entity. -/
def update (id : EntityId) (f : Entity → Entity) : Eval Unit :=
  modify fun b => { b with roster := b.roster.modify id f }

/-- A random integer between two bounds. -/
def random (a b : Int32) : Eval Int32 := do
  let bench ← get
  let (n, roster) := bench.roster.random a b
  set { bench with roster := roster }
  return n

/-! ## Profile -/

/-- Counts an instruction. -/
def record (o : Opcode) : Eval Unit :=
  modify fun b => { b with profile := b.profile.record o b.stack.length }

/-- Counts a redirect that found nobody. -/
def recordFailedRedirect : Eval Unit :=
  modify fun b => { b with profile := b.profile.recordFailedRedirect }

end Eval
end TickScript
