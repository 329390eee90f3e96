import TickScript.Program.Controller

/-! # Loops

    A loop starts its body as long as its test holds, but no more often than the machine allows.
    The body says how it ended: it was completed, it asked to leave the loop, or the whole tree
    must unwind.
-/

namespace TickScript

/-- **How a body ended.** -/
inductive Flow where
  | completed
  | left
  | unwind
  deriving DecidableEq

namespace Loop

/-- **Repeats a body while a test holds**, at most `left` more times; whether to unwind. -/
def whileHolds (limit : Nat) (test : Act Bool) (body : Act Flow) : (left : Nat) → Act Bool
  | 0 => do if ← test then throw (.loopLimit limit) else return false
  | left + 1 => do
    if ← test then
      match ← body with
      | .completed => whileHolds limit test body left
      | .left => return false
      | .unwind => return true
    else return false

/-- Whether a counter is still before the end of the range. -/
def inRange (stop step i : Int32) : Bool :=
  if step = 0 then false else if 0 < step then i < stop else stop < i

/-- Moves the counter.  One that the body sees is read back first, and shown again only while it
    is in range. -/
def advance (slot : Option UInt8) (stop step i : Int32) : Act Int32 := do
  match slot with
  | none => return i + step
  | some slot =>
    let next := (← Act.localSlot slot.toNat).toInt32 + step
    if inRange stop step next then
      Act.onWindows fun w => w.set slot.toNat (.ofInt32 next)
    return next

/-- **Repeats a body over a range**, at most `left` more times; whether to unwind. -/
def forRange (limit : Nat) (slot : Option UInt8) (stop step : Int32) (body : Act Flow) :
    (left : Nat) → (i : Int32) → Act Bool
  | 0, i => if inRange stop step i then throw (.loopLimit limit) else return false
  | left + 1, i => do
    if inRange stop step i then
      match ← body with
      | .completed => forRange limit slot stop step body left (← advance slot stop step i)
      | .left => return false
      | .unwind => return true
    else return false

end Loop
end TickScript
