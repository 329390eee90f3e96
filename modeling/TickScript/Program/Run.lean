import TickScript.Program.Loop

/-! # Running controllers

    Running a controller says whether the tree around it must unwind: the entity changed state or
    was removed, or a loop signal was raised.  Loops take the signals of their bodies.
-/

namespace TickScript

/-- Whether the entity, which must be live, is in hit pause. -/
def Act.isPaused (id : EntityId) : Act Bool := return (← Act.entity id).isPaused

namespace Block

/-- Whether the hit pause lets the block run. -/
def passesPause (pause : PauseMode) (id : EntityId) : Act Bool := do
  if ← Act.isPaused id then
    match pause with
    | .skip => return false
    | .run => return true
    | .alternate slot =>
      let (memory, on) := (← Act.memory).flipToggle slot
      Act.setMemory memory
      return on
  else return true

/-- Counts an activation; whether the block is due. -/
def isDue (persistence : Option Persistence) : Act Bool := do
  match persistence with
  | none => return true
  | some p =>
    let m ← Act.memory
    let count := m.counter p.slot - 1
    Act.setMemory (m.setCounter p.slot count)
    return count ≤ 0

/-- Starts the count to the next activation. -/
def reload (persistence : Option Persistence) : Act Unit := do
  match persistence with
  | none => pure ()
  | some p => Act.setMemory ((← Act.memory).setCounter p.slot p.reload)

/-- Whether the guard holds; no guard always does. -/
def guardHolds (guard : Option Expression) (id : EntityId) : Act Bool := do
  match guard with
  | none => return true
  | some code => return (← Act.evaluate code id).toBool

/-- What the end of a controller that asked to unwind means for the loop around it. -/
def flowOfSignal : Option LoopSignal → Flow
  | some .leave => .left
  | some .proceed => .completed
  | none => .unwind

/-- Evaluates the bounds of a loop over a range and repeats the body. -/
def runRange (loop : ForLoop) (id : EntityId) (body : Act Flow) : Act Bool := do
  let start := (← Act.evaluate loop.start id).toInt32
  match loop.slot with
  | none => pure ()
  | some slot => Act.onWindows fun w => w.set slot.toNat (.ofInt32 start)
  let stop := (← Act.evaluate loop.stop id).toInt32
  let step := (← Act.evaluate loop.step id).toInt32
  let limit := (← Act.machine).loopLimit
  Loop.forRange limit loop.slot stop step body limit start

end Block

namespace Function

/-- Checks how many values a call left on the stack and how many results it binds. -/
def checkCounts (f : Function) (rets : List UInt8) : Act Unit := do
  let found := (← Act.machine).stack.length
  if found ≠ f.argCount then throw (.argumentCount f.name f.argCount found)
  if rets ≠ [] ∧ rets.length ≠ f.retCount then
    throw (.returnCount f.name f.retCount rets.length)

/-- Moves the values on the stack into the first slots, the top one into the last of them. -/
def takeArguments : (count : Nat) → Act Unit
  | 0 => do Act.setMachine { ← Act.machine with stack := [] }
  | count + 1 => do
    let m ← Act.machine
    let (v, rest) ← Act.ofExcept m.stack.pop
    Act.setMachine { m with stack := rest }
    Act.onWindows fun w => w.set count v
    takeArguments count

/-- Copies results, starting with the one in a slot, into the caller's slots. -/
def giveResults : (slot : Nat) → (rets : List UInt8) → Act Unit
  | _, [] => pure ()
  | slot, ret :: rest => do
    let v ← Act.localSlot slot
    Act.onWindows fun w => w.setInCaller ret.toNat v
    giveResults (slot + 1) rest

end Function

/-- Evaluates arguments and pushes their values. -/
def Act.pushArguments (id : EntityId) (args : List Expression) : Act Unit :=
  args.forM fun code => do
    let v ← Act.evaluate code id
    let m ← Act.machine
    Act.setMachine { m with stack := m.stack.push v }

mutual

/-- **Runs a controller** for an entity; whether the tree must unwind. -/
def Controller.run (id : EntityId) : Controller → Act Bool
  | .block b => b.run id
  | .evaluate code => do
    let _ ← Act.evaluate code id
    return false
  | .assign slot code => do
    let v ← Act.evaluate code id
    Act.onWindows fun w => w.set slot.toNat v
    return false
  | .signal s => do
    Act.raise s
    return true
  | .call f args rets => do
    Act.pushArguments id args
    f.run id rets
  | .nothing => return false
  | .effect kind args => kind.run id args

/-- **Runs a block**; whether the tree must unwind. -/
def Block.run (id : EntityId) : Block → Act Bool
  | ⟨guard, body, otherwise, pause, persistence, ignoresPause, loop⟩ => do
    if !(← Block.passesPause pause id) then return false
    if !(← Block.isDue persistence) then return false
    match loop with
    | .once =>
      if ← Block.guardHolds guard id then
        if (← Controller.runBody id ignoresPause false body) = .unwind then return true
      else return ← Block.runOtherwise id otherwise
    | .whileGuard =>
      let limit := (← Act.machine).loopLimit
      if ← Loop.whileHolds limit (Block.guardHolds guard id)
          (Controller.runBody id ignoresPause true body) limit then return true
    | .forRange range =>
      if ← Block.runRange range id (Controller.runBody id ignoresPause true body) then
        return true
    Block.reload persistence
    return false

/-- Runs the block for a failed guard, if there is one. -/
def Block.runOtherwise (id : EntityId) : Option Block → Act Bool
  | none => return false
  | some b => b.run id

/-- **Runs the controllers of a body** until one asks to unwind.  In a loop the pending signal
    decides what that means. -/
def Controller.runBody (id : EntityId) (ignoresPause inLoop : Bool) : List Controller → Act Flow
  | [] => return .completed
  | c :: rest => do
    let held ← if c.isBlock || ignoresPause then pure false else Act.isPaused id
    if held then Controller.runBody id ignoresPause inLoop rest
    else if ← c.run id then
      if inLoop then return Block.flowOfSignal (← Act.takeSignal) else return .unwind
    else Controller.runBody id ignoresPause inLoop rest

/-- **Runs a function** whose arguments are on the stack, in a window and with counters of its
    own.  Results are bound only if no controller asked to unwind. -/
def Function.run (id : EntityId) (rets : List UInt8) : Function → Act Bool
  | ⟨name, argCount, retCount, localCount, persistenceSlots, toggleSlots, body⟩ => do
    let f : Function :=
      ⟨name, argCount, retCount, localCount, persistenceSlots, toggleSlots, body⟩
    f.checkCounts rets
    Act.withWindow f.windowSize do
      Function.takeArguments argCount
      Act.withMemory (.sized persistenceSlots toggleSlots) do
        if (← Controller.runBody id false false body) = .unwind then return true
        Function.giveResults argCount rets
        return false

end

end TickScript
