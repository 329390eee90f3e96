import TickScript.Arguments
import TickScript.Eval.Run
import TickScript.Roster.Lifecycle
import TickScript.Save.Directory

/-! # What scripts act on

    A `Scene` is everything a controller can change: the machine, the roster, the save files, the
    lines printed so far, and the counters of the program or function that is running.  An action
    may fault; what it did before the fault stays done.
-/

namespace TickScript

/-- **Scene.** -/
structure Scene where
  machine : Machine
  roster : Roster
  files : FileTree
  /-- Printed lines, each with the number of the player it was printed for. -/
  console : List (Nat × String)
  /-- The counters of the running blocks. -/
  memory : BlockMemory

/-- An action on a scene. -/
abbrev Act := EStateM Fault Scene

namespace Act

/-- A result that may be a fault. -/
def ofExcept : Except Fault α → Act α
  | .ok a => pure a
  | .error f => throw f

/-! ## Machine -/

def machine : Act Machine := return (← get).machine

def setMachine (m : Machine) : Act Unit := modify fun s => { s with machine := m }

/-- Changes the windows by a function that may fault. -/
def onWindows (f : Windows → Except Fault Windows) : Act Unit := do
  let m ← machine
  let windows ← ofExcept (f m.windows)
  setMachine { m with windows := windows }

/-- The value of a slot of the newest window. -/
def localSlot (slot : Nat) : Act Value := do ofExcept ((← machine).windows.get slot)

/-- **Runs an action in a window of its own**, which is closed however the action ends. -/
def withWindow (size : Nat) (action : Act α) : Act α := fun s =>
  let opened (s : Scene) : Scene :=
    { s with machine := { s.machine with windows := s.machine.windows.push size } }
  let closed (s : Scene) : Scene :=
    { s with machine := { s.machine with windows := s.machine.windows.pop } }
  match action (opened s) with
  | .ok a s => .ok a (closed s)
  | .error f s => .error f (closed s)

/-- Raises a loop signal. -/
def raise (signal : LoopSignal) : Act Unit := do
  setMachine { ← machine with signal := some signal }

/-- Takes the pending loop signal. -/
def takeSignal : Act (Option LoopSignal) := do
  let m ← machine
  setMachine { m with signal := none }
  return m.signal

/-! ## Expressions -/

/-- What an expression reads of the machine. -/
def context (m : Machine) : EvalContext := ⟨m.windows, m.strings, m.powOrder⟩

/-- **Evaluates an expression for an entity.** -/
def evaluate (code : Expression) (id : EntityId) : Act Value := fun s =>
  let m := s.machine
  let after (b : Bench) : Scene :=
    { s with machine := { m with stack := b.stack, profile := b.profile }, roster := b.roster }
  match Eval.eval (context m) m.budget code id ⟨m.stack, m.profile, s.roster⟩ with
  | .ok v b => .ok v (after b)
  | .error f b => .error f (after b)

/-! ## Roster -/

def roster : Act Roster := return (← get).roster

def setRoster (r : Roster) : Act Unit := modify fun s => { s with roster := r }

/-- The entity that must be live. -/
def entity (id : EntityId) : Act Entity := do ofExcept ((← roster).get id)

/-- Changes the entity, which must be live. -/
def update (id : EntityId) (f : Entity → Entity) : Act Unit := do
  let _ ← entity id
  setRoster ((← roster).modify id f)

/-- A random integer between two bounds in either order. -/
def random (a b : Int32) : Act Int32 := do
  let (n, r) := (← roster).random a b
  setRoster r
  return n

/-! ## Counters -/

/-- **Runs an action with counters of its own**; the present ones come back however it ends. -/
def withMemory (memory : BlockMemory) (action : Act α) : Act α := fun s =>
  match action { s with memory := memory } with
  | .ok a t => .ok a { t with memory := s.memory }
  | .error f t => .error f { t with memory := s.memory }

/-- Counters and their changes. -/
def memory : Act BlockMemory := return (← get).memory

def setMemory (m : BlockMemory) : Act Unit := modify fun s => { s with memory := m }

/-! ## Console -/

/-- Prints a line for a player. -/
def print (playerNo : Nat) (line : String) : Act Unit :=
  modify fun s => { s with console := s.console ++ [(playerNo, line)] }

end Act
end TickScript
