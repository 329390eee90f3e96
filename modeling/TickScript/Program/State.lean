import TickScript.Program.Run
import TickScript.Settings.Basic

/-! # Programs of states, and libraries

    A state has a program: what it imposes when it is entered, and a block that runs once per
    tick.  The programs of a player form a library, which also holds their strings and the bit
    order of their powers.
-/

namespace TickScript

/-- **Program of a state.** -/
structure StateProgram where
  number : Int32
  /-- None leaves the entity's posture as it is, and so on. -/
  stateType : Option StateType
  moveType : Option MoveType
  physics : Option Physics
  /-- Arguments of the step that runs when the state is entered. -/
  entry : ArgBlock
  block : Block
  persistenceSlots : Nat
  toggleSlots : Nat
  /-- The size of the window of each run. -/
  localCount : Nat

namespace EntryTag

@[match_pattern] def velocity : UInt8 := 0
@[match_pattern] def anim : UInt8 := 1
@[match_pattern] def ctrl : UInt8 := 2
@[match_pattern] def powerAdd : UInt8 := 3
/-- Turns towards the nearest opponent. -/
@[match_pattern] def faceEnemy : UInt8 := 4
@[match_pattern] def juggle : UInt8 := 5
@[match_pattern] def spritePriority : UInt8 := 6
@[match_pattern] def keepHitCount : UInt8 := 7
@[match_pattern] def keepMoveHit : UInt8 := 8

end EntryTag

/-- Turns an entity around if another one stands behind it. -/
def Entity.face (other : Entity) (e : Entity) : Entity :=
  if ((other.pos.x - e.pos.x) * e.facing).lt .zero then { e with facing := -e.facing } else e

namespace StateProgram

/-- Turns the entity towards its nearest opponent. -/
def faceEnemy (id : EntityId) : Act Unit := do
  match (← Act.roster).nearestEnemy id with
  | none => pure ()
  | some other =>
    let o ← Act.entity other
    Act.update id (Entity.face o)

/-- One record of the entry step. -/
def entryRecord (id : EntityId) (r : ArgRecord) : Act Unit := do
  let value : Act Value := do Act.evaluate (← Act.ofExcept (r.expression 0)) id
  let value? (n : Nat) : Act (Option Value) := do
    match r.expressions[n]? with
    | some code => return some (← Act.evaluate code id)
    | none => return none
  match r.tag with
  | EntryTag.velocity =>
    let x := (← value).toSingle
    let y ← value? 1
    let z ← value? 2
    Act.update id fun e =>
      { e with vel := ⟨x, (y.map Value.toSingle).getD e.vel.y, (z.map Value.toSingle).getD e.vel.z⟩ }
  | EntryTag.anim =>
    let anim := (← value).toInt32
    Act.update id fun e => e.setAnim anim 1
  | EntryTag.ctrl =>
    let ctrl := (← value).toBool
    Act.update id fun e => { e with ctrl := ctrl }
  | EntryTag.powerAdd =>
    let n := (← value).toInt32
    Act.update id fun e => e.addPower n
  | EntryTag.faceEnemy => if (← value).toBool then faceEnemy id
  | EntryTag.juggle =>
    let n := (← value).toInt32
    Act.update id fun e => { e with juggle := n }
  | EntryTag.spritePriority =>
    let n := (← value).toInt32
    Act.update id fun e => { e with spritePriority := n }
  | EntryTag.keepHitCount =>
    if !(← value).toBool then Act.update id fun e => { e with hitCount := 0, uniqueHitCount := 0 }
  | EntryTag.keepMoveHit => if !(← value).toBool then Act.update id Entity.clearMoveHit
  | _ => pure ()

/-- The entry step. -/
def runEntry (entry : ArgBlock) (id : EntityId) : Act Unit := do
  let _ ← ArgBlock.walk entry fun r => do
    entryRecord id r
    return true

/-- What the state imposes at once: fresh counters and the classes that it sets. -/
def impose (p : StateProgram) (e : Entity) : Entity :=
  let e := { e with memory := .sized p.persistenceSlots p.toggleSlots }
  let e := match p.stateType with
    | some t => { e with state := { e.state with stateType := t } }
    | none => e
  let e := match p.moveType with
    | some t => e.setMoveType t
    | none => e
  match p.physics with
  | some t => { e with state := { e.state with physics := t } }
  | none => e

/-- **Enters the state.** -/
def enter (p : StateProgram) (id : EntityId) : Act Unit := do
  Act.update id p.impose
  Act.withWindow p.localCount (runEntry p.entry id)

/-- **Runs the program once**; whether it was stopped.  A signal that no loop took is dropped,
    and nothing may be left on the stack. -/
def run (p : StateProgram) (id : EntityId) : Act Bool :=
  Act.withWindow p.localCount do
    let stopped ← p.block.run id
    let _ ← Act.takeSignal
    Act.ofExcept ((← Act.machine).checkBalance p.number)
    return stopped

end StateProgram

/-! ## Libraries -/

/-- **The programs of a player.** -/
structure Library where
  programs : List StateProgram
  strings : StringPool
  /-- Major version of the engine the programs were made for. -/
  engineMajor : UInt32
  powOrder : PowOrder

namespace Library

/-- A library without programs. -/
def empty (strings : StringPool) (engineMajor : UInt32) : Library :=
  ⟨[], strings, engineMajor, Settings.empty.powOrderFor engineMajor⟩

/-- The program of a state. -/
def get? (l : Library) (number : Int32) : Option StateProgram :=
  l.programs.find? fun p => p.number == number

/-- Adds a program, replacing the one of the same state. -/
def insert (l : Library) (p : StateProgram) : Library :=
  { l with programs := p :: l.programs.filter fun q => q.number != p.number }

/-- Chooses the bit order of powers by settings. -/
def configure (l : Library) (s : Settings) : Library :=
  { l with powOrder := s.powOrderFor l.engineMajor }

def size (l : Library) : Nat := l.programs.length

end Library
end TickScript
