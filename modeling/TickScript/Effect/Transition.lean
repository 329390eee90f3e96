import TickScript.Effect.Target

/-! # State, animation and control

    Effects that move an entity to another state or change how it is classified.  A state change
    is only requested here; it is applied at the entity's next pass.
-/

namespace TickScript.Effect

/-! ## Changing state -/

namespace StateTag

@[match_pattern] def value : UInt8 := 0
@[match_pattern] def ctrl : UInt8 := 1
@[match_pattern] def anim : UInt8 := 2
@[match_pattern] def continue_ : UInt8 := 3
/-- The player whose library the state is taken from. -/
@[match_pattern] def readPlayerId : UInt8 := 4

end StateTag

/-- Where the library of a requested state comes from. -/
inductive StateSource where
  /-- The library that runs the present state. -/
  | present
  /-- The target's own library, unless a record names another player. -/
  | own
  deriving DecidableEq

/-- **What a state change asks for.** -/
structure StateChange where
  number : Option Int32
  anim : Option Int32
  ctrl : Option Bool
  owner : Option Nat
  /-- Whether the origin stops running its present state. -/
  stop : Bool

/-- One record of a state change; false ends the visit. -/
def stateRecord (source : StateSource) (r : ArgRecord) : Visiting StateChange Bool := do
  match r.tag with
  | StateTag.value =>
    let n ← Visiting.int r
    Visiting.revise fun p => { p with number := some n }
    return true
  | StateTag.ctrl =>
    let b ← Visiting.bool r
    Visiting.revise fun p => { p with ctrl := some b }
    return true
  | StateTag.anim =>
    let n ← Visiting.int r
    Visiting.revise fun p => { p with anim := some n }
    return true
  | StateTag.continue_ =>
    let b ← Visiting.bool r
    Visiting.revise fun p => { p with stop := !b }
    return true
  | StateTag.readPlayerId =>
    match source with
    | .present => return true
    | .own =>
      let scriptId ← Visiting.int r
      match (← Act.roster).withScriptId scriptId with
      | none => return false
      | some id =>
        let e ← Act.entity id
        Visiting.revise fun p => { p with owner := some e.playerNo }
        return true
  | _ => return true

/-- A redirect of a state change; the origin then goes on unless a later record says so. -/
def redirectState (r : ArgRecord) : Visiting StateChange Bool := do
  if ← Visiting.redirect r then
    Visiting.revise fun p => { p with stop := false }
    return true
  else return false

/-- **Requests a state** for the target; whether the origin must stop. -/
def changeState (source : StateSource) (origin : EntityId) (args : ArgBlock) : Act Bool := do
  let (finished, v) ←
    visitBlock origin args ⟨none, none, none, none, true⟩ redirectState (stateRecord source)
  match finished, v.plan.number with
  | true, some number =>
    let e ← Act.entity v.target.id
    let owner := match source with
      | .present => v.plan.owner
      | .own => some (v.plan.owner.getD e.playerNo)
    Act.update v.target.id fun e =>
      { e with pending := some ⟨number, v.plan.anim, v.plan.ctrl, owner⟩ }
    return v.plan.stop
  | _, _ => return false

/-! ## Classes of state -/

namespace StateTypeTag

@[match_pattern] def stateType : UInt8 := 0
@[match_pattern] def moveType : UInt8 := 1
@[match_pattern] def physics : UInt8 := 2

end StateTypeTag

/-- The low byte of a code. -/
def lowByte (n : Int32) : UInt8 := n.toUInt32.toUInt8

/-- **Sets posture, intent and physics**; an unknown code changes nothing. -/
def stateTypeSet (origin : EntityId) (args : ArgBlock) : Act Unit :=
  eachRecord origin args fun r => do
    match r.tag with
    | StateTypeTag.stateType =>
      match StateType.ofCode? (lowByte (← Visiting.int r)) with
      | some t => Visiting.updateTarget fun e => { e with state := { e.state with stateType := t } }
      | none => pure ()
    | StateTypeTag.moveType =>
      match MoveType.ofCode? (lowByte (← Visiting.int r)) with
      | some t => Visiting.updateTarget fun e => e.setMoveType t
      | none => pure ()
    | StateTypeTag.physics =>
      match Physics.ofCode? (lowByte (← Visiting.int r)) with
      | some p => Visiting.updateTarget fun e => { e with state := { e.state with physics := p } }
      | none => pure ()
    | _ => pure ()

/-! ## Animation, control and facing -/

namespace AnimTag

@[match_pattern] def elem : UInt8 := 0
@[match_pattern] def value : UInt8 := 1
@[match_pattern] def readPlayerId : UInt8 := 2

end AnimTag

/-- **Switches the animation**, at the element of the last element record before.  Naming a
    player who is not there ends the visit. -/
def changeAnim (origin : EntityId) (args : ArgBlock) : Act Unit := do
  let _ ← visitBlock origin args (1 : Int32) Visiting.redirect fun r => do
    match r.tag with
    | AnimTag.elem =>
      let n ← Visiting.int r
      Visiting.revise fun _ => n
      return true
    | AnimTag.value =>
      let anim ← Visiting.int r
      let elem ← Visiting.plan
      Visiting.updateTarget fun e => e.setAnim anim elem
      return true
    | AnimTag.readPlayerId =>
      let scriptId ← Visiting.int r
      return ((← Act.roster).withScriptId scriptId).isSome
    | _ => return true

/-- The only argument of many effects. -/
@[match_pattern] def valueTag : UInt8 := 0

/-- **Gives or takes control.** -/
def ctrlSet (origin : EntityId) (args : ArgBlock) : Act Unit :=
  eachRecord origin args fun r => do
    match r.tag with
    | valueTag =>
      let b ← Visiting.bool r
      Visiting.updateTarget fun e => { e with ctrl := b }
    | _ => pure ()

/-- **Turns around**, once for each record. -/
def turn (origin : EntityId) (args : ArgBlock) : Act Unit :=
  eachRecord origin args fun r => do
    match r.tag with
    | valueTag => Visiting.updateTarget fun e => { e with facing := -e.facing }
    | _ => pure ()

/-! ## The attacker's targets -/

namespace TargetTag

/-- Narrows the targets to a script id. -/
@[match_pattern] def id : UInt8 := 0
@[match_pattern] def value : UInt8 := 1

end TargetTag

/-- Minus one, zero or one. -/
def signum (n : Int32) : Int32 := if n < 0 then -1 else if 0 < n then 1 else 0

/-- **Puts the targets into a state** of the attacker's library. -/
def targetState (origin : EntityId) (args : ArgBlock) : Act Unit := do
  let _ ← visitTargets origin args () fun r => do
    match r.tag with
    | TargetTag.id => Selection.narrow r
    | TargetTag.value => Selection.each fun ids => do
        let number ← Visiting.int r
        let attacker ← Visiting.targetEntity
        ids.forM fun t => Act.update t fun e =>
          { e with pending := some ⟨number, none, none, some attacker.playerNo⟩ }
    | _ => return true

/-- **Turns the targets** like the attacker (positive) or against it (negative). -/
def targetFacing (origin : EntityId) (args : ArgBlock) : Act Unit := do
  let _ ← visitTargets origin args () fun r => do
    match r.tag with
    | TargetTag.id => Selection.narrow r
    | TargetTag.value => Selection.each fun ids => do
        let direction ← Visiting.int r
        let attacker ← Visiting.targetEntity
        if direction ≠ 0 then
          ids.forM fun t => Act.update t fun e =>
            { e with facing := attacker.facing * Single.ofInt32 (signum direction) }
    | _ => return true

namespace DropTag

/-- The script id whose targets are kept; `-1` keeps all. -/
@[match_pattern] def exclude : UInt8 := 0
@[match_pattern] def keepOne : UInt8 := 1

end DropTag

/-- Which targets stay. -/
structure DropPlan where
  exclude : Int32
  keepOne : Bool

/-- **Forgets targets** but those kept, of whom one chosen at random stays if only one may. -/
def targetDrop (origin : EntityId) (args : ArgBlock) : Act Unit := do
  let (finished, v) ← visitTargets origin args (⟨-1, true⟩ : DropPlan) fun r => do
    match r.tag with
    | DropTag.exclude =>
      let n ← Visiting.int r
      Visiting.revise fun s => { s with plan := { s.plan with exclude := n } }
      return true
    | DropTag.keepOne =>
      let b ← Visiting.bool r
      Visiting.revise fun s => { s with plan := { s.plan with keepOne := b } }
      return true
    | _ => return true
  if finished ∧ v.plan.ids ≠ [] then
    let attacker := v.target.id
    let kept := (← Act.roster).targetsWith attacker v.plan.plan.exclude
    if v.plan.plan.keepOne ∧ 1 < kept.length then
      let pick ← Act.random 0 (Int32.ofNat kept.length - 1)
      Act.update attacker fun e => { e with targets := kept[pick.toInt.toNat]?.toList }
    else Act.update attacker fun e => { e with targets := kept }

end TickScript.Effect
