import TickScript.Effect.Explods

/-! # Helpers

    A helper exists from the first record on, so later records write straight into it.  When the
    visit ends, also if a record ended it early, the helper is placed relative to the target and
    asks for its first state.
-/

namespace TickScript.Effect

namespace HelperTag

/-- The name, as text. -/
@[match_pattern] def name : UInt8 := 0
@[match_pattern] def id : UInt8 := 1
@[match_pattern] def stateNo : UInt8 := 2
@[match_pattern] def pos : UInt8 := 3
@[match_pattern] def facing : UInt8 := 4
@[match_pattern] def sizeScale : UInt8 := 5
/-- Evaluated, but without effect. -/
@[match_pattern] def ownPalette : UInt8 := 6

end HelperTag

/-- **What a new helper asks for.** -/
structure HelperPlan where
  spawned : Option EntityId
  state : Int32
  offset : Plane
  facing : Int32

/-- The name of a helper that was given none. -/
def helperName : String := "helper"

/-- Spawns the helper under the target; false if that is impossible. -/
def spawn : Visiting HelperPlan Bool := do
  match (← Act.roster).spawnHelper (← Visiting.target).id helperName with
  | none => return false
  | some (roster, h) =>
    Act.setRoster roster
    Visiting.revise fun p => { p with spawned := some h }
    return true

/-- Makes sure that the helper exists; false if it cannot. -/
def ensureSpawned : Visiting HelperPlan Bool := do
  if (← Visiting.plan).spawned.isSome then return true else spawn

/-- A redirect before the helper exists decides whom it is spawned under. -/
def redirectHelper (r : ArgRecord) : Visiting HelperPlan Bool := do
  if ← Visiting.redirect r then ensureSpawned else return false

/-- Changes the helper. -/
def updateHelper (f : Entity → Entity) : Visiting HelperPlan Unit := do
  match (← Visiting.plan).spawned with
  | some h => Act.update h f
  | none => pure ()

/-- One record of a new helper that exists already. -/
def helperRecord (r : ArgRecord) : Visiting HelperPlan Unit := do
  match r.tag with
  | HelperTag.name =>
    let name ← Visiting.text r
    updateHelper fun h => { h with name := name }
  | HelperTag.id =>
    let n ← Visiting.int r
    updateHelper fun h => { h with helperId := n }
  | HelperTag.stateNo =>
    let n ← Visiting.int r
    Visiting.revise fun p => { p with state := n }
  | HelperTag.pos =>
    let offset ← lengthPair r (← Visiting.plan).offset
    Visiting.revise fun p => { p with offset := offset }
  | HelperTag.facing =>
    let n ← Visiting.int r
    Visiting.revise fun p => { p with facing := n }
  | HelperTag.sizeScale =>
    let scale ← scalePair r
    updateHelper fun h =>
      { h with constants := { h.constants with xScale := scale.x, yScale := scale.y } }
  | HelperTag.ownPalette =>
    let _ ← Visiting.bool r
  | _ => pure ()

/-- Places a helper relative to an entity and requests its first state. -/
def HelperPlan.place (p : HelperPlan) (near : Entity) (h : Entity) : Entity :=
  { h with
    pos := { h.pos with
      x := near.pos.x + p.offset.x * near.facing
      y := near.pos.y + p.offset.y }
    facing := relativeFacing p.facing near.facing
    pending := some (.plain p.state) }

/-- **Spawns a helper.** -/
def helper (origin : EntityId) (args : ArgBlock) : Act Unit := do
  let (_, v) ←
    visitBlock origin args (⟨none, 0, .zero, 1⟩ : HelperPlan) redirectHelper fun r => do
      if ← ensureSpawned then
        helperRecord r
        return true
      else return false
  match v.plan.spawned with
  | none => pure ()
  | some h =>
    let near ← Act.entity v.target.id
    Act.update h (v.plan.place near)

/-! ## Removal -/

namespace DestroyTag

@[match_pattern] def recursive : UInt8 := 0
@[match_pattern] def removeExplods : UInt8 := 1

end DestroyTag

/-- **What a removal asks for.** -/
structure DestroyPlan where
  recursive : Bool
  removeExplods : Bool

/-- **Removes a helper**; whether the origin is the one removed.  A root stays. -/
def destroySelf (origin : EntityId) (args : ArgBlock) : Act Bool := do
  let (finished, v) ←
    visitBlock origin args (⟨false, false⟩ : DestroyPlan) Visiting.redirect fun r => do
      match r.tag with
      | DestroyTag.recursive =>
        let b ← Visiting.bool r
        Visiting.revise fun p => { p with recursive := b }
      | DestroyTag.removeExplods =>
        let b ← Visiting.bool r
        Visiting.revise fun p => { p with removeExplods := b }
      | _ => pure ()
      return true
  if !finished then return false
  else
    let id := v.target.id
    if !(← Act.entity id).isHelper then return false
    else
      if v.plan.removeExplods then Act.update id fun e => e.removeExplods (-1)
      let (roster, destroyed) := (← Act.roster).destroy id v.plan.recursive
      Act.setRoster roster
      return destroyed && id == origin

end TickScript.Effect
