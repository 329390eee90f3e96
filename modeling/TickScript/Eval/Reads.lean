import TickScript.Eval.Basic

/-! # Reading entities

    What instructions read of an entity and of the roster.  Coordinates are converted from the
    scale of the entity that is read to that of the entity that asks.
-/

namespace TickScript

/-- **Factor from one entity's coordinates to another's.** -/
def Roster.scaleRatio (r : Roster) (current origin : EntityId) : Except Fault Single :=
  if current = origin then .ok .one
  else do
    let c ← r.get current
    let o ← r.get origin
    .ok (c.localScale / o.localScale)

namespace Field

/-- The value of a field. -/
def read (e : Entity) : Field → Value
  | time => .ofInt32 e.state.time
  | stateNo => .ofInt32 e.state.number
  | prevStateNo => .ofInt32 e.state.previous
  | ctrl => .bool e.ctrl
  | anim => .ofInt32 e.anim
  | animElem => .ofInt32 e.animElem
  | facing => .ofInt32 e.facing.toInt32
  | alive => .bool e.alive
  | life => .ofInt32 e.life
  | lifeMax => .ofInt32 e.lifeMax
  | power => .ofInt32 e.power
  | powerMax => .ofInt32 e.powerMax
  | id => .ofInt32 e.id
  | hitPauseTime => .ofInt32 e.hitPauseTime
  | hitCount => .ofInt32 e.hitCount
  | moveHit => .bool e.moveHit
  | moveContact => .bool e.moveContact
  | teamSide => .ofInt32 e.teamSide
  | playerNo => .ofCount e.playerNo

end Field

/-- A coordinate in the entity's own scale. -/
def Coordinate.read (e : Entity) : Coordinate → Single
  | .posX => e.pos.x
  | .posY => e.pos.y
  | .velX => e.vel.x
  | .velY => e.vel.y

/-- A coordinate of the third axis in the entity's own scale. -/
def Depth.read (e : Entity) : Depth → Single
  | .pos => e.pos.z
  | .vel => e.vel.z

def NumberField.read (e : Entity) : NumberField → Single
  | .angle => e.angle
  | .localScale => e.localScale
  | .attackMul => e.attackMul

/-- A constant that has no name; lengths are converted by the ratio. -/
def ConstantOp.read (c : EntityConstants) (ratio : Single) : ConstantOp → Value
  | .life => .ofInt32 c.life
  | .power => .ofInt32 c.power
  | .attack => .ofInt32 c.attack
  | .defence => .ofInt32 c.defence
  | .xScale => .ofSingle c.xScale
  | .yScale => .ofSingle c.yScale
  | .yAccel => .ofSingle (c.yAccel * ratio)
  | .walkForward => .ofSingle (c.walkForward * ratio)
  | .walkBack => .ofSingle (c.walkBack * ratio)
  | .jump => .ofSingle (c.jump * ratio)
  | .named => .failed

/-- A constant by name. -/
def EntityConstants.constant (c : EntityConstants) (name : String) : Value :=
  (c.named.get? (Text.lower name)).elim .failed .ofSingle

/-- Whom a distance is measured to. -/
def Landmark.resolve (r : Roster) (id : EntityId) : Landmark → Option EntityId
  | .parent => r.parent id
  | .root => r.root id
  | .nearestEnemy => r.nearestEnemy id

namespace Eval

/-- The factor from the current entity's coordinates to the origin's. -/
def scaleRatio (current origin : EntityId) : Eval Single := do
  ofExcept ((← roster).scaleRatio current origin)

/-- Pushes a length of the current entity in the coordinates of the origin. -/
def pushScaled (current origin : EntityId) (read : Entity → Single) : Eval Unit := do
  let ratio ← scaleRatio current origin
  let e ← entity current
  push (.ofSingle (read e * ratio))

/-- Answers a question about the entity by replacing the argument. -/
def query (current : EntityId) : Query → Eval Unit
  | .isHelper => do
    let e ← entity current
    modifyTop fun v => .bool (e.isHelper && (v.toInt32 ≤ 0 || e.helperId == v.toInt32))
  | .numHelper => do
    let r ← roster
    modifyTop fun v => .ofCount (r.numHelpers current v.toInt32)
  | .numTarget => do
    let _ ← top
    let _ ← entity current
    let r ← roster
    modifyTop fun v => .ofCount (r.numTargets current v.toInt32)
  | .numExplod => do
    let e ← entity current
    modifyTop fun v => .ofCount (e.explodCount v.toInt32)
  | .scriptIdExists => do
    let r ← roster
    modifyTop fun v => .bool (r.withScriptId v.toInt32).isSome

/-- Pushes a number about the roster. -/
def tally (current : EntityId) : Tally → Eval Unit
  | .numEnemy => do
    let _ ← entity current
    push (.ofCount ((← roster).numEnemies current))
  | .numPartner => do
    let _ ← entity current
    push (.ofCount ((← roster).numPartners current))
  | .gameTime => do push (.ofInt32 (← roster).gameTime)
  | .roundState => do push (.ofInt32 (← roster).roundState)

/-- The distance from one entity to another: along the first one's facing, or downwards. -/
def separation (e other : Entity) : Axis → Single
  | .x => (other.pos.x - e.pos.x) * e.facing
  | .y => other.pos.y - e.pos.y

/-- Pushes the distance to a landmark, `failed` if there is none. -/
def distance (current origin : EntityId) (mark : Landmark) (axis : Axis) : Eval Unit := do
  match mark.resolve (← roster) current with
  | none => push .failed
  | some other =>
    let ratio ← scaleRatio current origin
    let e ← entity current
    let o ← entity other
    push (.ofSingle (separation e o axis * ratio))

end Eval
end TickScript
