import TickScript.Effect.Motion

/-! # Projectiles

    A projectile starts at an offset from its owner and flies along the owner's facing.  Offsets
    and velocities are lengths; multipliers and scales are not.
-/

namespace TickScript.Effect

namespace ProjectileTag

@[match_pattern] def id : UInt8 := 0
@[match_pattern] def anim : UInt8 := 1
@[match_pattern] def hitAnim : UInt8 := 2
@[match_pattern] def removeAnim : UInt8 := 3
@[match_pattern] def cancelAnim : UInt8 := 4
@[match_pattern] def offset : UInt8 := 5
@[match_pattern] def velocity : UInt8 := 6
@[match_pattern] def velocityMul : UInt8 := 7
@[match_pattern] def removeVelocity : UInt8 := 8
@[match_pattern] def accel : UInt8 := 9
@[match_pattern] def scale : UInt8 := 10
@[match_pattern] def angle : UInt8 := 11
@[match_pattern] def removeTime : UInt8 := 12
@[match_pattern] def missTime : UInt8 := 13
@[match_pattern] def hits : UInt8 := 14
@[match_pattern] def priority : UInt8 := 15
@[match_pattern] def spritePriority : UInt8 := 16

end ProjectileTag

/-- **What a new projectile asks for.** -/
structure ProjectilePlan where
  projectile : Projectile
  offset : Plane
  /-- Whether no record was visited yet. -/
  first : Bool

/-- Changes the projectile of a plan. -/
def reviseProjectile (f : Projectile → Projectile) : Visiting ProjectilePlan Unit :=
  Visiting.revise fun p => { p with projectile := f p.projectile }

/-- Sets a field of the projectile to an integer. -/
def projectileInt (r : ArgRecord) (f : Int32 → Projectile → Projectile) :
    Visiting ProjectilePlan Unit := do
  let n ← Visiting.int r
  reviseProjectile (f n)

/-- Sets a field of the projectile to a pair; a missing second number stays as it was. -/
def projectilePair (r : ArgRecord) (scaled : Bool) (field : Projectile → Plane)
    (f : Plane → Projectile → Projectile) : Visiting ProjectilePlan Unit := do
  let t ← Visiting.target
  let ratio := if scaled then t.ratio else .one
  let old := field (← Visiting.plan).projectile
  let (x, y) ← Visiting.pair r
  reviseProjectile (f ⟨x * ratio, (y.map (· * ratio)).getD old.y⟩)

/-- One record of a new projectile. -/
def projectileRecord (r : ArgRecord) : Visiting ProjectilePlan Unit := do
  Visiting.revise fun p => { p with first := false }
  match r.tag with
  | ProjectileTag.id => projectileInt r fun n p => { p with id := n }
  | ProjectileTag.anim => projectileInt r fun n p => { p with anim := n }
  | ProjectileTag.hitAnim => projectileInt r fun n p => { p with hitAnim := n }
  | ProjectileTag.removeAnim => projectileInt r fun n p => { p with removeAnim := n }
  | ProjectileTag.cancelAnim => projectileInt r fun n p => { p with cancelAnim := n }
  | ProjectileTag.offset =>
    let offset ← lengthPair r (← Visiting.plan).offset
    Visiting.revise fun p => { p with offset := offset }
  | ProjectileTag.velocity =>
    projectilePair r true (·.velocity) fun v p => { p with velocity := v }
  | ProjectileTag.velocityMul =>
    projectilePair r false (·.velocityMul) fun v p => { p with velocityMul := v }
  | ProjectileTag.removeVelocity =>
    projectilePair r true (·.removeVelocity) fun v p => { p with removeVelocity := v }
  | ProjectileTag.accel => projectilePair r true (·.accel) fun v p => { p with accel := v }
  | ProjectileTag.scale => projectilePair r false (·.scale) fun v p => { p with scale := v }
  | ProjectileTag.angle =>
    let v ← Visiting.single r
    reviseProjectile fun p => { p with angle := v }
  | ProjectileTag.removeTime => projectileInt r fun n p => { p with removeTime := n }
  | ProjectileTag.missTime => projectileInt r fun n p => { p with missTime := n }
  | ProjectileTag.hits => projectileInt r fun n p => { p with hits := n }
  | ProjectileTag.priority => projectileInt r fun n p => { p with priority := n }
  | ProjectileTag.spritePriority => projectileInt r fun n p => { p with spritePriority := n }
  | _ => pure ()

/-- A redirect counts only as the first record. -/
def redirectFirst (r : ArgRecord) : Visiting ProjectilePlan Bool := do
  if (← Visiting.plan).first then
    Visiting.revise fun p => { p with first := false }
    Visiting.redirect r
  else return true

/-- **The projectile that an owner fires.**  An unset removal animation is the hit animation, an
    unset cancel animation the removal animation. -/
def ProjectilePlan.fired (plan : ProjectilePlan) (owner : Entity) : Projectile :=
  let p := plan.projectile
  let removeAnim := if p.removeAnim = -1 then p.hitAnim else p.removeAnim
  { p with
    removeAnim := removeAnim
    cancelAnim := if p.cancelAnim = -1 then removeAnim else p.cancelAnim
    facing := owner.facing
    pos := ⟨owner.pos.x + plan.offset.x * owner.facing, owner.pos.y + plan.offset.y⟩ }

/-- **Fires a projectile.** -/
def projectile (origin : EntityId) (args : ArgBlock) : Act Unit := do
  let (finished, v) ←
    visitBlock origin args (⟨.fresh, .zero, true⟩ : ProjectilePlan) redirectFirst fun r => do
      projectileRecord r
      return true
  if finished then
    Act.update v.target.id fun e =>
      { e with projectiles := e.projectiles ++ [v.plan.fired e] }

end TickScript.Effect
