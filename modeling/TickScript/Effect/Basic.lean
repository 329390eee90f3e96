import TickScript.Effect.Motion
import TickScript.Effect.Vitals
import TickScript.Effect.Variables
import TickScript.Effect.Explods
import TickScript.Effect.Projectiles
import TickScript.Effect.Summon
import TickScript.Effect.Messages
import TickScript.Effect.Saving

/-! # Effects

    An effect is a controller with an argument block.  Three of them can stop the origin: the two
    state changes and the removal of a helper.
-/

namespace TickScript

/-- **Kind of effect.** -/
inductive EffectKind where
  | changeState (source : Effect.StateSource)
  | stateTypeSet
  | changeAnim
  | ctrlSet
  | turn
  | destroySelf
  | targetState
  | targetFacing
  | targetDrop
  | vector (op : Effect.VectorOp)
  | gravity
  | rotate (op : Effect.AngleOp)
  | targetVelocity (op : Effect.VectorOp)
  | posFreeze
  | bind (anchor : Effect.Anchor)
  | lifeAdd
  | vital (op : Effect.VitalOp)
  | attackMulSet
  | targetLifeAdd
  | targetPowerAdd
  | defenceMulSet
  | hitAdd
  | moveHitReset
  | varSet
  | varRangeSet
  | varRandom
  | mapSet
  | helper
  | explod
  | removeExplod
  | modifyExplod
  | explodBindTime
  | projectile
  | printToConsole
  | clipboard (mode : Effect.ClipboardMode)
  | clearClipboard
  | saveFile
  | loadFile
  deriving DecidableEq

/-- **Runs an effect** for an entity; whether the entity must stop running its state. -/
def EffectKind.run (origin : EntityId) (args : ArgBlock) : EffectKind → Act Bool
  | changeState source => Effect.changeState source origin args
  | destroySelf => Effect.destroySelf origin args
  | kind => do
    match kind with
    | changeState _ | destroySelf => pure ()
    | stateTypeSet => Effect.stateTypeSet origin args
    | changeAnim => Effect.changeAnim origin args
    | ctrlSet => Effect.ctrlSet origin args
    | turn => Effect.turn origin args
    | targetState => Effect.targetState origin args
    | targetFacing => Effect.targetFacing origin args
    | targetDrop => Effect.targetDrop origin args
    | vector op => Effect.vector op origin args
    | gravity => Effect.gravity origin args
    | rotate op => Effect.rotate op origin args
    | targetVelocity op => Effect.targetVelocity op origin args
    | posFreeze => Effect.posFreeze origin args
    | bind anchor => Effect.bind anchor origin args
    | lifeAdd => Effect.lifeAdd origin args
    | vital op => Effect.vital op origin args
    | attackMulSet => Effect.attackMulSet origin args
    | targetLifeAdd => Effect.targetLifeAdd origin args
    | targetPowerAdd => Effect.targetPowerAdd origin args
    | defenceMulSet => Effect.defenceMulSet origin args
    | hitAdd => Effect.hitAdd origin args
    | moveHitReset => Effect.moveHitReset origin args
    | varSet => Effect.varSet origin args
    | varRangeSet => Effect.varRangeSet origin args
    | varRandom => Effect.varRandom origin args
    | mapSet => Effect.mapSet origin args
    | helper => Effect.helper origin args
    | explod => Effect.explod origin args
    | removeExplod => Effect.removeExplod origin args
    | modifyExplod => Effect.modifyExplod origin args
    | explodBindTime => Effect.explodBindTime origin args
    | projectile => Effect.projectile origin args
    | printToConsole => Effect.printToConsole origin args
    | clipboard mode => Effect.clipboard mode origin args
    | clearClipboard => Effect.clearClipboard origin args
    | saveFile => Effect.saveFile origin args
    | loadFile => Effect.loadFile origin args
    return false

end TickScript
