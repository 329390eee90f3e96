import TickScript.Effect.Basic

/-! # Names of effects

    The names by which compiled content refers to effects.
-/

namespace TickScript.EffectKind

/-- **The effect with a name.** -/
def ofName? : String → Option EffectKind
  | "ChangeState" => some (.changeState .present)
  | "SelfState" => some (.changeState .own)
  | "StateTypeSet" => some .stateTypeSet
  | "ChangeAnim" => some .changeAnim
  | "CtrlSet" => some .ctrlSet
  | "Turn" => some .turn
  | "DestroySelf" => some .destroySelf
  | "TargetState" => some .targetState
  | "TargetFacing" => some .targetFacing
  | "TargetDrop" => some .targetDrop
  | "PosSet" => some (.vector .posSet)
  | "PosAdd" => some (.vector .posAdd)
  | "VelSet" => some (.vector .velSet)
  | "VelAdd" => some (.vector .velAdd)
  | "VelMul" => some (.vector .velMul)
  | "Gravity" => some .gravity
  | "AngleSet" => some (.rotate .set)
  | "AngleAdd" => some (.rotate .add)
  | "AngleMul" => some (.rotate .mul)
  | "TargetVelSet" => some (.targetVelocity .velSet)
  | "TargetVelAdd" => some (.targetVelocity .velAdd)
  | "PosFreeze" => some .posFreeze
  | "BindToParent" => some (.bind .parent)
  | "BindToRoot" => some (.bind .root)
  | "LifeAdd" => some .lifeAdd
  | "LifeSet" => some (.vital .lifeSet)
  | "PowerAdd" => some (.vital .powerAdd)
  | "PowerSet" => some (.vital .powerSet)
  | "AttackMulSet" => some .attackMulSet
  | "TargetLifeAdd" => some .targetLifeAdd
  | "TargetPowerAdd" => some .targetPowerAdd
  | "DefenceMulSet" => some .defenceMulSet
  | "HitAdd" => some .hitAdd
  | "MoveHitReset" => some .moveHitReset
  | "VarSet" => some .varSet
  | "VarRangeSet" => some .varRangeSet
  | "VarRandom" => some .varRandom
  | "MapSet" => some .mapSet
  | "Helper" => some .helper
  | "Explod" => some .explod
  | "RemoveExplod" => some .removeExplod
  | "ModifyExplod" => some .modifyExplod
  | "ExplodBindTime" => some .explodBindTime
  | "Projectile" => some .projectile
  | "PrintToConsole" => some .printToConsole
  | "DisplayToClipboard" => some (.clipboard .replace)
  | "AppendToClipboard" => some (.clipboard .append)
  | "ClearClipboard" => some .clearClipboard
  | "SaveFile" => some .saveFile
  | "LoadFile" => some .loadFile
  | _ => none

end TickScript.EffectKind
