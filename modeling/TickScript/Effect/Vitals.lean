import TickScript.Effect.Transition

/-! # Life, power, attack, defence and hits

    Damage that is not absolute is multiplied by the attack and divided by the defence.  Life and
    power always stay between zero and their maximum.
-/

namespace TickScript.Effect

/-! ## Life -/

/-- How life is added: whether it may kill, and whether attack and defence are left out. -/
structure LifePlan where
  absolute : Bool
  kill : Bool
  deriving DecidableEq

/-- **Adds life.**  Without `kill` a living entity keeps at least one. -/
def addLife (p : LifePlan) (attackMul : Single) (amount : Int32) (e : Entity) : Entity :=
  let plain := Single.ofInt32 amount
  let dealt :=
    if !p.absolute && plain.lt .zero then plain * (attackMul * .hundred / e.effectiveDefence)
    else plain
  let life := Entity.saturatingAdd e.life dealt.toInt32
  e.setLife (if !p.kill && 0 < e.life && life < 1 then 1 else life)

namespace LifeTag

@[match_pattern] def absolute : UInt8 := 0
@[match_pattern] def kill : UInt8 := 1
@[match_pattern] def value : UInt8 := 2

end LifeTag

/-- **Adds life to the target**, record by record. -/
def lifeAdd (origin : EntityId) (args : ArgBlock) : Act Unit := do
  let _ ← visitBlock origin args (⟨false, true⟩ : LifePlan) Visiting.redirect fun r => do
    match r.tag with
    | LifeTag.absolute =>
      let b ← Visiting.bool r
      Visiting.revise fun p => { p with absolute := b }
    | LifeTag.kill =>
      let b ← Visiting.bool r
      Visiting.revise fun p => { p with kill := b }
    | LifeTag.value =>
      let n ← Visiting.int r
      let p ← Visiting.plan
      Visiting.updateTarget (addLife p .one n)
    | _ => pure ()
    return true

namespace TargetLifeTag

@[match_pattern] def id : UInt8 := 0
@[match_pattern] def absolute : UInt8 := 1
@[match_pattern] def kill : UInt8 := 2
@[match_pattern] def value : UInt8 := 3

end TargetLifeTag

/-- **Adds life to the targets**, damage multiplied by the attacker's multiplier. -/
def targetLifeAdd (origin : EntityId) (args : ArgBlock) : Act Unit := do
  let _ ← visitTargets origin args (⟨false, true⟩ : LifePlan) fun r => do
    match r.tag with
    | TargetLifeTag.id => Selection.narrow r
    | TargetLifeTag.absolute =>
      let b ← Visiting.bool r
      Visiting.revise fun s => { s with plan := { s.plan with absolute := b } }
      return true
    | TargetLifeTag.kill =>
      let b ← Visiting.bool r
      Visiting.revise fun s => { s with plan := { s.plan with kill := b } }
      return true
    | TargetLifeTag.value => Selection.each fun ids => do
        let n ← Visiting.int r
        let p := (← Visiting.plan).plan
        let attacker ← Visiting.targetEntity
        ids.forM fun t => Act.update t (addLife p attacker.attackMul n)
    | _ => return true

/-! ## Single values -/

/-- Effects with one integer value. -/
inductive VitalOp where
  | lifeSet
  | powerAdd
  | powerSet
  deriving DecidableEq

/-- The effect of a value. -/
def VitalOp.apply (op : VitalOp) (n : Int32) (e : Entity) : Entity :=
  match op with
  | .lifeSet => e.setLife n
  | .powerAdd => e.addPower n
  | .powerSet => e.setPower n

/-- **Sets life or power, or adds power.** -/
def vital (op : VitalOp) (origin : EntityId) (args : ArgBlock) : Act Unit :=
  eachRecord origin args fun r => do
    match r.tag with
    | valueTag =>
      let n ← Visiting.int r
      Visiting.updateTarget (op.apply n)
    | _ => pure ()

/-- **Sets the attack multiplier** relative to the rating of the definition. -/
def attackMulSet (origin : EntityId) (args : ArgBlock) : Act Unit :=
  eachRecord origin args fun r => do
    match r.tag with
    | valueTag =>
      let v ← Visiting.single r
      Visiting.updateTarget fun e =>
        { e with attackMul := Single.ofInt32 e.constants.attack / .hundred * v }
    | _ => pure ()

/-- **Adds power to the targets.** -/
def targetPowerAdd (origin : EntityId) (args : ArgBlock) : Act Unit := do
  let _ ← visitTargets origin args () fun r => do
    match r.tag with
    | TargetTag.id => Selection.narrow r
    | TargetTag.value => Selection.each fun ids => do
        let n ← Visiting.int r
        ids.forM fun t => Act.update t fun e => e.addPower n
    | _ => return true

/-! ## Defence -/

namespace DefenceTag

@[match_pattern] def value : UInt8 := 0
@[match_pattern] def onHit : UInt8 := 1
/-- Zero divides by the value, anything else multiplies. -/
@[match_pattern] def mulType : UInt8 := 2

end DefenceTag

/-- **What a defence multiplier asks for.** -/
structure DefencePlan where
  value : Single
  onHit : Bool
  mulType : Int32

/-- **Sets the defence multiplier**; one that is not finite is left as it was. -/
def defenceMulSet (origin : EntityId) (args : ArgBlock) : Act Unit :=
  afterVisit origin args (⟨.one, false, 1⟩ : DefencePlan)
    (fun r => do
      match r.tag with
      | DefenceTag.value =>
        let v ← Visiting.single r
        Visiting.revise fun p => { p with value := v }
      | DefenceTag.onHit =>
        let b ← Visiting.bool r
        Visiting.revise fun p => { p with onHit := b }
      | DefenceTag.mulType =>
        let n ← Visiting.int r
        Visiting.revise fun p => { p with mulType := n }
      | _ => pure ())
    fun t p =>
      let mul := if p.mulType ≠ 0 then p.value else .one / p.value
      Act.update t.id fun e =>
        { e with defenceMul := if mul.isFinite then mul else e.defenceMul,
                 defenceMulOnHit := p.onHit }

/-! ## Hits -/

/-- **Adds to the hit counters.** -/
def hitAdd (origin : EntityId) (args : ArgBlock) : Act Unit :=
  eachRecord origin args fun r => do
    match r.tag with
    | valueTag =>
      let n ← Visiting.int r
      Visiting.updateTarget fun e => e.addHits n
    | _ => pure ()

/-- **Forgets that the move has hit.** -/
def moveHitReset (origin : EntityId) (args : ArgBlock) : Act Unit :=
  eachRecord origin args fun r => do
    match r.tag with
    | valueTag => Visiting.updateTarget Entity.clearMoveHit
    | _ => pure ()

end TickScript.Effect
