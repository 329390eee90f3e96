import TickScript.Proofs.Effect.Visitor

/-! # What effects are made of

    There is one visitor for each effect, which follows its records.  So every effect is composed of
    evaluations, deeds, and changes of files, console and counters (`Effect.composed_run`).

    Effects that act at the end only have late visitors: their records do no more than read.
-/

namespace TickScript

/-! ## Edits -/

theorem Entity.Edited.restore (e : Entity) (data : SaveData) : e.Edited (e.restore data) := by
  cases data with
  | names t => exact .names e t
  | ints vs => exact .vars e _
  | floats vs => exact .vars e _

namespace Effect

theorem VectorOp.edited (op : VectorOp) (axis : SpaceAxis) (v : Single) (e : Entity) :
    e.Edited (op.apply axis v e) := by
  cases op <;> exact .aside rfl

theorem VitalOp.edited (op : VitalOp) (n : Int32) (e : Entity) : e.Edited (op.apply n e) := by
  cases op with
  | lifeSet => exact .setLife e n
  | powerAdd | powerSet => exact .setPower e _

theorem edited_addLife (p : LifePlan) (attackMul : Single) (amount : Int32) (e : Entity) :
    e.Edited (addLife p attackMul amount e) := .setLife e _

theorem edited_fillRange (p : RangePlan) (bank : VariableBank) (v : Value) (e : Entity) :
    e.Edited (fillRange p bank v e) := by
  unfold fillRange
  induction p.places generalizing e with
  | nil => exact .aside rfl
  | cons i rest ih => exact Entity.Edited.trans (.vars e _) (ih (e.updateVariable .set bank i v).1)

open Visiting (Composed Reads)
open Visiting.Composed

/-- A visitor of an effect. -/
abbrev Visits (origin : EntityId) (kind : EffectKind) : Type 1 :=
  Visitor origin fun args => kind.run origin args

/-- A visitor of an effect that acts at the end only. -/
abbrev VisitsLate (origin : EntityId) (kind : EffectKind) : Type 1 :=
  LateVisitor origin fun args => kind.run origin args

variable {σ : Type} (origin : EntityId)

/-! ## State, animation and control -/

theorem reads_stateRecord (source : StateSource) (r : ArgRecord) :
    Reads r.expressions (stateRecord source r) := by
  unfold stateRecord
  split
  · exact (Reads.int r).next fun _ => (Reads.revise _).next fun _ => .pure _
  · exact (Reads.bool r).next fun _ => (Reads.revise _).next fun _ => .pure _
  · exact (Reads.int r).next fun _ => (Reads.revise _).next fun _ => .pure _
  · exact (Reads.bool r).next fun _ => (Reads.revise _).next fun _ => .pure _
  · cases source with
    | present => exact .pure _
    | own =>
      -- whose library it is from is looked up, and nothing else
      refine (Reads.int r).next fun scriptId => Reads.roster.next fun roster => ?_
      cases roster.withScriptId scriptId with
      | none => exact .pure _
      | some id => exact (Reads.entity id).next fun _ => (Reads.revise _).next fun _ => .pure _
  · exact .pure _

theorem reads_redirectState (r : ArgRecord) : Reads r.expressions (redirectState r) :=
  (Reads.redirect r).next fun _ => .ite ((Reads.revise _).next fun _ => .pure _) (.pure _)

def changeStateVisitor (source : StateSource) : VisitsLate origin (.changeState source) :=
  .block reads_redirectState (reads_stateRecord source)
    (fun (finished, v) => by
      dsimp only
      split
      · exact (Act.Composed.entity _).bind fun _ =>
          (Act.Composed.update _ fun _ => .request (by rfl) (by rfl)).bind fun _ => .pure _
      · exact .pure _)

def stateTypeSetVisitor : Visits origin .stateTypeSet :=
  .each fun r => by
    split
    · refine (int r).bind fun code => ?_
      split
      · exact updateTarget fun _ => .aside (by rfl)
      · exact .pure _
    · refine (int r).bind fun code => ?_
      split
      · exact updateTarget fun _ => .aside (by rfl)
      · exact .pure _
    · refine (int r).bind fun code => ?_
      split
      · exact updateTarget fun _ => .aside (by rfl)
      · exact .pure _
    · exact .pure _

def changeAnimVisitor : Visits origin .changeAnim :=
  .plain redirect fun r => by
    split
    · exact (int r).bind fun _ => (revise _).bind fun _ => .pure _
    · exact (int r).bind fun _ => plan.bind fun _ =>
        (updateTarget fun e => .setAnim e _ _).bind fun _ => .pure _
    · exact (int r).bind fun _ => (lift .roster).bind fun _ => .pure _
    · exact .pure _

def ctrlSetVisitor : Visits origin .ctrlSet :=
  .each fun r => by
    split
    · exact (bool r).bind fun _ => updateTarget fun _ => .aside (by rfl)
    · exact .pure _

def turnVisitor : Visits origin .turn :=
  .each fun r => by
    split
    · exact updateTarget fun _ => .aside (by rfl)
    · exact .pure _

def targetStateVisitor : Visits origin .targetState :=
  .targets
    (fun r => by
      split
      · exact narrow r
      · exact each fun ids => (int r).bind fun _ => targetEntity.bind fun _ =>
          updateAll ids fun _ => .request (by rfl) (by rfl)
      · exact .pure _)
    fun _ => .pure _

def targetFacingVisitor : Visits origin .targetFacing :=
  .targets
    (fun r => by
      split
      · exact narrow r
      · exact each fun ids => (int r).bind fun _ => targetEntity.bind fun _ =>
          .ite (updateAll ids fun _ => .aside (by rfl)) (.pure _)
      · exact .pure _)
    fun _ => .pure _

def targetDropVisitor : VisitsLate origin .targetDrop :=
  .targets
    (fun r => by
      split
      · exact (Reads.int r).next fun _ => (Reads.revise _).next fun _ => .pure _
      · exact (Reads.bool r).next fun _ => (Reads.revise _).next fun _ => .pure _
      · exact .pure _)
    (fun (finished, v) => by
      refine .ite (Act.Composed.roster.bind fun _ => .ite ?_ (.update _ fun _ => .aside (by rfl)))
        (.pure _)
      exact (Act.Composed.random trivial _ _).bind fun _ => .update _ fun _ => .aside (by rfl))

/-! ## Motion -/

def vectorVisitor (op : VectorOp) : Visits origin (.vector op) :=
  .each fun r => by
    split
    · exact .pure _
    · exact (single r).bind fun _ => target.bind fun _ => updateTarget (op.edited _ _)

def targetVelocityVisitor (op : VectorOp) : Visits origin (.targetVelocity op) :=
  .targets
    (fun r => by
      split
      · exact narrow r
      · split
        · exact .pure _
        · exact each fun ids => (single r).bind fun _ => target.bind fun _ =>
            updateAll ids (op.edited _ _))
    fun _ => .pure _

def gravityVisitor : Visits origin .gravity :=
  .each fun r => by
    split
    · exact updateTarget fun _ => .aside (by rfl)
    · exact .pure _

def posFreezeVisitor : Visits origin .posFreeze :=
  .each fun r => by
    split
    · exact (bool r).bind fun _ => .ite (updateTarget fun _ => .aside (by rfl)) (.pure _)
    · exact .pure _

def rotateVisitor (op : AngleOp) : VisitsLate origin (.rotate op) :=
  .after
    (fun r => by
      split
      · exact (Reads.single r).next fun _ => .revise _
      · exact .pure _)
    fun _ _ => .update _ fun _ => .aside (by rfl)

theorem reads_lengthPair (r : ArgRecord) (old : Plane) :
    Reads r.expressions (lengthPair r old : Visiting σ Plane) :=
  (Reads.pair r).next fun _ => Reads.target.next fun _ => .pure _

theorem reads_bindRecord (r : ArgRecord) : Reads r.expressions (bindRecord r) := by
  unfold bindRecord
  split
  · exact (Reads.int r).next fun _ => .revise _
  · exact (Reads.int r).next fun _ => .ite (.revise _) (.pure _)
  · exact Reads.plan.after fun _ => (reads_lengthPair r _).next fun _ => .revise _
  · exact .pure _

def bindVisitor (anchor : Anchor) : VisitsLate origin (.bind anchor) :=
  .after reads_bindRecord fun t p => by
    refine Act.Composed.roster.bind fun r => ?_
    split
    · exact .pure _
    · exact .update _ fun _ => .aside (by rfl)

/-! ## Vitals -/

def lifeAddVisitor : Visits origin .lifeAdd :=
  .plain redirect fun r => by
    dsimp only
    split
    · exact (bool r).bind fun _ => (revise _).bind fun _ => .pure _
    · exact (bool r).bind fun _ => (revise _).bind fun _ => .pure _
    · exact (int r).bind fun _ => plan.bind fun _ =>
        (updateTarget (edited_addLife _ _ _)).bind fun _ => .pure _
    · exact .pure _

def targetLifeAddVisitor : Visits origin .targetLifeAdd :=
  .targets
    (fun r => by
      split
      · exact narrow r
      · exact (bool r).bind fun _ => (revise _).bind fun _ => .pure _
      · exact (bool r).bind fun _ => (revise _).bind fun _ => .pure _
      · exact each fun ids => (int r).bind fun _ => plan.bind fun _ =>
          targetEntity.bind fun _ => updateAll ids (edited_addLife _ _ _)
      · exact .pure _)
    fun _ => .pure _

def vitalVisitor (op : VitalOp) : Visits origin (.vital op) :=
  .each fun r => by
    split
    · exact (int r).bind fun _ => updateTarget (op.edited _)
    · exact .pure _

def attackMulSetVisitor : Visits origin .attackMulSet :=
  .each fun r => by
    split
    · exact (single r).bind fun _ => updateTarget fun _ => .aside (by rfl)
    · exact .pure _

def targetPowerAddVisitor : Visits origin .targetPowerAdd :=
  .targets
    (fun r => by
      split
      · exact narrow r
      · exact each fun ids => (int r).bind fun _ => updateAll ids fun e => .setPower e _
      · exact .pure _)
    fun _ => .pure _

def defenceMulSetVisitor : VisitsLate origin .defenceMulSet :=
  .after
    (fun r => by
      split
      · exact (Reads.single r).next fun _ => .revise _
      · exact (Reads.bool r).next fun _ => .revise _
      · exact (Reads.int r).next fun _ => .revise _
      · exact .pure _)
    fun _ _ => .update _ fun _ => .aside (by rfl)

def hitAddVisitor : Visits origin .hitAdd :=
  .each fun r => by
    split
    · exact (int r).bind fun _ => updateTarget fun _ => .aside (by rfl)
    · exact .pure _

def moveHitResetVisitor : Visits origin .moveHitReset :=
  .each fun r => by
    split
    · exact updateTarget fun _ => .aside (by rfl)
    · exact .pure _

/-! ## Variables -/

def varSetVisitor : Visits origin .varSet :=
  .each fun r => by
    split
    · exact (lift (.ofExcept _)).bind fun code => target.bind fun t =>
        (lift (Act.Composed.evaluate code t.id)).bind fun _ => .pure _
    · exact .pure _

def varRangeSetVisitor : Visits origin .varRangeSet :=
  .plain redirect fun r => by
    dsimp only
    split
    · exact (int r).bind fun _ => (revise _).bind fun _ => .pure _
    · exact (int r).bind fun _ => (revise _).bind fun _ => .pure _
    · exact (int r).bind fun _ => plan.bind fun _ =>
        .ite ((updateTarget (edited_fillRange _ _ _)).bind fun _ => .pure _) (.pure _)
    · exact (single r).bind fun _ => plan.bind fun _ =>
        .ite ((updateTarget (edited_fillRange _ _ _)).bind fun _ => .pure _) (.pure _)
    · exact .pure _

def varRandomVisitor : VisitsLate origin .varRandom :=
  .after
    (fun r => by
      split
      · exact (Reads.int r).next fun _ => .revise _
      · refine .two r ((Reads.argument r 0).next fun _ => .pure _) fun _ =>
          (Reads.argument? r 1).next fun b => ?_
        cases b with
        | some b => exact .revise _
        | none => exact .revise _
      · exact .pure _)
    fun _ _ => (Act.Composed.random trivial _ _).bind fun _ => .update _ fun _ => .aside (by rfl)

def mapSetVisitor : VisitsLate origin .mapSet :=
  .after
    (fun r => by
      split
      · exact (Reads.text r).next fun _ => .revise _
      · exact (Reads.single r).next fun _ => .revise _
      · exact (Reads.int r).next fun _ => .revise _
      · exact .pure _)
    fun _ _ => .ite (.pure _) (.update _ fun _ => .aside (by rfl))

/-! ## Helpers -/

/-- The roster with a helper under an entity, if that is possible. -/
def spawnedUnder (id : EntityId) (r : Roster) : Option EntityId × Roster :=
  match r.spawnHelper id helperName with
  | none => (none, r)
  | some (roster, h) => (some h, roster)

theorem deeds_spawnedUnder (id : EntityId) (r : Roster) : r.Deeds (spawnedUnder id r).2 := by
  unfold spawnedUnder
  split
  case h_1 => exact .refl
  case h_2 success => exact .single (.spawn success)

/-- The roster is read and written in one go. -/
theorem spawn_run (v : Visit HelperPlan) :
    spawn.run v = (do
      match ← Act.onRoster (spawnedUnder v.target.id) with
      | none => return (false, v)
      | some h => return (true, { v with plan := { v.plan with spawned := some h } })) := by
  funext s
  show ((match s.roster.spawnHelper v.target.id helperName with
    | none => (return false : Visiting HelperPlan Bool)
    | some (roster, h) => do
      Act.setRoster roster
      Visiting.revise fun p => { p with spawned := some h }
      return true) : Visiting HelperPlan Bool).run v s = _
  refine Eq.trans ?_
    (bind_of_ok (t := { s with roster := (spawnedUnder v.target.id s.roster).2 }) rfl).symm
  dsimp only [spawnedUnder]
  cases s.roster.spawnHelper v.target.id helperName with
  | none => rfl
  | some result => rfl

theorem composed_spawn : Composed spawn where
  acts v := by
    rw [spawn_run]
    refine (Act.Composed.onRoster trivial (deeds_spawnedUnder v.target.id)).bind fun spawned => ?_
    cases spawned with
    | none => exact .pure _
    | some h => exact .pure _
  origin v s := by
    rw [spawn_run]
    refine Ends.last fun spawned t => ?_
    cases spawned with
    | none => exact rfl
    | some h => exact rfl

theorem composed_ensureSpawned : Composed ensureSpawned :=
  plan.bind fun _ => .ite (.pure _) composed_spawn

theorem composed_redirectHelper (r : ArgRecord) : Composed (redirectHelper r) :=
  (redirect r).bind fun _ => .ite composed_ensureSpawned (.pure _)

theorem composed_updateHelper {f : Entity → Entity} (edited : ∀ e : Entity, e.Edited (f e)) :
    Composed (updateHelper f) := by
  refine plan.bind fun p => ?_
  cases p.spawned with
  | some id => exact .lift (Act.Composed.update id edited)
  | none => exact .pure _

theorem reads_scalePair (r : ArgRecord) : Reads r.expressions (scalePair r : Visiting σ Plane) :=
  (Reads.pair r).next fun _ => .pure _

theorem composed_helperRecord (r : ArgRecord) : Composed (helperRecord r) := by
  unfold helperRecord
  split
  · exact (text r).bind fun _ => composed_updateHelper fun _ => .aside (by rfl)
  · exact (int r).bind fun _ => composed_updateHelper fun _ => .aside (by rfl)
  · exact (int r).bind fun _ => .revise _
  · exact plan.bind fun _ => (reads_lengthPair r _).toComposed.bind fun _ => .revise _
  · exact (int r).bind fun _ => .revise _
  · exact (reads_scalePair r).toComposed.bind fun _ =>
      composed_updateHelper fun _ => .aside (by rfl)
  · exact (bool r).bind fun _ => .pure _
  · exact .pure _

def helperVisitor : Visits origin .helper :=
  .ending composed_redirectHelper
    (fun r => composed_ensureSpawned.bind fun _ =>
      .ite ((composed_helperRecord r).bind fun _ => .pure _) (.pure _))
    fun (_, v) => by
      dsimp only
      split
      · exact .pure _
      · exact (Act.Composed.entity _).bind fun _ => .update _ fun _ => .request (by rfl) (by rfl)

/-- The entity goes, and with it its helpers if that is asked for. -/
theorem composed_destroy (id : EntityId) (recursive : Bool) : Act.Composed True (do
      let (roster, destroyed) := (← Act.roster).destroy id recursive
      Act.setRoster roster
      return destroyed && id == origin : Act Bool) :=
  Act.Composed.onRoster trivial
    (g := fun r => ((r.destroy id recursive).2 && id == origin, (r.destroy id recursive).1))
    fun _ => .single (.destroy id recursive)

def destroySelfVisitor : VisitsLate origin .destroySelf :=
  .block Reads.redirect
    (fun r => by
      dsimp only
      split
      · exact (Reads.bool r).next fun _ => (Reads.revise _).next fun _ => .pure _
      · exact (Reads.bool r).next fun _ => (Reads.revise _).next fun _ => .pure _
      · exact .pure _)
    (fun (finished, v) => by
      have removed := composed_destroy origin v.target.id v.plan.recursive
      exact .ite (.pure _) ((Act.Composed.entity _).bind fun _ => .ite (.pure _)
        (.ite ((Act.Composed.update _ fun _ => .aside (by rfl)).bind fun _ => removed) removed)))

/-! ## Visual effects and projectiles -/

theorem reads_explodRecord (r : ArgRecord) : Reads r.expressions (explodRecord r) := by
  unfold explodRecord
  split
  · exact (Reads.int r).next fun _ => .revise _
  · exact (Reads.int r).next fun _ => .revise _
  · exact Reads.plan.after fun _ => (reads_lengthPair r _).next fun _ => .revise _
  · exact (Reads.int r).next fun _ => .revise _
  · exact (Reads.int r).next fun _ => .revise _
  · exact (reads_scalePair r).next fun _ => .revise _
  · exact (Reads.int r).next fun _ => .revise _
  · exact .pure _

def explodVisitor : VisitsLate origin .explod :=
  .after reads_explodRecord fun _ _ => .update _ fun _ => .aside (by rfl)

theorem composed_updateExplods (f : Entity → Explod → Explod) : Composed (updateExplods f) :=
  plan.bind fun _ => updateTarget fun _ => .aside (by rfl)

theorem composed_modifyRecord (r : ArgRecord) : Composed (modifyRecord r) := by
  unfold modifyRecord
  split
  · exact (int r).bind fun _ => composed_updateExplods _
  · exact (pair r).bind fun _ => target.bind fun _ => composed_updateExplods _
  · exact (int r).bind fun _ => composed_updateExplods _
  · exact (reads_scalePair r).toComposed.bind fun _ => composed_updateExplods _
  · exact (int r).bind fun _ => composed_updateExplods _
  · exact (int r).bind fun _ => composed_updateExplods _
  · exact .pure _

def modifyExplodVisitor : Visits origin .modifyExplod :=
  .plain redirect fun r => by
    split
    · exact (int r).bind fun _ => (revise _).bind fun _ => .pure _
    · exact targetEntity.bind fun _ => plan.bind fun _ =>
        .ite (.pure _) ((composed_modifyRecord r).bind fun _ => .pure _)

def explodBindTimeVisitor : VisitsLate origin .explodBindTime :=
  .after
    (fun r => by
      split
      · exact (Reads.int r).next fun _ => .revise _
      · exact (Reads.int r).next fun _ => .revise _
      · exact .pure _)
    fun _ _ => .update _ fun _ => .aside (by rfl)

def removeExplodVisitor : VisitsLate origin .removeExplod :=
  .after
    (fun r => by
      split
      · exact (Reads.int r).next fun _ => .revise _
      · exact .pure _)
    fun _ _ => .update _ fun _ => .aside (by rfl)

theorem reads_projectileInt (r : ArgRecord) (f : Int32 → Projectile → Projectile) :
    Reads r.expressions (projectileInt r f) :=
  (Reads.int r).next fun _ => .revise _

theorem reads_projectilePair (r : ArgRecord) (scaled : Bool) (field : Projectile → Plane)
    (f : Plane → Projectile → Projectile) :
    Reads r.expressions (projectilePair r scaled field f) :=
  Reads.target.after fun _ => Reads.plan.after fun _ => (Reads.pair r).next fun _ => .revise _

theorem reads_projectileRecord (r : ArgRecord) : Reads r.expressions (projectileRecord r) := by
  refine (Reads.revise _).after fun _ => ?_
  split
  case h_6 => exact Reads.plan.after fun _ => (reads_lengthPair r _).next fun _ => .revise _
  case h_12 => exact (Reads.single r).next fun _ => .revise _
  case h_18 => exact .pure _
  case h_7 | h_8 | h_9 | h_10 | h_11 => exact reads_projectilePair r _ _ _
  all_goals exact reads_projectileInt r _

theorem reads_redirectFirst (r : ArgRecord) : Reads r.expressions (redirectFirst r) :=
  Reads.plan.after fun _ => .ite ((Reads.revise _).after fun _ => .redirect r) (.pure _)

def projectileVisitor : VisitsLate origin .projectile :=
  .ending reads_redirectFirst (fun r => (reads_projectileRecord r).next fun _ => .pure _)
    (fun (finished, v) => .ite (.update _ fun _ => .aside (by rfl)) (.pure _))

/-! ## Messages and files -/

theorem composed_readParams (r : ArgRecord) : Composed (readParams r) :=
  (mapM (fun code => (evaluate code).bind fun _ => .pure _) _).bind fun _ => .revise _

theorem composed_message (r : ArgRecord) : Composed (message r) :=
  (int r).bind fun _ => machine (fun _ _ => rfl) fun _ =>
    (lift (.ofExcept _)).bind fun _ => plan.bind fun _ => .pure _

def printToConsoleVisitor : Visits origin .printToConsole :=
  .plain (fun _ => .pure _) fun r => by
    dsimp only
    split
    · exact (composed_readParams r).bind fun _ => .pure _
    · exact (composed_message r).bind fun _ => (lift (.entity _)).bind fun _ =>
        (lift (Act.Composed.print trivial _ _)).bind fun _ => .pure _
    · exact .pure _

def clipboardVisitor (mode : ClipboardMode) : Visits origin (.clipboard mode) :=
  .plain redirect fun r => by
    dsimp only
    split
    · exact (composed_readParams r).bind fun _ => .pure _
    · exact (composed_message r).bind fun _ =>
        (updateTarget fun _ => .aside (by rfl)).bind fun _ => .pure _
    · exact .pure _

def clearClipboardVisitor : Visits origin .clearClipboard :=
  .each fun r => by
    split
    · exact updateTarget fun _ => .aside (by rfl)
    · exact .pure _

theorem reads_saveRecord (r : ArgRecord) : Reads r.expressions (saveRecord r) := by
  unfold saveRecord
  split
  · exact (Reads.text r).next fun _ => .revise _
  · exact (Reads.int r).next fun _ => .revise _
  · exact .pure _

/-- The directory is looked up, and then the file is written or read. -/
def fileVisitor {act : EntityId → String → SaveKind → Act Unit}
    (acts : ∀ id path kind, Act.Composed True (act id path kind)) :
    LateVisitor origin fun args => do
      withSaveFile origin args act
      return false :=
  .after reads_saveRecord fun t p => by
    refine .machine (fun _ _ => rfl) fun m => ?_
    split
    · exact acts _ _ _
    · exact .pure _

def saveFileVisitor : VisitsLate origin .saveFile :=
  fileVisitor origin fun id path kind => by
    refine (Act.Composed.entity id).bind fun e => ?_
    let written (files : FileTree) := (SaveDirectory.write files path (e.capture kind)).swap
    have all : Act.Composed True (do
        let result ← Act.onFiles written
        Act.ofExcept (result.mapError .save)) :=
      (Act.Composed.onFiles trivial written).bind fun _ => .ofExcept _
    exact all

def loadFileVisitor : VisitsLate origin .loadFile :=
  fileVisitor origin fun id path kind => by
    have all : Act.Composed True (do
        match ← Act.onFiles fun files => (SaveDirectory.read files path, files) with
        | .error f => throw (.save f)
        | .ok none => pure ()
        | .ok (some data) =>
          if data.kind = kind then Act.update id fun e => e.restore data
          else throw (.save (.kindMismatch kind data.kind))) := by
      refine (Act.Composed.onFiles trivial _).bind fun read => ?_
      split
      · exact .throw _
      · exact .pure _
      · exact .ite (.update _ fun e => .restore e _) (.throw _)
    exact all

end Effect

/-! ## All effects -/

/-- **The visitor of an effect.** -/
def EffectKind.visitor (origin : EntityId) : (kind : EffectKind) → Effect.Visits origin kind
  | .changeState source => (Effect.changeStateVisitor origin source).toVisitor
  | .stateTypeSet => Effect.stateTypeSetVisitor origin
  | .changeAnim => Effect.changeAnimVisitor origin
  | .ctrlSet => Effect.ctrlSetVisitor origin
  | .turn => Effect.turnVisitor origin
  | .destroySelf => (Effect.destroySelfVisitor origin).toVisitor
  | .targetState => Effect.targetStateVisitor origin
  | .targetFacing => Effect.targetFacingVisitor origin
  | .targetDrop => (Effect.targetDropVisitor origin).toVisitor
  | .vector op => Effect.vectorVisitor origin op
  | .gravity => Effect.gravityVisitor origin
  | .rotate op => (Effect.rotateVisitor origin op).toVisitor
  | .targetVelocity op => Effect.targetVelocityVisitor origin op
  | .posFreeze => Effect.posFreezeVisitor origin
  | .bind anchor => (Effect.bindVisitor origin anchor).toVisitor
  | .lifeAdd => Effect.lifeAddVisitor origin
  | .vital op => Effect.vitalVisitor origin op
  | .attackMulSet => Effect.attackMulSetVisitor origin
  | .targetLifeAdd => Effect.targetLifeAddVisitor origin
  | .targetPowerAdd => Effect.targetPowerAddVisitor origin
  | .defenceMulSet => (Effect.defenceMulSetVisitor origin).toVisitor
  | .hitAdd => Effect.hitAddVisitor origin
  | .moveHitReset => Effect.moveHitResetVisitor origin
  | .varSet => Effect.varSetVisitor origin
  | .varRangeSet => Effect.varRangeSetVisitor origin
  | .varRandom => (Effect.varRandomVisitor origin).toVisitor
  | .mapSet => (Effect.mapSetVisitor origin).toVisitor
  | .helper => Effect.helperVisitor origin
  | .explod => (Effect.explodVisitor origin).toVisitor
  | .removeExplod => (Effect.removeExplodVisitor origin).toVisitor
  | .modifyExplod => Effect.modifyExplodVisitor origin
  | .explodBindTime => (Effect.explodBindTimeVisitor origin).toVisitor
  | .projectile => (Effect.projectileVisitor origin).toVisitor
  | .printToConsole => Effect.printToConsoleVisitor origin
  | .clipboard mode => Effect.clipboardVisitor origin mode
  | .clearClipboard => Effect.clearClipboardVisitor origin
  | .saveFile => (Effect.saveFileVisitor origin).toVisitor
  | .loadFile => (Effect.loadFileVisitor origin).toVisitor

/-- **Effects that act once**, after the visit of their records. -/
def EffectKind.actsLate : EffectKind → Bool
  | .changeState _ | .destroySelf => true
  | .targetDrop | .bind _ | .rotate _ => true
  | .defenceMulSet | .varRandom | .mapSet => true
  | .explod | .removeExplod | .explodBindTime | .projectile => true
  | .saveFile | .loadFile => true
  | _ => false

/-- Their visitors are late ones. -/
theorem EffectKind.exists_late {kind : EffectKind} (late : kind.actsLate = true)
    (origin : EntityId) :
    ∃ v : Effect.VisitsLate origin kind, v.toVisitor = kind.visitor origin := by
  cases kind with
  | changeState source => exact ⟨Effect.changeStateVisitor origin source, rfl⟩
  | destroySelf => exact ⟨Effect.destroySelfVisitor origin, rfl⟩
  | targetDrop => exact ⟨Effect.targetDropVisitor origin, rfl⟩
  | bind anchor => exact ⟨Effect.bindVisitor origin anchor, rfl⟩
  | rotate op => exact ⟨Effect.rotateVisitor origin op, rfl⟩
  | defenceMulSet => exact ⟨Effect.defenceMulSetVisitor origin, rfl⟩
  | varRandom => exact ⟨Effect.varRandomVisitor origin, rfl⟩
  | mapSet => exact ⟨Effect.mapSetVisitor origin, rfl⟩
  | explod => exact ⟨Effect.explodVisitor origin, rfl⟩
  | removeExplod => exact ⟨Effect.removeExplodVisitor origin, rfl⟩
  | explodBindTime => exact ⟨Effect.explodBindTimeVisitor origin, rfl⟩
  | projectile => exact ⟨Effect.projectileVisitor origin, rfl⟩
  | saveFile => exact ⟨Effect.saveFileVisitor origin, rfl⟩
  | loadFile => exact ⟨Effect.loadFileVisitor origin, rfl⟩
  | _ => cases late

/-- **Every effect is composed** of the actions of effects. -/
theorem Effect.composed_run (origin : EntityId) (args : ArgBlock) (kind : EffectKind) :
    Act.Composed True (kind.run origin args) :=
  (kind.visitor origin).composed args

end TickScript
