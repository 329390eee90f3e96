import TickScript.Proofs.Effect.Composed
import TickScript.Proofs.Effect.Landing
import TickScript.Proofs.Program.Agreement

/-! # Redirected effects land on their target

    Most effects have a single target: the origin, or whoever a redirect leads to.  Expressions are
    evaluated for the origin all the same.  So an effect has two entities in hand, and it would be a
    mistake to write to the wrong one.

    None does (`redirected_effects_land`).  If the first record is the only redirect and finds
    somebody, then nobody else is changed, however the effect ends, unless the expressions
    themselves write to stores.  That they do not is seen from a run with an enabled profile, which
    counts instructions and changes nothing else.
-/

namespace TickScript

open Footprint (landing)
open Visiting (Lands Leads)

/-! ## Visits with an aim -/

/-- **A visit with an aim**: its redirects lead to the target, and whatever is done at its records
    and at its end lands there. -/
structure Visitor.Aims {origin : EntityId} {run : ArgBlock → Act Bool} (v : Visitor origin run) :
    Prop where
  redirect : ∀ r among, Leads r ⟨Target.start origin, v.plan among⟩ (v.redirect r)
  record : ∀ r, Lands (v.record r)
  finish : ∀ finished w, (landing w.target.id).Keeps (v.finish finished w)

namespace Visitor.Aims

variable {origin : EntityId} {σ : Type} {plan : σ}

/-- An effect without an end. -/
theorem plain {record : ArgRecord → Visiting σ Bool} {redirects records}
    (lands : ∀ r, Lands (record r)) :
    (Visitor.plain redirects records : Visitor origin fun args => do
      visitBlock origin args plan Visiting.redirect record >>= fun _ => pure ()
      return false).Aims where
  redirect r _ := .redirect r _
  record := lands
  finish _ _ := .bind (.pure _) fun _ => .pure _

/-- An effect that acts record by record. -/
theorem each {visit : ArgRecord → Visiting Unit Unit} {visited} (lands : ∀ r, Lands (visit r)) :
    (Visitor.each visited : Visitor origin fun args => do
      eachRecord origin args visit
      return false).Aims :=
  plain fun r => (lands r).bind fun _ => .pure _

/-- An effect that acts once. -/
theorem after {visit : ArgRecord → Visiting σ Unit} {act : Target → σ → Act Unit} {reads acts}
    (lands : ∀ r, Lands (visit r)) (keeps : ∀ t p, (landing t.id).Keeps (act t p)) :
    (LateVisitor.after reads acts : LateVisitor origin fun args => do
      afterVisit origin args plan visit act
      return false).Aims where
  redirect r _ := .redirect r _
  record r := (lands r).bind fun _ => .pure _
  finish _ w := .bind (.ite (keeps w.target w.plan) (.pure _)) fun _ => .pure _

end Visitor.Aims

namespace Effect

open Visiting.Lands
open Footprint (keeps_update_landing keeps_random_landing)

variable {σ : Type} (origin : EntityId)

/-! ## State, animation and control -/

theorem lands_stateRecord (source : StateSource) (r : ArgRecord) :
    Lands (stateRecord source r) := by
  unfold stateRecord
  split
  · exact (int r).bind fun _ => (revise _).bind fun _ => pure _
  · exact (bool r).bind fun _ => (revise _).bind fun _ => pure _
  · exact (int r).bind fun _ => (revise _).bind fun _ => pure _
  · exact (bool r).bind fun _ => (revise _).bind fun _ => pure _
  · cases source with
    | present => exact pure _
    | own =>
      refine (int r).bind fun scriptId => roster.bind fun among => ?_
      cases among.withScriptId scriptId with
      | none => exact pure _
      | some id => exact (entity id).bind fun _ => (revise _).bind fun _ => pure _
  · exact pure _

theorem aims_changeState (source : StateSource) : (changeStateVisitor origin source).Aims where
  redirect r _ := (Leads.redirect r _).bind fun _ =>
    ite ((revise _).bind fun _ => pure _) (pure _)
  record := lands_stateRecord source
  finish finished w := by
    dsimp only [changeStateVisitor, LateVisitor.block, Visitor.block]
    split
    · exact (Footprint.keeps_entity _).bind fun _ => (keeps_update_landing _).bind fun _ => .pure _
    · exact .pure _

theorem aims_stateTypeSet : (stateTypeSetVisitor origin).Aims :=
  .each fun r => by
    split
    · refine (int r).bind fun code => ?_
      split
      · exact updateTarget _
      · exact pure _
    · refine (int r).bind fun code => ?_
      split
      · exact updateTarget _
      · exact pure _
    · refine (int r).bind fun code => ?_
      split
      · exact updateTarget _
      · exact pure _
    · exact pure _

theorem aims_changeAnim : (changeAnimVisitor origin).Aims :=
  .plain fun r => by
    split
    · exact (int r).bind fun _ => (revise _).bind fun _ => pure _
    · exact (int r).bind fun _ => plan.bind fun _ => (updateTarget _).bind fun _ => pure _
    · exact (int r).bind fun _ => roster.bind fun _ => pure _
    · exact pure _

theorem aims_ctrlSet : (ctrlSetVisitor origin).Aims :=
  .each fun r => by
    split
    · exact (bool r).bind fun _ => updateTarget _
    · exact pure _

theorem aims_turn : (turnVisitor origin).Aims :=
  .each fun r => by
    split
    · exact updateTarget _
    · exact pure _

/-- Targets are dropped by the attacker that the redirect leads to. -/
theorem aims_targetDrop : (targetDropVisitor origin).Aims where
  redirect r _ := (Leads.redirect r _).bind fun _ =>
    ite (roster.bind fun _ => target.bind fun _ => (revise _).bind fun _ => pure _) (pure _)
  record r := by
    dsimp only [targetDropVisitor, LateVisitor.targets, Visitor.targets]
    split
    · exact (int r).bind fun _ => (revise _).bind fun _ => pure _
    · exact (bool r).bind fun _ => (revise _).bind fun _ => pure _
    · exact pure _
  finish finished w := by
    refine .bind (.ite (Footprint.keeps_roster.bind fun _ => .ite ?_ (keeps_update_landing _))
      (.pure _)) fun _ => .pure _
    exact (keeps_random_landing _ _).bind fun _ => keeps_update_landing _

/-! ## Motion -/

theorem aims_vector (op : VectorOp) : (vectorVisitor origin op).Aims :=
  .each fun r => by
    split
    · exact pure _
    · exact (single r).bind fun _ => target.bind fun _ => updateTarget _

theorem aims_gravity : (gravityVisitor origin).Aims :=
  .each fun r => by
    split
    · exact updateTarget _
    · exact pure _

theorem aims_posFreeze : (posFreezeVisitor origin).Aims :=
  .each fun r => by
    split
    · exact (bool r).bind fun _ => ite (updateTarget _) (pure _)
    · exact pure _

theorem aims_rotate (op : AngleOp) : (rotateVisitor origin op).Aims :=
  .after
    (fun r => by
      split
      · exact (single r).bind fun _ => revise _
      · exact pure _)
    fun _ _ => keeps_update_landing _

theorem lands_lengthPair (r : ArgRecord) (old : Plane) :
    Lands (lengthPair r old : Visiting σ Plane) :=
  (pair r).bind fun _ => target.bind fun _ => pure _

theorem lands_bindRecord (r : ArgRecord) : Lands (bindRecord r) := by
  unfold bindRecord
  split
  · exact (int r).bind fun _ => revise _
  · exact (int r).bind fun _ => ite (revise _) (pure _)
  · exact plan.bind fun _ => (lands_lengthPair r _).bind fun _ => revise _
  · exact pure _

theorem aims_bind (anchor : Anchor) : (bindVisitor origin anchor).Aims :=
  .after lands_bindRecord fun t p => by
    refine Footprint.keeps_roster.bind fun among => ?_
    cases anchor.resolve among t.id with
    | none => exact .pure _
    | some other => exact keeps_update_landing _

/-! ## Vitals -/

theorem aims_lifeAdd : (lifeAddVisitor origin).Aims :=
  .plain fun r => by
    dsimp only
    split
    · exact (bool r).bind fun _ => (revise _).bind fun _ => pure _
    · exact (bool r).bind fun _ => (revise _).bind fun _ => pure _
    · exact (int r).bind fun _ => plan.bind fun _ => (updateTarget _).bind fun _ => pure _
    · exact pure _

theorem aims_vital (op : VitalOp) : (vitalVisitor origin op).Aims :=
  .each fun r => by
    split
    · exact (int r).bind fun _ => updateTarget _
    · exact pure _

theorem aims_attackMulSet : (attackMulSetVisitor origin).Aims :=
  .each fun r => by
    split
    · exact (single r).bind fun _ => updateTarget _
    · exact pure _

theorem aims_defenceMulSet : (defenceMulSetVisitor origin).Aims :=
  .after
    (fun r => by
      split
      · exact (single r).bind fun _ => revise _
      · exact (bool r).bind fun _ => revise _
      · exact (int r).bind fun _ => revise _
      · exact pure _)
    fun _ _ => keeps_update_landing _

theorem aims_hitAdd : (hitAddVisitor origin).Aims :=
  .each fun r => by
    split
    · exact (int r).bind fun _ => updateTarget _
    · exact pure _

theorem aims_moveHitReset : (moveHitResetVisitor origin).Aims :=
  .each fun r => by
    split
    · exact updateTarget _
    · exact pure _

/-! ## Variables -/

theorem aims_varRangeSet : (varRangeSetVisitor origin).Aims :=
  .plain fun r => by
    dsimp only
    split
    · exact (int r).bind fun _ => (revise _).bind fun _ => pure _
    · exact (int r).bind fun _ => (revise _).bind fun _ => pure _
    · exact (int r).bind fun _ => plan.bind fun _ =>
        ite ((updateTarget _).bind fun _ => pure _) (pure _)
    · exact (single r).bind fun _ => plan.bind fun _ =>
        ite ((updateTarget _).bind fun _ => pure _) (pure _)
    · exact pure _

theorem aims_varRandom : (varRandomVisitor origin).Aims :=
  .after
    (fun r => by
      split
      · exact (int r).bind fun _ => revise _
      · refine (int r).bind fun _ => (argument? r 1).bind fun b => ?_
        cases b with
        | some b => exact revise _
        | none => exact revise _
      · exact pure _)
    fun _ _ => (keeps_random_landing _ _).bind fun _ => keeps_update_landing _

theorem aims_mapSet : (mapSetVisitor origin).Aims :=
  .after
    (fun r => by
      split
      · exact (text r).bind fun _ => revise _
      · exact (single r).bind fun _ => revise _
      · exact (int r).bind fun _ => revise _
      · exact pure _)
    fun _ _ => .ite (.pure _) (keeps_update_landing _)

/-! ## Visual effects and projectiles -/

theorem lands_scalePair (r : ArgRecord) : Lands (scalePair r : Visiting σ Plane) :=
  (pair r).bind fun _ => pure _

theorem lands_explodRecord (r : ArgRecord) : Lands (explodRecord r) := by
  unfold explodRecord
  split
  · exact (int r).bind fun _ => revise _
  · exact (int r).bind fun _ => revise _
  · exact plan.bind fun _ => (lands_lengthPair r _).bind fun _ => revise _
  · exact (int r).bind fun _ => revise _
  · exact (int r).bind fun _ => revise _
  · exact (lands_scalePair r).bind fun _ => revise _
  · exact (int r).bind fun _ => revise _
  · exact pure _

theorem aims_explod : (explodVisitor origin).Aims :=
  .after lands_explodRecord fun _ _ => keeps_update_landing _

theorem lands_updateExplods (f : Entity → Explod → Explod) : Lands (updateExplods f) :=
  plan.bind fun _ => updateTarget _

theorem lands_modifyRecord (r : ArgRecord) : Lands (modifyRecord r) := by
  unfold modifyRecord
  split
  · exact (int r).bind fun _ => lands_updateExplods _
  · exact (pair r).bind fun _ => target.bind fun _ => lands_updateExplods _
  · exact (int r).bind fun _ => lands_updateExplods _
  · exact (lands_scalePair r).bind fun _ => lands_updateExplods _
  · exact (int r).bind fun _ => lands_updateExplods _
  · exact (int r).bind fun _ => lands_updateExplods _
  · exact pure _

theorem aims_modifyExplod : (modifyExplodVisitor origin).Aims :=
  .plain fun r => by
    split
    · exact (int r).bind fun _ => (revise _).bind fun _ => pure _
    · exact targetEntity.bind fun _ => plan.bind fun _ =>
        ite (pure _) ((lands_modifyRecord r).bind fun _ => pure _)

theorem aims_explodBindTime : (explodBindTimeVisitor origin).Aims :=
  .after
    (fun r => by
      split
      · exact (int r).bind fun _ => revise _
      · exact (int r).bind fun _ => revise _
      · exact pure _)
    fun _ _ => keeps_update_landing _

theorem aims_removeExplod : (removeExplodVisitor origin).Aims :=
  .after
    (fun r => by
      split
      · exact (int r).bind fun _ => revise _
      · exact pure _)
    fun _ _ => keeps_update_landing _

theorem lands_projectileInt (r : ArgRecord) (f : Int32 → Projectile → Projectile) :
    Lands (projectileInt r f) :=
  (int r).bind fun _ => revise _

theorem lands_projectilePair (r : ArgRecord) (scaled : Bool) (field : Projectile → Plane)
    (f : Plane → Projectile → Projectile) : Lands (projectilePair r scaled field f) :=
  target.bind fun _ => plan.bind fun _ => (pair r).bind fun _ => revise _

theorem lands_projectileRecord (r : ArgRecord) : Lands (projectileRecord r) := by
  refine (revise _).bind fun _ => ?_
  -- a length, a factor, five pairs and no argument at all; whole numbers otherwise
  split
  case h_6 => exact plan.bind fun _ => (lands_lengthPair r _).bind fun _ => revise _
  case h_12 => exact (single r).bind fun _ => revise _
  case h_18 => exact pure _
  case h_7 | h_8 | h_9 | h_10 | h_11 => exact lands_projectilePair r _ _ _
  all_goals exact lands_projectileInt r _

/-- The redirect is the first record, so it is followed. -/
theorem aims_projectile : (projectileVisitor origin).Aims where
  redirect r _ s v u id given found :=
    let opened : ProjectilePlan := ⟨.fresh, .zero, false⟩
    Leads.redirect r ⟨Target.start origin, opened⟩ s v u id given found
  record r := (lands_projectileRecord r).bind fun _ => pure _
  finish _ _ := .bind (.ite (keeps_update_landing _) (.pure _)) fun _ => .pure _

/-! ## Messages and files -/

theorem lands_readParams (r : ArgRecord) : Lands (readParams r) :=
  (mapM (fun code => (evaluate code).bind fun _ => pure _) _).bind fun _ => revise _

theorem lands_message (r : ArgRecord) : Lands (message r) :=
  (int r).bind fun _ => machine.bind fun _ => (ofExcept _).bind fun _ => plan.bind fun _ => pure _

theorem aims_clipboard (mode : ClipboardMode) : (clipboardVisitor origin mode).Aims :=
  .plain fun r => by
    dsimp only
    split
    · exact (lands_readParams r).bind fun _ => pure _
    · exact (lands_message r).bind fun _ => (updateTarget _).bind fun _ => pure _
    · exact pure _

theorem aims_clearClipboard : (clearClipboardVisitor origin).Aims :=
  .each fun r => by
    split
    · exact updateTarget _
    · exact pure _

theorem lands_saveRecord (r : ArgRecord) : Lands (saveRecord r) := by
  unfold saveRecord
  split
  · exact (text r).bind fun _ => revise _
  · exact (int r).bind fun _ => revise _
  · exact pure _

theorem aims_loadFile : (loadFileVisitor origin).Aims :=
  .after lands_saveRecord fun t p => by
    refine Footprint.keeps_machine.bind fun m => ?_
    split
    · refine Footprint.Keeps.get.bind fun s => ?_
      split
      · exact .throw _
      · exact .pure _
      · exact .ite (keeps_update_landing _) (.throw _)
    · exact .pure _

end Effect

/-! ## All effects with a single target -/

/-- **Effects with a single target**, which a redirect chooses. -/
def EffectKind.hasOneTarget : EffectKind → Bool
  | .changeState _ | .stateTypeSet | .changeAnim | .ctrlSet | .turn | .targetDrop => true
  | .vector _ | .gravity | .rotate _ | .posFreeze | .bind _ => true
  | .lifeAdd | .vital _ | .attackMulSet | .defenceMulSet | .hitAdd | .moveHitReset => true
  | .varRangeSet | .varRandom | .mapSet => true
  | .explod | .removeExplod | .modifyExplod | .explodBindTime | .projectile => true
  | .clipboard _ | .clearClipboard | .loadFile => true
  | _ => false

/-- **Their visits have an aim.** -/
theorem EffectKind.aims {kind : EffectKind} (single : kind.hasOneTarget = true)
    (origin : EntityId) : (kind.visitor origin).Aims := by
  cases kind with
  | changeState source => exact Effect.aims_changeState origin source
  | stateTypeSet => exact Effect.aims_stateTypeSet origin
  | changeAnim => exact Effect.aims_changeAnim origin
  | ctrlSet => exact Effect.aims_ctrlSet origin
  | turn => exact Effect.aims_turn origin
  | targetDrop => exact Effect.aims_targetDrop origin
  | vector op => exact Effect.aims_vector origin op
  | gravity => exact Effect.aims_gravity origin
  | rotate op => exact Effect.aims_rotate origin op
  | posFreeze => exact Effect.aims_posFreeze origin
  | bind anchor => exact Effect.aims_bind origin anchor
  | lifeAdd => exact Effect.aims_lifeAdd origin
  | vital op => exact Effect.aims_vital origin op
  | attackMulSet => exact Effect.aims_attackMulSet origin
  | defenceMulSet => exact Effect.aims_defenceMulSet origin
  | hitAdd => exact Effect.aims_hitAdd origin
  | moveHitReset => exact Effect.aims_moveHitReset origin
  | varRangeSet => exact Effect.aims_varRangeSet origin
  | varRandom => exact Effect.aims_varRandom origin
  | mapSet => exact Effect.aims_mapSet origin
  | explod => exact Effect.aims_explod origin
  | removeExplod => exact Effect.aims_removeExplod origin
  | modifyExplod => exact Effect.aims_modifyExplod origin
  | explodBindTime => exact Effect.aims_explodBindTime origin
  | projectile => exact Effect.aims_projectile origin
  | clipboard mode => exact Effect.aims_clipboard origin mode
  | clearClipboard => exact Effect.aims_clearClipboard origin
  | loadFile => exact Effect.aims_loadFile origin
  | _ => cases single

/-! ## Blocks with one redirect -/

/-- **A block is redirected once**, by its first record. -/
structure ArgBlock.RedirectedBy (args : ArgBlock) (r : ArgRecord) : Prop where
  isRedirect : r.tag = redirectTag
  first : ∃ rest, (ArgBlock.read args).records = r :: rest ∧ ∀ x ∈ rest, x.tag ≠ redirectTag

section

variable {origin id : EntityId} {run : ArgBlock → Act Bool} {args : ArgBlock} {r : ArgRecord}
  {s u : Scene} {v : Value}

/-- The visit of such a block leads to the entity that the redirect finds. -/
theorem Visitor.Aims.walks {visitor : Visitor origin run} (aims : visitor.Aims)
    (block : args.RedirectedBy r) (among : Roster) :
    Leads r ⟨Target.start origin, visitor.plan among⟩ (ArgBlock.walk args visitor.handle) := by
  obtain ⟨isRedirect, rest, records, plain⟩ := block
  have first : Leads r ⟨Target.start origin, visitor.plan among⟩ (visitor.handle r) := by
    rw [Visitor.handle, if_pos isRedirect]
    exact aims.redirect r among
  have others : ∀ x ∈ rest, Lands (visitor.handle x) := by
    intro x later
    rw [Visitor.handle, if_neg (plain x later)]
    exact aims.record x
  have visited : Leads r ⟨Target.start origin, visitor.plan among⟩
      (ArgBlock.visitRecords visitor.handle (r :: rest)) :=
    first.bind fun _ => .ite (.visitRecords others) (.pure _)
  rw [ArgBlock.walk, records]
  -- a block that is broken off is a fault behind its records
  refine visited.bind fun finished => .ite ?_ (.pure _)
  cases (ArgBlock.read args).malformedAt with
  | some offset => exact .lift fun _ => .throw _
  | none => exact .pure _

/-- **An effect with an aim lands** on the entity that the redirect finds. -/
theorem Visitor.Aims.ends {visitor : Visitor origin run} (aims : visitor.Aims)
    (block : args.RedirectedBy r) (given : r.Gives origin s v u)
    (found : u.roster.withScriptId v.toInt32 = some id) :
    Ends (run args) s (fun _ t => (landing id).allows s t) fun _ t => (landing id).allows s t := by
  unfold Ends
  rw [visitor.runs]
  -- the end of the effect has the target that the visit was led to
  refine Ends.bind ((aims.walks block s.roster s v u id given found).mono (fun x t left => ?_)
    fun _ _ lands => lands)
  obtain ⟨rfl, lands⟩ := left
  exact (aims.finish x.1 x.2 t).mono (fun _ _ last => Footprint.trans _ lands last)
    fun _ _ last => Footprint.trans _ lands last

/-! ## Runs that count -/

/-- The scene with a profile that counts from zero. -/
def Scene.counting (s : Scene) : Scene :=
  { s with machine := { s.machine with profile := .on } }

/-- **A run executes no instruction on stores**: where instructions are counted, it ends without one
    of them. -/
def Act.StoresNothing {α : Type} (x : Act α) (s : Scene) : Prop :=
  Ends x s.counting (fun _ t => t.machine.profile.count (.page .stores) = 0)
    fun _ t => t.machine.profile.count (.page .stores) = 0

/-- All that two such scenes differ in is the profile. -/
theorem Scene.counting_like (s : Scene) :
    Scene.Like ⟨True, True, s.console, s.console⟩ s s.counting where
  stack := rfl
  windows := rfl
  signal := rfl
  settings := rfl
  library _ := ⟨rfl, rfl⟩
  roster := rfl
  files := rfl
  memory _ := rfl
  printed := ⟨[], (List.append_nil _).symm, (List.append_nil _).symm⟩

/-- Records give the same values while instructions are counted. -/
theorem ArgRecord.Gives.counting (given : r.Gives origin s v u) :
    ∃ u' : Scene, r.Gives origin s.counting v u' ∧ u'.roster = u.roster := by
  obtain ⟨code, first, evaluated⟩ := given
  have alike := Act.blind_evaluate (c := ⟨True, True, s.console, s.console⟩) trivial code origin _ _
    s.counting_like
  rw [evaluated] at alike
  generalize counted : Act.evaluate code origin s.counting = result at alike
  cases alike with
  | ok _ like => exact ⟨_, ⟨code, first, counted⟩, like.roster⟩

/-- **Redirected effects land on their target.**  If the first record of a block is its only
    redirect and finds an entity, and no instruction on stores is executed, then nobody else is
    changed, and the same entities are live, however the effect ends. -/
theorem redirected_effects_land {kind : EffectKind} (single : kind.hasOneTarget = true)
    (block : args.RedirectedBy r) (given : r.Gives origin s v u)
    (found : u.roster.withScriptId v.toInt32 = some id)
    (storesNothing : (kind.run origin args).StoresNothing s) :
    Ends (kind.run origin args) s (fun _ t => s.roster.ChangesOnly id t.roster)
      fun _ t => s.roster.ChangesOnly id t.roster := by
  obtain ⟨u', given', same⟩ := given.counting
  have found' : u'.roster.withScriptId v.toInt32 = some id := by rw [same, found]
  have lands := (kind.aims single origin).ends block given' found'
  -- nothing but the profile differs between the run and the one that counts
  let c : Scene.Common := ⟨True, True, s.console, s.console⟩
  have alike := (Effect.composed_run origin args kind).blind (c := c) trivial
    s s.counting s.counting_like
  have changed {t : Scene} (ended : ∃ t' : Scene, Scene.Like c t t' ∧
      (landing id).allows s.counting t' ∧ t'.machine.profile.count (.page .stores) = 0) :
      s.roster.ChangesOnly id t.roster := by
    obtain ⟨t', like, landed, none⟩ := ended
    rw [← like.roster]
    exact ((landed rfl).2 none).2
  exact (alike.ends (lands.and storesNothing)).mono (fun _ _ => changed) fun _ _ => changed

end

/-! ## A rival -/

/-- A redirect to the second of two players. -/
def toRival : ArgRecord := ⟨redirectTag, [Expression.int 57]⟩

/-- A record that takes control away. -/
def noControl : ArgRecord := ⟨Effect.valueTag, [Expression.int 0]⟩

/-- A player takes control from its rival, and keeps its own. -/
theorem redirected_effects_land_rival :
    let args := ArgBlock.ofRecords [toRival, noControl]
    args.RedirectedBy toRival ∧ (EffectKind.ctrlSet.run 0 args).StoresNothing Scene.duo ∧
      ∃ t, EffectKind.ctrlSet.run 0 args Scene.duo = .ok false t ∧
        (t.roster.get? 1).map (·.ctrl) = some false ∧ Scene.duo.roster.ChangesOnly 1 t.roster := by
  intro args
  let visitor := Effect.ctrlSetVisitor 0
  have encodable : ∀ r ∈ [toRival, noControl], r.Encodable := by decide
  have block : args.RedirectedBy toRival := by
    refine ⟨rfl, [noControl], ?_, by decide⟩
    rw [ArgBlock.read_ofRecords encodable]
  obtain ⟨w, u, t, passes, finish, ctrl⟩ : ∃ w u t,
      visitor.Passes Scene.duo [toRival, noControl] w u ∧ visitor.finish true w u = .ok false t ∧
        (t.roster.get? 1).map (·.ctrl) = some false := ⟨_, _, _, rfl, rfl, rfl⟩
  obtain ⟨w', u', t', passes', finish', none⟩ : ∃ w u t,
      visitor.Passes Scene.duo.counting [toRival, noControl] w u ∧
        visitor.finish true w u = .ok false t ∧ t.machine.profile.count (.page .stores) = 0 :=
    ⟨_, _, _, rfl, rfl, rfl⟩
  have ended := (passes.finishes encodable).run_eq.trans finish
  have counted := (passes'.finishes encodable).run_eq.trans finish'
  have storesNothing : (EffectKind.ctrlSet.run 0 args).StoresNothing Scene.duo := by
    unfold Act.StoresNothing Ends
    rw [counted]
    exact none
  obtain ⟨v, x, given, found⟩ : ∃ v x, toRival.Gives 0 Scene.duo v x ∧
      x.roster.withScriptId v.toInt32 = some 1 := ⟨_, _, ⟨_, rfl, rfl⟩, rfl⟩
  have lands := redirected_effects_land rfl block given found storesNothing
  exact ⟨block, storesNothing, t, ended, ctrl, lands.ok ended⟩

end TickScript
