import TickScript.Proofs.Effect.Composed
import TickScript.Proofs.Eval.Stores
import TickScript.Proofs.Roster.Lineage

/-! # Helpers that can be placed

    A new helper is placed when the visit ends, also if a record ended it early.  That cannot fail:
    the helper is live, and so is the target that it is placed at.

    `Placeable` is this invariant of the visit.  Evaluations and edits keep everybody live, so only
    two steps matter: a redirect, which chooses a live target, and the spawning of the helper, which
    succeeds under a live target only.
-/

namespace TickScript.Effect

variable {α β : Type}

/-- **A helper that was spawned can be placed.** -/
def Placeable (v : Visit HelperPlan) (s : Scene) : Prop :=
  ∀ h, v.plan.spawned = some h → s.roster.isLive h ∧ s.roster.isLive v.target.id

/-- Only helpers that were spawned and whom they are placed at matter. -/
theorem Placeable.of_live {v w : Visit HelperPlan} {s t : Scene} (placeable : Placeable v s)
    (spawned : w.plan.spawned = v.plan.spawned) (target : w.target.id = v.target.id)
    (live : t.roster.runOrder = s.roster.runOrder) : Placeable w t := by
  intro h isSpawned
  rw [spawned] at isSpawned
  simp only [target, Roster.isLive_iff_mem_runOrder, live]
  simpa only [Roster.isLive_iff_mem_runOrder] using placeable h isSpawned

/-- **The action leaves a helper placeable**, unless it fails. -/
def KeepsPlaceable (x : Visiting HelperPlan α) : Prop :=
  ∀ v s, Placeable v s → Ends (x.run v) s (fun r t => Placeable r.2 t) fun _ _ => True

namespace KeepsPlaceable

variable {x y : Visiting HelperPlan α} {f : α → Visiting HelperPlan β}

theorem pure (a : α) : KeepsPlaceable (Pure.pure a) := fun _ _ placeable => placeable

theorem bind (hx : KeepsPlaceable x) (hf : ∀ a, KeepsPlaceable (f a)) :
    KeepsPlaceable (x >>= f) := by
  intro v s placeable
  refine Ends.bind ((hx v s placeable).mono (fun r t kept => ?_) fun _ _ _ => trivial)
  exact hf r.1 r.2 t kept

theorem ite {c : Prop} [Decidable c] (hx : KeepsPlaceable x) (hy : KeepsPlaceable y) :
    KeepsPlaceable (if c then x else y) := by
  split
  · exact hx
  · exact hy

theorem target : KeepsPlaceable Visiting.target := fun _ _ placeable => placeable

theorem plan : KeepsPlaceable Visiting.plan := fun _ _ placeable => placeable

theorem revise {g : HelperPlan → HelperPlan} (kept : ∀ p, (g p).spawned = p.spawned) :
    KeepsPlaceable (Visiting.revise g) :=
  fun v _ placeable => placeable.of_live (kept v.plan) rfl rfl

/-- Who is live stays live. -/
theorem lift {a : Act α} (live : (Footprint.fixing fun s => s.roster.runOrder).Keeps a) :
    KeepsPlaceable (liftM a) := by
  intro v s placeable
  refine Ends.bind ((live s).mono (fun _ t same => ?_) fun _ _ _ => trivial)
  exact placeable.of_live rfl rfl same

theorem update (id : EntityId) (f : Entity → Entity) : KeepsPlaceable (liftM (Act.update id f)) :=
  lift (Footprint.keeps_update fun s => s.roster.runOrder_modify f)

/-! ## Arguments -/

theorem evaluate (code : Expression) : KeepsPlaceable (Visiting.evaluate code) := by
  intro v s placeable
  have live (id : EntityId) :
      (Footprint.fixing fun s => s.roster.runOrder).Keeps (Act.evaluate code id) := by
    intro t
    have evaluated := Footprint.keeps_evaluations code id t
    exact evaluated.mono (fun _ _ same => same.roster.live) fun _ _ same => same.roster.live
  exact lift (live v.target.origin) v s placeable

variable (r : ArgRecord)

theorem argument (n : Nat) : KeepsPlaceable (Visiting.argument r n) :=
  (lift (Footprint.keeps_ofExcept _)).bind evaluate

theorem argument? (n : Nat) : KeepsPlaceable (Visiting.argument? r n) := by
  unfold Visiting.argument?
  split
  · exact (evaluate _).bind fun _ => .pure _
  · exact .pure _

theorem int : KeepsPlaceable (Visiting.int r) := (argument r 0).bind fun _ => .pure _

theorem pair : KeepsPlaceable (Visiting.pair r) :=
  ((argument r 0).bind fun _ => .pure _).bind fun _ => (argument? r 1).bind fun _ => .pure _

/-! ## Records -/

theorem updateHelper (f : Entity → Entity) : KeepsPlaceable (Effect.updateHelper f) := by
  refine plan.bind fun p => ?_
  cases p.spawned with
  | some h => exact update h f
  | none => exact .pure _

theorem helperRecord : KeepsPlaceable (Effect.helperRecord r) := by
  unfold Effect.helperRecord
  split
  · exact ((lift (Footprint.keeps_ofExcept _)).bind fun _ => .pure _).bind fun _ => updateHelper _
  · exact (int r).bind fun _ => updateHelper _
  · exact (int r).bind fun _ => revise fun _ => rfl
  · exact plan.bind fun _ =>
      ((pair r).bind fun _ => target.bind fun _ => .pure _).bind fun _ => revise fun _ => rfl
  · exact (int r).bind fun _ => revise fun _ => rfl
  · exact ((pair r).bind fun _ => .pure _).bind fun _ => updateHelper _
  · exact ((argument r 0).bind fun _ => .pure _).bind fun _ => .pure _
  · exact .pure _

/-- A redirect chooses somebody who is live. -/
theorem redirect : KeepsPlaceable (Visiting.redirect r) := by
  refine (int r).bind fun scriptId => (lift Footprint.keeps_roster).bind fun among => ?_
  cases among.withScriptId scriptId with
  | none => exact .pure _
  | some id =>
    -- the scale of the chosen entity is read, so it is live
    intro v s placeable
    refine Ends.bind (Ends.bind (ends_entity (fun origin _ => ?_) trivial))
    refine Ends.bind (Ends.bind (ends_entity (fun chosen present => ?_) trivial))
    intro h spawned
    exact ⟨(placeable h spawned).1, Roster.isLive_iff.mpr ⟨chosen, present⟩⟩

/-- The helper is spawned under somebody who is live, and both are live then. -/
theorem spawn : KeepsPlaceable Effect.spawn := by
  intro v s placeable
  rw [spawn_run]
  refine Ends.step (a := (spawnedUnder v.target.id s.roster).1)
    (t := { s with roster := (spawnedUnder v.target.id s.roster).2 }) rfl ?_
  unfold spawnedUnder
  cases success : s.roster.spawnHelper v.target.id helperName with
  | none => exact placeable
  | some spawned =>
    obtain ⟨parent, root, present, -, -, rfl⟩ := Roster.Lineage.of_spawnHelper success
    intro h spawned
    obtain rfl : s.roster.nextHandle = h := Option.some.inj spawned
    -- the helper has the next handle, which is not that of its parent
    let helper := s.roster.newHelper v.target.id parent root helperName
    have helperPresent : (s.roster.insert helper).get? s.roster.nextHandle = some helper := by
      rw [Roster.get?_insert, if_pos rfl]
    have parentPresent : (s.roster.insert helper).get? v.target.id = some parent := by
      rw [Roster.get?_insert, if_neg (Nat.ne_of_gt (Roster.lt_nextHandle present)), present]
    exact ⟨Roster.isLive_iff.mpr ⟨helper, helperPresent⟩,
      Roster.isLive_iff.mpr ⟨parent, parentPresent⟩⟩

theorem ensureSpawned : KeepsPlaceable Effect.ensureSpawned :=
  plan.bind fun _ => .ite (.pure _) spawn

theorem redirectHelper : KeepsPlaceable (Effect.redirectHelper r) :=
  (redirect r).bind fun _ => .ite ensureSpawned (.pure _)

theorem handle (origin : EntityId) : KeepsPlaceable ((helperVisitor origin).handle r) :=
  .ite (redirectHelper r) (ensureSpawned.bind fun _ =>
    .ite ((helperRecord r).bind fun _ => .pure _) (.pure _))

/-- **The visit of a new helper** leaves it placeable. -/
theorem visitRecords (origin : EntityId) (rs : List ArgRecord) :
    KeepsPlaceable (ArgBlock.visitRecords (helperVisitor origin).handle rs) := by
  induction rs with
  | nil => exact .pure _
  | cons r rest ih => exact (handle r origin).bind fun goOn => .ite ih (.pure _)

end KeepsPlaceable

/-! ## Placing -/

theorem placeable_of_passes {origin : EntityId} {s t : Scene} {rs : List ArgRecord}
    {v : Visit HelperPlan} (passes : (helperVisitor origin).Passes s rs v t) : Placeable v t := by
  have unspawned : Placeable ⟨Target.start origin, (helperVisitor origin).plan s.roster⟩ s := by
    intro h spawned
    cases spawned
  exact (KeepsPlaceable.visitRecords origin rs _ s unspawned).ok passes

/-- **A helper that can be placed is placed**, whether or not a record stopped the visit. -/
theorem finish_of_placeable (origin : EntityId) {v : Visit HelperPlan} {s : Scene}
    (placeable : Placeable v s) (finished : Bool) :
    ∃ t, (helperVisitor origin).finish finished v s = .ok false t := by
  obtain ⟨target, spawned, state, offset, facing⟩ := v
  cases spawned with
  | none => exact ⟨s, rfl⟩
  | some h =>
    obtain ⟨live, targetLive⟩ := placeable h rfl
    obtain ⟨e, present⟩ := Roster.isLive_iff.mp live
    obtain ⟨near, targetPresent⟩ := Roster.isLive_iff.mp targetLive
    let plan : HelperPlan := ⟨some h, state, offset, facing⟩
    have placed : (Act.entity target.id >>= fun near => Act.update h (plan.place near)) s =
        .ok () (s.modify h (plan.place near)) := by
      rw [bind_of_ok (entity_of_get? targetPresent), update_of_get? _ present]
    exact ⟨s.modify h (plan.place near), bind_of_ok placed⟩

end TickScript.Effect
