import TickScript.Proofs.Roster.Descendants

/-! # Lineage

    The invariant of a roster that is changed by its own operations only:

        script ids   run along with handles
        parents      are live, older than the entity, and of the same player
        roots        belong to helpers only; every helper has one, which is older, and a root of
                     the same player as long as it is live
        helpers      of one player are no more than a player may have

    It is kept by every change of an entity that leaves alone who the entity is, by orphaning, by
    removing entities together with their children, and by adding an entity that fits in.
-/

namespace TickScript

/-- **Who an entity is**: its script id, its player, whether it is a helper, and whom it is from. -/
def Entity.identity (e : Entity) : Int32 × Nat × Bool × Option EntityId × Option EntityId :=
  (e.id, e.playerNo, e.isHelper, e.parent, e.root)

/-- The entity without its parent. -/
def Entity.orphaned (e : Entity) : Entity := { e with parent := none }

namespace Roster

variable {r : Roster} {id : EntityId} {e : Entity} {playerNo : Nat}

/-- Whether the entity is a helper of the player. -/
def isHelperOf (playerNo : Nat) (e : Entity) : Bool := e.isHelper && e.playerNo == playerNo

/-- How many helpers a player has. -/
def helperCount (r : Roster) (playerNo : Nat) : Nat :=
  r.entries.countP fun x => isHelperOf playerNo x.2

theorem length_helpersOf (present : r.get? id = some e) :
    (r.helpersOf id).length = r.helperCount e.playerNo := by
  have helpers : r.helpersOf id = r.entries.filter fun x => isHelperOf e.playerNo x.2 := by
    simp only [helpersOf, present, isHelperOf]
  rw [helpers, helperCount, List.countP_eq_length_filter]

/-- **Lineage.** -/
structure Lineage (r : Roster) : Prop where
  nextScriptId : r.nextScriptId = firstScriptId + Int32.ofNat r.nextHandle
  scriptId : ∀ id e, r.get? id = some e → e.id = firstScriptId + Int32.ofNat id
  parent : ∀ id e p, r.get? id = some e → e.parent = some p →
    p < id ∧ ∃ e', r.get? p = some e' ∧ e'.playerNo = e.playerNo
  rootless : ∀ id e, r.get? id = some e → e.isHelper = false → e.root = none
  rooted : ∀ id e, r.get? id = some e → e.isHelper = true →
    ∃ p, e.root = some p ∧ p < id ∧
      ∀ e', r.get? p = some e' → e'.isHelper = false ∧ e'.playerNo = e.playerNo
  limit : ∀ playerNo, r.helperCount playerNo ≤ helperLimit

namespace Lineage

theorem parentsOlder (h : r.Lineage) : r.ParentsOlder :=
  fun id e p present child => (h.parent id e p present child).1

theorem ofSeed (seed : UInt64) : (ofSeed seed).Lineage where
  nextScriptId := rfl
  scriptId _ _ present := by cases present
  parent _ _ _ present := by cases present
  rootless _ _ present := by cases present
  rooted _ _ present := by cases present
  limit _ := Nat.zero_le _

/-! ## Changes of entities -/

/-- Changes that leave alone who the entities are, but may orphan them. -/
theorem mapEntities (h : r.Lineage) {f : EntityId → Entity → Entity}
    (same : ∀ id e, r.get? id = some e → (f id e).identity = e.identity ∨ f id e = e.orphaned) :
    (r.mapEntities f).Lineage := by
  -- what is found in the new roster was found in the old one, and is who it was
  have found {id : EntityId} {e' : Entity} (present : (r.mapEntities f).get? id = some e') :
      ∃ e, r.get? id = some e ∧ f id e = e' := by
    rw [get?_mapEntities] at present
    exact Option.map_eq_some_iff.mp present
  have kept {id : EntityId} {e : Entity} (present : r.get? id = some e) :
      (f id e).id = e.id ∧ (f id e).playerNo = e.playerNo ∧ (f id e).isHelper = e.isHelper ∧
        (f id e).root = e.root ∧ ((f id e).parent = e.parent ∨ (f id e).parent = none) := by
    rcases same id e present with identity | orphaned
    · simp only [Entity.identity, Prod.mk.injEq] at identity
      obtain ⟨scriptId, playerNo, isHelper, parent, root⟩ := identity
      exact ⟨scriptId, playerNo, isHelper, root, .inl parent⟩
    · rw [orphaned]
      exact ⟨rfl, rfl, rfl, rfl, .inr rfl⟩
  have still {id : EntityId} {e : Entity} (present : r.get? id = some e) :
      (r.mapEntities f).get? id = some (f id e) := by
    rw [get?_mapEntities, present]
    rfl
  refine ⟨h.nextScriptId, ?_, ?_, ?_, ?_, ?_⟩
  · intro id e' present'
    obtain ⟨e, present, rfl⟩ := found present'
    rw [(kept present).1]
    exact h.scriptId id e present
  · intro id e' p present' child'
    obtain ⟨e, present, rfl⟩ := found present'
    obtain ⟨-, playerNo, -, -, parents⟩ := kept present
    have child : e.parent = some p := by
      rcases parents with unchanged | orphaned
      · rw [← unchanged, child']
      · rw [orphaned] at child'
        cases child'
    obtain ⟨older, x, there, samePlayer⟩ := h.parent id e p present child
    refine ⟨older, f p x, still there, ?_⟩
    rw [(kept there).2.1, playerNo, samePlayer]
  · intro id e' present' notHelper
    obtain ⟨e, present, rfl⟩ := found present'
    obtain ⟨-, -, isHelper, root, -⟩ := kept present
    rw [isHelper] at notHelper
    rw [root]
    exact h.rootless id e present notHelper
  · intro id e' present' helper
    obtain ⟨e, present, rfl⟩ := found present'
    obtain ⟨-, playerNo, isHelper, root, -⟩ := kept present
    rw [isHelper] at helper
    obtain ⟨p, isRoot, older, ifLive⟩ := h.rooted id e present helper
    refine ⟨p, root.trans isRoot, older, ?_⟩
    intro x' there'
    obtain ⟨x, there, rfl⟩ := found there'
    obtain ⟨noHelper, samePlayer⟩ := ifLive x there
    obtain ⟨-, playerNo', isHelper', -, -⟩ := kept there
    exact ⟨isHelper'.trans noHelper, by rw [playerNo', playerNo, samePlayer]⟩
  · intro playerNo
    have count : (r.mapEntities f).helperCount playerNo = r.helperCount playerNo := by
      have mapped : (r.mapEntities f).helperCount playerNo =
          (r.entries.map fun x => (x.1, f x.1 x.2)).countP fun x => isHelperOf playerNo x.2 := rfl
      rw [mapped, List.countP_map, helperCount]
      refine List.countP_congr ?_
      rintro ⟨id, e⟩ member
      obtain ⟨-, samePlayer, isHelper, -, -⟩ := kept (get?_eq_some_iff.mpr member)
      simp only [Function.comp_apply, isHelperOf, samePlayer, isHelper]
    rw [count]
    exact h.limit playerNo

/-! ## Removal -/

/-- Entities are removed together with their children. -/
theorem keep (h : r.Lineage) {kept : EntityId → Bool}
    (closed : ∀ id e p, r.get? id = some e → e.parent = some p → kept id → kept p) :
    (r.keep kept).Lineage := by
  have found {id : EntityId} {e : Entity} (present : (r.keep kept).get? id = some e) :
      kept id ∧ r.get? id = some e := by
    rw [get?_keep] at present
    split at present
    · exact ⟨‹_›, present⟩
    · cases present
  refine ⟨h.nextScriptId, ?_, ?_, ?_, ?_, ?_⟩
  · intro id e present
    exact h.scriptId id e (found present).2
  · intro id e p present child
    obtain ⟨stays, present⟩ := found present
    obtain ⟨older, x, there, samePlayer⟩ := h.parent id e p present child
    refine ⟨older, x, ?_, samePlayer⟩
    rw [get?_keep, if_pos (closed id e p present child stays)]
    exact there
  · intro id e present notHelper
    exact h.rootless id e (found present).2 notHelper
  · intro id e present helper
    obtain ⟨p, isRoot, older, ifLive⟩ := h.rooted id e (found present).2 helper
    refine ⟨p, isRoot, older, ?_⟩
    intro x there
    exact ifLive x (found there).2
  · intro playerNo
    have fewer : (r.keep kept).helperCount playerNo ≤ r.helperCount playerNo :=
      List.filter_sublist.countP_le
    exact Nat.le_trans fewer (h.limit playerNo)

theorem destroyAll (h : r.Lineage) (id : EntityId) : (r.destroyAll id).Lineage := by
  unfold Roster.destroyAll
  refine h.keep ?_
  intro other e p present child stays
  simp only [Bool.and_eq_true, bne_iff_ne, Bool.not_eq_true', List.contains_eq_mem,
    decide_eq_false_iff_not] at stays ⊢
  -- were the parent removed, its child would be a descendant
  refine ⟨fun top => ?_, fun below => ?_⟩
  · exact stays.2 (mem_descendants_of_parent h.parentsOlder present child (.inl top))
  · exact stays.2 (mem_descendants_of_parent h.parentsOlder present child (.inr below))

theorem destroyOne (h : r.Lineage) (id : EntityId) : (r.destroyOne id).Lineage := by
  have orphans : (r.mapEntities fun _ e =>
      if e.parent = some id then { e with parent := none } else e).Lineage := by
    refine h.mapEntities ?_
    intro other e present
    split
    · exact .inr rfl
    · exact .inl rfl
  refine orphans.keep ?_
  intro other e' p present' child _
  -- nobody has the removed entity as its parent any more
  rw [bne_iff_ne]
  intro removed
  rw [get?_mapEntities] at present'
  obtain ⟨e, present, rfl⟩ := Option.map_eq_some_iff.mp present'
  split at child
  · cases child
  · rename_i notChild
    exact notChild (removed ▸ child)

theorem destroy (h : r.Lineage) (id : EntityId) (recursive : Bool) :
    (r.destroy id recursive).1.Lineage := by
  cases recursive with
  | true => exact h.destroyAll id
  | false => exact h.destroyOne id

/-! ## Addition -/

theorem helperCount_insert (r : Roster) (e : Entity) (playerNo : Nat) :
    (r.insert e).helperCount playerNo =
      r.helperCount playerNo + if isHelperOf playerNo e then 1 else 0 := by
  have appended : (r.insert e).helperCount playerNo =
      (r.entries ++ [(r.nextHandle, e)]).countP fun x => isHelperOf playerNo x.2 := rfl
  rw [appended, List.countP_append, List.countP_singleton, helperCount]

/-- **An entity that fits in is added**: it has the next script id, its parent and root are there,
    and its player may have one more helper. -/
theorem insert (h : r.Lineage) (scriptId : e.id = r.nextScriptId)
    (parent : ∀ p, e.parent = some p → ∃ e', r.get? p = some e' ∧ e'.playerNo = e.playerNo)
    (rootless : e.isHelper = false → e.root = none)
    (rooted : e.isHelper = true → ∃ p, e.root = some p ∧ p < r.nextHandle ∧
      ∀ e', r.get? p = some e' → e'.isHelper = false ∧ e'.playerNo = e.playerNo)
    (room : e.isHelper = true → r.helperCount e.playerNo < helperLimit) :
    (r.insert e).Lineage := by
  have found {id : EntityId} {x : Entity} (present : (r.insert e).get? id = some x) :
      (r.nextHandle = id ∧ e = x) ∨ r.get? id = some x := by
    rw [get?_insert] at present
    split at present
    · exact .inl ⟨‹_›, Option.some.inj present⟩
    · exact .inr present
  -- below the next handle nothing is new
  have old {id : EntityId} (below : id < r.nextHandle) : (r.insert e).get? id = r.get? id := by
    rw [get?_insert, if_neg (Nat.ne_of_gt below)]
  refine ⟨?_, ?_, ?_, ?_, ?_, ?_⟩
  · have next : (r.insert e).nextScriptId = r.nextScriptId + 1 := rfl
    have handle : (r.insert e).nextHandle = r.nextHandle + 1 := rfl
    rw [next, handle, h.nextScriptId, Int32.ofNat_add, Int32.add_assoc]
    rfl
  · intro id x present
    rcases found present with ⟨rfl, rfl⟩ | present
    · rw [scriptId, h.nextScriptId]
    · exact h.scriptId id x present
  · intro id x p present child
    rcases found present with ⟨rfl, rfl⟩ | present
    · obtain ⟨e', there, samePlayer⟩ := parent p child
      have below := lt_nextHandle there
      exact ⟨below, e', (old below).trans there, samePlayer⟩
    · obtain ⟨older, e', there, samePlayer⟩ := h.parent id x p present child
      exact ⟨older, e', (old (lt_nextHandle there)).trans there, samePlayer⟩
  · intro id x present notHelper
    rcases found present with ⟨-, rfl⟩ | present
    · exact rootless notHelper
    · exact h.rootless id x present notHelper
  · intro id x present helper
    rcases found present with ⟨rfl, rfl⟩ | present
    · obtain ⟨p, isRoot, below, ifLive⟩ := rooted helper
      refine ⟨p, isRoot, below, ?_⟩
      intro e' there
      exact ifLive e' ((old below).symm.trans there)
    · obtain ⟨p, isRoot, older, ifLive⟩ := h.rooted id x present helper
      refine ⟨p, isRoot, older, ?_⟩
      intro e' there
      have below : p < r.nextHandle := Nat.lt_trans older (lt_nextHandle present)
      exact ifLive e' ((old below).symm.trans there)
  · intro playerNo
    rw [helperCount_insert]
    by_cases own : isHelperOf playerNo e
    · rw [if_pos own]
      obtain ⟨helper, samePlayer⟩ := Bool.and_eq_true_iff.mp own
      rw [← eq_of_beq samePlayer]
      exact room helper
    · rw [if_neg own]
      exact h.limit playerNo

theorem addPlayer (h : r.Lineage) (playerNo : Nat) (name : String) :
    (r.addPlayer playerNo name).1.Lineage := by
  -- whichever side it stands on, the new entity is a root
  have root (e : Entity) (identity : e.identity =
      (Entity.fresh r.nextScriptId playerNo name).identity) : (r.insert e).Lineage := by
    simp only [Entity.identity, Entity.fresh, Prod.mk.injEq] at identity
    obtain ⟨scriptId, -, isHelper, parent, root⟩ := identity
    refine h.insert scriptId ?_ (fun _ => root) ?_ ?_
    · intro p child
      rw [parent] at child
      cases child
    · intro helper
      rw [isHelper] at helper
      cases helper
    · intro helper
      rw [isHelper] at helper
      cases helper
  unfold Roster.addPlayer
  refine root _ ?_
  split <;> rfl

/-- What is known of a helper that was spawned. -/
theorem of_spawnHelper {parentId : EntityId} {name : String} {spawned : Roster × EntityId}
    (h : r.spawnHelper parentId name = some spawned) :
    ∃ parent root, r.get? parentId = some parent ∧ r.helperCount parent.playerNo < helperLimit ∧
      (if parent.isHelper then parent.root else some parentId) = some root ∧
      spawned = (r.insert (r.newHelper parentId parent root name), r.nextHandle) := by
  unfold spawnHelper at h
  obtain ⟨parent, present, h⟩ := Option.bind_eq_some_iff.mp h
  rw [length_helpersOf present] at h
  split at h
  · cases h
  · rename_i full
    have room : r.helperCount parent.playerNo < helperLimit := Nat.not_le.mp full
    dsimp only at h
    by_cases helper : parent.isHelper
    · rw [if_pos helper] at h
      obtain ⟨root, isRoot, h⟩ := Option.bind_eq_some_iff.mp h
      exact ⟨parent, root, present, room, (if_pos helper).trans isRoot, (Option.some.inj h).symm⟩
    · rw [if_neg helper] at h
      exact ⟨parent, parentId, present, room, if_neg helper, (Option.some.inj h).symm⟩

theorem spawnHelper (h : r.Lineage) {parentId : EntityId} {name : String}
    {spawned : Roster × EntityId} (success : r.spawnHelper parentId name = some spawned) :
    spawned.1.Lineage := by
  obtain ⟨parent, root, present, room, isRoot, rfl⟩ := of_spawnHelper success
  refine h.insert (e := r.newHelper parentId parent root name) rfl ?_ ?_ ?_ ?_
  · intro p child
    obtain rfl : parentId = p := Option.some.inj child
    exact ⟨parent, present, rfl⟩
  · intro notHelper
    cases notHelper
  · intro _
    refine ⟨root, rfl, ?_⟩
    -- the root is that of the parent, or the parent itself
    by_cases helper : parent.isHelper
    · rw [if_pos helper] at isRoot
      obtain ⟨p, isRoot', older, ifLive⟩ := h.rooted parentId parent present helper
      obtain rfl : root = p := Option.some.inj (isRoot.symm.trans isRoot')
      exact ⟨Nat.lt_trans older (lt_nextHandle present), ifLive⟩
    · rw [if_neg helper] at isRoot
      obtain rfl : parentId = root := Option.some.inj isRoot
      refine ⟨lt_nextHandle present, ?_⟩
      intro e' there
      obtain rfl : parent = e' := Option.some.inj (present.symm.trans there)
      exact ⟨Bool.eq_false_iff.mpr helper, rfl⟩
  · intro _
    exact room

/-! ## Clock and chance -/

theorem advance (h : r.Lineage) : r.advance.Lineage :=
  ⟨h.nextScriptId, h.scriptId, h.parent, h.rootless, h.rooted, h.limit⟩

theorem random (h : r.Lineage) (low high : Int32) : (r.random low high).2.Lineage :=
  ⟨h.nextScriptId, h.scriptId, h.parent, h.rootless, h.rooted, h.limit⟩

end Lineage
end Roster
end TickScript
