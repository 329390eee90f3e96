import TickScript.Proofs.Roster.Lineage
import Mathlib.Logic.Relation

/-! # The directory of entities

    A roster starts empty and is changed by adding players, spawning helpers, destroying entities
    alone or with their descendants, drawing random numbers, letting a tick pass, and editing
    entities without touching who they are.  Lineage is kept by each of these steps, and so it
    holds along every run (`Steps.lineage`).

    From it follows what others rely on (`Directory`): handles and script ids name one entity
    each and for good, parents are there, roots are there or gone for good, and a helper is
    refused only to those who are gone or whose player has all the helpers it may have.
-/

namespace TickScript.Roster

variable {r r' : Roster} {id : EntityId} {e : Entity} {seed : UInt64}

/-! ## Runs -/

/-- **One change of a roster.** -/
inductive Step (r : Roster) : Roster → Prop where
  | addPlayer (playerNo : Nat) (name : String) : Step r (r.addPlayer playerNo name).1
  | spawnHelper {parentId : EntityId} {name : String} {spawned : Roster × EntityId}
      (success : r.spawnHelper parentId name = some spawned) : Step r spawned.1
  | destroy (id : EntityId) (recursive : Bool) : Step r (r.destroy id recursive).1
  | random (low high : Int32) : Step r (r.random low high).2
  | advance : Step r r.advance
  /-- An edit that leaves alone who the entity is. -/
  | edit (id : EntityId) (f : Entity → Entity)
      (same : ∀ e, r.get? id = some e → (f e).identity = e.identity) : Step r (r.modify id f)

/-- **A run**: any number of steps, one after the other. -/
abbrev Steps : Roster → Roster → Prop := Relation.ReflTransGen Step

theorem Step.lineage (step : r.Step r') (h : r.Lineage) : r'.Lineage := by
  cases step with
  | addPlayer playerNo name => exact h.addPlayer playerNo name
  | spawnHelper success => exact h.spawnHelper success
  | destroy id recursive => exact h.destroy id recursive
  | random low high => exact h.random low high
  | advance => exact h.advance
  | edit id f same =>
    refine h.mapEntities ?_
    intro other e present
    by_cases here : other = id
    · rw [if_pos here]
      exact .inl (same e (here ▸ present))
    · rw [if_neg here]
      exact .inl rfl

theorem Steps.lineage (run : (ofSeed seed).Steps r) : r.Lineage := by
  induction run with
  | refl => exact .ofSeed seed
  | tail _ step ih => exact step.lineage ih

/-! ## Handles are used once -/

theorem nextHandle_destroy (r : Roster) (id : EntityId) (recursive : Bool) :
    (r.destroy id recursive).1.nextHandle = r.nextHandle := by
  cases recursive <;> rfl

/-- Destroying brings nobody back. -/
theorem get?_destroy_of_none (gone : r.get? id = none) (other : EntityId) (recursive : Bool) :
    (r.destroy other recursive).1.get? id = none := by
  cases recursive with
  | true =>
    show (r.destroyAll other).get? id = none
    rw [get?_destroyAll, gone, ite_self]
  | false =>
    show (r.destroyOne other).get? id = none
    rw [get?_destroyOne, gone]
    exact ite_self none

/-- Whoever is destroyed is gone. -/
theorem get?_destroy_self (r : Roster) (id : EntityId) (recursive : Bool) :
    (r.destroy id recursive).1.get? id = none := by
  cases recursive with
  | true => exact (get?_destroyAll id id).trans (if_pos (.inl rfl))
  | false => exact (get?_destroyOne id id).trans (if_pos rfl)

/-- What a step that adds an entity does to handles. -/
theorem gone_insert (below : id < r.nextHandle) (gone : r.get? id = none) (e : Entity) :
    id < (r.insert e).nextHandle ∧ (r.insert e).get? id = none := by
  refine ⟨Nat.lt_succ_of_lt below, ?_⟩
  rw [get?_insert, if_neg (Nat.ne_of_gt below)]
  exact gone

theorem Step.gone (step : r.Step r') (below : id < r.nextHandle) (gone : r.get? id = none) :
    id < r'.nextHandle ∧ r'.get? id = none := by
  cases step with
  | addPlayer playerNo name => exact gone_insert below gone _
  | spawnHelper success =>
    obtain ⟨parent, root, -, -, -, rfl⟩ := Lineage.of_spawnHelper success
    exact gone_insert below gone _
  | destroy other recursive =>
    rw [nextHandle_destroy]
    exact ⟨below, get?_destroy_of_none gone other recursive⟩
  | random low high => exact ⟨below, gone⟩
  | advance => exact ⟨below, gone⟩
  | edit other f same =>
    refine ⟨below, ?_⟩
    rw [get?_modify, gone]
    exact ite_self _

/-- **Never live again**, whatever happens to the roster. -/
def GoneForGood (r : Roster) (id : EntityId) : Prop := ∀ r', r.Steps r' → r'.get? id = none

/-- A handle that was given out and is not in use stays so. -/
theorem goneForGood (below : id < r.nextHandle) (gone : r.get? id = none) : r.GoneForGood id := by
  intro r' run
  have both : id < r'.nextHandle ∧ r'.get? id = none := by
    induction run with
    | refl => exact ⟨below, gone⟩
    | tail _ step ih => exact step.gone ih.1 ih.2
  exact both.2

/-! ## Script ids -/

namespace Lineage

/-- Up to the largest integer, script ids do not wrap. -/
theorem scriptId_eq (h : r.Lineage) (few : r.nextHandle < Nat.pow 2 31 - 57)
    (present : r.get? id = some e) : e.id.toInt = 56 + (id : Nat) := by
  have below : id < r.nextHandle := lt_nextHandle present
  have small : 56 + (id : Nat) < Nat.pow 2 31 :=
    calc 56 + (id : Nat) < 56 + (Nat.pow 2 31 - 57) := Nat.add_lt_add_left (Nat.lt_trans below few) 56
      _ < Nat.pow 2 31 := by decide
  have sum : firstScriptId + Int32.ofNat id = Int32.ofNat (56 + id) := (Int32.ofNat_add 56 id).symm
  rw [h.scriptId id e present, sum, Int32.toInt_ofNat_of_lt small]
  rfl

theorem scriptId_inj (h : r.Lineage) (few : r.nextHandle < Nat.pow 2 31 - 57) {id' : EntityId}
    {e' : Entity} (present : r.get? id = some e) (present' : r.get? id' = some e')
    (same : e.id = e'.id) : id = id' := by
  have first := h.scriptId_eq few present
  have second := h.scriptId_eq few present'
  rw [same, second] at first
  exact (Int.ofNat.inj (Int.add_left_cancel first)).symm

/-- **A script id finds the entity that has it**, and nobody else. -/
theorem withScriptId_eq_some_iff (h : r.Lineage) (few : r.nextHandle < Nat.pow 2 31 - 57)
    {scriptId : Int32} :
    r.withScriptId scriptId = some id ↔ ∃ e, r.get? id = some e ∧ e.id = scriptId := by
  unfold withScriptId
  constructor
  · intro found
    obtain ⟨⟨id, e⟩, first, rfl⟩ := Option.map_eq_some_iff.mp found
    have present := get?_eq_some_iff.mpr (List.mem_of_find?_eq_some first)
    have same : e.id = scriptId := by simpa using List.find?_some first
    exact ⟨e, present, same⟩
  · rintro ⟨e, present, rfl⟩
    have member := get?_eq_some_iff.mp present
    cases first : r.entries.find? fun x => x.2.id == e.id with
    | none => exact absurd (beq_self_eq_true e.id) (List.find?_eq_none.mp first (id, e) member)
    | some x =>
      have there : r.get? x.1 = some x.2 := get?_eq_some_iff.mpr (List.mem_of_find?_eq_some first)
      have same : x.2.id = e.id := by simpa using List.find?_some first
      rw [Option.map_some, h.scriptId_inj few there present same]

/-! ## Spawning -/

/-- **When a helper is refused.**  Every helper knows its root, so lineage is no reason. -/
theorem spawnHelper_eq_none_iff (h : r.Lineage) {parentId : EntityId} {name : String} :
    r.spawnHelper parentId name = none ↔
      r.get? parentId = none ∨
        ∃ parent, r.get? parentId = some parent ∧ r.helperCount parent.playerNo = helperLimit := by
  cases present : r.get? parentId with
  | none => simp [Roster.spawnHelper, present]
  | some parent =>
    have unfolded : r.spawnHelper parentId name =
        if helperLimit ≤ r.helperCount parent.playerNo then none
        else (if parent.isHelper then parent.root else some parentId).bind fun root =>
          some (r.insert (r.newHelper parentId parent root name), r.nextHandle) := by
      unfold Roster.spawnHelper
      rw [present, Option.bind_eq_bind, Option.bind_some, length_helpersOf present]
      split
      · rfl
      · split <;> rfl
    have limit := h.limit parent.playerNo
    rw [unfolded]
    by_cases full : helperLimit ≤ r.helperCount parent.playerNo
    · rw [if_pos full]
      have exact : r.helperCount parent.playerNo = helperLimit := Nat.le_antisymm limit full
      simp [exact]
    · rw [if_neg full]
      have room : r.helperCount parent.playerNo ≠ helperLimit := fun same => full (Nat.le_of_eq same.symm)
      by_cases helper : parent.isHelper
      · obtain ⟨root, isRoot, -⟩ := h.rooted parentId parent present helper
        simp [helper, isRoot, room]
      · simp [helper, room]

end Lineage

/-! ## The directory -/

/-- **What can be relied on of a roster.** -/
structure Directory (r : Roster) : Prop where
  below : ∀ id e, r.get? id = some e → id < r.nextHandle
  /-- No handle is given out twice. -/
  once : ∀ id, id < r.nextHandle → r.get? id = none → r.GoneForGood id
  scriptId : ∀ id e, r.get? id = some e → e.id.toInt = 56 + (id : Nat)
  scriptId_inj : ∀ id e id' e', r.get? id = some e → r.get? id' = some e' → e.id = e'.id → id = id'
  withScriptId : ∀ scriptId id,
    r.withScriptId scriptId = some id ↔ ∃ e, r.get? id = some e ∧ e.id = scriptId
  parent : ∀ id e p, r.get? id = some e → e.parent = some p →
    p < id ∧ ∃ e', r.get? p = some e' ∧ e'.playerNo = e.playerNo
  /-- Helpers have a root, and nobody else. -/
  rooted : ∀ id e, r.get? id = some e → e.root.isSome = e.isHelper
  root : ∀ id e p, r.get? id = some e → e.root = some p →
    (p < id ∧ ∃ e', r.get? p = some e' ∧ e'.isHelper = false ∧ e'.playerNo = e.playerNo) ∨
      r.GoneForGood p
  limit : ∀ playerNo, r.helperCount playerNo ≤ helperLimit
  spawn : ∀ parentId name, r.spawnHelper parentId name = none ↔
    r.get? parentId = none ∨
      ∃ parent, r.get? parentId = some parent ∧ r.helperCount parent.playerNo = helperLimit

theorem Lineage.rooted_eq (h : r.Lineage) (present : r.get? id = some e) :
    e.root.isSome = e.isHelper := by
  cases helper : e.isHelper with
  | true =>
    obtain ⟨p, isRoot, -⟩ := h.rooted id e present helper
    rw [isRoot]
    rfl
  | false =>
    rw [h.rootless id e present helper]
    rfl

theorem Lineage.root_or_gone (h : r.Lineage) {p : EntityId} (present : r.get? id = some e)
    (isRoot : e.root = some p) :
    (p < id ∧ ∃ e', r.get? p = some e' ∧ e'.isHelper = false ∧ e'.playerNo = e.playerNo) ∨
      r.GoneForGood p := by
  have helper : e.isHelper = true := by
    rw [← h.rooted_eq present, isRoot]
    rfl
  obtain ⟨root, isRoot', older, ifLive⟩ := h.rooted id e present helper
  obtain rfl : p = root := Option.some.inj (isRoot.symm.trans isRoot')
  cases there : r.get? p with
  | some e' => exact .inl ⟨older, e', rfl, ifLive e' there⟩
  | none => exact .inr (goneForGood (Nat.lt_trans older (lt_nextHandle present)) there)

/-- **Every run leads to a directory**, as long as script ids last: the next handle is the number
    of entities that were ever added. -/
theorem directory_of_steps (run : (ofSeed seed).Steps r) (few : r.nextHandle < Nat.pow 2 31 - 57) :
    r.Directory := by
  have lineage := Steps.lineage run
  exact {
    below := fun id e present => lt_nextHandle present
    once := fun id below gone => goneForGood below gone
    scriptId := fun id e present => lineage.scriptId_eq few present
    scriptId_inj := fun id e id' e' present present' => lineage.scriptId_inj few present present'
    withScriptId := fun scriptId id => lineage.withScriptId_eq_some_iff few
    parent := lineage.parent
    rooted := fun id e present => lineage.rooted_eq present
    root := fun id e p present isRoot => lineage.root_or_gone present isRoot
    limit := lineage.limit
    spawn := fun parentId name => lineage.spawnHelper_eq_none_iff }

/-- The roster with one more helper, if it is not refused. -/
def withHelper (r : Roster) (parentId : EntityId) : Roster :=
  ((r.spawnHelper parentId "").map (·.1)).getD r

theorem steps_withHelper (r : Roster) (parentId : EntityId) : r.Steps (r.withHelper parentId) := by
  unfold withHelper
  cases success : r.spawnHelper parentId "" with
  | none => exact .refl
  | some spawned => exact .single (.spawnHelper success)

/-- A player has a helper, and that has one too; the player is destroyed, and the younger helper
    spawns another, whose root is gone. -/
def bereft : Roster :=
  let family := (((ofSeed 0).addPlayer 1 "").1.withHelper 0).withHelper 1
  (family.destroy 0 false).1.withHelper 2

/-- The last helper has the gone player as its root, and that is gone for good. -/
theorem directory_of_steps_bereft :
    (ofSeed 0).Steps bereft ∧ bereft.nextHandle < Nat.pow 2 31 - 57 ∧ bereft.Directory ∧
      (bereft.get? 3).map Entity.identity = some (59, 1, true, some 2, some 0) ∧
      bereft.GoneForGood 0 := by
  have player : (ofSeed 0).Steps ((ofSeed 0).addPlayer 1 "").1 := .single (.addPlayer 1 "")
  have family := (player.trans (steps_withHelper _ 0)).trans (steps_withHelper _ 1)
  have run : (ofSeed 0).Steps bereft :=
    (family.trans (.single (.destroy 0 false))).trans (steps_withHelper _ 2)
  have few : bereft.nextHandle < Nat.pow 2 31 - 57 := by decide
  have directory := directory_of_steps run few
  exact ⟨run, few, directory, by decide, directory.once 0 (by decide) (by decide)⟩

end TickScript.Roster
