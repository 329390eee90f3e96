import TickScript.Proofs.Roster.Deeds

/-! # Sound rosters

    A roster is sound if all of its entities are.  Deeds keep it sound: edits do by what an edit
    is, a helper is spawned sound, and of those who outlive a destruction at most the parent
    changes.
-/

namespace TickScript.Roster

variable {r r' : Roster} {id : EntityId} {e : Entity}

/-- **All entities are sound.** -/
def Sound (r : Roster) : Prop := ∀ id e, r.get? id = some e → e.Sound

instance (r : Roster) : Decidable r.Sound :=
  decidable_of_iff (∀ x ∈ r.entries, x.2.Sound)
    ⟨fun all id e present => all (id, e) (get?_eq_some_iff.mp present),
      fun sound x i => sound x.1 x.2 (get?_eq_some_iff.mpr i)⟩

namespace Sound

theorem modify (sound : r.Sound) {f : Entity → Entity}
    (kept : ∀ e, r.get? id = some e → e.Sound → (f e).Sound) : (r.modify id f).Sound := by
  intro other e' present'
  rw [get?_modify] at present'
  split at present'
  case isTrue here =>
    obtain ⟨e, present, rfl⟩ := Option.map_eq_some_iff.mp present'
    subst here
    exact kept e present (sound other e present)
  case isFalse => exact sound other e' present'

theorem insert (sound : r.Sound) (fresh : e.Sound) : (r.insert e).Sound := by
  intro other e' present'
  rw [get?_insert] at present'
  split at present'
  case isTrue => exact Option.some.inj present' ▸ fresh
  case isFalse => exact sound other e' present'

theorem keep (sound : r.Sound) (kept : EntityId → Bool) : (r.keep kept).Sound := by
  intro other e' present'
  rw [get?_keep] at present'
  split at present'
  case isTrue => exact sound other e' present'
  case isFalse => cases present'

/-- A helper has the vitals of a fresh entity. -/
theorem spawn (sound : r.Sound) {parentId : EntityId} {name : String} {spawned : Roster × EntityId}
    (success : r.spawnHelper parentId name = some spawned) : spawned.1.Sound := by
  obtain ⟨parent, root, -, -, -, rfl⟩ := Lineage.of_spawnHelper success
  have fresh : (Entity.fresh r.nextScriptId parent.playerNo name).Sound := .fresh _ _ _
  exact sound.insert (fresh.of_vitals rfl)

theorem destroy (sound : r.Sound) (id : EntityId) (recursive : Bool) :
    (r.destroy id recursive).1.Sound := by
  cases recursive with
  | true => exact sound.keep fun x => x != id && !(r.descendants id).contains x
  | false =>
    have orphaned : (r.mapEntities fun _ e =>
        if e.parent = some id then { e with parent := none } else e).Sound := by
      intro other e' present'
      rw [get?_mapEntities] at present'
      obtain ⟨e, present, rfl⟩ := Option.map_eq_some_iff.mp present'
      have sound : e.Sound := sound other e present
      split
      · exact sound.of_vitals rfl
      · exact sound
    exact orphaned.keep (· != id)

theorem deed (sound : r.Sound) (deed : r.Deed r') : r'.Sound := by
  cases deed with
  | edit id edited => exact sound.modify fun e present => (edited e present).sound
  | spawn success => exact sound.spawn success
  | destroy id recursive => exact sound.destroy id recursive
  | random low high => exact sound

end Sound
end TickScript.Roster
