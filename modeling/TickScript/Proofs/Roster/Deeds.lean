import TickScript.Proofs.Entity.Sound
import TickScript.Proofs.Roster.Directory

/-! # Deeds

    Whatever a script runs, it changes the roster by deeds of four kinds:

        edits       of an entity, which leave alone who it is and which state it is in, put
                    another request in place of one that waits, or none, and keep it sound
        spawning    a helper
        destroying  an entity, with its descendants or without them
        drawing     a random number

    Deeds are steps of the directory (`Deed.step`), so handles are used once.  Beyond that they
    leave the clock alone and keep the states of those who stay: `Becomes` states both, for the
    entities that it is asked for, and is closed under composition, so it holds of all that
    becomes of a roster by deeds (`Deeds.becomes`).
-/

namespace TickScript

/-! ## Entities -/

/-- **Which state an entity is in**: its number, the one before, since when, and whose it is. -/
def Entity.status (e : Entity) : Int32 × Int32 × Int32 × Nat :=
  (e.state.number, e.state.previous, e.state.time, e.state.owner)

/-- **The state is kept**, and a request that waits is at most replaced. -/
structure Entity.StateKept (e e' : Entity) : Prop where
  status : e'.status = e.status
  pending : e.pending.isSome → e'.pending.isSome

namespace Entity.StateKept

variable {e e' e'' : Entity}

theorem refl (e : Entity) : e.StateKept e := ⟨rfl, fun waits => waits⟩

theorem trans (h : e.StateKept e') (h' : e'.StateKept e'') : e.StateKept e'' :=
  ⟨h'.status.trans h.status, fun waits => h'.pending (h.pending waits)⟩

theorem time_eq (h : e.StateKept e') : e'.state.time = e.state.time :=
  congrArg (fun status => status.2.2.1) h.status

end Entity.StateKept

/-- **An edit** keeps the state, and who the entity is; a sound entity stays sound. -/
structure Entity.Edited (e e' : Entity) : Prop extends e.StateKept e' where
  identity : e'.identity = e.identity
  sound : e.Sound → e'.Sound

namespace Entity.Edited

variable {e e' e'' : Entity}

/-- An edit of other fields. -/
theorem aside (same : (e'.status, e'.pending, e'.identity, e'.vitals) =
    (e.status, e.pending, e.identity, e.vitals)) : e.Edited e' := by
  obtain ⟨status, pending, identity, vitals⟩ : _ ∧ _ ∧ _ ∧ _ := by
    simpa only [Prod.mk.injEq] using same
  exact ⟨⟨status, fun waits => by rwa [pending]⟩, identity, fun sound => sound.of_vitals vitals⟩

theorem trans (h : e.Edited e') (h' : e'.Edited e'') : e.Edited e'' :=
  ⟨h.toStateKept.trans h'.toStateKept, h'.identity.trans h.identity,
    fun sound => h'.sound (h.sound sound)⟩

theorem names (e : Entity) (t : NameTable) : e.Edited { e with names := t } := .aside rfl

theorem vars (e : Entity) (vs : Variables) : e.Edited { e with vars := vs } := .aside rfl

/-! Life, power and animation are only written within their bounds. -/

theorem setLife (e : Entity) (n : Int32) : e.Edited (e.setLife n) :=
  ⟨⟨rfl, fun waits => waits⟩, rfl, fun sound => sound.setLife n⟩

theorem setPower (e : Entity) (n : Int32) : e.Edited (e.setPower n) :=
  ⟨⟨rfl, fun waits => waits⟩, rfl, fun sound => sound.setPower n⟩

theorem setAnim (e : Entity) (anim elem : Int32) : e.Edited (e.setAnim anim elem) :=
  ⟨⟨rfl, fun waits => waits⟩, rfl, fun sound => sound.setAnim anim elem⟩

/-- A request takes the place of what waited. -/
theorem request (same : (e'.status, e'.identity, e'.vitals) = (e.status, e.identity, e.vitals))
    (waits : e'.pending.isSome) : e.Edited e' :=
  ⟨⟨congrArg (·.1) same, fun _ => waits⟩, congrArg (·.2.1) same,
    fun sound => sound.of_vitals (congrArg (·.2.2) same)⟩

end Entity.Edited

namespace Roster

variable {r r' r'' : Roster} {kept kept' : EntityId → Prop} {id : EntityId} {e : Entity}

/-! ## Deeds -/

/-- **What a script can do to a roster.** -/
inductive Deed (r : Roster) : Roster → Prop where
  | edit (id : EntityId) {f : Entity → Entity}
      (edited : ∀ e, r.get? id = some e → e.Edited (f e)) : Deed r (r.modify id f)
  | spawn {parentId : EntityId} {name : String} {spawned : Roster × EntityId}
      (success : r.spawnHelper parentId name = some spawned) : Deed r spawned.1
  | destroy (id : EntityId) (recursive : Bool) : Deed r (r.destroy id recursive).1
  | random (low high : Int32) : Deed r (r.random low high).2

/-- The edit of an entity that was looked up before. -/
theorem Deed.replace {e' : Entity} (present : r.get? id = some e) (edited : e.Edited e') :
    r.Deed (r.modify id fun _ => e') := by
  refine .edit id fun x present' => ?_
  obtain rfl : e = x := Option.some.inj (present.symm.trans present')
  exact edited

theorem Deed.step (deed : r.Deed r') : r.Step r' := by
  cases deed with
  | edit id edited => exact .edit id _ fun e present => (edited e present).identity
  | spawn success => exact .spawnHelper success
  | destroy id recursive => exact .destroy id recursive
  | random low high => exact .random low high

/-! ## What becomes of a roster -/

/-- **What scripts make of a roster.**  The clock stands, handles only count up, nobody comes
    back, and those entities keep their states that are `kept` and still there. -/
structure Becomes (r : Roster) (kept : EntityId → Prop) (r' : Roster) : Prop where
  gameTime : r'.gameTime = r.gameTime
  nextHandle : r.nextHandle ≤ r'.nextHandle
  gone : ∀ id, id < r.nextHandle → r.get? id = none → r'.get? id = none
  states : ∀ id e e', kept id → r.get? id = some e → r'.get? id = some e' → e.StateKept e'

namespace Becomes

theorem refl (r : Roster) : r.Becomes kept r where
  gameTime := rfl
  nextHandle := Nat.le_refl _
  gone _ _ absent := absent
  states id e e' _ present present' := by
    obtain rfl : e = e' := Option.some.inj (present.symm.trans present')
    exact .refl e

theorem mono (h : r.Becomes kept r') (fewer : ∀ id, kept' id → kept id) : r.Becomes kept' r' :=
  ⟨h.gameTime, h.nextHandle, h.gone, fun id e e' keep => h.states id e e' (fewer id keep)⟩

/-- Whoever is there now and is not new was there before. -/
theorem present_before (h : r.Becomes kept r') (old : id < r.nextHandle) (live : r'.isLive id) :
    ∃ e, r.get? id = some e := by
  cases before : r.get? id with
  | some e => exact ⟨e, rfl⟩
  | none =>
    rw [isLive, h.gone id old before] at live
    cases live

/-- Whoever is there before and after was there in between. -/
theorem present_between (h : r.Becomes kept r') (h' : r'.Becomes kept' r'')
    (present : r.get? id = some e) (live : r''.isLive id) : ∃ e', r'.get? id = some e' :=
  h'.present_before (Nat.lt_of_lt_of_le (lt_nextHandle present) h.nextHandle) live

theorem trans (h : r.Becomes kept r') (h' : r'.Becomes kept r'') : r.Becomes kept r'' where
  gameTime := h'.gameTime.trans h.gameTime
  nextHandle := Nat.le_trans h.nextHandle h'.nextHandle
  gone id below absent :=
    h'.gone id (Nat.lt_of_lt_of_le below h.nextHandle) (h.gone id below absent)
  states id e e'' keep present present'' := by
    -- nobody comes back, so who is there at the end was there in between
    have live : r''.isLive id := isLive_iff.mpr ⟨e'', present''⟩
    obtain ⟨e', between⟩ := h.present_between h' present live
    exact (h.states id e e' keep present between).trans (h'.states id e' e'' keep between present'')

/-- An edit of one entity, which may do anything to it if it need not keep its state. -/
theorem modify {f : Entity → Entity}
    (edited : ∀ e, kept id → r.get? id = some e → e.StateKept (f e)) :
    r.Becomes kept (r.modify id f) where
  gameTime := rfl
  nextHandle := Nat.le_refl _
  gone other _ absent := by
    rw [get?_modify, absent]
    exact ite_self _
  states other e e' keep present present' := by
    rw [get?_modify, present] at present'
    by_cases here : other = id
    · rw [if_pos here] at present'
      obtain rfl : f e = e' := Option.some.inj present'
      subst here
      exact edited e keep present
    · rw [if_neg here] at present'
      obtain rfl : e = e' := Option.some.inj present'
      exact .refl e

theorem insert (r : Roster) (e : Entity) : r.Becomes kept (r.insert e) where
  gameTime := rfl
  nextHandle := Nat.le_succ _
  gone id below absent := (gone_insert below absent e).2
  states id x x' _ present present' := by
    have old : r.nextHandle ≠ id := Nat.ne_of_gt (lt_nextHandle present)
    rw [get?_insert, if_neg old, present] at present'
    obtain rfl : x = x' := Option.some.inj present'
    exact .refl x

/-- Whoever is destroyed is gone; of the others some lose their parent. -/
theorem destroy (r : Roster) (id : EntityId) (recursive : Bool) :
    r.Becomes kept (r.destroy id recursive).1 where
  gameTime := by cases recursive <;> rfl
  nextHandle := Nat.le_of_eq (nextHandle_destroy r id recursive).symm
  gone other _ absent := get?_destroy_of_none absent id recursive
  states other e e' _ present present' := by
    cases recursive with
    | true =>
      have stays : (r.destroyAll id).get? other = some e' := present'
      rw [destroyAll, get?_keep] at stays
      split at stays
      · obtain rfl : e = e' := Option.some.inj (present.symm.trans stays)
        exact .refl e
      · cases stays
    | false =>
      have stays : (r.destroyOne id).get? other = some e' := present'
      rw [destroyOne, get?_keep, get?_mapEntities, present] at stays
      split at stays
      · -- a child of the destroyed one loses its parent, which is no part of its state
        rw [← Option.some.inj stays]
        dsimp only
        split
        · exact ⟨rfl, fun waits => waits⟩
        · exact .refl e
      · cases stays

end Becomes

/-- **Every deed keeps all states.** -/
theorem Deed.becomes (deed : r.Deed r') : r.Becomes kept r' := by
  cases deed with
  | edit id edited => exact .modify fun e _ present => (edited e present).toStateKept
  | spawn success =>
    obtain ⟨parent, root, -, -, -, rfl⟩ := Lineage.of_spawnHelper success
    exact .insert r _
  | destroy id recursive => exact .destroy r id recursive
  | random low high =>
    exact ⟨rfl, Nat.le_refl _, fun _ _ absent => absent, (Becomes.refl r).states⟩

/-- **Deeds**, any number of them, one after the other. -/
abbrev Deeds : Roster → Roster → Prop := Relation.ReflTransGen Deed

theorem Deeds.becomes (deeds : r.Deeds r') : r.Becomes kept r' := by
  induction deeds with
  | refl => exact .refl r
  | tail _ deed ih => exact ih.trans deed.becomes

end Roster
end TickScript
