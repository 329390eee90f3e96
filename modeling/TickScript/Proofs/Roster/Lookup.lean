import TickScript.Roster.Roles
import TickScript.Proofs.Keyed

/-! # Looking entities up

    What `get?` and `runOrder` show of a roster after a change, and that every role is filled by
    a live entity (`isLive_of_resolve`).
-/

namespace TickScript.Roster

variable {r : Roster} {id other : EntityId} {e : Entity}

/-! ## Live entities -/

theorem isLive_iff : r.isLive id ↔ ∃ e, r.get? id = some e := Option.isSome_iff_exists

theorem get_of_get? (h : r.get? id = some e) : r.get id = .ok e := by
  simp only [get, h]

theorem isLive_iff_mem_runOrder : r.isLive id ↔ id ∈ r.runOrder := by
  simp [isLive, get?, runOrder, handles]

theorem distinct (r : Roster) : Keyed.Distinct r.entries :=
  List.Pairwise.imp Nat.ne_of_lt (List.pairwise_map.mp r.sorted)

theorem get?_eq_some_iff : r.get? id = some e ↔ (id, e) ∈ r.entries :=
  Keyed.lookup_eq_some_iff r.distinct

/-- Handles that are in use are below the next one. -/
theorem lt_nextHandle (present : r.get? id = some e) : id < r.nextHandle :=
  r.bounded id (isLive_iff_mem_runOrder.mp (isLive_iff.mpr ⟨e, present⟩))

theorem isLive_of_mem_entries {entry : EntityId × Entity} (h : entry ∈ r.entries) :
    r.isLive entry.1 :=
  isLive_iff_mem_runOrder.mpr (List.mem_map_of_mem h)

/-! ## Changes -/

@[simp] theorem runOrder_modify (f : Entity → Entity) : (r.modify id f).runOrder = r.runOrder :=
  handles_map r.entries fun i e => if i = id then f e else e

theorem get?_mapEntities (f : EntityId → Entity → Entity) :
    (r.mapEntities f).get? id = (r.get? id).map (f id) :=
  Keyed.lookup_map f r.entries id

/-- A change is seen at its own handle only. -/
theorem get?_modify (f : Entity → Entity) :
    (r.modify id f).get? other = if other = id then (r.get? other).map f else r.get? other := by
  rw [modify, get?_mapEntities]
  by_cases same : other = id
  · simp [same]
  · simp [same]

/-- A change that does not concern a view of the entity is not seen in that view of anybody. -/
theorem map_get?_modify {γ : Type} (view : Entity → γ) {f : Entity → Entity}
    (same : ∀ e, r.get? id = some e → view (f e) = view e) :
    ((r.modify id f).get? other).map view = (r.get? other).map view := by
  rw [get?_modify]
  by_cases here : other = id
  · subst here
    rw [if_pos rfl]
    cases present : r.get? other with
    | none => rfl
    | some e => exact congrArg some (same e present)
  · rw [if_neg here]

/-- Nothing is changed by a change that leaves all who are live as they are. -/
theorem mapEntities_eq_self {f : EntityId → Entity → Entity}
    (all : ∀ id e, r.get? id = some e → f id e = e) : r.mapEntities f = r := by
  have same : r.entries.map (fun e => (e.1, f e.1 e.2)) = r.entries := by
    refine (List.map_congr_left fun e member => ?_).trans (List.map_id r.entries)
    exact congrArg (Prod.mk e.1) (all e.1 e.2 (get?_eq_some_iff.mpr member))
  obtain ⟨entries, _, _, _, _, _, _, _⟩ := r
  simp only [mapEntities, Roster.mk.injEq, and_true]
  exact same

theorem get?_insert (r : Roster) (e : Entity) (id : EntityId) :
    (r.insert e).get? id = if r.nextHandle = id then some e else r.get? id := by
  have appended : (r.insert e).get? id = (r.get? id).or (Keyed.lookup [(r.nextHandle, e)] id) :=
    Keyed.lookup_append r.entries [(r.nextHandle, e)] id
  rw [appended, Keyed.lookup_cons]
  by_cases here : r.nextHandle = id
  · -- nobody has the next handle yet
    have unused : r.get? id = none := by
      cases present : r.get? id with
      | none => rfl
      | some e =>
        have below : id < r.nextHandle := lt_nextHandle present
        exact absurd here (Nat.ne_of_gt below)
    rw [if_pos here, if_pos here, unused]
    rfl
  · rw [if_neg here, if_neg here]
    exact Option.or_none

theorem get?_keep (r : Roster) (kept : EntityId → Bool) (id : EntityId) :
    (r.keep kept).get? id = if kept id then r.get? id else none :=
  Keyed.lookup_filter kept r.entries id

/-! ## Roles -/

theorem isLive_of_head? {entries : Entries} {entry : EntityId × Entity}
    (part : ∀ x ∈ entries, x ∈ r.entries) (h : entries.head? = some entry) : r.isLive entry.1 :=
  isLive_of_mem_entries (part _ (List.mem_of_head? h))

theorem mem_of_nth? {items : List α} {n : Int32} {a : α} (h : nth? items n = some a) :
    a ∈ items := by
  unfold nth? at h
  split at h
  · exact List.mem_of_getElem? h
  · cases h

/-- An entity found in a list of candidates is live. -/
theorem isLive_of_nth? {entries : Entries} {n : Int32} (part : ∀ x ∈ entries, x ∈ r.entries)
    (h : (nth? entries n).map (·.1) = some id) : r.isLive id := by
  obtain ⟨entry, found, rfl⟩ := Option.map_eq_some_iff.mp h
  exact isLive_of_mem_entries (part _ (mem_of_nth? found))

theorem isLive_of_find? {entries : Entries} {p : EntityId × Entity → Bool}
    (part : ∀ x ∈ entries, x ∈ r.entries) (h : (entries.find? p).map (·.1) = some id) :
    r.isLive id := by
  obtain ⟨entry, found, rfl⟩ := Option.map_eq_some_iff.mp h
  exact isLive_of_mem_entries (part _ (List.mem_of_find?_eq_some found))

theorem roots_subset : ∀ x ∈ r.roots, x ∈ r.entries := fun _ h => (List.mem_filter.mp h).1

theorem helpersOf_subset : ∀ x ∈ r.helpersOf id, x ∈ r.entries := by
  intro x h
  unfold helpersOf at h
  split at h
  · exact (List.mem_filter.mp h).1
  · cases h

theorem opponents_subset : ∀ x ∈ r.opponents id, x ∈ r.entries := by
  intro x h
  unfold opponents at h
  split at h
  · exact roots_subset _ (List.mem_filter.mp h).1
  · cases h

theorem opponentsByDistance_subset : ∀ x ∈ r.opponentsByDistance id, x ∈ r.entries := by
  intro x h
  unfold opponentsByDistance at h
  split at h
  · exact opponents_subset _ (List.mem_mergeSort.mp h)
  · cases h

theorem teammates_subset : ∀ x ∈ r.teammates id, x ∈ r.entries := by
  intro x h
  unfold teammates at h
  split at h
  · cases h
  · split at h
    · exact roots_subset _ (List.mem_filter.mp h).1
    · cases h

theorem isLive_of_rootOf (h : r.rootOf id = some other) : r.isLive other := by
  unfold rootOf at h
  cases live : r.get? id with
  | none => simp [live] at h
  | some e =>
    simp only [live, Option.bind_eq_bind, Option.bind_some] at h
    split at h
    · exact (Option.filter_eq_some_iff.mp h).2
    · cases h
      exact isLive_iff.mpr ⟨e, live⟩

/-- Nobody is found by a script id that nobody who is live has. -/
theorem withScriptId_eq_none {scriptId : Int32}
    (nobody : ∀ id e, r.get? id = some e → e.id ≠ scriptId) : r.withScriptId scriptId = none := by
  have unmatched : r.entries.find? (fun x => x.2.id == scriptId) = none := by
    refine List.find?_eq_none.mpr ?_
    rintro ⟨id, e⟩ member
    simpa using nobody id e (get?_eq_some_iff.mpr member)
  rw [withScriptId, unmatched]
  rfl

theorem isLive_of_player {n : Int32} (h : r.player n = some id) : r.isLive id :=
  isLive_of_find? roots_subset h

/-- **Whoever fills a role is live.** -/
theorem isLive_of_resolve {selector : Int32} {role : Role}
    (h : r.resolve id selector role = some other) : r.isLive other := by
  cases role with
  | player => exact isLive_of_player h
  | parent =>
    simp only [resolve, parent, Option.bind_eq_bind, Option.bind_eq_some_iff] at h
    obtain ⟨e, -, h⟩ := h
    exact (Option.filter_eq_some_iff.mp h).2
  | root =>
    simp only [resolve, root, Option.bind_eq_bind, Option.bind_eq_some_iff] at h
    obtain ⟨e, -, h⟩ := h
    split at h
    · exact isLive_of_rootOf h
    · cases h
  | helper =>
    obtain ⟨entry, found, rfl⟩ := Option.map_eq_some_iff.mp h
    exact isLive_of_head? (fun _ hx => helpersOf_subset _ (List.mem_filter.mp hx).1) found
  | target =>
    have mem : other ∈ r.targetsWith id selector := List.mem_of_head? h
    unfold targetsWith at mem
    split at mem
    · have known := (List.mem_filter.mp mem).2
      cases live : r.get? other with
      | none => simp [live] at known
      | some e => exact isLive_iff.mpr ⟨e, live⟩
    · cases mem
  | partner => exact isLive_of_nth? teammates_subset h
  | enemy => exact isLive_of_nth? opponents_subset h
  | enemyNear => exact isLive_of_nth? opponentsByDistance_subset h
  | nearestEnemy => exact isLive_of_nth? opponentsByDistance_subset h
  | scriptId => exact isLive_of_find? (fun _ hx => hx) h
  | runIndex => exact isLive_iff_mem_runOrder.mpr (mem_of_nth? h)
  | helperIndex => exact isLive_of_nth? helpersOf_subset h
  | stateOwner =>
    simp only [resolve, stateOwner, Option.bind_eq_bind, Option.bind_eq_some_iff] at h
    obtain ⟨e, -, h⟩ := h
    exact isLive_of_player h

/-- A role without a selector ignores the one it is given. -/
theorem resolve_of_takesSelector {role : Role} (plain : role.takesSelector = false)
    (a b : Int32) : r.resolve id a role = r.resolve id b role := by
  cases role <;> first | rfl | cases plain

end TickScript.Roster
