import TickScript.Proofs.Roster.Directory

/-! # Destroying entities

    The search for descendants takes one entity after the other from those that are left and adds
    its children to them.  Which one it takes does not matter: if parents are live and older than
    their children, every search is over after as many rounds as there are live entities, and one
    more, and has found each descendant once (`Search`).

    So destroying an entity with its descendants removes those whom a search finds, and leaves
    the others as they are; destroying it alone orphans its children (`destroy_removes_exactly`).
-/

namespace TickScript.Roster

variable {r : Roster} {id other top : EntityId} {work work' done found : List EntityId}

/-- **Parents are live and older than their children.** -/
structure Parented (r : Roster) : Prop where
  older : r.ParentsOlder
  live : ∀ id e parent, r.get? id = some e → e.parent = some parent → r.isLive parent

/-- A roster that is changed by its own operations only keeps it so. -/
theorem Lineage.parented (h : r.Lineage) : r.Parented where
  older := h.parentsOlder
  live id e parent present child := by
    obtain ⟨-, e', there, -⟩ := h.parent id e parent present child
    exact isLive_iff.mpr ⟨e', there⟩

/-! ## Searches in any order -/

/-- **A search under way**: what is left to work off, what was worked off, the last first, and what
    was found.  A round takes any of those that are left, and puts its children anywhere among
    them. -/
inductive Search (r : Roster) (top : EntityId) :
    (work done found : List EntityId) → Prop where
  | start : Search r top [top] [] []
  | round {work work' rest done found : List EntityId} {id : EntityId}
      (search : Search r top work done found) (taken : work.Perm (id :: rest))
      (left : work'.Perm (r.children id ++ rest)) :
      Search r top work' (id :: done) (found ++ r.children id)

/-- The order of what is left does not matter to a visit. -/
theorem Visit.perm (v : r.Visit top work done) (same : work.Perm work') :
    r.Visit top work' done where
  nodup := (same.append_right done).nodup_iff.mp v.nodup
  known id member := v.known id ((same.append_right done).mem_iff.mpr member)

namespace Search

theorem visit (search : r.Search top work done found) (older : r.ParentsOlder) :
    r.Visit top work done := by
  induction search with
  | start => exact .start r top
  | round _ taken left ih => exact ((ih.perm taken).round older).perm left.symm

/-- **Whoever was found is left or was worked off**, and so is the top, but nobody else. -/
theorem perm (search : r.Search top work done found) : (work ++ done).Perm (top :: found) := by
  induction search with
  | start => exact .refl [top]
  | @round work work' rest done found id _ taken left ih =>
    have ahead : (work' ++ id :: done).Perm (r.children id ++ ((id :: rest) ++ done)) := by
      refine (left.append_right _).trans ?_
      rw [List.append_assoc, List.cons_append]
      exact List.perm_middle.append_left _
    have known : ((id :: rest) ++ done).Perm (top :: found) := (taken.symm.append_right done).trans ih
    exact ahead.trans ((known.append_left _).trans List.perm_append_comm)

/-- Whoever was found is a descendant. -/
theorem ancestor (search : r.Search top work done found) : ∀ id ∈ found, r.Ancestor top id := by
  induction search with
  | start => exact nofun
  | @round work work' rest done found next search taken left ih =>
    intro id member
    rcases List.mem_append.mp member with earlier | child
    · exact ih id earlier
    · -- the parent was left, so it is the top or was found before
      have waiting : next ∈ work ++ done :=
        List.mem_append_left done (taken.mem_iff.mpr List.mem_cons_self)
      rcases List.mem_cons.mp (search.perm.mem_iff.mp waiting) with rfl | earlier
      · exact .single (mem_children.mp child)
      · exact (ih next earlier).tail (mem_children.mp child)

/-- The children of those that were worked off were found. -/
theorem closed (search : r.Search top work done found) (worked : other ∈ done)
    (child : id ∈ r.children other) : id ∈ found := by
  induction search with
  | start => cases worked
  | round search taken left ih =>
    rcases List.mem_cons.mp worked with rfl | earlier
    · exact List.mem_append_right _ child
    · exact List.mem_append_left _ (ih earlier)

/-- **A search that is over has found the descendants**, each once. -/
theorem finished (search : r.Search top [] done found) (older : r.ParentsOlder) :
    found.Nodup ∧ ∀ id, id ∈ found ↔ r.Ancestor top id := by
  have all : done.Perm (top :: found) := search.perm
  refine ⟨?_, fun id => ⟨search.ancestor id, fun below => ?_⟩⟩
  · have distinct := (search.visit older).nodup
    exact (List.nodup_cons.mp (all.nodup_iff.mp distinct)).2
  · induction below with
    | single child => exact search.closed (all.mem_iff.mpr List.mem_cons_self) (mem_children.mpr child)
    | tail _ child ih =>
      exact search.closed (all.mem_iff.mpr (List.mem_cons_of_mem top ih)) (mem_children.mpr child)

/-- With enough rounds left, a search goes on to its end. -/
theorem exists_finished (search : r.Search top work done found) (older : r.ParentsOlder)
    {fuel : Nat} (enough : r.size + 1 ≤ fuel + done.length) :
    ∃ all, r.Search top [] all (found ++ r.descendantsFrom fuel work) := by
  -- on the rounds left: each works one entity off
  induction fuel generalizing work done found with
  | zero =>
    -- as many are done as there are entities, and the first one, so nobody can be left
    have bound := (search.visit older).length_le
    obtain rfl : work = [] := List.length_eq_zero_iff.mp (by omega)
    rw [descendantsFrom, List.append_nil]
    exact ⟨done, search⟩
  | succ fuel ih =>
    cases work with
    | nil =>
      rw [descendantsFrom, List.append_nil]
      · exact ⟨done, search⟩
      · exact nofun
    | cons first rest =>
      obtain ⟨all, complete⟩ := ih (search.round (.refl _) (.refl _)) (by
        rw [List.length_cons]
        omega)
      rw [List.append_assoc] at complete
      exact ⟨all, complete⟩

end Search

/-! ## Whom a removal leaves -/

/-- Nobody is removed if all who are live are kept. -/
theorem keep_eq_self {kept : EntityId → Bool} (all : ∀ id, r.isLive id → kept id = true) :
    r.keep kept = r := by
  have same : r.entries.filter (fun e => kept e.1) = r.entries :=
    List.filter_eq_self.mpr fun e member => all e.1 (isLive_of_mem_entries member)
  obtain ⟨entries, _, _, _, _, _, _, _⟩ := r
  simp only [keep, Roster.mk.injEq, and_true]
  exact same

/-- Whoever is not live has no children. -/
theorem no_child_of_dead (parented : r.Parented) (dead : r.isLive id = false) :
    ¬ ∃ e, r.get? other = some e ∧ e.parent = some id := by
  rintro ⟨e, present, child⟩
  have live := parented.live other e id present child
  rw [dead] at live
  cases live

/-- **Whoever is not live is not destroyed**, and nobody else is. -/
theorem destroy_of_dead (parented : r.Parented) (dead : r.isLive id = false) (recursive : Bool) :
    (r.destroy id recursive).1 = r := by
  have others (x : EntityId) (live : r.isLive x) : x ≠ id := by
    rintro rfl
    exact absurd (live.symm.trans dead) (by decide)
  cases recursive with
  | true =>
    show r.destroyAll id = r
    rw [destroyAll]
    refine keep_eq_self fun x live => ?_
    have apart : x ∉ r.descendants id := by
      rw [mem_descendants_iff parented.older]
      intro below
      -- the way down to a descendant begins at a child
      obtain ⟨y, child, -⟩ := (Relation.TransGen.head'_iff).mp below
      exact no_child_of_dead parented dead child
    simp [others x live, apart]
  | false =>
    show r.destroyOne id = r
    have unchanged : r.mapEntities (fun _ e => if e.parent = some id then { e with parent := none }
        else e) = r := by
      refine mapEntities_eq_self fun x e present => if_neg fun child => ?_
      exact no_child_of_dead parented dead ⟨e, present, child⟩
    rw [destroyOne, unchanged]
    exact keep_eq_self fun x live => by simp [others x live]

/-- A removal leaves the clock, the round, the chance and the numbers of newcomers. -/
theorem destroy_leaves (r : Roster) (id : EntityId) (recursive : Bool) :
    let r' := (r.destroy id recursive).1
    (r'.nextHandle, r'.nextScriptId, r'.gameTime, r'.roundState, r'.rng) =
      (r.nextHandle, r.nextScriptId, r.gameTime, r.roundState, r.rng) := by
  cases recursive <;> rfl

/-- **Destroying an entity removes exactly whom it should.**

    In a roster whose parents are live and older than their children, a search for the
    descendants of an entity, whichever of those that are left it takes first, has no more rounds
    than there are entities, and one more for the entity itself; once nobody is left, it has found
    each descendant once, and nobody else.  The search that is made is one of these, and it is over.

    Destroyed with its descendants, the entity and they are gone, and all others are as they were.
    Destroyed alone, it is gone, its children have no parent, and all else is as it was.  Either
    way the roster is otherwise unchanged, as a whole if the entity was not live, and the result
    says whether it was. -/
theorem destroy_removes_exactly (parented : r.Parented) (id : EntityId) :
    ((∀ work done found, r.Search id work done found →
        work.length + done.length ≤ r.size + 1 ∧
          (work = [] → found.Nodup ∧ ∀ x, x ∈ found ↔ r.Ancestor id x)) ∧
      ∃ done, r.Search id [] done (r.descendants id)) ∧
    (∀ x, ((x = id ∨ r.Ancestor id x) → (r.destroy id true).1.get? x = none) ∧
      (¬ (x = id ∨ r.Ancestor id x) → (r.destroy id true).1.get? x = r.get? x)) ∧
    (∀ x, (r.destroy id false).1.get? x =
      if x = id then none
      else (r.get? x).map fun e => if e.parent = some id then { e with parent := none } else e) ∧
    ∀ recursive,
      (r.destroy id recursive).2 = r.isLive id ∧
        (r.isLive id = false → (r.destroy id recursive).1 = r) ∧
        let r' := (r.destroy id recursive).1
        (r'.nextHandle, r'.nextScriptId, r'.gameTime, r'.roundState, r'.rng) =
          (r.nextHandle, r.nextScriptId, r.gameTime, r.roundState, r.rng) := by
  have older := parented.older
  refine ⟨⟨?_, ?_⟩, ?_, fun x => get?_destroyOne id x, fun recursive => ⟨rfl, ?_, ?_⟩⟩
  · intro work done found search
    refine ⟨(search.visit older).length_le, ?_⟩
    rintro rfl
    exact search.finished older
  · have enough : r.size + 1 ≤ r.size + 1 + ([] : List EntityId).length := Nat.le_refl _
    exact Search.start.exists_finished older enough
  · intro x
    have gone : x ∈ r.descendants id ↔ r.Ancestor id x := mem_descendants_iff older
    have left : (r.destroy id true).1.get? x =
        if x = id ∨ x ∈ r.descendants id then none else r.get? x := get?_destroyAll id x
    rw [← gone]
    exact ⟨fun h => left.trans (if_pos h), fun h => left.trans (if_neg h)⟩
  · exact fun dead => destroy_of_dead parented dead recursive
  · exact destroy_leaves r id recursive

/-- A player with two helpers, of which the older one has a helper of its own that came after
    another one was destroyed. -/
def branched : Roster :=
  let family := ((((ofSeed 0).addPlayer 1 "").1.withHelper 0).withHelper 1).withHelper 0
  (family.destroy 2 true).1.withHelper 1

/-- The older helper takes its helper along, or leaves it behind without a parent. -/
theorem destroy_removes_exactly_branched :
    branched.Parented ∧ branched.runOrder = [0, 1, 3, 4] ∧ branched.Ancestor 1 4 ∧
      (branched.destroy 1 true).1.get? 4 = none ∧
      (branched.destroy 1 true).1.get? 3 = branched.get? 3 ∧
      ((branched.destroy 1 false).1.get? 4).map (·.parent) = some none := by
  have player : (ofSeed 0).Steps ((ofSeed 0).addPlayer 1 "").1 := .single (.addPlayer 1 "")
  have family := ((player.trans (steps_withHelper _ 0)).trans (steps_withHelper _ 1)).trans
    (steps_withHelper _ 0)
  have run : (ofSeed 0).Steps branched :=
    (family.trans (.single (.destroy 2 true))).trans (steps_withHelper _ 1)
  have parented : branched.Parented := (Steps.lineage run).parented
  obtain ⟨⟨search, done, complete⟩, all, alone, -⟩ := destroy_removes_exactly parented 1
  have found (x : EntityId) : x ∈ branched.descendants 1 ↔ branched.Ancestor 1 x :=
    ((search [] done _ complete).2 rfl).2 x
  have below : branched.Ancestor 1 4 := (found 4).mp (by decide +kernel)
  have apart : ¬ ((3 : EntityId) = 1 ∨ branched.Ancestor 1 3) := by
    rw [← found 3]
    decide +kernel
  refine ⟨parented, by decide +kernel, below, (all 4).1 (.inr below), (all 3).2 apart, ?_⟩
  rw [alone 4]
  decide +kernel

end TickScript.Roster
