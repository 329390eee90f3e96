import TickScript.Roster.Lifecycle
import TickScript.Proofs.Roster.Lookup
import Mathlib.Data.List.Nodup
import Mathlib.Logic.Relation

/-! # Descendants

    `descendants` works a list of entities off: it takes the first one away and puts its children
    in front.  If parents are older than their children, no entity is put on the list twice.  So
    as many rounds as there are entities, and one more for the top, empty the list, and the result
    is closed: a child of the top or of a descendant is a descendant (`mem_descendants_of_parent`).

    So the descendants are those who have the top as an ancestor (`mem_descendants_iff`), and they
    are whom a removal takes along (`isLive_destroy`).
-/

namespace TickScript.Roster

variable {r : Roster} {id other parent top : EntityId} {e : Entity} {work done : List EntityId}
  {fuel : Nat}

/-- **Parents are older than their children.** -/
def ParentsOlder (r : Roster) : Prop :=
  ∀ id e parent, r.get? id = some e → e.parent = some parent → parent < id

/-! ## Children -/

theorem mem_children :
    id ∈ r.children parent ↔ ∃ e, r.get? id = some e ∧ e.parent = some parent := by
  unfold children handles
  rw [List.mem_map]
  constructor
  · rintro ⟨⟨id, e⟩, member, rfl⟩
    obtain ⟨present, child⟩ := List.mem_filter.mp member
    exact ⟨e, get?_eq_some_iff.mpr present, eq_of_beq child⟩
  · rintro ⟨e, present, child⟩
    refine ⟨(id, e), List.mem_filter.mpr ⟨get?_eq_some_iff.mp present, ?_⟩, rfl⟩
    rw [child]
    exact beq_self_eq_true _

theorem nodup_children (r : Roster) (parent : EntityId) : (r.children parent).Nodup := by
  have ordered : (r.children parent).Pairwise (· < ·) :=
    r.sorted.sublist (List.filter_sublist.map _)
  exact ordered.imp Nat.ne_of_lt

/-- An entity has one parent at most. -/
theorem parent_unique (h : id ∈ r.children parent) (h' : id ∈ r.children other) :
    parent = other := by
  obtain ⟨e, present, child⟩ := mem_children.mp h
  obtain ⟨e', present', child'⟩ := mem_children.mp h'
  obtain rfl : e = e' := Option.some.inj (present.symm.trans present')
  exact Option.some.inj (child.symm.trans child')

theorem lt_of_mem_children (older : r.ParentsOlder) (h : id ∈ r.children parent) : parent < id := by
  obtain ⟨e, present, child⟩ := mem_children.mp h
  exact older id e parent present child

/-! ## A visit under way -/

/-- **A visit under way**: what is left to work off, and what was.  No entity is there twice, and
    all but the top are there as children of one that was worked off. -/
structure Visit (r : Roster) (top : EntityId) (work done : List EntityId) : Prop where
  nodup : (work ++ done).Nodup
  known : ∀ id ∈ work ++ done, id = top ∨ top < id ∧ ∃ parent ∈ done, id ∈ r.children parent

namespace Visit

theorem start (r : Roster) (top : EntityId) : r.Visit top [top] [] where
  nodup := List.nodup_singleton top
  known _ member := .inl (List.mem_singleton.mp member)

theorem top_le (v : r.Visit top work done) (member : id ∈ work ++ done) : top ≤ id := by
  rcases v.known id member with same | ⟨later, -⟩
  · exact Nat.le_of_eq same.symm
  · exact Nat.le_of_lt later

/-- A child of the entity at hand has not been met: its only parent was not yet worked off. -/
theorem unmet (v : r.Visit top (id :: work) done) (older : r.ParentsOlder)
    (child : other ∈ r.children id) : other ∉ id :: (work ++ done) := by
  intro met
  have fresh : id ∉ work ++ done := (List.nodup_cons.mp v.nodup).1
  have above : top ≤ id := v.top_le List.mem_cons_self
  have later : id < other := lt_of_mem_children older child
  rcases v.known other met with same | ⟨-, parent, worked, child'⟩
  · rw [same] at later
    exact Nat.not_lt.mpr above later
  · obtain rfl : id = parent := parent_unique child child'
    exact fresh (List.mem_append_right work worked)

/-- One round. -/
theorem round (v : r.Visit top (id :: work) done) (older : r.ParentsOlder) :
    r.Visit top (r.children id ++ work) (id :: done) where
  nodup := by
    obtain ⟨fresh, rest⟩ := List.nodup_cons.mp v.nodup
    have apart : ∀ x ∈ r.children id, ∀ y ∈ work ++ done, x ≠ y := by
      intro x child y met same
      exact v.unmet older child (List.mem_cons_of_mem id (same ▸ met))
    have notOwn : id ∉ r.children id := fun child => v.unmet older child List.mem_cons_self
    -- three parts, each without repetition: the children, what was left, and what was worked off
    rw [List.nodup_middle, List.append_assoc]
    refine List.nodup_cons.mpr ⟨?_, List.nodup_append.mpr ⟨r.nodup_children id, rest, apart⟩⟩
    intro member
    rcases List.mem_append.mp member with own | met
    · exact notOwn own
    · exact fresh met
  known := by
    intro x member
    have cases : x ∈ r.children id ∨ x ∈ id :: work ++ done := by
      simp only [List.mem_append, List.mem_cons] at member ⊢
      tauto
    rcases cases with child | met
    · have above : top ≤ id := v.top_le List.mem_cons_self
      have later : id < x := lt_of_mem_children older child
      exact .inr ⟨Nat.lt_of_le_of_lt above later, id, List.mem_cons_self, child⟩
    · rcases v.known x met with same | ⟨later, parent, worked, child⟩
      · exact .inl same
      · exact .inr ⟨later, parent, List.mem_cons_of_mem id worked, child⟩

/-- There are no more entities to meet than live ones and the top. -/
theorem length_le (v : r.Visit top work done) : work.length + done.length ≤ r.size + 1 := by
  have within : work ++ done ⊆ top :: r.runOrder := by
    intro id member
    rcases v.known id member with same | ⟨-, parent, -, child⟩
    · exact List.mem_cons.mpr (.inl same)
    · obtain ⟨e, present, -⟩ := mem_children.mp child
      have live : r.isLive id := isLive_iff.mpr ⟨e, present⟩
      exact List.mem_cons_of_mem top (isLive_iff_mem_runOrder.mp live)
  have bound := v.nodup.length_le_of_subset within
  have size : r.runOrder.length = r.size := List.length_map _
  rw [List.length_append, List.length_cons, size] at bound
  exact bound

/-- With enough rounds left, what is found is closed under children. -/
theorem closed (v : r.Visit top work done) (older : r.ParentsOlder)
    (enough : r.size + 1 ≤ fuel + done.length) (child : id ∈ r.children parent)
    (met : parent ∈ work ∨ parent ∈ r.descendantsFrom fuel work) :
    id ∈ r.descendantsFrom fuel work := by
  -- on the rounds left: each works one entity off, so none is left to be worked off at the end
  induction fuel generalizing work done with
  | zero =>
    have bound := v.length_le
    have empty : work = [] := List.length_eq_zero_iff.mp (by omega)
    subst empty
    rcases met with member | member <;> cases member
  | succ fuel ih =>
    cases work with
    | nil => rcases met with member | member <;> cases member
    | cons first rest =>
      have found : r.descendantsFrom (fuel + 1) (first :: rest) =
          r.children first ++ r.descendantsFrom fuel (r.children first ++ rest) := rfl
      rw [found] at met ⊢
      have later := ih (v.round older) (by simp only [List.length_cons]; omega)
      rcases met with atHand | member
      · rcases List.mem_cons.mp atHand with rfl | waiting
        · exact List.mem_append_left _ child
        · exact List.mem_append_right _ (later (.inl (List.mem_append_right _ waiting)))
      · rcases List.mem_append.mp member with sibling | further
        · exact List.mem_append_right _ (later (.inl (List.mem_append_left _ sibling)))
        · exact List.mem_append_right _ (later (.inr further))

end Visit

/-- **Children of the top and of descendants are descendants.** -/
theorem mem_descendants_of_parent (older : r.ParentsOlder) (present : r.get? id = some e)
    (child : e.parent = some parent) (met : parent = top ∨ parent ∈ r.descendants top) :
    id ∈ r.descendants top := by
  refine (Visit.start r top).closed older (Nat.le_refl _) (mem_children.mpr ⟨e, present, child⟩) ?_
  exact met.imp_left List.mem_singleton.mpr

/-! ## Ancestors -/

/-- **An ancestor** of an entity is its parent, or the parent of an ancestor. -/
def Ancestor (r : Roster) : EntityId → EntityId → Prop :=
  Relation.TransGen fun parent id => ∃ e, r.get? id = some e ∧ e.parent = some parent

/-- Whatever is found was spawned below one of those that it is searched from. -/
theorem ancestor_of_mem_descendantsFrom (found : id ∈ r.descendantsFrom fuel work) :
    ∃ top ∈ work, r.Ancestor top id := by
  -- on the rounds: a round puts the children of one entity in its place
  induction fuel generalizing work with
  | zero => cases found
  | succ fuel ih =>
    cases work with
    | nil => cases found
    | cons first rest =>
      rcases List.mem_append.mp found with child | later
      · exact ⟨first, List.mem_cons_self, .single (mem_children.mp child)⟩
      · obtain ⟨top, member, below⟩ := ih later
        rcases List.mem_append.mp member with child | waiting
        · exact ⟨first, List.mem_cons_self, .head (mem_children.mp child) below⟩
        · exact ⟨top, List.mem_cons_of_mem first waiting, below⟩

/-- **Descendants are those who have the top as an ancestor.** -/
theorem mem_descendants_iff (older : r.ParentsOlder) :
    id ∈ r.descendants top ↔ r.Ancestor top id := by
  constructor
  · intro found
    obtain ⟨other, member, below⟩ := ancestor_of_mem_descendantsFrom found
    obtain rfl := List.mem_singleton.mp member
    exact below
  · intro below
    induction below with
    | single child =>
      obtain ⟨e, present, parent⟩ := child
      exact mem_descendants_of_parent older present parent (.inl rfl)
    | tail _ child ih =>
      obtain ⟨e, present, parent⟩ := child
      exact mem_descendants_of_parent older present parent (.inr ih)

/-! ## Removals -/

/-- A removed entity's children have no parent any more, and nobody else changes. -/
theorem get?_destroyOne (id other : EntityId) :
    (r.destroyOne id).get? other =
      if other = id then none
      else (r.get? other).map fun e => if e.parent = some id then { e with parent := none } else e := by
  rw [destroyOne, get?_keep, get?_mapEntities]
  by_cases here : other = id
  · simp [here]
  · simp [here]

/-- The entity and its descendants are removed, and nobody else changes. -/
theorem get?_destroyAll (id other : EntityId) :
    (r.destroyAll id).get? other =
      if other = id ∨ other ∈ r.descendants id then none else r.get? other := by
  rw [destroyAll, get?_keep]
  by_cases gone : other = id ∨ other ∈ r.descendants id
  · rw [if_pos gone, if_neg]
    rcases gone with here | below
    · simp [here]
    · simp [below]
  · rw [if_neg gone, if_pos]
    simpa using gone

/-- **Whom a removal leaves**: all but the entity and, if it is recursive, its descendants. -/
theorem isLive_destroy (older : r.ParentsOlder) {recursive : Bool} :
    (r.destroy top recursive).1.isLive id ↔
      r.isLive id ∧ id ≠ top ∧ ¬ (recursive = true ∧ r.Ancestor top id) := by
  cases recursive with
  | false =>
    show (r.destroyOne top).isLive id ↔ _
    rw [isLive, get?_destroyOne]
    by_cases here : id = top
    · simp [here]
    · simp [here, isLive]
  | true =>
    show (r.destroyAll top).isLive id ↔ _
    rw [← mem_descendants_iff older, isLive, get?_destroyAll]
    by_cases here : id = top
    · simp [here]
    · by_cases below : id ∈ r.descendants top
      · simp [below]
      · simp [here, below, isLive]

/-! ## Rosters with the same parents -/

/-- **The same entities are live**, and everybody has the same parent. -/
def SameParents (r r' : Roster) : Prop :=
  ∀ id, (r'.get? id).map (·.parent) = (r.get? id).map (·.parent)

namespace SameParents

variable {r' : Roster}

theorem symm (same : r.SameParents r') : r'.SameParents r := fun id => (same id).symm

theorem isLive (same : r.SameParents r') : r'.isLive id ↔ r.isLive id := by
  have known := congrArg Option.isSome (same id)
  rw [Option.isSome_map, Option.isSome_map] at known
  rw [Roster.isLive, Roster.isLive, known]

theorem child (same : r.SameParents r')
    (child : ∃ e, r'.get? id = some e ∧ e.parent = some parent) :
    ∃ e, r.get? id = some e ∧ e.parent = some parent := by
  obtain ⟨e, present, isParent⟩ := child
  have known := same id
  rw [present, Option.map_some, isParent] at known
  exact Option.map_eq_some_iff.mp known.symm

theorem parentsOlder (same : r.SameParents r') (older : r.ParentsOlder) : r'.ParentsOlder := by
  intro id e parent present isParent
  obtain ⟨e', present', isParent'⟩ := same.child ⟨e, present, isParent⟩
  exact older id e' parent present' isParent'

theorem ancestor (same : r.SameParents r') : r'.Ancestor top id ↔ r.Ancestor top id := by
  constructor
  · exact Relation.TransGen.mono (fun _ _ => same.child) _ _
  · exact Relation.TransGen.mono (fun _ _ => same.symm.child) _ _

end SameParents
end TickScript.Roster
