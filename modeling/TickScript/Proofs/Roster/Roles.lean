import TickScript.Proofs.Eval.Footprint
import TickScript.Proofs.Eval.Step
import TickScript.Roster.Lifecycle

/-! # Counts and roles agree

    Scripts ask how many enemies, helpers or targets an entity has, and then for one of them by
    its number or by an id.  Each role is filled from a list of candidates, and each count is the
    length of one, so a role is filled exactly as often as the count says (`roles_agree`).

    The enemies by distance are the enemies in another order.  The sort is stable, and so those
    that are equally far stay in the order of their handles (`Keyed.pairwise_mergeSort_key`).
-/

namespace TickScript.Roster

/-! ## Places of lists -/

section

variable {α β : Type} {items : List α} {n : Int32}

/-- **A place is filled if it is in the list.** -/
theorem isSome_nth?_iff : (nth? items n).isSome ↔ 0 ≤ n ∧ n.toInt < items.length := by
  unfold nth?
  by_cases nonneg : 0 ≤ n
  · have value : 0 ≤ n.toInt := Int32.le_iff_toInt_le.mp nonneg
    rw [if_pos nonneg, Option.isSome_iff_ne_none, Ne, List.getElem?_eq_none_iff,
      and_iff_right nonneg]
    omega
  · simp [nonneg]

theorem map_nth? (f : α → β) : (nth? items n).map f = nth? (items.map f) n := by
  unfold nth?
  split
  · exact List.getElem?_map.symm
  · rfl

theorem nth?_zero : nth? items 0 = items.head? := by
  cases items <;> rfl

end

/-! ## Candidates -/

variable {r : Roster} {id other : EntityId} {e : Entity}

theorem mem_handles_iff {entries : Entries} (part : ∀ x ∈ entries, x ∈ r.entries) :
    other ∈ handles entries ↔ ∃ e', r.get? other = some e' ∧ (other, e') ∈ entries := by
  rw [handles, List.mem_map]
  constructor
  · rintro ⟨⟨x, e'⟩, member, rfl⟩
    exact ⟨e', get?_eq_some_iff.mpr (part _ member), member⟩
  · rintro ⟨e', -, member⟩
    exact ⟨(other, e'), member, rfl⟩

/-- **The enemies** are the living roots of other sides. -/
theorem mem_opponents_iff (present : r.get? id = some e) :
    other ∈ handles (r.opponents id) ↔
      ∃ e', r.get? other = some e' ∧ e'.isHelper = false ∧ e'.teamSide ≠ e.teamSide ∧ 0 < e'.life := by
  have candidate (e' : Entity) : (other, e') ∈ r.opponents id ↔ r.get? other = some e' ∧
      e'.isHelper = false ∧ e'.teamSide ≠ e.teamSide ∧ 0 < e'.life := by
    simp only [opponents, present, roots, List.mem_filter, ← get?_eq_some_iff, Entity.alive]
    simp [and_assoc]
  rw [mem_handles_iff opponents_subset]
  simp only [candidate, and_self_left]

/-- **One enemy is nearer than another**: its distance along the horizontal axis comes first in the
    total order of numbers, or it is equally far and the older one. -/
def Nearer (r : Roster) (x : Single) (a b : EntityId) : Prop :=
  ∃ ea eb, r.get? a = some ea ∧ r.get? b = some eb ∧
    ((ea.pos.x - x).abs.orderKey < (eb.pos.x - x).abs.orderKey ∨
      (ea.pos.x - x).abs.orderKey = (eb.pos.x - x).abs.orderKey ∧ a < b)

theorem opponents_ordered (r : Roster) (id : EntityId) :
    (r.opponents id).Pairwise fun a b => a.1 < b.1 := by
  have ordered : r.entries.Pairwise fun a b => a.1 < b.1 := List.pairwise_map.mp r.sorted
  unfold opponents
  split
  · exact ordered.sublist (List.filter_sublist.trans List.filter_sublist)
  · exact .nil

theorem helpersOf_ordered (r : Roster) (id : EntityId) :
    (handles (r.helpersOf id)).Pairwise (· < ·) := by
  unfold helpersOf
  split
  · exact r.sorted.sublist (List.filter_sublist.map _)
  · exact .nil

/-- The enemies by distance are the enemies. -/
theorem opponentsByDistance_perm (present : r.get? id = some e) :
    (r.opponentsByDistance id).Perm (r.opponents id) := by
  simp only [opponentsByDistance, present]
  exact List.mergeSort_perm ..

/-- **The enemies by distance go from the nearest to the farthest.** -/
theorem opponentsByDistance_ordered (present : r.get? id = some e) :
    (handles (r.opponentsByDistance id)).Pairwise (r.Nearer e.pos.x) := by
  -- in their handles the enemies are in order already, which a stable sort keeps among equals
  have sorted : (r.opponentsByDistance id).Pairwise fun a b =>
      (distanceFrom e.pos.x a).orderKey < (distanceFrom e.pos.x b).orderKey ∨
        (distanceFrom e.pos.x a).orderKey = (distanceFrom e.pos.x b).orderKey ∧ a.1 < b.1 := by
    simp only [opponentsByDistance, present]
    exact Keyed.pairwise_mergeSort_key (fun a => (distanceFrom e.pos.x a).orderKey) (r.opponents_ordered id)
  rw [handles, List.pairwise_map]
  refine sorted.imp_of_mem ?_
  intro a b member member' nearer
  have there (x : EntityId × Entity) (member : x ∈ r.opponentsByDistance id) :
      r.get? x.1 = some x.2 := get?_eq_some_iff.mpr (opponentsByDistance_subset x member)
  exact ⟨a.2, b.2, there a member, there b member', nearer⟩

/-! ## Helpers and targets -/

/-- A helper id that is not positive means every helper. -/
def meansHelper (helperId : Int32) (e : Entity) : Bool := helperId ≤ 0 || e.helperId == helperId

/-- **A helper by its id** is the first of the helpers that the id means. -/
theorem helper_eq_find? (helperId : Int32) :
    r.helper id helperId = (handles (r.helpersOf id)).find? fun x =>
      (r.get? x).any (meansHelper helperId) := by
  have same : (r.helpersOf id).filter (fun x => (r.get? x.1).any (meansHelper helperId)) =
      r.helpersWith id helperId := by
    refine List.filter_congr fun x member => ?_
    rw [get?_eq_some_iff.mpr (helpersOf_subset x member)]
    rfl
  rw [helper, ← same, List.head?_filter, handles, List.find?_map]
  rfl

theorem isSome_head?_iff {α : Type} {items : List α} : items.head?.isSome ↔ 0 < items.length := by
  cases items <;> simp

/-- **The instruction that counts targets** replaces the script id by their number. -/
theorem instruction_numTarget {ctx : EvalContext} {code : Expression} {offset : Nat}
    {origin : EntityId} {v : Value} {rest : Stack} {profile : Profile} (present : r.get? id = some e) :
    Eval.instruction ctx code offset id origin (.query .numTarget) ⟨v :: rest, profile, r⟩ =
      .ok (.goto offset origin) ⟨.ofCount (r.numTargets id v.toInt32) :: rest, profile, r⟩ := by
  have look : Eval.entity id ⟨v :: rest, profile, r⟩ = .ok e ⟨v :: rest, profile, r⟩ :=
    Eval.entity_of_get? present
  have counted : Eval.query id .numTarget ⟨v :: rest, profile, r⟩ =
      .ok () ⟨.ofCount (r.numTargets id v.toInt32) :: rest, profile, r⟩ := by
    have seen : Eval.top ⟨v :: rest, profile, r⟩ = .ok v ⟨v :: rest, profile, r⟩ := rfl
    rw [Eval.query, bind_of_ok seen, bind_of_ok look]
    rfl
  exact bind_of_ok counted

/-- A count that fits a signed word is read as it is. -/
theorem toInt_ofCount {count : Nat} (fits : count < 0x80000000) :
    (Value.ofCount count).toInt32.toInt = count := by
  have word : (Value.ofCount count).toInt32 = Int32.ofNat count := Int32.toInt32_toInt64 _
  rw [word]
  exact Int32.toInt_ofNat_of_lt fits

/-- **Counts, roles and the ranking by distance agree**, for every live entity.

    An enemy is found by its number exactly if the number is below the count of enemies, and the
    enemies are the living roots of other sides.  By distance, the same are found in another
    order, from the nearest to the farthest, and those that are equally far in order of their
    handles; the nearest enemy is the first of them.

    A helper is found by its number exactly if the number is below the count of all helpers, in
    order of their handles.  By an id it is found exactly if the count for that id is not zero, and
    is then the first of the helpers that the id means.

    The instruction that counts targets leaves a count that is not zero exactly if a target is found
    by the same id.  All counts are read as they are while they fit a signed word. -/
theorem roles_agree (present : r.get? id = some e) :
    let enemies := handles (r.opponents id)
    let near := handles (r.opponentsByDistance id)
    let helpers := handles (r.helpersOf id)
    ((∀ n, r.enemy id n = nth? enemies n ∧
        ((r.enemy id n).isSome ↔ 0 ≤ n ∧ n.toInt < r.numEnemies id)) ∧
      ∀ x, x ∈ enemies ↔ ∃ e', r.get? x = some e' ∧
        e'.isHelper = false ∧ e'.teamSide ≠ e.teamSide ∧ 0 < e'.life) ∧
    ((∀ n, r.enemyNear id n = nth? near n) ∧ r.nearestEnemy id = near.head? ∧
      near.Perm enemies ∧ near.Pairwise (r.Nearer e.pos.x)) ∧
    ((∀ n, r.helperIndex id n = nth? helpers n ∧
        ((r.helperIndex id n).isSome ↔ 0 ≤ n ∧ n.toInt < r.numHelpers id 0)) ∧
      helpers.Pairwise (· < ·) ∧
      ∀ helperId, ((r.helper id helperId).isSome ↔ 0 < r.numHelpers id helperId) ∧
        r.helper id helperId = helpers.find? fun x => (r.get? x).any (meansHelper helperId)) ∧
    (∀ ctx code offset origin v rest profile, ∃ count,
      Eval.instruction ctx code offset id origin (.query .numTarget) ⟨v :: rest, profile, r⟩ =
          .ok (.goto offset origin) ⟨.ofCount count :: rest, profile, r⟩ ∧
        ((r.target id v.toInt32).isSome ↔ 0 < count)) ∧
    ∀ count, count < 0x80000000 → (Value.ofCount count).toInt32.toInt = count := by
  intro enemies near helpers
  have filled (entries : Entries) (n : Int32) :
      ((nth? entries n).map (·.1)).isSome ↔ 0 ≤ n ∧ n.toInt < entries.length := by
    rw [Option.isSome_map]
    exact isSome_nth?_iff
  -- the id that means every helper
  have all : r.helpersWith id 0 = r.helpersOf id := List.filter_eq_self.mpr fun _ _ => rfl
  refine ⟨⟨fun n => ⟨map_nth? _, filled _ n⟩, fun x => mem_opponents_iff present⟩,
    ⟨fun n => map_nth? _, ?_, (opponentsByDistance_perm present).map _,
      opponentsByDistance_ordered present⟩,
    ⟨fun n => ⟨map_nth? _, ?_⟩, helpersOf_ordered r id, fun helperId =>
      ⟨?_, helper_eq_find? helperId⟩⟩, ?_, fun count fits => toInt_ofCount fits⟩
  · exact (map_nth? _).trans nth?_zero
  · rw [numHelpers, all]
    exact filled _ n
  · rw [helper, Option.isSome_map, numHelpers]
    exact isSome_head?_iff
  · intro ctx code offset origin v rest profile
    exact ⟨_, instruction_numTarget present, isSome_head?_iff⟩

/-- One player against two of the other side: there are enemies by the numbers zero and one, and by
    distance they are the same two. -/
theorem roles_agree_outnumbered :
    let r := ((((ofSeed 0).addPlayer 1 "").1.addPlayer 2 "").1.addPlayer 4 "").1
    (∃ e, r.get? 0 = some e) ∧ r.numEnemies 0 = 2 ∧ (r.enemy 0 1).isSome ∧ ¬ (r.enemy 0 2).isSome ∧
      (handles (r.opponentsByDistance 0)).Perm [1, 2] ∧ ¬ (r.helper 0 0).isSome := by
  intro r
  obtain ⟨e, present⟩ : ∃ e, r.get? 0 = some e := isLive_iff.mp (by decide)
  have two : r.numEnemies 0 = 2 := by decide
  have none : r.numHelpers 0 0 = 0 := by decide
  have enemies : handles (r.opponents 0) = [1, 2] := by decide
  obtain ⟨⟨enemy, -⟩, ⟨-, -, same, -⟩, ⟨-, -, helper⟩, -⟩ := roles_agree present
  refine ⟨⟨e, present⟩, two, ?_, ?_, enemies ▸ same, ?_⟩
  · rw [(enemy 1).2, two]
    decide
  · rw [(enemy 2).2, two]
    decide
  · rw [(helper 0).1, none]
    decide

end TickScript.Roster
