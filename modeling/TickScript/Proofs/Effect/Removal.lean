import TickScript.Proofs.Effect.Composed
import TickScript.Proofs.Effect.Records
import TickScript.Proofs.Roster.Directory

/-! # Whether a removal is reported

    A removal takes a helper, and its descendants if it is recursive.  So the origin goes in two
    cases: it is the helper that is removed, or it was spawned below a helper that is removed
    recursively.  The effect reports only the first (`destroySelf_reports`).

    The second comes about by a redirect to an ancestor.  The origin is gone then, but the effect
    says that it goes on (`destroySelf_misses_descendants`).
-/

namespace TickScript.Effect

variable {origin id : EntityId} {args : ArgBlock} {s t u : Scene} {recursive : Bool}

/-- **A helper is removed**: nothing stops the visit, and its target is a helper. -/
structure Removes (origin : EntityId) (args : ArgBlock) (s : Scene) (id : EntityId)
    (recursive : Bool) : Prop where
  helper : (s.roster.get? id).map (·.isHelper) = some true
  visited : ∃ w u, (destroySelfVisitor origin).Finishes s args w u ∧ w.target.id = id ∧
    w.plan.recursive = recursive

/-- **The origin goes** with the helper that is removed: it is that helper, or it was spawned below
    it and the removal is recursive. -/
def GoesWith (s : Scene) (origin id : EntityId) (recursive : Bool) : Prop :=
  id = origin ∨ recursive = true ∧ s.roster.Ancestor id origin

/-- **Who is live behind a removal.** -/
theorem isLive_destroyed (older : s.roster.ParentsOlder) (live : s.roster.isLive origin)
    (same : s.roster.SameParents u.roster) :
    ¬ (u.roster.destroy id recursive).1.isLive origin ↔ GoesWith s origin id recursive := by
  rw [Roster.isLive_destroy (same.parentsOlder older), same.isLive, same.ancestor, GoesWith]
  constructor
  · intro gone
    by_cases own : id = origin
    · exact .inl own
    · by_contra stays
      exact gone ⟨live, Ne.symm own, fun below => stays (.inr below)⟩
  · rintro goes ⟨-, other, apart⟩
    rcases goes with own | below
    · exact other own.symm
    · exact apart below

/-- The removal of somebody who is live. -/
theorem destroyed_of_live {stop : Bool} (live : s.roster.isLive id)
    (ended : (do
      let (roster, destroyed) := (← Act.roster).destroy id recursive
      Act.setRoster roster
      return destroyed && id == origin : Act Bool) s = .ok stop t) :
    t.roster = (s.roster.destroy id recursive).1 ∧ (stop = true ↔ id = origin) := by
  cases ended
  refine ⟨rfl, ?_⟩
  show (s.roster.isLive id && id == origin) = true ↔ id = origin
  simp [live]

/-- **How a removal ends.**  Either a helper is removed, and the flag says whether it is the
    origin, or the visit has only evaluated expressions. -/
theorem destroySelf_cases {stop : Bool}
    (ended : EffectKind.destroySelf.run origin args s = .ok stop t) :
    (∃ id recursive, ∃ u : Scene, Removes origin args s id recursive ∧
      s.roster.SameParents u.roster ∧ t.roster = (u.roster.destroy id recursive).1 ∧
      (stop = true ↔ id = origin)) ∨
    ((∀ id recursive, ¬ Removes origin args s id recursive) ∧ s.Evaluated t ∧ stop = false) := by
  let v := destroySelfVisitor origin
  obtain ⟨finished, w, u, visited, rest⟩ := Visitor.exists_of_run (v := v.toVisitor) ended
  obtain ⟨codes, -, evaluations⟩ := v.evaluations_of_visit visited
  have evaluated := evaluations.evaluated
  have unseen (id : EntityId) :
      (u.roster.get? id).map (·.isHelper) = (s.roster.get? id).map (·.isHelper) :=
    evaluated.roster.map_get? (fun _ => rfl) id
  have parents : s.roster.SameParents u.roster := evaluated.roster.map_get? fun _ => rfl
  cases finished with
  | false =>
    cases rest
    refine .inr ⟨fun id recursive removes => ?_, evaluated, rfl⟩
    obtain ⟨-, w', u', finishes, -⟩ := removes
    cases visited.symm.trans finishes
  | true =>
    obtain ⟨e, present, rest⟩ := exists_of_entity_bind rest
    have known := unseen w.target.id
    rw [present] at known
    by_cases helper : e.isHelper
    · have isHelper : (s.roster.get? w.target.id).map (·.isHelper) = some true := by
        rw [← known, Option.map_some, helper]
      refine .inl ⟨w.target.id, w.plan.recursive, ?_⟩
      have removes : Removes origin args s w.target.id w.plan.recursive :=
        ⟨isHelper, w, u, visited, rfl, rfl⟩
      simp only [helper, Bool.not_true, Bool.false_eq_true, if_false] at rest
      -- visual effects are removed before, if that is asked for, which leaves the target live
      by_cases explods : w.plan.removeExplods
      · rw [if_pos explods] at rest
        let bare (e : Entity) : Entity := e.removeExplods (-1)
        obtain ⟨e', present', rest⟩ := exists_of_update_bind rest
        have live : (u.modify w.target.id bare).roster.isLive w.target.id :=
          Roster.isLive_iff.mpr ⟨bare e', get?_modify_of_get? bare present'⟩
        have same : s.roster.SameParents (u.modify w.target.id bare).roster := fun id =>
          (Roster.map_get?_modify (f := bare) (·.parent) fun _ _ => rfl).trans (parents id)
        exact ⟨u.modify w.target.id bare, removes, same, destroyed_of_live live rest⟩
      · rw [if_neg explods] at rest
        have live : u.roster.isLive w.target.id := Roster.isLive_iff.mpr ⟨e, present⟩
        exact ⟨u, removes, parents, destroyed_of_live live rest⟩
    · -- a root stays
      simp only [helper] at rest
      cases rest
      refine .inr ⟨fun id recursive removes => ?_, evaluated, rfl⟩
      obtain ⟨isHelper, w', u', finishes, rfl, -⟩ := removes
      cases visited.symm.trans finishes
      rw [← known, Option.map_some, Option.some_inj] at isHelper
      exact helper isHelper

/-- An origin that is told to stop is gone. -/
theorem gone_of_stops (ended : EffectKind.destroySelf.run origin args s = .ok true t) :
    t.roster.get? origin = none := by
  rcases destroySelf_cases ended with ⟨id, recursive, u, -, -, roster, reported⟩ | ⟨-, -, goes⟩
  · rw [roster, reported.mp rfl]
    exact Roster.get?_destroy_self u.roster origin recursive
  · cases goes

/-- **The origin goes with the helper that is removed, but only the removal of the origin itself is
    reported.**  An effect that ends well reports that the origin is gone exactly if it has removed
    the origin.  The origin is gone exactly if it was removed, or was spawned below a helper that
    was removed recursively.  So unless that happened, the report is right. -/
theorem destroySelf_reports {stop : Bool} (lineage : s.roster.Lineage)
    (live : s.roster.isLive origin)
    (ended : EffectKind.destroySelf.run origin args s = .ok stop t) :
    (stop = true ↔ ∃ recursive, Removes origin args s origin recursive) ∧
    (¬ t.roster.isLive origin ↔ ∃ id recursive, Removes origin args s id recursive ∧
      GoesWith s origin id recursive) ∧
    ((∀ id, Removes origin args s id true → ¬ s.roster.Ancestor id origin) →
      (stop = true ↔ ¬ t.roster.isLive origin)) := by
  rcases destroySelf_cases ended with ⟨id, recursive, u, removes, same, roster, reported⟩ |
    ⟨unremoved, evaluated, rfl⟩
  · -- a helper was removed, and it is the only one that the effect removes
    have only {id' : EntityId} {recursive' : Bool}
        (removes' : Removes origin args s id' recursive') :
        id' = id ∧ recursive' = recursive := by
      obtain ⟨-, w, u, finishes, rfl, rfl⟩ := removes
      obtain ⟨-, w', u', finishes', rfl, rfl⟩ := removes'
      obtain ⟨rfl, -⟩ := finishes.unique finishes'
      exact ⟨rfl, rfl⟩
    have gone : ¬ t.roster.isLive origin ↔ GoesWith s origin id recursive := by
      rw [roster]
      exact isLive_destroyed lineage.parentsOlder live same
    refine ⟨?_, ?_, ?_⟩
    · rw [reported]
      constructor
      · rintro rfl
        exact ⟨recursive, removes⟩
      · rintro ⟨recursive', removes'⟩
        exact (only removes').1.symm
    · rw [gone]
      constructor
      · intro goes
        exact ⟨id, recursive, removes, goes⟩
      · rintro ⟨id', recursive', removes', goes⟩
        obtain ⟨rfl, rfl⟩ := only removes'
        exact goes
    · intro unrelated
      rw [reported, gone]
      refine ⟨.inl, fun goes => ?_⟩
      rcases goes with own | ⟨rfl, below⟩
      · exact own
      · exact absurd below (unrelated id removes)
  · -- nobody was removed, so whoever was live still is
    have same : s.roster.SameParents t.roster := evaluated.roster.map_get? fun _ => rfl
    have stays : t.roster.isLive origin := same.isLive.mpr live
    refine ⟨?_, ?_, ?_⟩
    · exact ⟨nofun, fun ⟨recursive, removes⟩ => absurd removes (unremoved origin recursive)⟩
    · refine ⟨fun gone => absurd stays gone, fun ⟨id, recursive, removes, _⟩ => ?_⟩
      exact absurd removes (unremoved id recursive)
    · exact fun _ => ⟨nofun, fun gone => absurd stays gone⟩

/-! ## A small family -/

/-- A scene with a player, its helper, and the helper of that. -/
def family : Scene :=
  { Scene.lone with roster := (Scene.lone.roster.withHelper 0).withHelper 1 }

theorem family_lineage : family.roster.Lineage := by
  have player : (Roster.ofSeed 0).Steps Scene.lone.roster := .single (.addPlayer 1 "")
  have elder := player.trans (Roster.steps_withHelper _ 0)
  exact Roster.Steps.lineage (elder.trans (Roster.steps_withHelper _ 1))

/-- A redirect to the elder helper. -/
def toElder : ArgRecord := ⟨redirectTag, [Expression.int 57]⟩

/-- A record that makes the removal recursive. -/
def andAllBelow : ArgRecord := ⟨DestroyTag.recursive, [Expression.int 1]⟩

/-- A helper that removes itself reports it. -/
theorem destroySelf_reports_own :
    family.roster.Lineage ∧ family.roster.isLive 2 ∧
      ∃ t, EffectKind.destroySelf.run 2 (ArgBlock.ofRecords [andAllBelow]) family = .ok true t ∧
        (∃ recursive, Removes 2 (ArgBlock.ofRecords [andAllBelow]) family 2 recursive) ∧
        ¬ t.roster.isLive 2 := by
  let v := destroySelfVisitor 2
  have encodable : ∀ r ∈ [andAllBelow], r.Encodable := by decide
  obtain ⟨w, u, t, passes, finish, gone⟩ : ∃ w u t, v.Passes family [andAllBelow] w u ∧
      v.finish true w u = .ok true t ∧ t.roster.isLive 2 = false := ⟨_, _, _, rfl, rfl, rfl⟩
  have ended := (passes.finishes encodable).run_eq.trans finish
  obtain ⟨reported, -, -⟩ := destroySelf_reports family_lineage rfl ended
  exact ⟨family_lineage, rfl, t, ended, reported.mp rfl, by simp [gone]⟩

/-- **A helper that removes its parent with all below it is gone, and goes on.** -/
theorem destroySelf_misses_descendants :
    family.roster.Lineage ∧ family.roster.isLive 2 ∧
      ∃ t, EffectKind.destroySelf.run 2 (ArgBlock.ofRecords [toElder, andAllBelow]) family =
          .ok false t ∧
        t.roster.runOrder = [0] := by
  let v := destroySelfVisitor 2
  have encodable : ∀ r ∈ [toElder, andAllBelow], r.Encodable := by decide
  obtain ⟨w, u, t, passes, finish, left⟩ : ∃ w u t, v.Passes family [toElder, andAllBelow] w u ∧
      v.finish true w u = .ok false t ∧ t.roster.runOrder = [0] := ⟨_, _, _, rfl, rfl, rfl⟩
  have ended := (passes.finishes encodable).run_eq.trans finish
  exact ⟨family_lineage, rfl, t, ended, left⟩

end TickScript.Effect
