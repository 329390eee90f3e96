import TickScript.Proofs.Effect.Composed

/-! # What effects leave alone

    Every effect stays within every footprint that allows what effects are made of: deeds, changes
    beside machine and roster, and the evaluation of expressions (`AllowsEffects.effect`).
-/

namespace TickScript

/-- **What effects need of a footprint** to stay within it. -/
structure Footprint.AllowsEffects (F : Footprint Scene) : Prop where
  /-- Files, console and counters may change. -/
  aside : ∀ {s t : Scene}, t.machine = s.machine → t.roster = s.roster → F.allows s t
  deed : ∀ (s : Scene) {r : Roster}, s.roster.Deed r → F.allows s { s with roster := r }
  evaluate : ∀ code id, F.Keeps (Act.evaluate code id)

namespace Footprint

variable {F : Footprint Scene} {α : Type}

theorem AllowsEffects.deeds (h : F.AllowsEffects) (s : Scene) {r : Roster}
    (done : s.roster.Deeds r) : F.allows s { s with roster := r } := by
  induction done with
  | refl => exact F.refl s
  | tail _ deed ih => exact F.trans ih (h.deed _ deed)

/-- **What actions are composed of stays within the footprint**, and so do they.  Only the actions
    of effects need deeds, files and the console. -/
theorem keeps_composed {all : Prop} {x : Act α} (built : x.Composed all)
    (evaluate : ∀ code id, F.Keeps (Act.evaluate code id))
    (edit : ∀ (s : Scene) (id : EntityId) {f : Entity → Entity}, (∀ e : Entity, e.Edited (f e)) →
      F.allows s (s.modify id f))
    (deeds : all → ∀ (s : Scene) {r : Roster}, s.roster.Deeds r → F.allows s { s with roster := r })
    (outputs : all → ∀ {s t : Scene}, t.machine = s.machine → t.roster = s.roster →
      t.memory = s.memory → F.allows s t) : F.Keeps x := by
  induction built with
  | pure a => exact .pure a
  | throw f => exact .throw f
  | bind _ _ first rest => exact first.bind rest
  | machine _ _ rest => exact keeps_machine.bind rest
  | evaluate code id => exact evaluate code id
  | roster => exact keeps_roster
  | update id edited => exact keeps_update fun s => edit s id edited
  | onRoster among done => exact fun s => deeds among s (done s.roster)
  | onFiles among => exact fun s => outputs among rfl rfl rfl
  | print among => exact fun s => outputs among rfl rfl rfl

namespace AllowsEffects

variable (h : F.AllowsEffects)

include h

theorem composed {all : Prop} {x : Act α} (built : x.Composed all) : F.Keeps x :=
  keeps_composed built h.evaluate (fun s id _ edited => h.deed s (.edit id fun e _ => edited e))
    (fun _ => h.deeds) fun _ _ _ machine roster _ => h.aside machine roster

/-- **Every effect stays within the footprint.** -/
theorem effect (origin : EntityId) (args : ArgBlock) (kind : EffectKind) :
    F.Keeps (kind.run origin args) :=
  h.composed (Effect.composed_run origin args kind)

end AllowsEffects
end Footprint
end TickScript
