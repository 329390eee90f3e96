import TickScript.Proofs.Program.Deeds
import TickScript.Proofs.Tick.Rest

/-! # What a turn makes of the roster

    A turn puts its entity into other states and lets its time pass.  All else that happens in it
    are deeds, so the states of the others are kept (`keeps_turn`), and whoever is gone stays gone.
    A turn that ends because its entity was destroyed leaves a roster without it
    (`gone_of_turn_destroyed`).
-/

namespace TickScript

/-- **Changes that keep the states** of some entities. -/
def Footprint.becoming (kept : EntityId → Prop) : Footprint Scene where
  allows s t := s.roster.Becomes kept t.roster
  refl s := .refl s.roster
  trans h h' := h.trans h'

theorem Footprint.free_becoming (kept : EntityId → Prop) : (becoming kept).Free where
  aside {s t} _ same := by
    show s.roster.Becomes kept t.roster
    rw [same]
    exact .refl s.roster
  deed _ _ deed := deed.becomes

/-- **What the end of a pass says** about its entity. -/
def PassEnd.Tells (id : EntityId) (r : Roster) : PassEnd → Prop
  | .settled => r.isLive id
  | .destroyed => r.get? id = none
  | .asked q => ∃ e, r.get? id = some e ∧ e.pending = some q

namespace Engine

variable {g : Engine} {id : EntityId} {s t : Scene} {e : Entity} {q : StateRequest}

/-! ## Parts of a turn -/

theorem runPass_tells {ending : PassEnd} (run : g.runPass id s = .ok ending t) :
    ending.Tells id t.roster := by
  obtain ⟨e, present, -⟩ := exists_of_entity_bind run
  cases found : g.program? e.state.owner e.state.number with
  | none =>
    rw [runPass_of_none present found] at run
    cases run
    exact Roster.isLive_iff.mpr ⟨e, present⟩
  | some library =>
    cases ran : library.2.run id (passScene library.1 id e s) with
    | error f u =>
      rw [runPass_of_error present found ran] at run
      cases run
    | ok stopped u =>
      rw [runPass_of_run present found ran, bind_of_ok (roster_run _)] at run
      -- the end is read off the entity that the program left
      cases left : (passed id s.memory u).roster.get? id with
      | none =>
        rw [left] at run
        cases run
        exact left
      | some e' =>
        rw [left] at run
        have live : (passed id s.memory u).roster.isLive id := Roster.isLive_iff.mpr ⟨e', left⟩
        cases stopped with
        | false =>
          cases run
          exact live
        | true =>
          dsimp only at run
          cases waits : e'.pending with
          | none =>
            rw [waits] at run
            cases run
            exact live
          | some q =>
            rw [waits] at run
            cases run
            exact ⟨e', left, waits⟩

/-- What follows once a request is applied. -/
def arrive (g : Engine) (id : EntityId) (q : StateRequest) : Act Unit := do
  match g.program? (← Act.entity id).state.owner q.number with
  | some (l, p) =>
    bindLibrary l
    p.enter id
  | none => Act.update id fun e => { e with memory := .empty }
  Act.update id (finish q)

theorem enter_eq (g : Engine) (id : EntityId) (q : StateRequest) :
    g.enter id q = (do
      Act.update id (applyRequest q)
      g.arrive id q) := rfl

/-- **The end of a turn** whose entity is still there: it follows its anchor, and its time passes. -/
def conclude (id : EntityId) (ending : TurnEnd) : Act TurnEnd := do
  if ending = .destroyed then return .destroyed
  followBinding id
  Act.update id fun e => { e with state := { e.state with time := e.state.time + 1 } }
  return ending

end Engine

open Engine

/-! ## What turns leave alone -/

namespace Footprint

variable {F : Footprint Scene} {g : Engine} {id : EntityId} {α : Type} {action : Act α}

namespace Free

variable (h : F.Free)

include h

theorem bindLibrary (l : Library) : F.Keeps (bindLibrary l) := fun _ => h.aside rfl rfl

/-- The counters are taken from the entity and return to it by edits. -/
theorem withOwnMemory (kept : F.Keeps action) : F.Keeps (withOwnMemory id action) := by
  have entries := h.allowsEntries
  refine (keeps_entity id).bind fun e =>
    (entries.update id fun _ => .aside (by rfl)).bind fun _ => h.withMemory ?_
  intro s
  have ran := kept s
  have returned (t : Scene) : F.allows t (t.modify id fun e => { e with memory := t.memory }) :=
    entries.edit t id fun _ => .aside rfl
  -- the counters return to the entity whether the action faults or not
  unfold Ends at ran ⊢
  dsimp only
  split at ran
  · rename_i a t run
    rw [run]
    exact F.trans ran (returned t)
  · rename_i f t run
    rw [run]
    exact F.trans ran (returned t)

/-- **A pass acts by deeds.** -/
theorem runPass : F.Keeps (g.runPass id) := by
  refine (keeps_entity id).bind fun e => ?_
  cases g.program? e.state.owner e.state.number with
  | none => exact .pure _
  | some library =>
    refine (h.bindLibrary library.1).bind fun _ =>
      (h.withOwnMemory (h.run library.2 id)).bind fun stopped => keeps_roster.bind fun r => ?_
    cases r.get? id with
    | none => exact .pure _
    | some e =>
      dsimp only
      split
      · exact .pure _
      · exact .pure _

/-- What follows on a request are deeds. -/
theorem arrive (q : StateRequest) : F.Keeps (g.arrive id q) := by
  have entries := h.allowsEntries
  have finished : F.Keeps (Act.update id (finish q)) := entries.update id (edited_finish q)
  refine (keeps_entity id).bind fun e => ?_
  dsimp only
  split
  case h_1 l p _ =>
    exact (h.bindLibrary l).bind fun _ => (entries.enter id p).bind fun _ => finished
  case h_2 => exact (entries.update id fun _ => .aside (by rfl)).bind fun _ => finished

theorem followBinding : F.Keeps (followBinding id) := by
  have entries := h.allowsEntries
  refine (keeps_entity id).bind fun e => ?_
  cases e.binding with
  | none => exact .pure _
  | some b =>
    refine keeps_roster.bind fun r => ?_
    cases r.get? b.anchor with
    | none => exact entries.update id fun _ => .aside rfl
    | some anchor => exact entries.update id fun _ => .aside rfl

end Free

/-- **What turns of an entity need of a footprint** beyond deeds: its requests are applied, and its
    time passes. -/
structure AllowsTurns (F : Footprint Scene) (id : EntityId) : Prop extends F.Free where
  request : ∀ (s : Scene) (q : StateRequest), F.allows s (s.modify id (applyRequest q))
  age : ∀ s : Scene,
    F.allows s (s.modify id fun e => { e with state := { e.state with time := e.state.time + 1 } })

namespace AllowsTurns

variable (h : F.AllowsTurns id)

include h

theorem enter (q : StateRequest) : F.Keeps (g.enter id q) :=
  (keeps_update fun s => h.request s q).bind fun _ => h.arrive q

theorem runPasses (left : Nat) : F.Keeps (g.runPasses id left) := by
  induction left with
  | zero =>
    refine h.runPass.bind fun ending => ?_
    cases ending with
    | settled => exact .pure _
    | destroyed => exact .pure _
    | asked q => exact .pure _
  | succ left ih =>
    refine h.runPass.bind fun ending => ?_
    cases ending with
    | settled => exact .pure _
    | destroyed => exact .pure _
    | asked q => exact (h.enter q).bind fun _ => ih

theorem conclude (ending : TurnEnd) : F.Keeps (conclude id ending) :=
  .ite (.pure _) (h.followBinding.bind fun _ => (keeps_update h.age).bind fun _ => .pure _)

/-- **A turn stays within the footprint**, however it ends. -/
theorem turn : F.Keeps (g.turn id) := by
  have freed : F.Keeps (Act.update id fun e => { e with posFreeze := false }) :=
    h.allowsEntries.update id fun _ => .aside rfl
  have rest (left : Nat) : F.Keeps (do
      let ending ← g.runPasses id left
      Engine.conclude id ending) := (h.runPasses left).bind h.conclude
  refine freed.bind fun _ => (keeps_entity id).bind fun e => ?_
  dsimp only
  cases e.pending with
  | none => exact rest _
  | some q => exact (h.enter q).bind fun _ => rest _

end AllowsTurns

/-- **A step stays within the footprint**: a fault resets scratch state, and no more. -/
theorem allows_step (turns : ∀ id, F.AllowsTurns id) (report : TickReport) (s : Scene) :
    F.allows s (g.step (report, s) id).2 := by
  have turn : F.Keeps (g.turn id) := (turns id).turn
  unfold step
  dsimp only
  split
  · cases run : g.turn id s with
    | ok ending t => exact turn.ok run
    | error f t => exact F.trans (turn.error run) ((turns id).aside rfl rfl)
  · exact F.refl s

theorem allows_steps (turns : ∀ id, F.AllowsTurns id) (ids : List EntityId) (report : TickReport)
    (s : Scene) : F.allows s (ids.foldl g.step (report, s)).2 := by
  induction ids generalizing report s with
  | nil => exact F.refl s
  | cons id others ih =>
    rw [List.foldl_cons]
    exact F.trans (allows_step turns report s) (ih _ _)

/-- Whatever happens to the entity itself keeps the states of all others. -/
theorem allowsTurns_becoming (id : EntityId) : (becoming (· ≠ id)).AllowsTurns id :=
  have own (s : Scene) (f : Entity → Entity) : (becoming (· ≠ id)).allows s (s.modify id f) :=
    Roster.Becomes.modify fun _ other _ => absurd rfl other
  ⟨free_becoming _, fun s q => own s (applyRequest q), fun s => own s _⟩

end Footprint

namespace Engine

variable {g : Engine} {id : EntityId} {s t : Scene}

/-- **A turn keeps the states of all others**, and whoever is gone stays gone. -/
theorem keeps_turn : (Footprint.becoming (· ≠ id)).Keeps (g.turn id) :=
  (Footprint.allowsTurns_becoming id).turn

theorem ends_runPasses_gone (left : Nat) (s : Scene) :
    Ends (g.runPasses id left) s (fun ending t => ending = .destroyed → t.roster.get? id = none)
      fun _ _ => True := by
  have told (s : Scene) : Ends (g.runPass id) s (fun ending t => ending.Tells id t.roster)
      fun _ _ => True := .of_ok fun _ _ run => runPass_tells run
  -- a pass ends a turn this way only if it found the entity gone
  induction left generalizing s with
  | zero =>
    refine Ends.bind ((told s).mono (fun ending t tells => ?_) fun _ _ _ => trivial)
    cases ending with
    | settled => exact nofun
    | destroyed => exact fun _ => tells
    | asked q => exact nofun
  | succ left ih =>
    refine Ends.bind ((told s).mono (fun ending t tells => ?_) fun _ _ _ => trivial)
    cases ending with
    | settled => exact nofun
    | destroyed => exact fun _ => tells
    | asked q => exact Ends.last fun _ u => ih u

/-- **A turn that ends with the destruction of its entity** leaves a roster without it. -/
theorem gone_of_turn_destroyed (run : g.turn id s = .ok .destroyed t) :
    t.roster.get? id = none := by
  have concluded (ending : TurnEnd) (u : Scene)
      (gone : ending = .destroyed → u.roster.get? id = none) :
      Ends (conclude id ending) u (fun ending t => ending = .destroyed → t.roster.get? id = none)
        fun _ _ => True := by
    unfold conclude
    split
    case isTrue destroyed => exact fun _ => gone destroyed
    case isFalse stays =>
      exact Ends.last fun _ _ => Ends.last fun _ _ => Ends.pure fun destroyed => absurd destroyed stays
  have rest (left : Nat) (u : Scene) : Ends (do
      let ending ← g.runPasses id left
      conclude id ending) u (fun ending t => ending = .destroyed → t.roster.get? id = none)
      fun _ _ => True :=
    Ends.bind ((ends_runPasses_gone left u).mono concluded fun _ _ _ => trivial)
  have all : Ends (g.turn id) s (fun ending t => ending = .destroyed → t.roster.get? id = none)
      fun _ _ => True := by
    refine Ends.last fun _ u => Ends.last fun e v => ?_
    dsimp only
    cases e.pending with
    | none => exact rest _ v
    | some q => exact Ends.last fun _ w => rest _ w
  exact all.ok run rfl

end Engine
end TickScript
