import TickScript.Proofs.Program.State

/-! # Programs act by deeds

    Whatever a controller runs, and however it ends, what it makes of the roster is a sequence of
    deeds: expressions draw and edit, effects do all four kinds, and calls and loops only run
    others.  Entering a state is no deed, because it puts the entity into another state, but what
    follows on that are edits again.  Of the machine, the settings stay as they are.

    So a footprint that leaves all else free is kept by expressions, effects, entry steps and
    programs as soon as it allows deeds (`Footprint.Free`).
-/

namespace TickScript

open Roster (Deed Deeds)

/-- **What scripts cannot change of the machine.** -/
def Machine.settings (m : Machine) : Nat × String × Nat := (m.loopLimit, m.saveDir, m.budget)

namespace Footprint

/-- **A free footprint** allows deeds, and all changes beside the roster and the settings. -/
structure Free (F : Footprint Scene) : Prop where
  aside : ∀ {s t : Scene}, t.machine.settings = s.machine.settings → t.roster = s.roster →
    F.allows s t
  deed : ∀ (s : Scene) {r : Roster}, s.roster.Deed r → F.allows s { s with roster := r }

namespace Free

variable {F : Footprint Scene} {α : Type} {action : Act α}

section

variable (h : F.Free)

include h

/-! ## Expressions -/

theorem evaluate (code : Expression) (id : EntityId) : F.Keeps (Act.evaluate code id) := by
  intro s
  -- changes of the bench, seen as changes of the scene that it came from
  let onBench : Footprint Bench :=
    { allows := fun b b' => F.allows (s.withBench b) (s.withBench b')
      refl := fun b => F.refl (s.withBench b)
      trans := F.trans }
  have allowed : onBench.AllowsExpressions True :=
    { operands := fun b _ => h.aside rfl rfl
      profile := fun _ b _ => h.aside rfl rfl
      random := fun b low high => h.deed (s.withBench b) (.random low high)
      updateVariable := fun b _ e _ _ _ _ present =>
        h.deed (s.withBench b) (.replace (r := b.roster) present (.vars e _))
      updateNamed := fun b _ e _ _ _ present =>
        h.deed (s.withBench b) (.replace (r := b.roster) present (.names e _)) }
  exact ends_evaluate (allowed.eval (Act.context s.machine) s.machine.budget code id s.bench)

/-! ## Brackets -/

theorem withWindow {size : Nat} (kept : F.Keeps action) : F.Keeps (Act.withWindow size action) := by
  intro s
  have opened : F.allows s (s.withWindows (s.machine.windows.push size)) := h.aside rfl rfl
  have closed {t : Scene} (ran : F.allows (s.withWindows (s.machine.windows.push size)) t) :
      F.allows s (t.withWindows t.machine.windows.pop) :=
    F.trans (F.trans opened ran) (h.aside rfl rfl)
  exact ends_withWindow ((kept _).mono (fun _ _ ran => closed ran) fun _ _ ran => closed ran)

theorem withMemory {memory : BlockMemory} (kept : F.Keeps action) :
    F.Keeps (Act.withMemory memory action) := by
  intro s
  have opened : F.allows s { s with memory := memory } := h.aside rfl rfl
  have closed {t : Scene} (ran : F.allows { s with memory := memory } t) :
      F.allows s { t with memory := s.memory } :=
    F.trans (F.trans opened ran) (h.aside rfl rfl)
  exact ends_withMemory ((kept _).mono (fun _ _ ran => closed ran) fun _ _ ran => closed ran)

theorem onWindows (g : Windows → Except Fault Windows) : F.Keeps (Act.onWindows g) :=
  fun s => ends_onWindows (fun _ _ => h.aside rfl rfl) fun _ _ => F.refl s

/-! ## Programs -/

theorem invoke (f : Function) (rets : List UInt8) {body : Act Flow} (kept : F.Keeps body) :
    F.Keeps (f.invoke rets body) := by
  have takes : F.Keeps (Function.takeArguments f.argCount) :=
    AllowsOperands.takeArguments (fun _ _ => h.aside rfl rfl) (fun _ _ => h.onWindows _) f.argCount
  have gives : F.Keeps (Function.giveResults f.argCount rets) :=
    keeps_giveResults (fun _ _ => h.onWindows _) f.argCount rets
  exact keeps_invoke h.withWindow h.withMemory takes gives kept

theorem allowsEffects : F.AllowsEffects where
  aside machine roster := h.aside (congrArg Machine.settings machine) roster
  deed := h.deed
  evaluate := h.evaluate

theorem allowsPrograms : F.AllowsPrograms :=
  .of_scratch h.allowsEffects (fun _ _ _ => h.aside rfl rfl) (fun _ _ => h.onWindows _)
    fun f rets _ kept => h.invoke f rets kept

theorem allowsEntries : F.AllowsEntries where
  edit s id _ edited := h.deed s (.edit id fun e _ => edited e)
  evaluate := h.evaluate
  window _ _ := h.withWindow

/-- **A run of a program stays within the footprint**, however it ends. -/
theorem run (p : StateProgram) (id : EntityId) : F.Keeps (p.run id) :=
  h.allowsPrograms.run id h.withWindow p

end

end Free

/-! ## Deeds -/

/-- **Changes of a scene whose roster changes by deeds**, and whatever else changes. -/
def deeds : Footprint Scene where
  allows s t := s.roster.Deeds t.roster
  refl _ := .refl
  trans h h' := h.trans h'

theorem free_deeds : deeds.Free where
  aside {s t} _ same := by
    show s.roster.Deeds t.roster
    rw [same]
  deed _ _ deed := .single deed

end Footprint
end TickScript
