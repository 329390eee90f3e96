import TickScript.Scene
import TickScript.Proofs.Action
import TickScript.Proofs.Roster.Lookup

/-! # Actions on scenes

    Brackets, the evaluation of expressions, and the actions that only look.  An action in a
    window of its own ends as it ends in the opened window, closed afterwards; the same goes for
    counters.
-/

namespace TickScript

variable {α : Type} {action : Act α} {s : Scene} {done : α → Scene → Prop}
  {failed : Fault → Scene → Prop}

/-! ## Brackets -/

/-- The scene with other windows. -/
def Scene.withWindows (s : Scene) (w : Windows) : Scene :=
  { s with machine := { s.machine with windows := w } }

theorem withWindow_of_ok {size : Nat} {a : α} {t : Scene}
    (run : action (s.withWindows (s.machine.windows.push size)) = .ok a t) :
    Act.withWindow size action s = .ok a (t.withWindows t.machine.windows.pop) := by
  unfold Scene.withWindows at run
  simp only [Act.withWindow, run]
  rfl

theorem withWindow_of_error {size : Nat} {f : Fault} {t : Scene}
    (run : action (s.withWindows (s.machine.windows.push size)) = .error f t) :
    Act.withWindow size action s = .error f (t.withWindows t.machine.windows.pop) := by
  unfold Scene.withWindows at run
  simp only [Act.withWindow, run]
  rfl

theorem exists_of_withWindow {size : Nat} {a : α} {t : Scene}
    (run : Act.withWindow size action s = .ok a t) :
    ∃ u, action (s.withWindows (s.machine.windows.push size)) = .ok a u ∧
      t = u.withWindows u.machine.windows.pop := by
  cases inner : action (s.withWindows (s.machine.windows.push size)) with
  | ok a' u =>
    rw [withWindow_of_ok inner] at run
    cases run
    exact ⟨u, rfl, rfl⟩
  | error f u =>
    rw [withWindow_of_error inner] at run
    cases run

/-- An action in a window of its own runs in the opened window, which is closed at the end. -/
theorem withWindow_eq (size : Nat) (action : Act α) (s : Scene) :
    Act.withWindow size action s = onEnd (fun t => t.withWindows t.machine.windows.pop)
      (action (s.withWindows (s.machine.windows.push size))) := by
  cases run : action (s.withWindows (s.machine.windows.push size)) with
  | ok a t => exact withWindow_of_ok run
  | error f t => exact withWindow_of_error run

theorem ends_withWindow {size : Nat}
    (h : Ends action (s.withWindows (s.machine.windows.push size))
      (fun a t => done a (t.withWindows t.machine.windows.pop))
      fun f t => failed f (t.withWindows t.machine.windows.pop)) :
    Ends (Act.withWindow size action) s done failed :=
  h.onEnd (withWindow_eq size action s)

theorem withMemory_of_ok {memory : BlockMemory} {a : α} {t : Scene}
    (run : action { s with memory := memory } = .ok a t) :
    Act.withMemory memory action s = .ok a { t with memory := s.memory } := by
  simp only [Act.withMemory, run]

theorem withMemory_of_error {memory : BlockMemory} {f : Fault} {t : Scene}
    (run : action { s with memory := memory } = .error f t) :
    Act.withMemory memory action s = .error f { t with memory := s.memory } := by
  simp only [Act.withMemory, run]

theorem exists_of_withMemory {memory : BlockMemory} {a : α} {t : Scene}
    (run : Act.withMemory memory action s = .ok a t) :
    ∃ u, action { s with memory := memory } = .ok a u ∧ t = { u with memory := s.memory } := by
  cases inner : action { s with memory := memory } with
  | ok a' u =>
    rw [withMemory_of_ok inner] at run
    cases run
    exact ⟨u, rfl, rfl⟩
  | error f u =>
    rw [withMemory_of_error inner] at run
    cases run

/-- An action with counters of its own runs with those, and the others come back at the end. -/
theorem withMemory_eq (memory : BlockMemory) (action : Act α) (s : Scene) :
    Act.withMemory memory action s =
      onEnd (fun t => { t with memory := s.memory }) (action { s with memory := memory }) := by
  cases run : action { s with memory := memory } with
  | ok a t => exact withMemory_of_ok run
  | error f t => exact withMemory_of_error run

theorem ends_withMemory {memory : BlockMemory}
    (h : Ends action { s with memory := memory } (fun a t => done a { t with memory := s.memory })
      fun f t => failed f { t with memory := s.memory }) :
    Ends (Act.withMemory memory action) s done failed :=
  h.onEnd (withMemory_eq memory action s)

/-! ## Windows -/

theorem ends_onWindows {g : Windows → Except Fault Windows} {done : Unit → Scene → Prop}
    (ok : ∀ w, g s.machine.windows = .ok w → done () (s.withWindows w))
    (error : ∀ f, g s.machine.windows = .error f → failed f s) :
    Ends (Act.onWindows g) s done failed := by
  have run : Act.onWindows g s =
      (Act.ofExcept (g s.machine.windows) >>= fun w =>
        Act.setMachine { s.machine with windows := w }) s := rfl
  unfold Ends
  rw [run]
  cases result : g s.machine.windows with
  | ok w => exact ok w result
  | error f => exact error f result

theorem onWindows_of_ok {g : Windows → Except Fault Windows} {w : Windows}
    (changed : g s.machine.windows = .ok w) : Act.onWindows g s = .ok () (s.withWindows w) := by
  have result : Act.ofExcept (g s.machine.windows) s = .ok w s := by
    rw [changed]
    rfl
  exact bind_of_ok (s := s) result

theorem localSlot_of_ok {slot : Nat} {v : Value} (found : s.machine.windows.get slot = .ok v) :
    Act.localSlot slot s = .ok v s := by
  have result : Act.ofExcept (s.machine.windows.get slot) s = .ok v s := by
    rw [found]
    rfl
  exact result

/-! ## Entities -/

theorem roster_run (s : Scene) : Act.roster s = .ok s.roster s := rfl

theorem entity_of_get? {id : EntityId} {e : Entity} (present : s.roster.get? id = some e) :
    Act.entity id s = .ok e s := by
  have found : Act.ofExcept (s.roster.get id) s = .ok e s := by
    rw [Roster.get_of_get? present]
    rfl
  exact found

theorem ends_entity {id : EntityId} {done : Entity → Scene → Prop}
    (ok : ∀ e, s.roster.get? id = some e → done e s) (error : failed (.missingEntity id) s) :
    Ends (Act.entity id) s done failed := by
  have run : Act.entity id s = Act.ofExcept (s.roster.get id) s := rfl
  unfold Ends
  rw [run, Roster.get]
  cases present : s.roster.get? id with
  | some e => exact ok e present
  | none => exact error

theorem entity_of_none {id : EntityId} (gone : s.roster.get? id = none) :
    Act.entity id s = .error (.missingEntity id) s := by
  have failed : Act.ofExcept (s.roster.get id) s = .error (.missingEntity id) s := by
    rw [Roster.get, gone]
    rfl
  exact failed

/-- What was done with an entity shows that it is live. -/
theorem exists_of_entity_bind {id : EntityId} {k : Entity → Act α} {a : α} {t : Scene}
    (run : (Act.entity id >>= k) s = .ok a t) :
    ∃ e, s.roster.get? id = some e ∧ k e s = .ok a t := by
  cases present : s.roster.get? id with
  | some e => exact ⟨e, rfl, (bind_of_ok (entity_of_get? present)).symm.trans run⟩
  | none =>
    rw [bind_of_error (entity_of_none present)] at run
    cases run

/-- The scene after a change of an entity. -/
def Scene.modify (s : Scene) (id : EntityId) (f : Entity → Entity) : Scene :=
  { s with roster := s.roster.modify id f }

theorem get?_modify_of_get? {id : EntityId} {e : Entity} (f : Entity → Entity)
    (present : s.roster.get? id = some e) : (s.modify id f).roster.get? id = some (f e) := by
  show (s.roster.modify id f).get? id = some (f e)
  rw [Roster.get?_modify, if_pos rfl, present]
  rfl

theorem update_of_get? {id : EntityId} {e : Entity} (f : Entity → Entity)
    (present : s.roster.get? id = some e) : Act.update id f s = .ok () (s.modify id f) :=
  (bind_of_ok (entity_of_get? present)).trans rfl

theorem exists_of_update_bind {id : EntityId} {f : Entity → Entity} {k : Unit → Act α} {a : α}
    {t : Scene} (run : (Act.update id f >>= k) s = .ok a t) :
    ∃ e, s.roster.get? id = some e ∧ k () (s.modify id f) = .ok a t := by
  cases present : s.roster.get? id with
  | some e => exact ⟨e, rfl, (bind_of_ok (update_of_get? f present)).symm.trans run⟩
  | none =>
    have missing : Act.update id f s = .error (.missingEntity id) s :=
      bind_of_error (entity_of_none present)
    rw [bind_of_error missing] at run
    cases run

theorem ends_update {id : EntityId} {f : Entity → Entity} {done : Unit → Scene → Prop}
    (ok : ∀ e, s.roster.get? id = some e → done () (s.modify id f))
    (error : failed (.missingEntity id) s) : Ends (Act.update id f) s done failed :=
  Ends.bind (ends_entity (fun e present => ok e present) error)

/-! ## Expressions -/

/-- The scene that an expression leaves: stack, profile and roster are as on its bench. -/
def Scene.withBench (s : Scene) (b : Bench) : Scene :=
  { s with machine := { s.machine with stack := b.stack, profile := b.profile }, roster := b.roster }

/-- The bench on which an expression is evaluated. -/
def Scene.bench (s : Scene) : Bench := ⟨s.machine.stack, s.machine.profile, s.roster⟩

/-- An expression runs on the bench of its scene. -/
theorem evaluate_eq (code : Expression) (id : EntityId) (s : Scene) :
    Act.evaluate code id s = onEnd s.withBench
      (Eval.eval (Act.context s.machine) s.machine.budget code id s.bench) := by
  have bench : (⟨s.machine.stack, s.machine.profile, s.roster⟩ : Bench) = s.bench := rfl
  simp only [Act.evaluate, bench]
  cases Eval.eval (Act.context s.machine) s.machine.budget code id s.bench with
  | ok v b => rfl
  | error f b => rfl

theorem ends_evaluate {code : Expression} {id : EntityId} {done : Value → Scene → Prop}
    (h : Ends (Eval.eval (Act.context s.machine) s.machine.budget code id) s.bench
      (fun v b => done v (s.withBench b)) fun f b => failed f (s.withBench b)) :
    Ends (Act.evaluate code id) s done failed :=
  h.onEnd (evaluate_eq code id s)

namespace Footprint

variable {F : Footprint Scene}

/-! ## Actions that only look -/

theorem keeps_ofExcept (x : Except Fault α) : F.Keeps (Act.ofExcept x) := by
  cases x with
  | ok a => exact .pure a
  | error f => exact .throw f

theorem keeps_machine : F.Keeps Act.machine := Keeps.get.bind fun _ => .pure _

theorem keeps_roster : F.Keeps Act.roster := Keeps.get.bind fun _ => .pure _

theorem keeps_entity (id : EntityId) : F.Keeps (Act.entity id) :=
  keeps_roster.bind fun r => keeps_ofExcept (r.get id)

theorem keeps_update {id : EntityId} {f : Entity → Entity} (h : ∀ s, F.allows s (s.modify id f)) :
    F.Keeps (Act.update id f) :=
  fun s => ends_update (fun _ _ => h s) (F.refl s)

/-! ## Expressions in a footprint -/

theorem keeps_evaluate (h : ∀ s b, F.allows s (s.withBench b)) (code : Expression) (id : EntityId) :
    F.Keeps (Act.evaluate code id) := by
  intro s
  refine ends_evaluate ?_
  unfold Ends
  split
  · exact h s _
  · exact h s _

end Footprint

/-! ## Small scenes -/

/-- A scene with one entity. -/
def Scene.lone : Scene where
  machine := .fresh 10 ""
  roster := ((Roster.ofSeed 0).addPlayer 1 "").1
  files := .empty
  console := []
  memory := .empty

/-- A scene with the roots of two players. -/
def Scene.duo : Scene := { lone with roster := (lone.roster.addPlayer 2 "").1 }

end TickScript
