import TickScript.Program.State
import TickScript.Proofs.Eval.Footprint
import TickScript.Proofs.Program.Isolation

/-! # Entering and running states

    The entry step of a state changes neither the windows nor the pending signal, nor which
    program any entity runs: expressions and entry records do not touch the number of a state or
    whose library it is from.  So the program that runs next is the one that was entered, and it
    finds what the entry step left on the stack.

    A run of a program that ends without a fault leaves the machine at rest.
-/

namespace TickScript

/-! ## Which program runs -/

/-- **Which program an entity runs**: whose library it is from, and the number of the state. -/
def Entity.program (e : Entity) : Nat × Int32 := (e.state.owner, e.state.number)

theorem Entity.StateKept.program_eq {e e' : Entity} (h : e.StateKept e') :
    e'.program = e.program :=
  congrArg (fun status => (status.2.2.2, status.1)) h.status

/-- The program of the entity with a handle, if it is live. -/
def Roster.program? (r : Roster) (id : EntityId) : Option (Nat × Int32) :=
  (r.get? id).map Entity.program

theorem Roster.program?_modify {r : Roster} {id other : EntityId} {f : Entity → Entity}
    (same : ∀ e, r.get? other = some e → (f e).program = e.program) :
    (r.modify other f).program? id = r.program? id :=
  map_get?_modify Entity.program same

namespace Footprint

/-- No expression changes which program an entity runs. -/
theorem allowsExpressions_program (id : EntityId) :
    (fixing fun b : Bench => b.roster.program? id).AllowsExpressions True where
  operands _ _ := rfl
  profile _ _ _ := rfl
  random _ _ _ := rfl
  updateVariable b _ e _ _ _ _ present := by
    refine Roster.program?_modify fun e' present' => ?_
    obtain rfl : e = e' := Option.some.inj (present.symm.trans present')
    rfl
  updateNamed b _ e _ _ _ present := by
    refine Roster.program?_modify fun e' present' => ?_
    obtain rfl : e = e' := Option.some.inj (present.symm.trans present')
    rfl

/-! ## The entry step -/

/-- **What entry steps need of a footprint** to stay within it. -/
structure AllowsEntries (F : Footprint Scene) : Prop where
  edit : ∀ (s : Scene) (id : EntityId) {f : Entity → Entity}, (∀ e : Entity, e.Edited (f e)) →
    F.allows s (s.modify id f)
  evaluate : ∀ code id, F.Keeps (Act.evaluate code id)
  window : ∀ (size : Nat) {action : Act Unit}, F.Keeps action → F.Keeps (Act.withWindow size action)

namespace AllowsEntries

variable {F : Footprint Scene} (h : F.AllowsEntries) (id : EntityId)

include h

theorem update {f : Entity → Entity} (edited : ∀ e : Entity, e.Edited (f e)) :
    F.Keeps (Act.update id f) :=
  keeps_update fun s => h.edit s id edited

/-- **Entering a state stays within the footprint.** -/
theorem enter (p : StateProgram) : F.Keeps (p.enter id) := by
  have entry : Act.Composed False (StateProgram.runEntry p.entry id) :=
    StateProgram.composed_entry id p.entry
  exact (h.update id p.edited_impose).bind fun _ =>
    h.window p.localCount (keeps_composed entry h.evaluate h.edit False.elim False.elim)

end AllowsEntries

/-- **What entry steps leave alone.** -/
def entering (id : EntityId) : Footprint Scene :=
  fixing fun s => (s.machine.windows, s.machine.signal, s.roster.program? id)

variable {id : EntityId}

theorem keeps_evaluate_entering (code : Expression) (other : EntityId) :
    (entering id).Keeps (Act.evaluate code other) := by
  intro s
  have kept := (allowsExpressions_program id).eval (Act.context s.machine) s.machine.budget code other
  refine ends_evaluate ((kept s.bench).mono (fun v b same => ?_) fun f b same => ?_)
  · exact congrArg (fun p => (s.machine.windows, s.machine.signal, p)) same
  · exact congrArg (fun p => (s.machine.windows, s.machine.signal, p)) same

theorem allows_edit_entering (s : Scene) (other : EntityId) {f : Entity → Entity}
    (edited : ∀ e : Entity, e.Edited (f e)) : (entering id).allows s (s.modify other f) := by
  have programs : (s.roster.modify other f).program? id = s.roster.program? id :=
    Roster.program?_modify fun e _ => (edited e).program_eq
  exact congrArg (fun p => (s.machine.windows, s.machine.signal, p)) programs

/-- The window of the entry step is closed again. -/
theorem keeps_withWindow_entering {size : Nat} {action : Act Unit}
    (kept : (entering id).Keeps action) : (entering id).Keeps (Act.withWindow size action) := by
  intro s
  have closed {t : Scene}
      (same : (entering id).allows (s.withWindows (s.machine.windows.push size)) t) :
      (entering id).allows s (t.withWindows t.machine.windows.pop) := by
    have windows : t.machine.windows = s.machine.windows.push size := congrArg (·.1) same
    have others : (t.machine.signal, t.roster.program? id) =
        (s.machine.signal, s.roster.program? id) := congrArg (·.2) same
    -- the window that is closed is the one that was opened
    have popped : t.machine.windows.pop = s.machine.windows := by rw [windows, Windows.pop_push]
    exact congr (congrArg Prod.mk popped) others
  exact ends_withWindow ((kept _).mono (fun _ _ same => closed same) fun _ _ same => closed same)

theorem allowsEntries_entering : (entering id).AllowsEntries where
  edit := allows_edit_entering
  evaluate := keeps_evaluate_entering
  window _ _ := keeps_withWindow_entering

end Footprint

namespace StateProgram

/-! ## Runs -/

/-- The scene in which the block of a program starts. -/
def opened (p : StateProgram) (s : Scene) : Scene :=
  s.withWindows (s.machine.windows.push p.localCount)

/-- The scene that a run leaves, given the one that its block left. -/
def closed (s : Scene) : Scene :=
  { s with machine := { s.machine with windows := s.machine.windows.pop, signal := none } }

/-- **How a run ends** is decided by its block and, if that ends without a fault, by the stack. -/
theorem run_eq (p : StateProgram) (id : EntityId) (s : Scene) :
    p.run id s =
      match p.block.run id (p.opened s) with
      | .error f t => .error f (t.withWindows t.machine.windows.pop)
      | .ok stopped t =>
        if t.machine.stack = [] then .ok stopped (closed t)
        else .error (.stackImbalance p.number t.machine.stack.bottomFirst) (closed t) := by
  cases ended : p.block.run id (p.opened s) with
  | error f t => exact withWindow_of_error (bind_of_error ended)
  | ok stopped t =>
    dsimp only
    by_cases empty : t.machine.stack = []
    · rw [if_pos empty]
      have balanced : t.machine.checkBalance p.number = .ok () := if_pos empty
      refine withWindow_of_ok (t := { t with machine := { t.machine with signal := none } })
        ((bind_of_ok ended).trans ?_)
      show (Act.ofExcept (t.machine.checkBalance p.number) >>= fun _ => pure stopped)
        { t with machine := { t.machine with signal := none } } = _
      rw [balanced]
      rfl
    · rw [if_neg empty]
      have left : t.machine.checkBalance p.number =
          .error (.stackImbalance p.number t.machine.stack.bottomFirst) := if_neg empty
      refine withWindow_of_error (t := { t with machine := { t.machine with signal := none } })
        ((bind_of_ok ended).trans ?_)
      show (Act.ofExcept (t.machine.checkBalance p.number) >>= fun _ => pure stopped)
        { t with machine := { t.machine with signal := none } } = _
      rw [left]
      rfl

end StateProgram
end TickScript
