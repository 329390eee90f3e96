import TickScript.Tick
import TickScript.Proofs.Program.State

/-! # The machine is at rest between turns

    Operands, windows and signals are scratch state.  A turn starts at rest, and leaves the
    machine at rest however it ends:

    * if it faults, the machine is reset;
    * if it does not, every program that ran in it closed its window, took the pending signal and
      found an empty stack.

    In between, the entry step of a state may leave values on the stack.  `Ready` is what holds
    then: windows and signal are at rest, and unless the stack is empty there is a program that
    runs next, whose block consumes the values, or whose end reports them.
-/

namespace TickScript

/-- **At rest**: no operands, no windows, no pending signal. -/
structure Machine.AtRest (m : Machine) : Prop where
  stack : m.stack = []
  windows : m.windows = .empty
  signal : m.signal = none

theorem Machine.atRest_reset (m : Machine) : m.reset.AtRest := ⟨rfl, rfl, rfl⟩

variable {s t : Scene} {id : EntityId} {e : Entity} {f : Fault}

/-- **A run that ends without a fault leaves the machine at rest.** -/
theorem StateProgram.atRest_of_run {p : StateProgram} {stopped : Bool}
    (empty : s.machine.windows = .empty) (run : p.run id s = .ok stopped t) : t.machine.AtRest := by
  rw [run_eq] at run
  split at run
  case h_1 => cases run
  case h_2 stopped' u ended =>
    split at run
    case isFalse => cases run
    case isTrue balanced =>
      cases run
      have changed := (Footprint.allowsPrograms_wholeWindow.block id p.block).ok ended
      have bases : u.machine.windows.bases = [0] := by
        refine changed.bases.trans ?_
        show (s.machine.windows.push p.localCount).bases = [0]
        rw [empty]
        rfl
      refine ⟨balanced, ?_, rfl⟩
      -- the window that is closed was the only one, and it began at the bottom
      show u.machine.windows.pop = .empty
      rw [Windows.pop, bases]
      rfl

namespace Engine

variable {g : Engine}

/-! ## One pass -/

/-- The scene in which a pass runs a program of a library, with the entity's own counters. -/
def passScene (l : Library) (id : EntityId) (e : Entity) (s : Scene) : Scene :=
  { s.modify id (fun e => { e with memory := .empty }) with
    machine := s.machine.bind l.strings l.powOrder, memory := e.memory }

/-- The scene that a pass leaves, given the one that the program left: the counters return to the
    entity. -/
def passed (id : EntityId) (memory : BlockMemory) (t : Scene) : Scene :=
  { t.modify id (fun e => { e with memory := t.memory }) with memory := memory }

theorem withOwnMemory_of_ok {α : Type} {action : Act α} {a : α}
    (present : s.roster.get? id = some e)
    (run : action { s.modify id (fun e => { e with memory := .empty }) with memory := e.memory } =
      .ok a t) :
    withOwnMemory id action s = .ok a (passed id s.memory t) := by
  refine (bind_of_ok (entity_of_get? present)).trans ?_
  refine (bind_of_ok (update_of_get? _ present)).trans ?_
  refine withMemory_of_ok (t := t.modify id fun e => { e with memory := t.memory }) ?_
  dsimp only
  rw [run]
  rfl

theorem withOwnMemory_of_error {α : Type} {action : Act α}
    (present : s.roster.get? id = some e)
    (run : action { s.modify id (fun e => { e with memory := .empty }) with memory := e.memory } =
      .error f t) :
    withOwnMemory id action s = .error f (passed id s.memory t) := by
  refine (bind_of_ok (entity_of_get? present)).trans ?_
  refine (bind_of_ok (update_of_get? _ present)).trans ?_
  refine withMemory_of_error (t := t.modify id fun e => { e with memory := t.memory }) ?_
  dsimp only
  rw [run]
  rfl

section

variable {l : Library} {p : StateProgram}

/-- Without a program nothing happens. -/
theorem runPass_of_none (present : s.roster.get? id = some e)
    (none : g.program? e.state.owner e.state.number = none) :
    g.runPass id s = .ok .settled s := by
  refine (bind_of_ok (entity_of_get? present)).trans ?_
  rw [none]
  rfl

/-- After its program a pass only looks at what became of the entity. -/
theorem runPass_of_run {stopped : Bool} (present : s.roster.get? id = some e)
    (found : g.program? e.state.owner e.state.number = some (l, p))
    (run : p.run id (passScene l id e s) = .ok stopped t) :
    g.runPass id s = (do
      match (← Act.roster).get? id with
      | none => return .destroyed
      | some e =>
        match stopped, e.pending with
        | true, some q => return .asked q
        | _, _ => return .settled : Act PassEnd) (passed id s.memory t) := by
  let bound : Scene := { s with machine := s.machine.bind l.strings l.powOrder }
  have own : withOwnMemory id (p.run id) bound = .ok stopped (passed id s.memory t) :=
    withOwnMemory_of_ok present run
  refine (bind_of_ok (entity_of_get? present)).trans ?_
  rw [found]
  exact (bind_of_ok (t := bound) rfl).trans (bind_of_ok own)

theorem runPass_of_ok {stopped : Bool} (present : s.roster.get? id = some e)
    (found : g.program? e.state.owner e.state.number = some (l, p))
    (run : p.run id (passScene l id e s) = .ok stopped t) :
    ∃ ending, g.runPass id s = .ok ending (passed id s.memory t) := by
  rw [runPass_of_run present found run, bind_of_ok (roster_run _)]
  cases (passed id s.memory t).roster.get? id with
  | none => exact ⟨.destroyed, rfl⟩
  | some left =>
    cases stopped with
    | false => exact ⟨.settled, rfl⟩
    | true =>
      dsimp only
      cases left.pending with
      | some q => exact ⟨.asked q, rfl⟩
      | none => exact ⟨.settled, rfl⟩

/-- A fault of the program is the fault of the pass. -/
theorem runPass_of_error (present : s.roster.get? id = some e)
    (found : g.program? e.state.owner e.state.number = some (l, p))
    (run : p.run id (passScene l id e s) = .error f t) :
    g.runPass id s = .error f (passed id s.memory t) := by
  let bound : Scene := { s with machine := s.machine.bind l.strings l.powOrder }
  have own : withOwnMemory id (p.run id) bound = .error f (passed id s.memory t) :=
    withOwnMemory_of_error present run
  refine (bind_of_ok (entity_of_get? present)).trans ?_
  rw [found]
  exact (bind_of_ok (t := bound) rfl).trans (bind_of_error own)

end

/-! ## Entering a state -/

/-- **Ready for a pass**: an operand may be left only for a program that runs next. -/
structure Ready (g : Engine) (id : EntityId) (s : Scene) : Prop where
  windows : s.machine.windows = .empty
  signal : s.machine.signal = none
  stack : s.machine.stack = [] ∨
    ∃ e program, s.roster.get? id = some e ∧ g.program? e.state.owner e.state.number = some program

theorem ready_of_atRest (rest : s.machine.AtRest) : Ready g id s :=
  ⟨rest.windows, rest.signal, .inl rest.stack⟩

/-- What a request applies when the state was entered. -/
def finish (q : StateRequest) (e : Entity) : Entity :=
  let e := match q.anim with
    | some anim => e.setAnim anim 1
    | none => e
  match q.ctrl with
  | some ctrl => { e with ctrl := ctrl }
  | none => e

theorem edited_finish (q : StateRequest) (e : Entity) : e.Edited (finish q e) := by
  have animated : e.Edited (match q.anim with
      | some anim => e.setAnim anim 1
      | none => e) := by
    cases q.anim with
    | some anim => exact .setAnim e anim 1
    | none => exact .aside rfl
  unfold finish
  cases q.ctrl with
  | some ctrl => exact animated.trans (.aside rfl)
  | none => exact animated

/-- **What entering leaves**: windows and signal as they were, the entity in the state that was
    asked for, and no operand if that state has no program. -/
theorem enter_leaves {q : StateRequest} (present : s.roster.get? id = some e)
    (run : g.enter id q s = .ok () t) :
    t.machine.windows = s.machine.windows ∧ t.machine.signal = s.machine.signal ∧
    t.roster.program? id = some (q.owner.getD e.state.owner, q.number) ∧
    (g.program? (q.owner.getD e.state.owner) q.number = none →
      t.machine.stack = s.machine.stack) := by
  let asked := s.modify id (applyRequest q)
  have applied : asked.roster.get? id = some (applyRequest q e) := by
    show (s.roster.modify id (applyRequest q)).get? id = _
    rw [Roster.get?_modify, if_pos rfl, present]
    rfl
  have owner : (applyRequest q e).state.owner = q.owner.getD e.state.owner := rfl
  -- windows, signal and the program asked for are kept by all that follows
  have kept (leaves : (Footprint.entering id).allows asked t) :
      t.machine.windows = s.machine.windows ∧ t.machine.signal = s.machine.signal ∧
      t.roster.program? id = some (q.owner.getD e.state.owner, q.number) := by
    have program : asked.roster.program? id = some (q.owner.getD e.state.owner, q.number) := by
      rw [Roster.program?, applied]
      rfl
    exact ⟨congrArg (·.1) leaves, congrArg (·.2.1) leaves, (congrArg (·.2.2) leaves).trans program⟩
  have entries : (Footprint.entering id).AllowsEntries := Footprint.allowsEntries_entering
  have finished : (Footprint.entering id).Keeps (Act.update id (finish q)) :=
    entries.update id (edited_finish q)
  cases found : g.program? (q.owner.getD e.state.owner) q.number with
  | some library =>
    have after : g.enter id q s = (do
        bindLibrary library.1
        library.2.enter id
        Act.update id (finish q)) asked := by
      refine (bind_of_ok (update_of_get? _ present)).trans ?_
      refine (bind_of_ok (entity_of_get? applied)).trans ?_
      rw [owner, found]
      rfl
    have bound : (Footprint.entering id).Keeps (bindLibrary library.1) := fun _ => rfl
    have leaves := (bound.bind fun _ => (entries.enter id library.2).bind fun _ => finished).ok
      (after.symm.trans run)
    obtain ⟨windows, signal, program⟩ := kept leaves
    exact ⟨windows, signal, program, fun missing => by cases missing⟩
  | none =>
    have after : g.enter id q s = (do
        Act.update id fun e => { e with memory := .empty }
        Act.update id (finish q)) asked := by
      refine (bind_of_ok (update_of_get? _ present)).trans ?_
      refine (bind_of_ok (entity_of_get? applied)).trans ?_
      rw [owner, found]
      rfl
    have emptied : (Footprint.entering id).Keeps
        (Act.update id fun e => { e with memory := .empty }) := entries.update id fun _ => .aside rfl
    obtain ⟨windows, signal, program⟩ :=
      kept ((emptied.bind fun _ => finished).ok (after.symm.trans run))
    have machine : (Footprint.fixing Scene.machine).allows asked t :=
      ((Footprint.keeps_update fun _ => rfl).bind fun _ => Footprint.keeps_update fun _ => rfl).ok
        (after.symm.trans run)
    exact ⟨windows, signal, program, fun _ => congrArg Machine.stack machine⟩

/-! ## Turns -/

/-- **A pass that does not fault leaves the machine at rest.** -/
theorem ends_runPass (ready : Ready g id s) :
    Ends (g.runPass id) s (fun _ t => t.machine.AtRest) fun _ _ => True := by
  refine Ends.of_ok fun ending t run => ?_
  obtain ⟨e, present, -⟩ := exists_of_entity_bind run
  cases found : g.program? e.state.owner e.state.number with
  | none =>
    rw [runPass_of_none present found] at run
    cases run
    -- no program runs next, so nothing can have been left for one
    have stack : s.machine.stack = [] := by
      rcases ready.stack with empty | ⟨e', program, present', found'⟩
      · exact empty
      · obtain rfl : e = e' := Option.some.inj (present.symm.trans present')
        rw [found] at found'
        cases found'
    exact ⟨stack, ready.windows, ready.signal⟩
  | some library =>
    have windows : (passScene library.1 id e s).machine.windows = .empty := ready.windows
    cases ran : library.2.run id (passScene library.1 id e s) with
    | error f u =>
      rw [runPass_of_error present found ran] at run
      cases run
    | ok stopped u =>
      obtain ⟨ending', passes⟩ := runPass_of_ok present found ran
      rw [passes] at run
      cases run
      have rest := StateProgram.atRest_of_run windows ran
      exact ⟨rest.stack, rest.windows, rest.signal⟩

/-- **Entering leaves everything ready for a pass.** -/
theorem ends_enter {q : StateRequest} (rest : s.machine.AtRest) :
    Ends (g.enter id q) s (fun _ t => Ready g id t) fun _ _ => True := by
  refine Ends.of_ok fun _ t run => ?_
  obtain ⟨e, present, -⟩ := exists_of_update_bind run
  obtain ⟨windows, signal, program, without⟩ := enter_leaves present run
  refine ⟨windows.trans rest.windows, signal.trans rest.signal, ?_⟩
  obtain ⟨e', present', program⟩ := Option.map_eq_some_iff.mp program
  have owner : e'.state.owner = q.owner.getD e.state.owner := congrArg (·.1) program
  have number : e'.state.number = q.number := congrArg (·.2) program
  cases found : g.program? (q.owner.getD e.state.owner) q.number with
  | none => exact .inl ((without found).trans rest.stack)
  | some library =>
    rw [← owner, ← number] at found
    exact .inr ⟨e', library, present', found⟩

theorem ends_runPasses (left : Nat) (ready : Ready g id s) :
    Ends (g.runPasses id left) s (fun _ t => t.machine.AtRest) fun _ _ => True := by
  -- on the entries that are left: a pass leaves the machine at rest, and so an entry finds it
  induction left generalizing s with
  | zero =>
    refine Ends.bind ((ends_runPass ready).mono (fun ending t rest => ?_) fun _ _ _ => trivial)
    cases ending with
    | settled => exact rest
    | destroyed => exact rest
    | asked q => exact rest
  | succ left ih =>
    refine Ends.bind ((ends_runPass ready).mono (fun ending t rest => ?_) fun _ _ _ => trivial)
    cases ending with
    | settled => exact rest
    | destroyed => exact rest
    | asked q =>
      exact Ends.bind ((ends_enter rest).mono (fun _ u ready => ih ready) fun _ _ _ => trivial)

/-- Following an anchor is no matter of the machine. -/
theorem keeps_followBinding (id : EntityId) :
    (Footprint.fixing Scene.machine).Keeps (followBinding id) := by
  refine (Footprint.keeps_entity id).bind fun e => ?_
  cases e.binding with
  | none => exact .pure _
  | some b =>
    refine Footprint.keeps_roster.bind fun r => ?_
    cases r.get? b.anchor with
    | none => exact Footprint.keeps_update fun _ => rfl
    | some anchor => exact Footprint.keeps_update fun _ => rfl

/-- **A turn that does not fault leaves the machine at rest.** -/
theorem ends_turn (rest : s.machine.AtRest) :
    Ends (g.turn id) s (fun _ t => t.machine.AtRest) fun _ _ => True := by
  -- what follows the passes leaves the machine alone
  have finish (left : Nat) {u : Scene} (ready : Ready g id u) :
      Ends (do
        let ending ← g.runPasses id left
        if ending = .destroyed then return .destroyed
        followBinding id
        Act.update id fun e => { e with state := { e.state with time := e.state.time + 1 } }
        return ending : Act TurnEnd) u (fun _ t => t.machine.AtRest) fun _ _ => True := by
    refine Ends.bind ((ends_runPasses left ready).mono (fun ending t rest => ?_)
      fun _ _ _ => trivial)
    have same : (Footprint.fixing Scene.machine).Keeps (do
        if ending = .destroyed then return .destroyed
        followBinding id
        Act.update id fun e => { e with state := { e.state with time := e.state.time + 1 } }
        return ending : Act TurnEnd) :=
      .ite (.pure _) ((keeps_followBinding id).bind fun _ =>
        (Footprint.keeps_update fun _ => rfl).bind fun _ => .pure _)
    refine (same t).mono (fun _ x machine => ?_) fun _ _ _ => trivial
    have machine : x.machine = t.machine := machine
    rwa [machine]
  refine Ends.bind (ends_update (fun _ _ => ?_) trivial)
  refine Ends.bind (ends_entity (fun e _ => ?_) trivial)
  have rest : (s.modify id fun e => { e with posFreeze := false }).machine.AtRest :=
    ⟨rest.stack, rest.windows, rest.signal⟩
  dsimp only
  cases e.pending with
  | none => exact finish _ (ready_of_atRest rest)
  | some q =>
    exact Ends.bind ((ends_enter rest).mono (fun _ t ready => finish _ ready) fun _ _ _ => trivial)

/-! ## Ticks -/

/-- **Between turns the machine is at rest**, whatever becomes of a turn. -/
theorem atRest_step (report : TickReport) (id : EntityId) (rest : s.machine.AtRest) :
    (g.step (report, s) id).2.machine.AtRest := by
  unfold step
  dsimp only
  split
  -- a live entity has its turn; a fault of it resets the machine
  · cases run : g.turn id s with
    | ok ending t => exact (ends_turn rest).ok run
    | error f t => exact Machine.atRest_reset t.machine
  · exact rest

theorem atRest_steps (ids : List EntityId) (report : TickReport) (rest : s.machine.AtRest) :
    (ids.foldl g.step (report, s)).2.machine.AtRest := by
  induction ids generalizing report s with
  | nil => exact rest
  | cons id others ih =>
    rw [List.foldl_cons]
    exact ih _ (atRest_step report id rest)

end Engine
end TickScript
