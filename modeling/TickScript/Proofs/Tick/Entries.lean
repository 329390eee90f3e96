import TickScript.Proofs.Tick.Rest

/-! # Nothing that the entry step leaves is lost

    The values that the entry step of a state leaves on the stack belong to the program that runs
    next, which is the program of that state.  Its block starts with them.  If it ends without a
    fault and values are left, the run ends with the fault that lists them, and that is the fault
    of the pass, of the passes around it and of the turn, which reports it for the entity.  If the
    block ends with a fault of its own, the turn reports that one, and the values go with the reset
    of the machine.
-/

namespace TickScript
namespace Engine

variable {g : Engine} {s t : Scene} {id : EntityId} {e : Entity} {f : Fault}

/-! ## The pass after an entry -/

/-- Programs are found by the number of their state. -/
theorem number_of_program? {owner : Nat} {number : Int32} {l : Library} {p : StateProgram}
    (found : g.program? owner number = some (l, p)) : p.number = number := by
  unfold program? at found
  obtain ⟨library, -, found⟩ := Option.bind_eq_some_iff.mp found
  obtain ⟨program, here, same⟩ := Option.bind_eq_some_iff.mp found
  cases same
  have number := List.find?_some here
  exact eq_of_beq number

theorem runPasses_of_error (fault : g.runPass id s = .error f t) (left : Nat) :
    g.runPasses id left s = .error f t := by
  cases left with
  | zero => exact bind_of_error fault
  | succ left => exact bind_of_error fault

/-- The values that the entry step left are there when the block of the program starts.  A fault
    of the block ends the passes; so do values that are left at its end, and then they are
    reported. -/
theorem runPasses_of_enter {q : StateRequest} {l : Library} {p : StateProgram}
    (present : s.roster.get? id = some e) (entered : g.enter id q s = .ok () t)
    (found : g.program? (q.owner.getD e.state.owner) q.number = some (l, p)) :
    ∃ e', t.roster.get? id = some e' ∧ ∀ left,
      match p.block.run id (p.opened (passScene l id e' t)) with
      | .error f _ => ∃ x, g.runPasses id left t = .error f x
      | .ok _ u => u.machine.stack ≠ [] → ∃ x, g.runPasses id left t =
          .error (.stackImbalance q.number u.machine.stack.bottomFirst) x := by
  obtain ⟨-, -, program, -⟩ := enter_leaves present entered
  obtain ⟨e', present', program⟩ := Option.map_eq_some_iff.mp program
  have owner : e'.state.owner = q.owner.getD e.state.owner := congrArg (·.1) program
  have number : e'.state.number = q.number := congrArg (·.2) program
  have found' : g.program? e'.state.owner e'.state.number = some (l, p) := by
    rw [owner, number]
    exact found
  refine ⟨e', present', fun left => ?_⟩
  -- the run is decided by the block, and a fault of it by what was on the stack at its end
  have ran := p.run_eq id (passScene l id e' t)
  cases ended : p.block.run id (p.opened (passScene l id e' t)) with
  | error f u =>
    rw [ended] at ran
    exact ⟨_, runPasses_of_error (runPass_of_error present' found' ran) left⟩
  | ok stopped u =>
    intro values
    rw [ended] at ran
    dsimp only at ran
    rw [if_neg values, number_of_program? found] at ran
    exact ⟨_, runPasses_of_error (runPass_of_error present' found' ran) left⟩

/-! ## The entries of a turn -/

/-- **Entries of passes**: from a scene, and with so many entries left, they come to enter the
    state that `q` asks for, in the scene `s`. -/
inductive PassesEnter (g : Engine) (id : EntityId) (q : StateRequest) (s : Scene) :
    (left : Nat) → (start : Scene) → Prop where
  | now {start : Scene} {left : Nat} (asked : g.runPass id start = .ok (.asked q) s) :
    PassesEnter g id q s (left + 1) start
  | later {start t u : Scene} {left : Nat} {q' : StateRequest}
      (asked : g.runPass id start = .ok (.asked q') t) (entered : g.enter id q' t = .ok () u)
      (others : PassesEnter g id q s left u) : PassesEnter g id q s (left + 1) start

/-- The scene in which a turn looks for a pending request. -/
def awake (id : EntityId) (s : Scene) : Scene := s.modify id fun e => { e with posFreeze := false }

/-- **Entries of a turn**: the one that was pending at its start, and those of its passes. -/
inductive Enters (g : Engine) (id : EntityId) (q : StateRequest) (s start : Scene) : Prop where
  | pending {e : Entity} (present : (awake id start).roster.get? id = some e)
      (asked : e.pending = some q) (first : s = awake id start)
  | afterPending {e : Entity} {q' : StateRequest} {t : Scene}
      (present : (awake id start).roster.get? id = some e) (asked : e.pending = some q')
      (entered : g.enter id q' (awake id start) = .ok () t)
      (others : PassesEnter g id q s (g.settings.maxStateChanges.toNat - 1) t)
  | inPasses {e : Entity} (present : (awake id start).roster.get? id = some e)
      (quiet : e.pending = none)
      (others : PassesEnter g id q s g.settings.maxStateChanges.toNat (awake id start))

section

variable {q : StateRequest} {start : Scene} {left : Nat}

theorem PassesEnter.atRest (h : PassesEnter g id q s left start) (ready : Ready g id start) :
    s.machine.AtRest := by
  -- on the entries before: each finds the machine at rest and leaves it ready for the next pass
  induction h with
  | now asked => exact (ends_runPass ready).ok asked
  | later asked entered others ih =>
    exact ih ((ends_enter ((ends_runPass ready).ok asked)).ok entered)

/-- A fault that follows on an entry is the fault of all passes. -/
theorem PassesEnter.runPasses_of_error (h : PassesEnter g id q s left start)
    (fault : ∀ left, ∃ x, (do g.enter id q; g.runPasses id left : Act TurnEnd) s = .error f x) :
    ∃ x, g.runPasses id left start = .error f x := by
  -- a fault of later passes passes through the earlier ones
  induction h with
  | @now start left asked =>
    obtain ⟨x, failed⟩ := fault left
    exact ⟨x, (bind_of_ok asked).trans failed⟩
  | later asked entered others ih =>
    obtain ⟨x, failed⟩ := ih
    exact ⟨x, (bind_of_ok asked).trans ((bind_of_ok entered).trans failed)⟩

theorem live_of_awake (present : (awake id start).roster.get? id = some e) :
    ∃ e, start.roster.get? id = some e := by
  have modified : (awake id start).roster.get? id =
      (start.roster.get? id).map fun e => { e with posFreeze := false } := by
    show (start.roster.modify id _).get? id = _
    rw [Roster.get?_modify, if_pos rfl]
  rw [modified] at present
  obtain ⟨e', live, -⟩ := Option.map_eq_some_iff.mp present
  exact ⟨e', live⟩

theorem atRest_awake (rest : start.machine.AtRest) : (awake id start).machine.AtRest :=
  ⟨rest.stack, rest.windows, rest.signal⟩

theorem Enters.live (h : Enters g id q s start) : start.roster.isLive id := by
  have present : ∃ e, (awake id start).roster.get? id = some e := by
    cases h with
    | pending present => exact ⟨_, present⟩
    | afterPending present => exact ⟨_, present⟩
    | inPasses present => exact ⟨_, present⟩
  obtain ⟨e, present⟩ := present
  obtain ⟨e', live⟩ := live_of_awake present
  rw [Roster.isLive, live]
  rfl

theorem Enters.atRest (h : Enters g id q s start) (rest : start.machine.AtRest) :
    s.machine.AtRest := by
  cases h with
  | pending present asked first =>
    rw [first]
    exact atRest_awake rest
  | afterPending present asked entered others =>
    exact others.atRest ((ends_enter (atRest_awake rest)).ok entered)
  | inPasses present quiet others => exact others.atRest (ready_of_atRest (atRest_awake rest))

/-- Without a pending request the passes begin at once. -/
theorem turn_of_quiet (present : (awake id start).roster.get? id = some e)
    (quiet : e.pending = none)
    (fault : g.runPasses id g.settings.maxStateChanges.toNat (awake id start) = .error f t) :
    g.turn id start = .error f t := by
  obtain ⟨e', live⟩ := live_of_awake present
  refine (bind_of_ok (update_of_get? _ live)).trans ?_
  refine (bind_of_ok (entity_of_get? present)).trans ?_
  rw [quiet]
  exact (bind_of_ok (t := awake id start) rfl).trans (bind_of_error fault)

/-- A pending request is entered before the passes. -/
theorem turn_of_pending (present : (awake id start).roster.get? id = some e)
    (asked : e.pending = some q)
    (fault : (do g.enter id q; g.runPasses id (g.settings.maxStateChanges.toNat - 1) : Act TurnEnd)
      (awake id start) = .error f t) :
    g.turn id start = .error f t := by
  obtain ⟨e', live⟩ := live_of_awake present
  refine (bind_of_ok (update_of_get? _ live)).trans ?_
  refine (bind_of_ok (entity_of_get? present)).trans ?_
  rw [asked]
  cases entered : g.enter id q (awake id start) with
  | error f' u =>
    rw [bind_of_error entered] at fault
    exact (bind_of_error entered).trans fault
  | ok _ u =>
    rw [bind_of_ok entered] at fault
    refine (bind_of_ok entered).trans ?_
    exact (bind_of_ok (t := u) rfl).trans (bind_of_error fault)

/-- A fault that follows on an entry is the fault of the turn. -/
theorem Enters.turn_of_error (h : Enters g id q s start)
    (fault : ∀ left, ∃ x, (do g.enter id q; g.runPasses id left : Act TurnEnd) s = .error f x) :
    ∃ x, g.turn id start = .error f x := by
  cases h with
  | pending present asked first =>
    obtain ⟨x, failed⟩ := fault (g.settings.maxStateChanges.toNat - 1)
    rw [first] at failed
    exact ⟨x, turn_of_pending present asked failed⟩
  | afterPending present asked entered others =>
    obtain ⟨x, failed⟩ := others.runPasses_of_error fault
    exact ⟨x, turn_of_pending present asked ((bind_of_ok entered).trans failed)⟩
  | inPasses present quiet others =>
    obtain ⟨x, failed⟩ := others.runPasses_of_error fault
    exact ⟨x, turn_of_quiet present quiet failed⟩

end

/-! ## Reports -/

/-- **Reported**: the turn that starts from a scene adds one fault to the report, for its entity. -/
def Reports (g : Engine) (id : EntityId) (start : Scene) (f : Fault) : Prop :=
  ∀ report, ∃ a : Abort, a.id = id ∧ a.fault = f ∧
    (g.step (report, start) id).1.aborted = report.aborted ++ [a]

/-- A turn that faults is reported. -/
theorem aborted_step {report : TickReport} (live : s.roster.isLive id)
    (fault : g.turn id s = .error f t) :
    (g.step (report, s) id).1.aborted = report.aborted ++ [abort t.roster id f] := by
  simp only [step, live, fault, if_true]

theorem reports_of_turn {start : Scene} (live : start.roster.isLive id)
    (fault : g.turn id start = .error f t) : Reports g id start f := by
  intro report
  refine ⟨abort t.roster id f, ?_, ?_, aborted_step live fault⟩
  · unfold abort
    split <;> rfl
  · unfold abort
    split <;> rfl

/-! ## Accounts -/

/-- **Accounted for**: what becomes of the values that an entry in the scene `s` leaves.  A fault
    of the entry is reported.  Without a program no code runs, and nothing is left.  With one, its
    block starts with the values on the stack; if a fault ends it, that is what is reported, and
    if it ends with values on the stack, then these are. -/
def Accounted (g : Engine) (id : EntityId) (q : StateRequest) (s start : Scene) : Prop :=
  match g.enter id q s with
  | .error f _ => Reports g id start f
  | .ok _ t => ∃ e, s.roster.get? id = some e ∧
    match g.program? (q.owner.getD e.state.owner) q.number with
    | none => t.machine.stack = []
    | some (l, p) => ∃ e' u, t.roster.get? id = some e' ∧ u = p.opened (passScene l id e' t) ∧
      u.machine.stack = t.machine.stack ∧
      match p.block.run id u with
      | .error f _ => Reports g id start f
      | .ok _ v => v.machine.stack ≠ [] →
          Reports g id start (.stackImbalance q.number v.machine.stack.bottomFirst)

/-- **Every entry of a turn is accounted for.** -/
theorem Enters.accounted {q : StateRequest} {start : Scene} (h : Enters g id q s start)
    (rest : start.machine.AtRest) : Accounted g id q s start := by
  have reported {f : Fault} (fault : ∀ left, ∃ x,
      (do g.enter id q; g.runPasses id left : Act TurnEnd) s = .error f x) :
      Reports g id start f := by
    obtain ⟨x, failed⟩ := h.turn_of_error fault
    exact reports_of_turn h.live failed
  unfold Accounted
  cases entered : g.enter id q s with
  | error f t => exact reported fun left => ⟨t, bind_of_error entered⟩
  | ok _ t =>
    obtain ⟨e, present, -⟩ := exists_of_update_bind entered
    refine ⟨e, present, ?_⟩
    cases found : g.program? (q.owner.getD e.state.owner) q.number with
    | none =>
      obtain ⟨-, -, -, without⟩ := enter_leaves present entered
      exact (without found).trans (h.atRest rest).stack
    | some library =>
      obtain ⟨e', present', passes⟩ := runPasses_of_enter present entered found
      refine ⟨e', _, present', rfl, rfl, ?_⟩
      split
      case h_1 f u ended =>
        refine reported fun left => ?_
        have fault := passes left
        rw [ended] at fault
        obtain ⟨x, fault⟩ := fault
        exact ⟨x, (bind_of_ok entered).trans fault⟩
      case h_2 stopped u ended =>
        intro values
        refine reported fun left => ?_
        have fault := passes left
        rw [ended] at fault
        obtain ⟨x, fault⟩ := fault values
        exact ⟨x, (bind_of_ok entered).trans fault⟩

/-- **Scratch state never leaks out of a turn.**  A tick that starts at rest ends at rest, and the
    machine is at rest between any two turns, whether a turn was completed or limited, removed
    its entity or was cut short by a fault.  In particular no value that the entry step of a state
    leaves on the stack outlives the turn: all of them are accounted for. -/
theorem tick_rests (g : Engine) (s : Scene) (rest : s.machine.AtRest) :
    (g.tick s).2.machine.AtRest ∧
    ∀ report n, let between := ((s.roster.runOrder.take n).foldl g.step (report, s)).2
      between.machine.AtRest ∧ ∀ id q u, Enters g id q u between → Accounted g id q u between := by
  have turns (report : TickReport) (ids : List EntityId) :
      (ids.foldl g.step (report, s)).2.machine.AtRest := atRest_steps ids report rest
  constructor
  · have ended := turns ⟨s.roster.gameTime, [], [], []⟩ s.roster.runOrder
    exact ⟨ended.stack, ended.windows, ended.signal⟩
  · intro report n between
    exact ⟨turns report _, fun id q u h => h.accounted (turns report _)⟩

/-- An engine with one program, whose entry step computes two values and uses one. -/
def leaky (body : List Controller) : Engine :=
  let entry := ArgBlock.ofRecords [⟨EntryTag.ctrl, [Expression.int 1 ++ Expression.int 2]⟩]
  let p : StateProgram := ⟨5, none, none, none, entry, .plain body, 0, 0, 0⟩
  (Engine.ofSettings .empty).addLibrary 1 ((Library.empty .empty 1).insert p)

/-- A player asks for the state of that program. -/
def asking : Scene where
  machine := .fresh 10 ""
  roster := ((Roster.ofSeed 0).addPlayer 1 "").1.modify 0 fun e => { e with pending := some (.plain 5) }
  files := .empty
  console := []
  memory := .empty

/-- The value that is left is reported, and the next tick starts at rest. -/
theorem tick_rests_leaky :
    asking.machine.AtRest ∧ ((leaky []).tick asking).2.machine.AtRest ∧
    ((leaky []).tick asking).1.aborted = [⟨0, 5, 1, .stackImbalance 5 [.int 1]⟩] := by
  have rest : asking.machine.AtRest := ⟨rfl, rfl, rfl⟩
  exact ⟨rest, (tick_rests (leaky []) asking rest).1, by decide +kernel⟩

/-- A fault of the block comes before the report: the value is still on the stack when the turn
    ends, and the fault is all that is reported. -/
theorem tick_drops_operand :
    asking.machine.AtRest ∧ Enters (leaky [.evaluate [0xff]]) 0 (.plain 5) (awake 0 asking) asking ∧
    Ends ((leaky [.evaluate [0xff]]).enter 0 (.plain 5)) (awake 0 asking)
      (fun _ t => t.machine.stack = [.int 1]) (fun _ _ => False) ∧
    Ends ((leaky [.evaluate [0xff]]).turn 0) asking (fun _ _ => False)
      (fun f t => f = .unknownOpcode 0xff 0 ∧ t.machine.stack = [.int 1]) ∧
    ((leaky [.evaluate [0xff]]).tick asking).1.aborted = [⟨0, 5, 1, .unknownOpcode 0xff 0⟩] := by
  have entered : Enters (leaky [.evaluate [0xff]]) 0 (.plain 5) (awake 0 asking) asking :=
    .pending (e := _) rfl rfl rfl
  refine ⟨⟨rfl, rfl, rfl⟩, entered, ?_, ?_, ?_⟩
  · decide +kernel
  · decide +kernel
  · decide +kernel

end Engine
end TickScript
