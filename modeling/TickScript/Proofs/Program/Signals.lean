import TickScript.Proofs.Program.Started
import TickScript.Proofs.Program.State

/-! # Loop signals

    A controller asks to unwind for one of two reasons: a loop signal was raised, or the entity
    changed state or was removed.  Only the signal slot tells them apart, so everything hangs on
    there being no signal in it that is left over.

    The invariant that carries this through blocks, loops and calls is `Orderly`.  Started with no
    signal pending, a run starts its controllers with none pending, and it leaves one behind only
    if it asks to unwind and one was raised in it.  A loop leaves none behind at all.  When a
    controller asks to unwind, then so does the run around it, at once, up to the next loop or
    call.
-/

namespace TickScript

/-- No loop signal is pending. -/
def Scene.Quiet (s : Scene) : Prop := s.machine.signal = none

instance (s : Scene) : Decidable s.Quiet := inferInstanceAs (Decidable (s.machine.signal = none))

/-! ## Gates and bounds -/

namespace Footprint

variable {F : Footprint Scene}

theorem keeps_isHeld (id : EntityId) (ignoresPause : Bool) (c : Controller) :
    F.Keeps (c.isHeld id ignoresPause) :=
  .ite (.pure _) (keeps_isPaused id)

namespace AllowsEffects

variable (h : F.AllowsEffects) (id : EntityId)

include h

theorem opens (pause : PauseMode) (persistence : Option Persistence) :
    F.Keeps (Block.opens pause persistence id) :=
  (h.passesPause id pause).bind fun _ => .ite (h.isDue persistence) (.pure _)

theorem bounds (assign : ∀ slot v, F.Keeps (Act.onWindows fun w => w.set slot v))
    (loop : ForLoop) : F.Keeps (Block.bounds loop id) := by
  have others (start : Int32) : F.Keeps (do
      let stop := (← Act.evaluate loop.stop id).toInt32
      let step := (← Act.evaluate loop.step id).toInt32
      return (start, stop, step, (← Act.machine).loopLimit)) :=
    (h.evaluate _ id).bind fun _ => (h.evaluate _ id).bind fun _ => keeps_machine.bind fun _ =>
      .pure _
  refine (h.evaluate loop.start id).bind fun start => ?_
  dsimp only
  split
  · exact others start.toInt32
  · exact (assign _ _).bind fun _ => others start.toInt32

end AllowsEffects
end Footprint

/-! ## What raises no signal -/

namespace Footprint

/-- The changes that concern other things than the pending signal. -/
def signal : Footprint Scene := fixing fun s => s.machine.signal

theorem allowsEffects_signal : signal.AllowsEffects where
  aside same _ := congrArg Machine.signal same
  deed _ _ _ := rfl
  evaluate := keeps_evaluate fun _ _ => rfl

theorem keeps_onWindows_signal (g : Windows → Except Fault Windows) :
    signal.Keeps (Act.onWindows g) :=
  fun _ => ends_onWindows (fun _ _ => rfl) fun _ _ => rfl

theorem allowsOperands_signal : signal.AllowsOperands := fun _ _ => rfl

theorem keeps_takeArguments_signal (count : Nat) :
    signal.Keeps (Function.takeArguments count) :=
  allowsOperands_signal.takeArguments (fun _ _ => keeps_onWindows_signal _) count

/-- What keeps the signal leaves none pending where none was. -/
theorem Keeps.quiet {α : Type} {x : Act α} (kept : signal.Keeps x) {s t : Scene} {a : α}
    (quiet : s.Quiet) (run : x s = .ok a t) : t.Quiet :=
  (kept.ok run).trans quiet

end Footprint

/-! ## Orderly runs -/

open Footprint (signal)

/-- **An orderly run**, of which it is known what it starts.  `level` is how many loops and calls
    are around the controllers that it starts, inner loops and calls apart, and `caught` says
    whether the run is a loop, which catches their signals. -/
structure Orderly (id : EntityId) (level : Nat) (caught : Prop) (run : Act Bool)
    (starts : Scene → List Started) : Prop where
  level_le : ∀ {s x}, x ∈ starts s → level ≤ x.depth
  /-- Controllers are started with no signal pending. -/
  quiet : ∀ {s x}, s.Quiet → x ∈ starts s → x.scene.Quiet
  /-- A signal is left pending only if the run asks to unwind and one was raised in it. -/
  settles : ∀ {s t stops}, s.Quiet → run s = .ok stops t →
    (caught ∨ stops = false ∨ ∀ x ∈ starts s, ¬ x.Signals) → t.Quiet
  /-- A controller that asks to unwind, in a loop without a signal, ends the run. -/
  unwinds : ∀ {s x t}, s.Quiet → x ∈ starts s → x.depth = level →
    x.controller.run id x.scene = .ok true t → (caught → t.Quiet) →
    run s = .ok true t ∧ x.controller.starts id level x.scene <:+ starts s

namespace Orderly

variable {α : Type} {id : EntityId} {level : Nat} {caught : Prop} {run next : Act Bool}
  {starts nextStarts : Scene → List Started}

/-- A run that starts nothing and raises nothing. -/
theorem still (kept : signal.Keeps run) : Orderly id level caught run Started.nothing where
  level_le := nofun
  quiet := nofun
  settles quiet ran _ := kept.quiet quiet ran
  unwinds := nofun

theorem ite {c : Prop} [Decidable c] (first : Orderly id level caught run starts)
    (second : Orderly id level caught next nextStarts) :
    Orderly id level caught (if c then run else next) (if c then starts else nextStarts) := by
  split
  · exact first
  · exact second

/-- An action before the run. -/
theorem after {x : Act α} (kept : signal.Keeps x) {f : α → Act Bool}
    {g : α → Scene → List Started} (h : ∀ a, Orderly id level caught (f a) (g a)) :
    Orderly id level caught (x >>= f) (x.thenStarts g) where
  level_le i := by
    obtain ⟨a, _, _, i⟩ := Act.mem_thenStarts i
    exact (h a).level_le i
  quiet quiet i := by
    obtain ⟨a, u, first, i⟩ := Act.mem_thenStarts i
    exact (h a).quiet (kept.quiet quiet first) i
  settles quiet ran unraised := by
    obtain ⟨a, u, first, ran⟩ := exists_of_bind ran
    rw [Act.thenStarts_of_ok first] at unraised
    exact (h a).settles (kept.quiet quiet first) ran unraised
  unwinds quiet i near asked settled := by
    obtain ⟨a, u, first, i⟩ := Act.mem_thenStarts i
    rw [bind_of_ok first, Act.thenStarts_of_ok first]
    exact (h a).unwinds (kept.quiet quiet first) i near asked settled

/-- An action after the run, if that does not ask to unwind. -/
theorem before (h : Orderly id level caught run starts) {x : Act Bool} (kept : signal.Keeps x) :
    Orderly id level caught (do if ← run then return true else x) starts where
  level_le := h.level_le
  quiet := h.quiet
  settles quiet ran unraised := by
    obtain ⟨stops, u, first, ran⟩ := exists_of_bind ran
    cases stops with
    | true =>
      obtain ⟨rfl, rfl⟩ := EStateM.Result.ok.inj ran
      exact h.settles quiet first unraised
    | false => exact kept.quiet (h.settles quiet first (.inr (.inl rfl))) ran
  unwinds quiet i near asked settled := by
    obtain ⟨ran, suffix⟩ := h.unwinds quiet i near asked settled
    exact ⟨bind_of_ok ran, suffix⟩

theorem thenReload (h : Orderly id level caught run starts) (persistence : Option Persistence) :
    Orderly id level caught (Block.thenReload persistence run) starts :=
  h.before ((Footprint.allowsEffects_signal.reload persistence).bind fun _ => .pure _)

/-- **Two runs in a row**, the second one if the first does not ask to unwind. -/
theorem seq (first : Orderly id level False run starts)
    (second : Orderly id level False next nextStarts) :
    Orderly id level False (do if ← run then return true else next)
      (fun s => starts s ++
        run.thenStarts (fun stops => if stops then Started.nothing else nextStarts) s) where
  level_le i := by
    rcases List.mem_append.mp i with i | i
    · exact first.level_le i
    · obtain ⟨stops, _, _, i⟩ := Act.mem_thenStarts i
      cases stops with
      | true => cases i
      | false => exact second.level_le i
  quiet {s x} quiet i := by
    rcases List.mem_append.mp i with i | i
    · exact first.quiet quiet i
    · obtain ⟨stops, u, ran, i⟩ := Act.mem_thenStarts i
      cases stops with
      | true => cases i
      | false => exact second.quiet (first.settles quiet ran (.inr (.inl rfl))) i
  settles {s t stops} quiet ran unraised := by
    obtain ⟨stops', u, ran', ran⟩ := exists_of_bind ran
    rw [Act.thenStarts_of_ok ran'] at unraised
    -- a signal that the first run leaves was raised in it, and then the second is not reached
    have early (h : stops' = false ∨ ∀ x ∈ starts s, ¬ x.Signals) : u.Quiet :=
      first.settles quiet ran' (.inr h)
    cases stops' with
    | true =>
      obtain ⟨rfl, rfl⟩ := EStateM.Result.ok.inj ran
      refine early (.inr fun x i => ?_)
      rcases unraised with none | none | unraised
      · exact none.elim
      · cases none
      · exact unraised x (List.mem_append_left _ i)
    | false =>
      refine second.settles (early (.inl rfl)) ran ?_
      exact unraised.imp_right (.imp_right fun unraised x i =>
        unraised x (List.mem_append_right _ i))
  unwinds {s x t} quiet i near asked settled := by
    rcases List.mem_append.mp i with i | i
    · -- the first run asks to unwind, so the second one does not take place
      obtain ⟨ran, suffix⟩ := first.unwinds quiet i near asked settled
      refine ⟨bind_of_ok ran, ?_⟩
      rw [Act.thenStarts_of_ok ran]
      exact suffix.trans (List.append_nil _ ▸ List.suffix_refl _)
    · obtain ⟨stops, u, ran, i⟩ := Act.mem_thenStarts i
      cases stops with
      | true => cases i
      | false =>
        have quiet := first.settles quiet ran (.inr (.inl rfl))
        obtain ⟨ran', suffix⟩ := second.unwinds quiet i near asked settled
        rw [bind_of_ok ran, Act.thenStarts_of_ok ran]
        exact ⟨ran', suffix.trans (List.suffix_append _ _)⟩

/-- **A controller** that does what an orderly run does, and is the first that it starts. -/
theorem self {c : Controller} (inner : Orderly id level False (c.run id) starts)
    (self : c.starts id level = fun s => ⟨level, c, s⟩ :: starts s) :
    Orderly id level False (c.run id) (c.starts id level) where
  level_le {s x} i := by
    rw [self] at i
    rcases List.mem_cons.mp i with rfl | i
    · exact Nat.le_refl _
    · exact inner.level_le i
  quiet {s x} quiet i := by
    rw [self] at i
    rcases List.mem_cons.mp i with rfl | i
    · exact quiet
    · exact inner.quiet quiet i
  settles {s t stops} quiet ran unraised := by
    rw [self] at unraised
    exact inner.settles quiet ran (unraised.imp_right (.imp_right fun unraised x i =>
      unraised x (List.mem_cons_of_mem _ i)))
  unwinds {s x t} quiet i near asked settled := by
    rw [self] at i
    rcases List.mem_cons.mp i with rfl | i
    · exact ⟨asked, List.suffix_refl _⟩
    · obtain ⟨ran, suffix⟩ := inner.unwinds quiet i near asked settled
      rw [self]
      exact ⟨ran, suffix.trans (List.suffix_cons _ _)⟩

/-- From outside, a loop starts nothing at the level around it. -/
theorem outside (h : Orderly id (level + 1) True run starts) :
    Orderly id level False run starts where
  level_le i := Nat.le_of_succ_le (h.level_le i)
  quiet := h.quiet
  settles quiet ran _ := h.settles quiet ran (.inl trivial)
  unwinds {s x t} _ i near := by
    have deeper : level + 1 ≤ x.depth := h.level_le i
    omega

/-! ## Loops -/

/-- How a body in a loop ends, given how its controllers end. -/
theorem ended_of_ok {s t : Scene} {stops : Bool} (ran : run s = .ok stops t) :
    Block.ended true run s = if stops
      then .ok (Block.flowOfSignal t.machine.signal)
        { t with machine := { t.machine with signal := none } }
      else .ok .completed t := by
  have reached : Block.ended true run s = (do
      if stops then return Block.flowOfSignal (← Act.takeSignal) else return .completed) t :=
    bind_of_ok ran
  rw [reached]
  cases stops with
  | true => rfl
  | false => rfl

/-- What a body in a loop leaves behind is quiet. -/
theorem quiet_of_ended (h : Orderly id level False run starts) {s t : Scene} {flow : Flow}
    (quiet : s.Quiet) (ran : Block.ended true run s = .ok flow t) : t.Quiet := by
  obtain ⟨stops, u, inner, -⟩ := exists_of_bind ran
  rw [ended_of_ok inner] at ran
  cases stops with
  | true =>
    obtain ⟨rfl, rfl⟩ := EStateM.Result.ok.inj ran
    rfl
  | false =>
    obtain ⟨rfl, rfl⟩ := EStateM.Result.ok.inj ran
    exact h.settles quiet inner (.inr (.inl rfl))

/-- Without a signal, a body whose controllers ask to unwind asks for it too. -/
theorem ended_of_quiet {s t : Scene} (quiet : t.Quiet) (ran : run s = .ok true t) :
    Block.ended true run s = .ok .unwind t := by
  have quiet : t.machine.signal = none := quiet
  have taken : { t with machine := { t.machine with signal := none } } = t := by rw [← quiet]
  rw [ended_of_ok ran, if_pos rfl, taken, quiet]
  rfl

/-- **A round of a loop** and the rounds that follow if the body lets them. -/
theorem round (body : Orderly id level False run starts) {k : Flow → Act Bool}
    (others : Orderly id level True (k .completed) nextStarts)
    (left : k .left = pure false) (unwind : k .unwind = pure true) :
    Orderly id level True (Block.ended true run >>= k)
      (Loop.roundStarts (Block.ended true run) starts nextStarts) where
  level_le i := by
    rcases List.mem_append.mp i with i | i
    · exact body.level_le i
    · obtain ⟨flow, _, _, i⟩ := Act.mem_thenStarts i
      cases flow with
      | completed => exact others.level_le i
      | left => cases i
      | unwind => cases i
  quiet {s x} quiet i := by
    rcases List.mem_append.mp i with i | i
    · exact body.quiet quiet i
    · obtain ⟨flow, u, inner, i⟩ := Act.mem_thenStarts i
      cases flow with
      | completed => exact others.quiet (body.quiet_of_ended quiet inner) i
      | left => cases i
      | unwind => cases i
  settles quiet ran _ := by
    obtain ⟨flow, u, inner, ran⟩ := exists_of_bind ran
    -- whichever way the body ended, the signal it may have left was taken
    have settled : u.Quiet := body.quiet_of_ended quiet inner
    cases flow with
    | completed => exact others.settles settled ran (.inl trivial)
    | left =>
      rw [left] at ran
      obtain ⟨rfl, rfl⟩ := EStateM.Result.ok.inj ran
      exact settled
    | unwind =>
      rw [unwind] at ran
      obtain ⟨rfl, rfl⟩ := EStateM.Result.ok.inj ran
      exact settled
  unwinds {s x t} quiet i near asked settled := by
    rcases List.mem_append.mp i with i | i
    · -- the body takes no signal, because there is none, and the loop ends with it
      obtain ⟨inner, suffix⟩ := body.unwinds quiet i near asked nofun
      have ended := ended_of_quiet (settled trivial) inner
      rw [bind_of_ok ended, unwind, Loop.roundStarts, Act.thenStarts_of_ok ended, if_neg nofun]
      exact ⟨rfl, suffix.trans (List.append_nil _ ▸ List.suffix_refl _)⟩
    · obtain ⟨flow, u, inner, i⟩ := Act.mem_thenStarts i
      cases flow with
      | left => cases i
      | unwind => cases i
      | completed =>
        have quiet := body.quiet_of_ended quiet inner
        obtain ⟨ran, suffix⟩ := others.unwinds quiet i near asked settled
        rw [bind_of_ok inner, Loop.roundStarts, Act.thenStarts_of_ok inner, if_pos rfl]
        exact ⟨ran, suffix.trans (List.suffix_append _ _)⟩

theorem whileHolds (body : Orderly id level False run starts) {test : Act Bool}
    (tested : signal.Keeps test) (limit left : Nat) :
    Orderly id level True (Loop.whileHolds limit test (Block.ended true run) left)
      (Loop.whileStarts test (Block.ended true run) starts left) := by
  induction left with
  | zero => exact still (tested.bind fun _ => .ite (.throw _) (.pure _))
  | succ left ih => exact after tested fun holds => .ite (body.round ih rfl rfl) (still (.pure _))

theorem forRange (body : Orderly id level False run starts) (limit : Nat) (slot : Option UInt8)
    (stop step : Int32) (left : Nat) (i : Int32) :
    Orderly id level True (Loop.forRange limit slot stop step (Block.ended true run) left i)
      (Loop.rangeStarts slot stop step (Block.ended true run) starts left i) := by
  induction left generalizing i with
  | zero => exact still (.ite (.throw _) (.pure _))
  | succ left ih =>
    have moves := Footprint.keeps_advance (fun _ _ => Footprint.keeps_onWindows_signal _)
      slot stop step i
    rw [Loop.rangeStarts]
    split
    · rename_i within
      rw [Loop.forRange, if_pos within]
      exact body.round (after moves ih) rfl rfl
    · rename_i out
      rw [Loop.forRange, if_neg out]
      exact still (.pure _)

/-- **A block that loops** over an orderly body catches its signals. -/
theorem loop {b : Block} (loops : b.loop ≠ .once)
    (body : Orderly id (level + 1) False (Controller.runAll id b.ignoresPause b.body)
      (Controller.allStart id (level + 1) b.ignoresPause b.body)) :
    Orderly id (level + 1) True (b.run id) (b.starts id level) := by
  obtain ⟨guard, items, otherwise, pause, persistence, ignoresPause, kind⟩ := b
  have opens := Footprint.allowsEffects_signal.opens id pause persistence
  cases kind with
  | once => exact absurd rfl loops
  | whileGuard =>
    rw [Block.run_activate, Block.starts]
    refine after opens fun opened => .ite ?_ (still (.pure _))
    have tested := Footprint.allowsEffects_signal.guardHolds id guard
    exact (after Footprint.keeps_machine fun m => body.whileHolds tested _ _).thenReload persistence
  | forRange range =>
    rw [Block.run_activate, Block.starts]
    refine after opens fun opened => .ite ?_ (still (.pure _))
    exact (after (Footprint.allowsEffects_signal.bounds id
      (fun _ _ => Footprint.keeps_onWindows_signal _) range) fun (start, stop, step, limit) =>
      body.forRange limit range.slot stop step limit start).thenReload persistence

/-! ## Controllers that are no blocks -/

/-- A raised signal is pending, but then the run asks to unwind. -/
theorem signal (raised : LoopSignal) :
    Orderly id level False (Controller.run id (.signal raised))
      (Controller.starts id level (.signal raised)) where
  level_le {s x} i := by
    rw [Controller.starts_alone (c := .signal raised) nofun nofun] at i
    obtain rfl := List.mem_singleton.mp i
    exact Nat.le_refl _
  quiet {s x} quiet i := by
    rw [Controller.starts_alone (c := .signal raised) nofun nofun] at i
    obtain rfl := List.mem_singleton.mp i
    exact quiet
  settles {s t stops} _ ran unraised := by
    rw [Controller.run] at ran
    obtain ⟨rfl, -⟩ := EStateM.Result.ok.inj ran
    rcases unraised with none | none | unraised
    · exact none.elim
    · cases none
    · rw [Controller.starts_alone (c := .signal raised) nofun nofun] at unraised
      exact absurd ⟨raised, rfl⟩ (unraised _ List.mem_cons_self)
  unwinds {s x t} _ i _ asked _ := by
    rw [Controller.starts_alone (c := .signal raised) nofun nofun] at i
    obtain rfl := List.mem_singleton.mp i
    exact ⟨asked, List.suffix_refl _⟩

/-- The body of a call is started with no signal pending. -/
theorem quiet_of_taken {s t : Scene} {count : Nat} {windows : Windows} {memory : BlockMemory}
    (quiet : s.Quiet) (taken : Function.takeArguments count (s.withWindows windows) = .ok () t) :
    Scene.Quiet { t with memory := memory } :=
  ((Footprint.keeps_takeArguments_signal count).ok taken).trans quiet

/-- **What a call runs and starts**, if it ends without a fault: the body, and then it copies the
    results unless the body asks to unwind. -/
theorem exists_of_call {f : Function} {rets : List UInt8} {s t : Scene} {stops : Bool}
    (ran : f.run id rets s = .ok stops t) :
    ∃ u v, (s.Quiet → u.Quiet) ∧
      (∀ level, f.starts id level rets s = Controller.allStart id level false f.body u) ∧
      (do
        if ← Controller.runAll id false f.body then return true
        Function.giveResults f.argCount rets
        return false : Act Bool) u = .ok stops v ∧
      t.roster = v.roster ∧ t.machine.signal = v.machine.signal := by
  rw [Function.run_eq_invoke, Controller.runBody_ended] at ran
  obtain ⟨_, u, counted, called⟩ := exists_of_bind ran
  obtain rfl : u = s := (Footprint.keeps_checkCounts (F := .fixing fun s => s) _ rets).ok counted
  obtain ⟨v, opened, rfl⟩ := exists_of_withWindow called
  obtain ⟨_, w, taken, bracketed⟩ := exists_of_bind opened
  obtain ⟨v, inner, rfl⟩ := exists_of_withMemory bracketed
  rw [Block.ended_false_bind] at inner
  refine ⟨_, v, fun quiet => quiet_of_taken quiet taken, fun level => ?_, inner, rfl, rfl⟩
  rw [Function.starts_eq, Act.thenStarts_of_ok counted, Act.thenStarts_of_ok taken]

/-- **A call of a function with an orderly body.**  What it starts is deeper than the call. -/
theorem function {f : Function} (rets : List UInt8)
    (body : Orderly id (level + 1) False (Controller.runAll id false f.body)
      (Controller.allStart id (level + 1) false f.body)) :
    Orderly id level False (f.run id rets) (f.starts id (level + 1) rets) := by
  have within {s : Scene} {x : Started} (i : x ∈ f.starts id (level + 1) rets s) :
      level + 1 ≤ x.depth ∧ (s.Quiet → x.scene.Quiet) := by
    rw [Function.starts_eq] at i
    obtain ⟨_, u, counted, called⟩ := Act.mem_thenStarts i
    obtain rfl : u = s := (Footprint.keeps_checkCounts (F := .fixing fun s => s) f rets).ok counted
    obtain ⟨_, w, taken, inner⟩ := Act.mem_thenStarts called
    exact ⟨body.level_le inner, fun quiet => body.quiet (quiet_of_taken quiet taken) inner⟩
  refine ⟨fun i => Nat.le_of_succ_le (within i).1, fun quiet i => (within i).2 quiet,
    fun {s t stops} quiet ran unraised => ?_, fun _ i near => absurd (within i).1 (by omega)⟩
  obtain ⟨u, v, quieter, started, inner, -, left⟩ := exists_of_call ran
  rw [started] at unraised
  -- results are given, or not, after the body, and that raises nothing
  have gives : Footprint.signal.Keeps (Function.giveResults f.argCount rets) :=
    Footprint.keeps_giveResults (fun _ _ => Footprint.keeps_onWindows_signal _) f.argCount rets
  have whole := body.before (x := do
      Function.giveResults f.argCount rets
      return false) (gives.bind fun _ => .pure _)
  exact left.trans (whole.settles (quieter quiet) inner unraised)

end Orderly

/-! ## All programs -/

mutual

/-- **Every controller runs orderly.** -/
theorem Controller.orderly (id : EntityId) (level : Nat) :
    (c : Controller) → Orderly id level False (c.run id) (c.starts id level)
  | .block b => by
    have inner : Orderly id level False (Controller.run id (.block b)) (b.starts id level) := by
      rw [Controller.run]
      exact b.orderly id level
    exact inner.self (by rw [Controller.starts])
  | .evaluate code => by
    have kept : signal.Keeps (Controller.run id (.evaluate code)) := by
      rw [Controller.run]
      exact (Footprint.allowsEffects_signal.evaluate code id).bind fun _ => .pure _
    exact (Orderly.still kept).self (Controller.starts_alone nofun nofun)
  | .assign slot code => by
    have kept : signal.Keeps (Controller.run id (.assign slot code)) := by
      rw [Controller.run]
      exact (Footprint.allowsEffects_signal.evaluate code id).bind fun _ =>
        (Footprint.keeps_onWindows_signal _).bind fun _ => .pure _
    exact (Orderly.still kept).self (Controller.starts_alone nofun nofun)
  | .signal raised => .signal raised
  | .call f args rets => by
    have inner : Orderly id level False (Controller.run id (.call f args rets))
        ((Act.pushArguments id args).thenStarts fun _ => f.starts id (level + 1) rets) := by
      rw [Controller.run]
      have pushes := Footprint.allowsOperands_signal.pushArguments
        Footprint.allowsEffects_signal.evaluate id args
      exact .after pushes fun _ => f.orderly id level rets
    exact inner.self (by rw [Controller.starts])
  | .nothing => by
    have kept : signal.Keeps (Controller.run id .nothing) := by
      rw [Controller.run]
      exact .pure _
    exact (Orderly.still kept).self (Controller.starts_alone nofun nofun)
  | .effect kind args => by
    have kept : signal.Keeps (Controller.run id (.effect kind args)) := by
      rw [Controller.run]
      exact Footprint.allowsEffects_signal.effect id args kind
    exact (Orderly.still kept).self (Controller.starts_alone nofun nofun)

theorem Block.orderly (id : EntityId) (level : Nat) :
    (b : Block) → Orderly id level False (b.run id) (b.starts id level)
  | ⟨guard, items, otherwise, pause, persistence, ignoresPause, .once⟩ => by
    rw [Block.run_activate, Block.starts]
    have all := Controller.orderly_all id level ignoresPause items
    have tested := Footprint.allowsEffects_signal.guardHolds id guard
    refine .after (Footprint.allowsEffects_signal.opens id pause persistence) fun opened => ?_
    refine .ite (.after tested fun holds => ?_) (.still (.pure _))
    exact .ite (all.thenReload persistence) (Block.orderly_otherwise id level otherwise)
  | ⟨guard, items, otherwise, pause, persistence, ignoresPause, .whileGuard⟩ =>
    (Orderly.loop (by nofun) (Controller.orderly_all id (level + 1) ignoresPause items)).outside
  | ⟨guard, items, otherwise, pause, persistence, ignoresPause, .forRange range⟩ =>
    (Orderly.loop (by nofun) (Controller.orderly_all id (level + 1) ignoresPause items)).outside

theorem Block.orderly_otherwise (id : EntityId) (level : Nat) :
    (b : Option Block) →
      Orderly id level False (Block.runOtherwise id b) (Block.otherwiseStarts id level b)
  | none => by
    rw [Block.runOtherwise, Block.otherwiseStarts]
    exact .still (.pure _)
  | some b => by
    rw [Block.runOtherwise, Block.otherwiseStarts]
    exact b.orderly id level

theorem Controller.orderly_all (id : EntityId) (level : Nat) (ignoresPause : Bool) :
    (items : List Controller) → Orderly id level False (Controller.runAll id ignoresPause items)
      (Controller.allStart id level ignoresPause items)
  | [] => by
    rw [Controller.runAll, Controller.allStart]
    exact .still (.pure _)
  | c :: rest => by
    have others := Controller.orderly_all id level ignoresPause rest
    rw [Controller.runAll, Controller.allStart]
    refine .after (Footprint.keeps_isHeld id ignoresPause c) fun held => ?_
    exact .ite others ((c.orderly id level).seq others)

theorem Function.orderly (id : EntityId) (level : Nat) (rets : List UInt8) :
    (f : Function) → Orderly id level False (f.run id rets) (f.starts id (level + 1) rets)
  | ⟨_, _, _, _, _, _, items⟩ => .function rets (Controller.orderly_all id (level + 1) false items)

end

/-- **Loops take their signals, and nothing but signals.**  From a scene with no signal pending,
    every controller of a tree is started with none pending, and one that does not ask to unwind
    leaves none behind.  Neither does a loop, however it ends without a fault.

    When a controller in the body of a loop, or in blocks of that body that do not loop, asks to
    unwind and no signal was raised in it, then the loop ends with it: it asks to unwind, leaves
    the scene as the controller left it, and starts no other controller.

    A run of a program leaves no signal behind. -/
theorem loops_take_signals (id : EntityId) {s : Scene} (quiet : s.Quiet) :
    (∀ c : Controller, (∀ x ∈ c.starts id 0 s, x.scene.Quiet) ∧
      ∀ t, c.run id s = .ok false t → t.Quiet) ∧
    (∀ b : Block, b.loop ≠ .once →
      (∀ stops t, b.run id s = .ok stops t → t.Quiet) ∧
      ∀ x ∈ b.starts id 0 s, x.depth = 1 →
        ∀ t, x.controller.run id x.scene = .ok true t →
          (∀ y ∈ x.controller.starts id 1 x.scene, ¬ y.Signals) →
          b.run id s = .ok true t ∧ x.controller.starts id 1 x.scene <:+ b.starts id 0 s) ∧
    ∀ (p : StateProgram) stops t, p.run id s = .ok stops t → t.Quiet := by
  refine ⟨fun c => ⟨fun x => ?_, fun t ran => ?_⟩, fun b loops => ?_, fun p stops t ran => ?_⟩
  · exact (c.orderly id 0).quiet quiet
  · exact (c.orderly id 0).settles quiet ran (.inr (.inl rfl))
  · have loop : Orderly id 1 True (b.run id) (b.starts id 0) :=
      .loop loops (Controller.orderly_all id 1 b.ignoresPause b.body)
    refine ⟨fun stops t ran => loop.settles quiet ran (.inl trivial), ?_⟩
    intro x i near t asked unraised
    refine loop.unwinds quiet i near asked fun _ => ?_
    exact (x.controller.orderly id 1).settles (loop.quiet quiet i) asked (.inr (.inr unraised))
  · rw [StateProgram.run_eq] at ran
    split at ran
    case h_1 => cases ran
    case h_2 =>
      split at ran
      case isTrue =>
        obtain ⟨-, rfl⟩ := EStateM.Result.ok.inj ran
        rfl
      case isFalse => cases ran

/-- A loop over three numbers.  Each round leaves an inner loop by a signal, then asks for another
    state from within a block, and would then go on to do nothing. -/
def Block.leaving : Block :=
  let again := ArgBlock.ofRecords [⟨Effect.StateTag.value, [Expression.int 5]⟩]
  let inner : Block := ⟨none, [.signal .leave], none, .skip, none, false, .whileGuard⟩
  let body : List Controller :=
    [.block inner, .block (.plain [.effect (.changeState .present) again]), .nothing]
  ⟨none, body, none, .skip, none, false,
    .forRange ⟨Expression.int 0, none, Expression.int 3, Expression.int 1⟩⟩

/-- The change of state ends the loop in its first round. -/
theorem loops_take_signals_leaving :
    Scene.lone.Quiet ∧ (Block.leaving.starts 0 0 Scene.lone).length = 4 ∧
    ∃ t, Block.leaving.run 0 Scene.lone = .ok true t ∧ t.Quiet := by
  have quiet : Scene.lone.Quiet := rfl
  have count : (Block.leaving.starts 0 0 Scene.lone).length = 4 := by decide +kernel
  -- the third is the block around the change of state
  let x := (Block.leaving.starts 0 0 Scene.lone).get ⟨2, by decide +kernel⟩
  have near : x.depth = 1 := by decide +kernel
  have ends : Ends (x.controller.run 0) x.scene (fun stops _ => stops = true) fun _ _ => False := by
    decide +kernel
  obtain ⟨_, t, asks, rfl⟩ := ends.exists_ok
  have unraised : ∀ y ∈ x.controller.starts 0 1 x.scene, ¬ y.Signals := by decide +kernel
  obtain ⟨-, loops, -⟩ := loops_take_signals 0 quiet
  have leaving := loops Block.leaving nofun
  obtain ⟨ran, -⟩ := leaving.2 x (List.get_mem _ _) near t asks unraised
  exact ⟨quiet, count, t, ran, leaving.1 true t ran⟩

end TickScript
