import TickScript.Proofs.Effect.Removal
import TickScript.Proofs.Effect.StateChange
import TickScript.Proofs.Program.Calls
import TickScript.Proofs.Program.Signals

/-! # Why a run asks to unwind

    A call says no more than whether it asks to unwind.  Behind that stands a controller that the
    call has started and that asked first.  It is an effect that changed the entity's state or
    removed it, or it raised a loop signal (`Controller.traced` and the like).

    Loops take the signals of their bodies, so a signal gets out of a run only if the tree has a
    place for it outside all loops, `leaks`.  A call is no loop.  A signal that a function raises
    outside its loops gets out of the call, as if the caller had raised it.  So it ends a loop of
    the caller, and the results are not copied (`Function.call_leaks_signals_result`).  What can be
    relied on is that nothing but a signal or the entity makes a call unwind
    (`Function.call_leaks_signals`).
-/

namespace TickScript

/-! ## Where signals get out -/

mutual

/-- **Whether a controller can raise a signal that no loop in it takes.** -/
def Controller.leaks : Controller → Bool
  | .signal _ => true
  | .block b => b.leaks
  | .call f _ _ => f.leaks
  | _ => false

/-- Whether a block can; one that loops cannot. -/
def Block.leaks : Block → Bool
  | ⟨_, body, otherwise, _, _, _, loop⟩ =>
    loop = .once && (Controller.anyLeaks body || Block.otherwiseLeaks otherwise)

/-- Whether the block for a failed guard can. -/
def Block.otherwiseLeaks : Option Block → Bool
  | none => false
  | some b => b.leaks

/-- Whether one of the controllers of a body can. -/
def Controller.anyLeaks : List Controller → Bool
  | [] => false
  | c :: rest => c.leaks || Controller.anyLeaks rest

/-- Whether a function can. -/
def Function.leaks : Function → Bool
  | ⟨_, _, _, _, _, _, body⟩ => Controller.anyLeaks body

end

/-! ## Who asked -/

theorem Scene.Quiet.not_pending {s : Scene} (quiet : s.Quiet) (raised : LoopSignal) :
    s.machine.signal ≠ some raised := by
  have none : s.machine.signal = none := quiet
  rw [none]
  nofun

/-- **A started controller asked to unwind**, and what it left shows in the scene: its signal is
    pending, or the roster is that which its effect left. -/
inductive Started.Asks (id : EntityId) (leaks : Prop) (x : Started) (t : Scene) : Prop
  | signal {raised : LoopSignal} (raises : x.controller = .signal raised) (out : leaks)
      (pending : t.machine.signal = some raised)
  | effect {kind : EffectKind} {args : ArgBlock} {u : Scene} (acts : x.controller = .effect kind args)
      (asked : kind.run id args x.scene = .ok true u) (roster : t.roster = u.roster)
      (signal : t.machine.signal = u.machine.signal)

/-- **A run whose wish to unwind can be traced** to a controller that it started.  Signals get out
    of it only if `leaks` holds. -/
def Traced (id : EntityId) (leaks : Prop) (run : Act Bool) (starts : Scene → List Started) : Prop :=
  ∀ s t, run s = .ok true t → ∃ x ∈ starts s, x.Asks id leaks t

namespace Started.Asks

variable {id : EntityId} {leaks leaks' : Prop} {x : Started} {t u : Scene}

theorem mono (asks : x.Asks id leaks t) (more : leaks → leaks') : x.Asks id leaks' t := by
  cases asks with
  | signal raises out pending => exact .signal raises (more out) pending
  | effect acts asked roster signal => exact .effect acts asked roster signal

/-- Only roster and signal matter. -/
theorem of_same (asks : x.Asks id leaks t) (roster : u.roster = t.roster)
    (signal : u.machine.signal = t.machine.signal) : x.Asks id leaks u := by
  cases asks with
  | signal raises out pending => exact .signal raises out (signal.trans pending)
  | effect acts asked roster' signal' =>
    exact .effect acts asked (roster.trans roster') (signal.trans signal')

/-- If no signal is pending, none was asked with. -/
theorem of_quiet (asks : x.Asks id leaks t) (quiet : t.Quiet) : x.Asks id False t := by
  cases asks with
  | signal raises out pending => exact absurd pending (quiet.not_pending _)
  | effect acts asked roster signal => exact .effect acts asked roster signal

end Started.Asks

namespace Traced

variable {α : Type} {id : EntityId} {level : Nat} {leaks leaks' : Prop} {run next : Act Bool}
  {starts nextStarts : Scene → List Started}

theorem mono (h : Traced id leaks run starts) (more : leaks → leaks') :
    Traced id leaks' run starts := by
  intro s t ran
  obtain ⟨x, i, asks⟩ := h s t ran
  exact ⟨x, i, asks.mono more⟩

/-- A run that never asks to unwind. -/
theorem never (goes : ∀ s t, run s ≠ .ok true t) : Traced id leaks run starts :=
  fun s t ran => absurd ran (goes s t)

theorem goes : Traced id leaks (pure false) starts := never fun _ _ ran => by cases ran

theorem ite {c : Prop} [Decidable c] (first : Traced id leaks run starts)
    (second : Traced id leaks next nextStarts) :
    Traced id leaks (if c then run else next) (if c then starts else nextStarts) := by
  split
  · exact first
  · exact second

/-- An action before the run. -/
theorem after {x : Act α} {f : α → Act Bool} {g : α → Scene → List Started}
    (h : ∀ a, Traced id leaks (f a) (g a)) : Traced id leaks (x >>= f) (x.thenStarts g) := by
  intro s t ran
  obtain ⟨a, u, first, ran⟩ := exists_of_bind ran
  rw [Act.thenStarts_of_ok first]
  exact h a u t ran

/-- An action that never asks to unwind after the run. -/
theorem before (h : Traced id leaks run starts) {x : Act Bool} (goes : ∀ s t, x s ≠ .ok true t) :
    Traced id leaks (do if ← run then return true else x) starts := by
  intro s t ran
  obtain ⟨stops, u, first, ran⟩ := exists_of_bind ran
  cases stops with
  | true =>
    obtain ⟨-, rfl⟩ := EStateM.Result.ok.inj ran
    exact h s u first
  | false => exact absurd ran (goes u t)

/-- What ends with a false never asks to unwind. -/
theorem ne_true_of_bind_false {x : Act α} (s t : Scene) :
    (x >>= fun _ => pure false : Act Bool) s ≠ .ok true t := by
  intro ran
  obtain ⟨_, _, -, ended⟩ := exists_of_bind ran
  cases ended

theorem thenReload (h : Traced id leaks run starts) (persistence : Option Persistence) :
    Traced id leaks (Block.thenReload persistence run) starts :=
  h.before ne_true_of_bind_false

/-- **Two runs in a row.** -/
theorem seq (first : Traced id leaks run starts) (second : Traced id leaks next nextStarts) :
    Traced id leaks (do if ← run then return true else next)
      (fun s => starts s ++
        run.thenStarts (fun stops => if stops then Started.nothing else nextStarts) s) := by
  intro s t ran
  obtain ⟨stops, u, ran', ran⟩ := exists_of_bind ran
  cases stops with
  | true =>
    obtain ⟨-, rfl⟩ := EStateM.Result.ok.inj ran
    obtain ⟨x, i, asks⟩ := first s u ran'
    exact ⟨x, List.mem_append_left _ i, asks⟩
  | false =>
    obtain ⟨x, i, asks⟩ := second u t ran
    refine ⟨x, List.mem_append_right _ ?_, asks⟩
    rwa [Act.thenStarts_of_ok ran']

/-- A controller that does what a traced run does. -/
theorem self {c : Controller} (inner : Traced id leaks (c.run id) starts)
    (self : c.starts id level = fun s => ⟨level, c, s⟩ :: starts s) :
    Traced id leaks (c.run id) (c.starts id level) := by
  intro s t ran
  obtain ⟨x, i, asks⟩ := inner s t ran
  rw [self]
  exact ⟨x, List.mem_cons_of_mem _ i, asks⟩

/-! ## Loops -/

/-- **A round of a loop**: if the body unwinds, no signal was pending. -/
theorem round (body : Traced id leaks run starts) {k : Flow → Act Bool}
    (others : Traced id False (k .completed) nextStarts)
    (left : k .left = pure false) (unwind : k .unwind = pure true) :
    Traced id False (Block.ended true run >>= k)
      (Loop.roundStarts (Block.ended true run) starts nextStarts) := by
  intro s t ran
  obtain ⟨flow, u, inner, ran⟩ := exists_of_bind ran
  cases flow with
  | completed =>
    obtain ⟨x, i, asks⟩ := others u t ran
    refine ⟨x, List.mem_append_right _ ?_, asks⟩
    rwa [Act.thenStarts_of_ok inner]
  | left =>
    rw [left] at ran
    cases ran
  | unwind =>
    rw [unwind] at ran
    obtain ⟨-, rfl⟩ := EStateM.Result.ok.inj ran
    obtain ⟨stops, v, ran', -⟩ := exists_of_bind inner
    rw [Orderly.ended_of_ok ran'] at inner
    cases stops with
    | false => cases inner
    | true =>
      obtain ⟨flow, rfl⟩ := EStateM.Result.ok.inj inner
      -- the loop would have taken a signal, so it was an effect that asked
      have quiet : v.Quiet := by
        cases pending : v.machine.signal with
        | none => exact pending
        | some raised =>
          rw [pending] at flow
          cases raised <;> cases flow
      obtain ⟨x, i, asks⟩ := body s v ran'
      exact ⟨x, List.mem_append_left _ i, (asks.of_quiet quiet).of_same rfl quiet.symm⟩

theorem whileHolds (body : Traced id leaks run starts) (test : Act Bool) (limit left : Nat) :
    Traced id False (Loop.whileHolds limit test (Block.ended true run) left)
      (Loop.whileStarts test (Block.ended true run) starts left) := by
  induction left with
  | zero =>
    refine never fun s t ran => ?_
    obtain ⟨holds, u, -, ran⟩ := exists_of_bind ran
    cases holds with
    | true => cases ran
    | false => cases ran
  | succ left ih => exact after fun holds => .ite (body.round ih rfl rfl) goes

theorem forRange (body : Traced id leaks run starts) (limit : Nat) (slot : Option UInt8)
    (stop step : Int32) (left : Nat) (i : Int32) :
    Traced id False (Loop.forRange limit slot stop step (Block.ended true run) left i)
      (Loop.rangeStarts slot stop step (Block.ended true run) starts left i) := by
  induction left generalizing i with
  | zero =>
    refine never fun s t ran => ?_
    unfold Loop.forRange at ran
    split at ran
    · cases ran
    · cases ran
  | succ left ih =>
    rw [Loop.rangeStarts]
    split
    · rename_i within
      rw [Loop.forRange, if_pos within]
      exact body.round (after ih) rfl rfl
    · rename_i out
      rw [Loop.forRange, if_neg out]
      exact goes

/-- A call closes its window and brings the counters back, and shows the rest. -/
theorem function {f : Function} (rets : List UInt8)
    (body : Traced id leaks (Controller.runAll id false f.body)
      (Controller.allStart id level false f.body)) :
    Traced id leaks (f.run id rets) (f.starts id level rets) := by
  intro s t ran
  obtain ⟨u, v, -, started, inner, roster, signal⟩ := Orderly.exists_of_call ran
  rw [started]
  obtain ⟨x, i, asks⟩ := body.before (x := do
      Function.giveResults f.argCount rets
      return false) ne_true_of_bind_false u v inner
  exact ⟨x, i, asks.of_same roster signal⟩

end Traced

mutual

/-- **Whoever asks to unwind was asked to.** -/
theorem Controller.traced (id : EntityId) (level : Nat) :
    (c : Controller) → Traced id c.leaks (c.run id) (c.starts id level)
  | .block b => by
    have inner : Traced id b.leaks (Controller.run id (.block b)) (b.starts id level) := by
      rw [Controller.run]
      exact b.traced id level
    exact (inner.mono fun out => by rwa [Controller.leaks]).self (by rw [Controller.starts])
  | .evaluate code => by
    rw [Controller.run]
    exact .never Traced.ne_true_of_bind_false
  | .assign slot code => by
    refine .never fun s t ran => ?_
    rw [Controller.run] at ran
    obtain ⟨v, u, -, ran⟩ := exists_of_bind ran
    exact Traced.ne_true_of_bind_false u t ran
  | .signal raised => by
    intro s t ran
    rw [Controller.starts_alone (c := .signal raised) nofun nofun]
    rw [Controller.run] at ran
    obtain ⟨-, rfl⟩ := EStateM.Result.ok.inj ran
    exact ⟨_, List.mem_cons_self, .signal rfl (by rw [Controller.leaks]) rfl⟩
  | .call f args rets => by
    have inner : Traced id f.leaks (Controller.run id (.call f args rets))
        ((Act.pushArguments id args).thenStarts fun _ => f.starts id (level + 1) rets) := by
      rw [Controller.run]
      exact .after fun _ => f.traced id (level + 1) rets
    exact (inner.mono fun out => by rwa [Controller.leaks]).self (by rw [Controller.starts])
  | .nothing => by
    rw [Controller.run]
    exact .goes
  | .effect kind args => by
    intro s t ran
    rw [Controller.starts_alone (c := .effect kind args) nofun nofun]
    rw [Controller.run] at ran
    exact ⟨_, List.mem_cons_self, .effect rfl ran rfl rfl⟩

theorem Block.traced (id : EntityId) (level : Nat) :
    (b : Block) → Traced id b.leaks (b.run id) (b.starts id level)
  | ⟨guard, items, otherwise, pause, persistence, ignoresPause, .once⟩ => by
    rw [Block.run_activate, Block.starts]
    have all := Controller.traced_all id level ignoresPause items
    have failed := Block.traced_otherwise id level otherwise
    refine .after fun opened => .ite (.after fun holds => .ite ?_ ?_) .goes
    · exact (all.thenReload persistence).mono fun out => by simp [Block.leaks, out]
    · exact failed.mono fun out => by simp [Block.leaks, out]
  | ⟨guard, items, otherwise, pause, persistence, ignoresPause, .whileGuard⟩ => by
    rw [Block.run_activate, Block.starts]
    have all := Controller.traced_all id (level + 1) ignoresPause items
    refine .after fun opened => .ite (Traced.mono ?_ False.elim) .goes
    exact (Traced.after fun m => all.whileHolds _ _ _).thenReload persistence
  | ⟨guard, items, otherwise, pause, persistence, ignoresPause, .forRange range⟩ => by
    rw [Block.run_activate, Block.starts]
    have all := Controller.traced_all id (level + 1) ignoresPause items
    refine .after fun opened => .ite (Traced.mono ?_ False.elim) .goes
    exact (Traced.after fun (start, stop, step, limit) =>
      all.forRange limit range.slot stop step limit start).thenReload persistence

theorem Block.traced_otherwise (id : EntityId) (level : Nat) :
    (b : Option Block) → Traced id (Block.otherwiseLeaks b) (Block.runOtherwise id b)
      (Block.otherwiseStarts id level b)
  | none => by
    rw [Block.runOtherwise]
    exact .goes
  | some b => by
    rw [Block.runOtherwise, Block.otherwiseStarts, Block.otherwiseLeaks]
    exact b.traced id level

theorem Controller.traced_all (id : EntityId) (level : Nat) (ignoresPause : Bool) :
    (items : List Controller) → Traced id (Controller.anyLeaks items)
      (Controller.runAll id ignoresPause items) (Controller.allStart id level ignoresPause items)
  | [] => by
    rw [Controller.runAll]
    exact .goes
  | c :: rest => by
    have first : Traced id (Controller.anyLeaks (c :: rest)) (c.run id) (c.starts id level) :=
      (c.traced id level).mono fun out => by simp [Controller.anyLeaks, out]
    have others : Traced id (Controller.anyLeaks (c :: rest))
        (Controller.runAll id ignoresPause rest)
        (Controller.allStart id level ignoresPause rest) :=
      (Controller.traced_all id level ignoresPause rest).mono fun out => by
        simp [Controller.anyLeaks, out]
    rw [Controller.runAll, Controller.allStart]
    exact .after fun held => .ite others (first.seq others)

theorem Function.traced (id : EntityId) (level : Nat) (rets : List UInt8) :
    (f : Function) → Traced id f.leaks (f.run id rets) (f.starts id level rets)
  | ⟨_, _, _, _, _, _, items⟩ => by
    rw [Function.leaks]
    exact .function rets (Controller.traced_all id level false items)

end

/-! ## For whose sake -/

/-- **The entity leaves its state**: it waits for another one, or is gone. -/
def Scene.Leaves (s : Scene) (id : EntityId) : Prop :=
  ∀ e, s.roster.get? id = some e → e.pending.isSome

/-- A state change whose block mixes redirects and continue records was started. -/
def Started.Mixes (x : Started) : Prop :=
  ∃ source args, x.controller = .effect (.changeState source) args ∧ Effect.Mixes args

/-- **An effect that tells its origin to stop** has made it leave its state, unless it is a state
    change that mixes redirects and continue records. -/
theorem Effect.leaves_of_stops {kind : EffectKind} {origin : EntityId} {args : ArgBlock}
    {s t : Scene} (ended : kind.run origin args s = .ok true t) :
    (∃ source, kind = .changeState source ∧ Mixes args) ∨ t.Leaves origin := by
  cases kind with
  | changeState source =>
    by_cases mixes : Mixes args
    · exact .inl ⟨source, rfl, mixes⟩
    · exact .inr fun e present => pending_of_stops ended mixes present
  | destroySelf =>
    refine .inr fun e present => ?_
    rw [gone_of_stops ended] at present
    cases present
  | _ => exact absurd ended (Traced.ne_true_of_bind_false s t)

namespace Function

section

variable {id : EntityId} {f : Function} {rets : List UInt8} {s t : Scene} {stops : Bool}
  (quiet : s.Quiet)

include quiet

/-- Effects raise no signal, so none is pending after one that a call has started. -/
theorem quiet_of_effect {x : Started} (i : x ∈ f.starts id 1 rets s) {kind : EffectKind}
    {args : ArgBlock} {u : Scene} (asked : kind.run id args x.scene = .ok true u) : u.Quiet :=
  (Footprint.allowsEffects_signal.effect id args kind).quiet ((f.orderly id 0 rets).quiet quiet i)
    asked

/-- A call that does not ask to unwind leaves no signal. -/
theorem quiet_of_goes (ran : f.run id rets s = .ok false t) : t.Quiet :=
  (f.orderly id 0 rets).settles quiet ran (.inr (.inl rfl))

/-- Nor does one of a function without a place for signals outside its loops. -/
theorem quiet_of_tight (ran : f.run id rets s = .ok stops t) (tight : f.leaks = false) :
    t.Quiet := by
  cases stops with
  | false => exact quiet_of_goes quiet ran
  | true =>
    obtain ⟨x, i, asks⟩ := f.traced id 1 rets s t ran
    cases asks with
    | signal _ out _ =>
      rw [tight] at out
      cases out
    | effect _ asked _ signal => exact signal.trans (quiet_of_effect quiet i asked)

/-- **A signal that is pending after a call was raised in it**, and the call asks to unwind. -/
theorem raised_of_pending (ran : f.run id rets s = .ok stops t) {raised : LoopSignal}
    (pending : t.machine.signal = some raised) :
    stops = true ∧ ∃ x ∈ f.starts id 1 rets s, x.controller = .signal raised := by
  cases stops with
  | false => exact absurd pending ((quiet_of_goes quiet ran).not_pending raised)
  | true =>
    obtain ⟨x, i, asks⟩ := f.traced id 1 rets s t ran
    cases asks with
    | signal raises _ same =>
      obtain rfl := Option.some_inj.mp (same.symm.trans pending)
      exact ⟨rfl, x, i, raises⟩
    | effect _ asked _ signal =>
      have settled : t.Quiet := signal.trans (quiet_of_effect quiet i asked)
      exact absurd pending (settled.not_pending raised)

/-- **A signal that a function raises outside its loops is pending after the call.** -/
theorem pending_of_raised (ran : f.run id rets s = .ok stops t) {x : Started}
    (i : x ∈ f.starts id 1 rets s) {raised : LoopSignal} (raises : x.controller = .signal raised)
    (near : x.depth = 1) : stops = true ∧ t.machine.signal = some raised := by
  obtain ⟨u, v, quieter, started, inner, -, signal⟩ := Orderly.exists_of_call ran
  rw [started] at i
  have raising : x.controller.run id x.scene = .ok true
      { x.scene with machine := { x.scene.machine with signal := some raised } } := by
    rw [raises, Controller.run]
    rfl
  -- the body unwinds with the signal, and the results are skipped
  have all := Controller.orderly_all id 1 false f.body
  obtain ⟨unwound, -⟩ := all.unwinds (quieter quiet) i near raising nofun
  rw [bind_of_ok unwound] at inner
  obtain ⟨rfl, rfl⟩ := EStateM.Result.ok.inj inner
  exact ⟨rfl, signal⟩

omit quiet in
/-- **Without a signal, a call asks to unwind for the sake of the entity.** -/
theorem leaves_of_unwound (ran : f.run id rets s = .ok true t) (settled : t.Quiet) :
    t.Leaves id ∨ ∃ x ∈ f.starts id 1 rets s, x.Mixes := by
  obtain ⟨x, i, asks⟩ := f.traced id 1 rets s t ran
  cases asks with
  | signal _ _ pending => exact absurd pending (settled.not_pending _)
  | @effect kind args u acts asked roster _ =>
    rcases Effect.leaves_of_stops asked with ⟨source, rfl, mixes⟩ | leaves
    · exact .inr ⟨x, i, source, args, acts, mixes⟩
    · exact .inl fun e present => leaves e (roster ▸ present)

end

/-- **Signals cross calls.**  A call is made with no signal pending and ends without a fault.

    If the function has no place for signals outside its loops, none is pending then.  If one is
    pending, it was raised in the call, and the call asks to unwind.  One that the function itself
    raises outside its loops is always pending then.

    If the call asks to unwind and no signal is pending, the entity leaves its state, or a state
    change that mixes redirects and continue records was started. -/
theorem call_leaks_signals (id : EntityId) (f : Function) (rets : List UInt8)
    {s t : Scene} {stops : Bool} (quiet : s.Quiet) (ran : f.run id rets s = .ok stops t) :
    (f.leaks = false → t.Quiet) ∧
    (∀ raised, t.machine.signal = some raised →
      stops = true ∧ ∃ x ∈ f.starts id 1 rets s, x.controller = .signal raised) ∧
    (∀ x ∈ f.starts id 1 rets s, ∀ raised, x.controller = .signal raised → x.depth = 1 →
      stops = true ∧ t.machine.signal = some raised) ∧
    (stops = true → t.Quiet → t.Leaves id ∨ ∃ x ∈ f.starts id 1 rets s, x.Mixes) := by
  refine ⟨quiet_of_tight quiet ran, fun raised => raised_of_pending quiet ran,
    fun x i raised raises near => pending_of_raised quiet ran i raises near, ?_⟩
  rintro rfl settled
  exact leaves_of_unwound ran settled

end Function

/-- A function that computes a result and then raises a signal. -/
def Function.interrupted : Function :=
  ⟨"interrupted", 0, 1, 1, 0, 0, [.assign 0 (Expression.int 9), .signal .leave]⟩

/-- A function that leaves a loop of its own by a signal and then changes the state. -/
def Function.moving : Function :=
  ⟨"moving", 0, 0, 0, 0, 0,
    [.block ⟨none, [.signal .leave], none, .skip, none, false, .whileGuard⟩,
      .effect (.changeState .present) (ArgBlock.ofRecords [Effect.askFive])]⟩

/-- The signal of the one gets out; that of the other does not, which unwinds for the sake of the
    entity. -/
theorem Function.call_leaks_signals_both :
    Scene.lone.Quiet ∧
    (∃ t, Function.interrupted.run 0 [] Scene.lone = .ok true t ∧
      t.machine.signal = some .leave) ∧
    ∃ t, Function.moving.run 0 [] Scene.lone = .ok true t ∧ t.Quiet ∧
      (t.Leaves 0 ∨ ∃ x ∈ Function.moving.starts 0 1 [] Scene.lone, x.Mixes) := by
  have quiet : Scene.lone.Quiet := rfl
  refine ⟨quiet, ?_, ?_⟩
  · have ends : Ends (Function.interrupted.run 0 []) Scene.lone (fun _ _ => True)
        fun _ _ => False := by decide +kernel
    obtain ⟨stops, t, ran, -⟩ := ends.exists_ok
    let x := (Function.interrupted.starts 0 1 [] Scene.lone).get ⟨1, by decide +kernel⟩
    obtain ⟨-, -, out, -⟩ := call_leaks_signals 0 _ [] quiet ran
    obtain ⟨rfl, pending⟩ := out x (List.get_mem _ _) .leave rfl rfl
    exact ⟨t, ran, pending⟩
  · have ends : Ends (Function.moving.run 0 []) Scene.lone (fun stops _ => stops = true)
        fun _ _ => False := by decide +kernel
    obtain ⟨_, t, ran, rfl⟩ := ends.exists_ok
    obtain ⟨tight, -, -, sake⟩ := call_leaks_signals 0 _ [] quiet ran
    have settled : t.Quiet := tight rfl
    exact ⟨t, ran, settled, sake rfl settled⟩

/-- **A result is lost, and a loop of the caller ends.**  The call asks to unwind although the
    entity stays in its state, and it leaves the signal; the slot for its result is as before.  A
    loop over three numbers makes one call only. -/
theorem Function.call_leaks_signals_result :
    Scene.windowed.Quiet ∧
    (∃ t, Function.interrupted.run 0 [0] Scene.windowed = .ok true t ∧
      t.machine.signal = some .leave ∧ (t.roster.get? 0).map (·.pending) = some none ∧
      t.machine.windows.frames = [[.unset, .unset, .unset]]) ∧
    let loop : ForLoop := ⟨Expression.int 0, none, Expression.int 3, Expression.int 1⟩
    let calls : Block :=
      ⟨none, [.call Function.interrupted [] []], none, .skip, none, false, .forRange loop⟩
    (calls.starts 0 0 Scene.lone).map (·.depth) = [1, 2, 2] := by
  refine ⟨rfl, ?_, by decide +kernel⟩
  have ends : Ends (Function.interrupted.run 0 [0]) Scene.windowed
      (fun stops t => stops = true ∧ t.machine.signal = some .leave ∧
        (t.roster.get? 0).map (·.pending) = some none ∧
        t.machine.windows.frames = [[.unset, .unset, .unset]]) fun _ _ => False := by
    decide +kernel
  obtain ⟨_, t, ran, rfl, left⟩ := ends.exists_ok
  exact ⟨t, ran, left⟩

end TickScript
