import TickScript.Proofs.Eval.Agreement
import TickScript.Proofs.Program.Deeds

/-! # What programs do not see

    Two scenes are alike if they have the same operands, windows and signal, the same settings,
    the same roster and the same files.  What was printed earlier may differ, and so may the
    profile.  The library that is bound and the counters of the running blocks come into it only
    where they are read:

        expressions     read the bound library
        programs        read the bound library and the counters
        effects         read the bound library, but no counters
        entry steps     read the bound library, but no counters

    `Scene.Common` says which of these are the same.  Nothing that is run tells scenes from each
    other that are alike in what it reads.
-/

namespace TickScript

/-! ## Scenes -/

/-- **What two scenes may have in common** or not. -/
structure Scene.Common where
  /-- Whether the same library is bound. -/
  library : Prop
  /-- Whether the counters are the same. -/
  memory : Prop
  /-- What was printed in the one before. -/
  printed : List (Nat × String)
  /-- And in the other. -/
  printed' : List (Nat × String)

/-- **Scenes that are alike.**  What is printed from here on is printed in both. -/
structure Scene.Like (c : Scene.Common) (s s' : Scene) : Prop where
  stack : s'.machine.stack = s.machine.stack
  windows : s'.machine.windows = s.machine.windows
  signal : s'.machine.signal = s.machine.signal
  settings : s'.machine.settings = s.machine.settings
  library : c.library →
    s'.machine.strings = s.machine.strings ∧ s'.machine.powOrder = s.machine.powOrder
  roster : s'.roster = s.roster
  files : s'.files = s.files
  memory : c.memory → s'.memory = s.memory
  printed : ∃ lines, s.console = c.printed ++ lines ∧ s'.console = c.printed' ++ lines

namespace Scene.Like

variable {c : Common} {s s' : Scene}

/-- Under one library the machines differ in their profiles only. -/
theorem machine_eq (like : Like c s s') (same : c.library) :
    s'.machine = { s.machine with profile := s'.machine.profile } := by
  obtain ⟨strings, powOrder⟩ := like.library same
  obtain ⟨loopLimit, others⟩ := Prod.mk.inj like.settings
  obtain ⟨saveDir, budget⟩ := Prod.mk.inj others
  show s'.machine = ⟨s.machine.stack, s.machine.windows, s.machine.signal, s.machine.strings,
    s.machine.powOrder, s.machine.loopLimit, s.machine.saveDir, s'.machine.profile, s.machine.budget⟩
  rw [← like.stack, ← like.windows, ← like.signal, ← strings, ← powOrder, ← loopLimit, ← saveDir,
    ← budget]

theorem withRoster {r r' : Roster} (like : Like c s s') (same : r' = r) :
    Like c { s with roster := r } { s' with roster := r' } :=
  { like with roster := same }

theorem withWindows {w w' : Windows} (like : Like c s s') (same : w' = w) :
    Like c (s.withWindows w) (s'.withWindows w') :=
  { like with windows := same }

theorem withSignal (like : Like c s s') (signal : Option LoopSignal) :
    Like c { s with machine := { s.machine with signal := signal } }
      { s' with machine := { s'.machine with signal := signal } } :=
  { like with signal := rfl }

theorem withStack {stack stack' : Stack} (like : Like c s s') (same : stack' = stack) :
    Like c { s with machine := { s.machine with stack := stack } }
      { s' with machine := { s'.machine with stack := stack' } } :=
  { like with stack := same }

theorem withMemory {m m' : BlockMemory} (like : Like c s s') (same : c.memory → m' = m) :
    Like c { s with memory := m } { s' with memory := m' } :=
  { like with memory := same }

/-- An expression that ends alike leaves scenes that are alike. -/
theorem withBench {b b' : Bench} (like : Like c s s') (same : b.Like b') :
    Like c (s.withBench b) (s'.withBench b') :=
  { like with stack := same.1, roster := same.2 }

end Scene.Like

namespace Act

variable {c : Scene.Common} {α β : Type} {x : Act α}

open Scene (Like)

/-! ## The actions of effects -/

theorem blind_ofExcept (x : Except Fault α) : Blind (Like c) (Act.ofExcept x) := by
  cases x with
  | ok a => exact .pure a
  | error f => exact .throw f

theorem blind_roster : Blind (Like c) Act.roster := by
  intro s s' like
  show Alike (Like c) (.ok s.roster s) (.ok s'.roster s')
  rw [like.roster]
  exact .ok _ like

theorem blind_entity (id : EntityId) : Blind (Like c) (Act.entity id) :=
  blind_roster.bind fun r => blind_ofExcept (r.get id)

theorem blind_update (id : EntityId) (f : Entity → Entity) : Blind (Like c) (Act.update id f) :=
  (blind_entity id).bind fun _ => blind_roster.bind fun _ => .modify fun like => like.withRoster rfl

/-- What follows a look at the machine may depend on all but the profile. -/
theorem blind_machine {f : Machine → Act α} (same : c.library)
    (unseen : ∀ m p, f { m with profile := p } = f m) (rest : ∀ m, Blind (Like c) (f m)) :
    Blind (Like c) (Act.machine >>= f) := by
  intro s s' like
  have alike : f s'.machine = f s.machine := by
    rw [like.machine_eq same]
    exact unseen s.machine s'.machine.profile
  show Alike (Like c) (f s.machine s) (f s'.machine s')
  rw [alike]
  exact rest s.machine s s' like

theorem blind_evaluate (same : c.library) (code : Expression) (id : EntityId) :
    Blind (Like c) (Act.evaluate code id) := by
  intro s s' like
  -- both runs read the same of the machine
  have machine := like.machine_eq same
  have context : Act.context s'.machine = Act.context s.machine := by rw [machine]; rfl
  have budget : s'.machine.budget = s.machine.budget := by rw [machine]
  have benches : s.bench.Like s'.bench := ⟨like.stack, like.roster⟩
  have ended := Eval.blind_eval (Act.context s.machine) s.machine.budget code id s.bench s'.bench
    benches
  rw [evaluate_eq code id s, evaluate_eq code id s', context, budget]
  exact ended.onEnd fun left => like.withBench left

/-- **What effects are composed of does not see more** than the bound library, and what scenes that
    are alike have in common; nor do effects. -/
theorem Composed.blind {all : Prop} (built : x.Composed all) (same : c.library) :
    Blind (Like c) x := by
  induction built with
  | pure a => exact .pure a
  | throw f => exact .throw f
  | bind _ _ first rest => exact first.bind rest
  | machine unseen _ rest => exact blind_machine same unseen rest
  | evaluate code id => exact blind_evaluate same code id
  | roster => exact blind_roster
  | update id _ => exact blind_update id _
  | @onRoster _ _ g _ =>
    intro s s' like
    show Alike (Like c) (.ok (g s.roster).1 { s with roster := (g s.roster).2 })
      (.ok (g s'.roster).1 { s' with roster := (g s'.roster).2 })
    rw [like.roster]
    exact .ok _ (like.withRoster rfl)
  | @onFiles _ _ g =>
    intro s s' like
    show Alike (Like c) (.ok (g s.files).1 { s with files := (g s.files).2 })
      (.ok (g s'.files).1 { s' with files := (g s'.files).2 })
    rw [like.files]
    exact .ok _ { like with files := rfl }
  | print _ playerNo line =>
    refine .modify fun {s s'} like => ?_
    obtain ⟨lines, printed, printed'⟩ := like.printed
    have more : ∃ lines, s.console ++ [(playerNo, line)] = c.printed ++ lines ∧
        s'.console ++ [(playerNo, line)] = c.printed' ++ lines := by
      refine ⟨lines ++ [(playerNo, line)], ?_, ?_⟩
      · rw [printed, List.append_assoc]
      · rw [printed', List.append_assoc]
    exact { like with printed := more }

/-! ## Brackets -/

theorem blind_withWindow (size : Nat) (inner : Blind (Like c) x) :
    Blind (Like c) (Act.withWindow size x) := by
  intro s s' like
  have opened := like.withWindows (congrArg (Windows.push · size) like.windows)
  rw [withWindow_eq, withWindow_eq]
  exact (inner _ _ opened).onEnd fun left => left.withWindows (congrArg Windows.pop left.windows)

/-- An action with counters of its own sees no others. -/
theorem blind_withMemory (memory : BlockMemory) (inner : Blind (Like { c with memory := True }) x) :
    Blind (Like c) (Act.withMemory memory x) := by
  intro s s' like
  have opened : Like { c with memory := True } { s with memory := memory }
      { s' with memory := memory } := { like with memory := fun _ => rfl }
  have closed {t t' : Scene} (left : Like { c with memory := True } t t') :
      Like c { t with memory := s.memory } { t' with memory := s'.memory } :=
    { left with memory := like.memory }
  rw [withMemory_eq, withMemory_eq]
  exact (inner _ _ opened).onEnd closed

/-! ## The actions of programs -/

theorem blind_onWindows (g : Windows → Except Fault Windows) : Blind (Like c) (Act.onWindows g) := by
  intro s s' like
  have run (s : Scene) : Act.onWindows g s =
      (Act.ofExcept (g s.machine.windows) >>= fun w =>
        Act.setMachine { s.machine with windows := w }) s := rfl
  rw [run s, run s', like.windows]
  cases g s.machine.windows with
  | ok w => exact .ok () (like.withWindows rfl)
  | error f => exact .error f like

theorem blind_takeSignal : Blind (Like c) Act.takeSignal := by
  intro s s' like
  show Alike (Like c)
    (.ok s.machine.signal { s with machine := { s.machine with signal := none } })
    (.ok s'.machine.signal { s' with machine := { s'.machine with signal := none } })
  rw [like.signal]
  exact .ok _ (like.withSignal none)

theorem blind_localSlot (slot : Nat) : Blind (Like c) (Act.localSlot slot) := by
  intro s s' like
  show Alike (Like c) (Act.ofExcept (s.machine.windows.get slot) s)
    (Act.ofExcept (s'.machine.windows.get slot) s')
  rw [like.windows]
  exact blind_ofExcept _ s s' like

theorem blind_pushArguments (same : c.library) (id : EntityId) (args : List Expression) :
    Blind (Like c) (Act.pushArguments id args) := by
  refine .forM (fun code => (blind_evaluate same code id).bind fun v => ?_) args
  intro s s' like
  exact .ok () (like.withStack (congrArg (Stack.push · v) like.stack))

/-! ## Calls -/

theorem blind_takeArguments (count : Nat) : Blind (Like c) (Function.takeArguments count) := by
  induction count with
  | zero => exact fun s s' like => .ok () (like.withStack rfl)
  | succ count ih =>
    intro s s' like
    -- what is popped is the same, and the rest starts from what is left
    have run (s : Scene) : Function.takeArguments (count + 1) s =
        (Act.ofExcept s.machine.stack.pop >>= fun popped => do
          Act.setMachine { s.machine with stack := popped.2 }
          Act.onWindows fun w => w.set count popped.1
          Function.takeArguments count) s := rfl
    rw [run s, run s', like.stack]
    cases s.machine.stack.pop with
    | error f => exact .error f like
    | ok popped =>
      have others : Blind (Like c) (do
          Act.onWindows fun w => w.set count popped.1
          Function.takeArguments count) := (blind_onWindows _).bind fun _ => ih
      exact others _ _ (like.withStack rfl)

theorem blind_giveResults (slot : Nat) (rets : List UInt8) :
    Blind (Like c) (Function.giveResults slot rets) := by
  induction rets generalizing slot with
  | nil => exact .pure _
  | cons ret rest ih =>
    exact (blind_localSlot slot).bind fun v => (blind_onWindows _).bind fun _ => ih (slot + 1)

theorem blind_invoke {f : Function} {rets : List UInt8} {body : Act Flow} (same : c.library)
    (inner : Blind (Like { c with memory := True }) body) :
    Blind (Like c) (f.invoke rets body) := by
  have checks : Act.Composed True (f.checkCounts rets) := .checkCounts f rets
  have checked : Blind (Like c) (f.checkCounts rets) := checks.blind same
  have called : Blind (Like { c with memory := True }) (do
      if (← body) = .unwind then return true
      Function.giveResults f.argCount rets
      return false) :=
    inner.bind fun _ => .ite (.pure _) ((blind_giveResults f.argCount rets).bind fun _ => .pure _)
  exact checked.bind fun _ => blind_withWindow f.windowSize
    ((blind_takeArguments f.argCount).bind fun _ => blind_withMemory _ called)

/-- **What programs are made of does not see more** than the bound library, the counters, and what
    scenes that are alike have in common; nor do programs. -/
theorem Scripted.blind (built : x.Scripted) (same : c.library) (counters : c.memory) :
    Blind (Like c) x := by
  induction built generalizing c with
  | composed effect => exact effect.blind same
  | bind _ _ first rest => exact (first same counters).bind fun a => rest a same counters
  | machine unseen _ rest => exact blind_machine same unseen fun m => rest m same counters
  | @onMemory _ g =>
    intro s s' like
    show Alike (Like c) (.ok (g s.memory).1 { s with memory := (g s.memory).2 })
      (.ok (g s'.memory).1 { s' with memory := (g s'.memory).2 })
    rw [like.memory counters]
    exact .ok _ (like.withMemory fun _ => rfl)
  | raise signal => exact fun s s' like => .ok () (like.withSignal (some signal))
  | takeSignal => exact blind_takeSignal
  | assign slot code id => exact (blind_evaluate same code id).bind fun _ => blind_onWindows _
  | count slot n => exact blind_onWindows _
  | pushArguments id args => exact blind_pushArguments same id args
  | call f rets _ inner => exact blind_invoke same (inner same trivial)

end Act

/-! ## States -/

namespace StateProgram

variable {c : Scene.Common} (p : StateProgram) (id : EntityId)

/-- **Entering a state** does not see the counters. -/
theorem blind_enter (same : c.library) : Blind (Scene.Like c) (p.enter id) := by
  have entry : Act.Composed False (runEntry p.entry id) := composed_entry id p.entry
  exact (Act.blind_update id _).bind fun _ =>
    Act.blind_withWindow p.localCount (entry.blind same)

/-- **A run of a program** sees the bound library and the counters, and no more. -/
theorem blind_run (same : c.library) (counters : c.memory) : Blind (Scene.Like c) (p.run id) := by
  have block : Blind (Scene.Like c) (p.block.run id) := (p.block.scripted id).blind same counters
  have balanced (stopped : Bool) : Act.Composed True (do
      Act.ofExcept ((← Act.machine).checkBalance p.number)
      return stopped) :=
    .machine (fun _ _ => rfl) fun _ => (Act.Composed.ofExcept _).bind fun _ => .pure _
  exact Act.blind_withWindow p.localCount (block.bind fun stopped =>
    Act.blind_takeSignal.bind fun _ => (balanced stopped).blind same)

end StateProgram
end TickScript
