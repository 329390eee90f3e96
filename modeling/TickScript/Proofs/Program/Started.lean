import TickScript.Program.Run
import TickScript.Proofs.Scene

/-! # Which controllers a run starts

    A run of a controller starts others: a block starts those of its body, a loop starts them
    again and again, a call starts those of the function.  `Controller.starts` lists them in
    order, each with the scene in which it is started and with the number of loops and calls around
    it.  The list is cut short where the run is, by a fault or by a controller that asks to unwind.

    The equations of this file put blocks and bodies into the form in which the list is made: what
    comes first, what it leads to, and what follows.
-/

namespace TickScript

/-- **A controller that was started.** -/
structure Started where
  /-- How many loops and calls are around it. -/
  depth : Nat
  controller : Controller
  scene : Scene

/-- Whether a loop signal was raised. -/
def Started.Signals (x : Started) : Prop := ∃ signal, x.controller = .signal signal

instance : (x : Started) → Decidable x.Signals
  | ⟨_, .signal s, _⟩ => .isTrue ⟨s, rfl⟩
  | ⟨_, .block _, _⟩ => .isFalse nofun
  | ⟨_, .evaluate _, _⟩ => .isFalse nofun
  | ⟨_, .assign _ _, _⟩ => .isFalse nofun
  | ⟨_, .call _ _ _, _⟩ => .isFalse nofun
  | ⟨_, .nothing, _⟩ => .isFalse nofun
  | ⟨_, .effect _ _, _⟩ => .isFalse nofun

/-- **What is started after an action**, if it ends without a fault. -/
def Act.thenStarts {α : Type} (x : Act α) (f : α → Scene → List Started) (s : Scene) :
    List Started :=
  match x s with
  | .ok a t => f a t
  | .error _ _ => []

theorem Act.thenStarts_of_ok {α : Type} {x : Act α} {f : α → Scene → List Started} {s t : Scene}
    {a : α} (run : x s = .ok a t) : x.thenStarts f s = f a t := by
  simp only [thenStarts, run]

theorem Act.mem_thenStarts {α : Type} {x : Act α} {f : α → Scene → List Started} {s : Scene}
    {y : Started} (h : y ∈ x.thenStarts f s) : ∃ a t, x s = .ok a t ∧ y ∈ f a t := by
  unfold thenStarts at h
  split at h
  case h_1 a t run => exact ⟨a, t, run, h⟩
  case h_2 => cases h

/-- Nothing is started. -/
def Started.nothing : Scene → List Started := fun _ => []

/-! ## Parts of runs -/

/-- Whether the hit pause and the persistence counter let the block run. -/
def Block.opens (pause : PauseMode) (persistence : Option Persistence) (id : EntityId) :
    Act Bool := do
  if ← Block.passesPause pause id then Block.isDue persistence else return false

/-- Runs an action that may ask to unwind; the counter is reloaded if it does not. -/
def Block.thenReload (persistence : Option Persistence) (action : Act Bool) : Act Bool := do
  if ← action then return true
  Block.reload persistence
  return false

/-- Whether the hit pause holds a controller of a body. -/
def Controller.isHeld (id : EntityId) (ignoresPause : Bool) (c : Controller) : Act Bool :=
  if c.isBlock || ignoresPause then pure false else Act.isPaused id

/-- **Runs controllers until one asks to unwind**; whether one did. -/
def Controller.runAll (id : EntityId) (ignoresPause : Bool) : List Controller → Act Bool
  | [] => return false
  | c :: rest => do
    if ← c.isHeld id ignoresPause then Controller.runAll id ignoresPause rest
    else if ← c.run id then return true
    else Controller.runAll id ignoresPause rest

/-- The end of a body, which takes the pending signal in a loop. -/
def Block.ended (inLoop : Bool) (action : Act Bool) : Act Flow := do
  if ← action then
    if inLoop then return flowOfSignal (← Act.takeSignal) else return .unwind
  else return .completed

/-- The bounds of a loop over a range, its step, and how often it may start its body. -/
def Block.bounds (loop : ForLoop) (id : EntityId) : Act (Int32 × Int32 × Int32 × Nat) := do
  let start := (← Act.evaluate loop.start id).toInt32
  match loop.slot with
  | none => pure ()
  | some slot => Act.onWindows fun w => w.set slot.toNat (.ofInt32 start)
  let stop := (← Act.evaluate loop.stop id).toInt32
  let step := (← Act.evaluate loop.step id).toInt32
  return (start, stop, step, (← Act.machine).loopLimit)

theorem Controller.runBody_cons (id : EntityId) (ignoresPause inLoop : Bool) (c : Controller)
    (rest : List Controller) :
    Controller.runBody id ignoresPause inLoop (c :: rest) = (do
      if ← c.isHeld id ignoresPause then Controller.runBody id ignoresPause inLoop rest
      else if ← c.run id then
        if inLoop then return Block.flowOfSignal (← Act.takeSignal) else return .unwind
      else Controller.runBody id ignoresPause inLoop rest) := by
  rw [runBody]
  unfold isHeld
  split
  · rfl
  · rfl

theorem Controller.runBody_ended (id : EntityId) (ignoresPause inLoop : Bool)
    (items : List Controller) :
    Controller.runBody id ignoresPause inLoop items =
      Block.ended inLoop (Controller.runAll id ignoresPause items) := by
  induction items with
  | nil =>
    rw [runBody, runAll]
    rfl
  | cons c rest ih =>
    rw [runBody_cons, runAll, ih]
    unfold Block.ended
    rw [bind_assoc]
    apply bind_congr
    intro held
    cases held with
    | true => rfl
    | false =>
      simp only [Bool.false_eq_true, if_false, bind_assoc]
      apply bind_congr
      intro stops
      cases stops with
      | true => rfl
      | false => rfl

/-- Outside loops, a body asks to unwind if its controllers do. -/
theorem Block.ended_false_bind (action rest : Act Bool) :
    (do if (← Block.ended false action) = .unwind then return true else rest) =
      (do if ← action then return true else rest) := by
  unfold ended
  rw [bind_assoc]
  apply bind_congr
  intro stops
  cases stops with
  | true => rfl
  | false => rfl

theorem Block.runRange_bounds (loop : ForLoop) (id : EntityId) (body : Act Flow) :
    Block.runRange loop id body = (do
      let (start, stop, step, limit) ← Block.bounds loop id
      Loop.forRange limit loop.slot stop step body limit start) := by
  unfold runRange bounds
  cases loop.slot with
  | none => simp only [bind_assoc, pure_bind]
  | some slot => simp only [bind_assoc, pure_bind]

/-- What a block does once it may run. -/
def Block.activate (id : EntityId) : Block → Act Bool
  | ⟨guard, body, otherwise, _, persistence, ignoresPause, loop⟩ =>
    let all := Controller.runAll id ignoresPause body
    match loop with
    | .once => do
      if ← Block.guardHolds guard id then Block.thenReload persistence all
      else Block.runOtherwise id otherwise
    | .whileGuard => Block.thenReload persistence do
      let limit := (← Act.machine).loopLimit
      Loop.whileHolds limit (Block.guardHolds guard id) (Block.ended true all) limit
    | .forRange range => Block.thenReload persistence do
      let (start, stop, step, limit) ← Block.bounds range id
      Loop.forRange limit range.slot stop step (Block.ended true all) limit start

theorem Block.run_activate (id : EntityId) (b : Block) :
    b.run id = (do
      if ← Block.opens b.pause b.persistence id then b.activate id else return false) := by
  obtain ⟨guard, body, otherwise, pause, persistence, ignoresPause, loop⟩ := b
  -- both ask for the pause first and for the counter next
  rw [run]
  simp only [opens, bind_assoc]
  apply bind_congr
  intro passes
  cases passes with
  | false => rfl
  | true =>
    simp only [Bool.not_true, Bool.false_eq_true, if_false, if_true]
    apply bind_congr
    intro due
    cases due with
    | false => rfl
    | true =>
      cases loop with
      | once =>
        simp only [Controller.runBody_ended]
        apply bind_congr
        intro holds
        cases holds with
        | true => exact ended_false_bind _ _
        | false => rfl
      | whileGuard =>
        simp only [Controller.runBody_ended, activate, thenReload, bind_assoc]
        rfl
      | forRange range =>
        simp only [Controller.runBody_ended, runRange_bounds]
        rfl

/-! ## Runs -/

/-- What one round of a loop starts, and those that follow if the body lets them. -/
def Loop.roundStarts (body : Act Flow) (starts next : Scene → List Started) (s : Scene) :
    List Started :=
  starts s ++ body.thenStarts (fun flow => if flow = .completed then next else Started.nothing) s

/-- What a loop starts that goes on while its test holds. -/
def Loop.whileStarts (test : Act Bool) (body : Act Flow) (starts : Scene → List Started) :
    (left : Nat) → Scene → List Started
  | 0 => Started.nothing
  | left + 1 => test.thenStarts fun holds =>
    if holds then roundStarts body starts (whileStarts test body starts left) else Started.nothing

/-- What a loop over a range starts. -/
def Loop.rangeStarts (slot : Option UInt8) (stop step : Int32) (body : Act Flow)
    (starts : Scene → List Started) : (left : Nat) → (i : Int32) → Scene → List Started
  | 0, _ => Started.nothing
  | left + 1, i =>
    if inRange stop step i then
      roundStarts body starts
        ((advance slot stop step i).thenStarts (rangeStarts slot stop step body starts left))
    else Started.nothing

mutual

/-- **What a controller starts**, itself first. -/
def Controller.starts (id : EntityId) (depth : Nat) : Controller → Scene → List Started
  | .block b => fun s => ⟨depth, .block b, s⟩ :: b.starts id depth s
  | .call f args rets => fun s => ⟨depth, .call f args rets, s⟩ ::
      (Act.pushArguments id args).thenStarts (fun _ => f.starts id (depth + 1) rets) s
  | c => fun s => [⟨depth, c, s⟩]

/-- What a block starts. -/
def Block.starts (id : EntityId) (depth : Nat) : Block → Scene → List Started
  | ⟨guard, body, otherwise, pause, persistence, ignoresPause, loop⟩ =>
    (Block.opens pause persistence id).thenStarts fun opened =>
      if opened then
        match loop with
        | .once => (Block.guardHolds guard id).thenStarts fun holds =>
          if holds then Controller.allStart id depth ignoresPause body
          else Block.otherwiseStarts id depth otherwise
        | .whileGuard => Act.machine.thenStarts fun m =>
          Loop.whileStarts (Block.guardHolds guard id)
            (Block.ended true (Controller.runAll id ignoresPause body))
            (Controller.allStart id (depth + 1) ignoresPause body) m.loopLimit
        | .forRange range => (Block.bounds range id).thenStarts fun (start, stop, step, limit) =>
          Loop.rangeStarts range.slot stop step
            (Block.ended true (Controller.runAll id ignoresPause body))
            (Controller.allStart id (depth + 1) ignoresPause body) limit start
      else Started.nothing

/-- What the block for a failed guard starts. -/
def Block.otherwiseStarts (id : EntityId) (depth : Nat) : Option Block → Scene → List Started
  | none => Started.nothing
  | some b => b.starts id depth

/-- What the controllers of a body start, until one asks to unwind. -/
def Controller.allStart (id : EntityId) (depth : Nat) (ignoresPause : Bool) :
    List Controller → Scene → List Started
  | [] => Started.nothing
  | c :: rest => (c.isHeld id ignoresPause).thenStarts fun held =>
    if held then Controller.allStart id depth ignoresPause rest
    else fun s => c.starts id depth s ++
      (c.run id).thenStarts (fun stops =>
        if stops then Started.nothing else Controller.allStart id depth ignoresPause rest) s

/-- What a call starts, once its arguments are on the stack. -/
def Function.starts (id : EntityId) (depth : Nat) (rets : List UInt8) :
    Function → Scene → List Started
  | ⟨name, argCount, retCount, localCount, persistenceSlots, toggleSlots, body⟩ =>
    let f : Function :=
      ⟨name, argCount, retCount, localCount, persistenceSlots, toggleSlots, body⟩
    (f.checkCounts rets).thenStarts fun _ s =>
      (Function.takeArguments argCount).thenStarts
        (fun _ t => Controller.allStart id depth false body
          { t with memory := .sized persistenceSlots toggleSlots })
        (s.withWindows (s.machine.windows.push f.windowSize))

end

theorem Function.starts_eq (id : EntityId) (depth : Nat) (rets : List UInt8) (f : Function) :
    f.starts id depth rets = (f.checkCounts rets).thenStarts fun _ s =>
      (Function.takeArguments f.argCount).thenStarts
        (fun _ t => Controller.allStart id depth false f.body
          { t with memory := .sized f.persistenceSlots f.toggleSlots })
        (s.withWindows (s.machine.windows.push f.windowSize)) := by
  obtain ⟨name, argCount, retCount, localCount, persistenceSlots, toggleSlots, body⟩ := f
  rw [starts]

/-- A controller that is neither a block nor a call starts nothing but itself. -/
theorem Controller.starts_alone {id : EntityId} {depth : Nat} {c : Controller}
    (block : ∀ b, c ≠ .block b) (call : ∀ f args rets, c ≠ .call f args rets) :
    c.starts id depth = fun s => ⟨depth, c, s⟩ :: Started.nothing s := by
  rw [starts]
  · rfl
  · exact block
  · exact call

end TickScript
