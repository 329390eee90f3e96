import TickScript.Proofs.Effect.Footprint
import TickScript.Proofs.Program.Scripted

/-! # What programs leave alone

    A footprint that allows what effects do, and beyond that the assignments, signals and calls of
    programs, is kept by every controller (`AllowsPrograms.controller`), because it is kept by each
    of the actions that programs are made of.

    Calls are the one place where a footprint must be argued for, because a call opens a window
    and closes it again: `AllowsPrograms.call` asks for it once, around a body that is known to
    stay within the footprint.
-/

namespace TickScript

/-- **What programs need of a footprint** to stay within it. -/
structure Footprint.AllowsPrograms (F : Footprint Scene) : Prop extends F.AllowsEffects where
  signal : ∀ (s : Scene) (signal : Option LoopSignal),
    F.allows s { s with machine := { s.machine with signal := signal } }
  /-- The value of an expression in a slot. -/
  assign : ∀ slot code id,
    F.Keeps (Act.evaluate code id >>= fun v => Act.onWindows fun w => w.set slot v)
  /-- The counter of a loop in a slot. -/
  count : ∀ slot n, F.Keeps (Act.onWindows fun w => w.set slot (.ofInt32 n))
  pushArguments : ∀ id args, F.Keeps (Act.pushArguments id args)
  call : ∀ (f : Function) (rets : List UInt8) {body : Act Flow}, F.Keeps body →
    F.Keeps (f.invoke rets body)

namespace Footprint

variable {F : Footprint Scene} {α : Type}

theorem keeps_localSlot (slot : Nat) : F.Keeps (Act.localSlot slot) :=
  keeps_machine.bind fun _ => keeps_ofExcept _

theorem keeps_isPaused (id : EntityId) : F.Keeps (Act.isPaused id) :=
  (keeps_entity id).bind fun _ => .pure _

/-! ## Operands of calls -/

/-- Operands may change. -/
def AllowsOperands (F : Footprint Scene) : Prop :=
  ∀ (s : Scene) (stack : Stack), F.allows s { s with machine := { s.machine with stack := stack } }

namespace AllowsOperands

variable (h : F.AllowsOperands)

include h

theorem pushArguments (evaluate : ∀ code id, F.Keeps (Act.evaluate code id)) (id : EntityId)
    (args : List Expression) : F.Keeps (Act.pushArguments id args) := by
  have push (v : Value) : F.Keeps (do
      let m ← Act.machine
      Act.setMachine { m with stack := m.stack.push v }) :=
    fun s => h s (s.machine.stack.push v)
  exact Keeps.forM (fun code => (evaluate code id).bind push) args

theorem takeArguments (assign : ∀ slot v, F.Keeps (Act.onWindows fun w => w.set slot v))
    (count : Nat) : F.Keeps (Function.takeArguments count) := by
  induction count with
  | zero => exact fun s => h s []
  | succ count ih =>
    intro s
    refine Ends.step (a := s.machine) (t := s) rfl ?_
    cases popped : s.machine.stack.pop with
    | error f => exact F.refl s
    | ok result =>
      -- popping is allowed, and the rest starts from there
      refine (((assign count result.1).bind fun _ => ih) _).mono (fun _ _ moved => ?_)
        fun _ _ moved => ?_
      · exact F.trans (h s result.2) moved
      · exact F.trans (h s result.2) moved

end AllowsOperands

theorem keeps_giveResults (bind : ∀ slot v, F.Keeps (Act.onWindows fun w => w.setInCaller slot v))
    (slot : Nat) (rets : List UInt8) : F.Keeps (Function.giveResults slot rets) := by
  induction rets generalizing slot with
  | nil => exact .pure _
  | cons ret rest ih =>
    exact (keeps_localSlot slot).bind fun v => (bind ret.toNat v).bind fun _ => ih (slot + 1)

/-! ## Calls -/

/-- Counts are only compared. -/
theorem keeps_checkCounts (f : Function) (rets : List UInt8) : F.Keeps (f.checkCounts rets) :=
  keeps_machine.bind fun _ =>
    .ite ((Keeps.throw _).bind fun _ => .ite (.throw _) (.pure _)) (.ite (.throw _) (.pure _))

/-- A call, from what it does around its body. -/
theorem keeps_invoke {f : Function} {rets : List UInt8} {body : Act Flow}
    (window : ∀ {action : Act Bool}, F.Keeps action → F.Keeps (Act.withWindow f.windowSize action))
    (memory : ∀ {memory : BlockMemory} {action : Act Bool}, F.Keeps action →
      F.Keeps (Act.withMemory memory action))
    (takes : F.Keeps (Function.takeArguments f.argCount))
    (gives : F.Keeps (Function.giveResults f.argCount rets)) (kept : F.Keeps body) :
    F.Keeps (f.invoke rets body) := by
  refine (keeps_checkCounts f rets).bind fun _ => window (takes.bind fun _ => memory ?_)
  exact kept.bind fun _ => .ite (.pure _) (gives.bind fun _ => .pure _)

/-! ## Gates and counters -/

namespace AllowsEffects

variable (h : F.AllowsEffects) (id : EntityId)

include h

theorem passesPause (pause : PauseMode) : F.Keeps (Block.passesPause pause id) := by
  refine (keeps_isPaused id).bind fun _ => .ite ?_ (.pure _)
  cases pause with
  | skip => exact .pure _
  | run => exact .pure _
  | alternate slot => exact fun s => h.aside rfl rfl

theorem isDue (persistence : Option Persistence) : F.Keeps (Block.isDue persistence) := by
  cases persistence with
  | none => exact .pure _
  | some p => exact fun s => h.aside rfl rfl

theorem reload (persistence : Option Persistence) : F.Keeps (Block.reload persistence) := by
  cases persistence with
  | none => exact .pure _
  | some p => exact fun s => h.aside rfl rfl

theorem guardHolds (guard : Option Expression) : F.Keeps (Block.guardHolds guard id) := by
  have built : Act.Composed True (Block.guardHolds guard id) := .guardHolds id guard
  exact h.composed built

end AllowsEffects

/-- The counter of a loop moves if slots may be assigned. -/
theorem keeps_advance (assign : ∀ slot v, F.Keeps (Act.onWindows fun w => w.set slot v))
    (slot : Option UInt8) (stop step i : Int32) : F.Keeps (Loop.advance slot stop step i) := by
  cases slot with
  | none => exact .pure _
  | some slot =>
    exact (keeps_localSlot _).bind fun _ => .ite ((assign _ _).bind fun _ => .pure _) (.pure _)

/-! ## Loops -/

section Loops

variable {body : Act Flow}

theorem keeps_whileHolds {test : Act Bool} (tested : F.Keeps test) (inner : F.Keeps body)
    (limit left : Nat) : F.Keeps (Loop.whileHolds limit test body left) := by
  induction left with
  | zero => exact tested.bind fun _ => .ite (.throw _) (.pure _)
  | succ left ih =>
    refine tested.bind fun _ => .ite (inner.bind fun flow => ?_) (.pure _)
    cases flow with
    | completed => exact ih
    | left => exact .pure _
    | unwind => exact .pure _

theorem keeps_forRange (assign : ∀ slot v, F.Keeps (Act.onWindows fun w => w.set slot v))
    (inner : F.Keeps body) (limit : Nat) (slot : Option UInt8) (stop step : Int32) (left : Nat)
    (i : Int32) : F.Keeps (Loop.forRange limit slot stop step body left i) := by
  induction left generalizing i with
  | zero => exact .ite (.throw _) (.pure _)
  | succ left ih =>
    refine .ite (inner.bind fun flow => ?_) (.pure _)
    cases flow with
    | completed => exact (keeps_advance assign slot stop step i).bind ih
    | left => exact .pure _
    | unwind => exact .pure _

theorem keeps_runRange (assign : ∀ slot v, F.Keeps (Act.onWindows fun w => w.set slot v))
    (inner : F.Keeps body) (loop : ForLoop) (id : EntityId)
    (evaluates : ∀ code, F.Keeps (Act.evaluate code id)) :
    F.Keeps (Block.runRange loop id body) := by
  have repeats (start : Int32) : F.Keeps (do
      let stop := (← Act.evaluate loop.stop id).toInt32
      let step := (← Act.evaluate loop.step id).toInt32
      let limit := (← Act.machine).loopLimit
      Loop.forRange limit loop.slot stop step body limit start) :=
    (evaluates _).bind fun _ => (evaluates _).bind fun _ => keeps_machine.bind fun _ =>
      keeps_forRange assign inner _ _ _ _ _ _
  refine (evaluates loop.start).bind fun start => ?_
  dsimp only
  split
  · exact repeats start.toInt32
  · exact (assign _ _).bind fun _ => repeats start.toInt32

end Loops

/-! ## All programs -/

namespace AllowsPrograms

/-- It is enough to allow operands and signals to change, and slots to be assigned any value. -/
theorem of_scratch (effects : F.AllowsEffects)
    (scratch : ∀ (s : Scene) (stack : Stack) (signal : Option LoopSignal),
      F.allows s { s with machine := { s.machine with stack := stack, signal := signal } })
    (assign : ∀ slot v, F.Keeps (Act.onWindows fun w => w.set slot v))
    (call : ∀ (f : Function) (rets : List UInt8) {body : Act Flow}, F.Keeps body →
      F.Keeps (f.invoke rets body)) : F.AllowsPrograms where
  toAllowsEffects := effects
  signal s signal := scratch s s.machine.stack signal
  assign slot code id := (effects.evaluate code id).bind (assign slot)
  count slot n := assign slot (.ofInt32 n)
  pushArguments :=
    AllowsOperands.pushArguments (fun s stack => scratch s stack s.machine.signal) effects.evaluate
  call := call

variable (h : F.AllowsPrograms)

include h

/-- **What programs are made of stays within the footprint**, and so do they. -/
theorem scripted {x : Act α} (built : x.Scripted) : F.Keeps x := by
  induction built with
  | composed effect => exact h.composed effect
  | bind _ _ first rest => exact first.bind rest
  | machine _ _ rest => exact keeps_machine.bind rest
  | onMemory => exact fun s => h.aside rfl rfl
  | raise signal => exact fun s => h.signal s (some signal)
  | takeSignal => exact fun s => h.signal s none
  | assign slot code id => exact h.assign slot code id
  | count slot n => exact h.count slot n
  | pushArguments id args => exact h.pushArguments id args
  | call f rets _ inner => exact h.call f rets inner

variable (id : EntityId)

/-- **Every controller stays within the footprint.** -/
theorem controller (c : Controller) : F.Keeps (c.run id) := h.scripted (c.scripted id)

theorem block (b : Block) : F.Keeps (b.run id) := h.scripted (b.scripted id)

theorem body (ignoresPause inLoop : Bool) (items : List Controller) :
    F.Keeps (Controller.runBody id ignoresPause inLoop items) :=
  h.scripted (Controller.scripted_body id ignoresPause inLoop items)

/-- **A run of a program stays within the footprint**, if opening and closing its window does. -/
theorem run (window : ∀ {size : Nat} {action : Act Bool}, F.Keeps action →
    F.Keeps (Act.withWindow size action)) (p : StateProgram) : F.Keeps (p.run id) := by
  have taken := h.scripted .takeSignal
  refine window ((h.block id p.block).bind fun stopped => taken.bind fun _ => ?_)
  exact keeps_machine.bind fun _ => (keeps_ofExcept _).bind fun _ => .pure _

end AllowsPrograms
end Footprint
end TickScript
