import TickScript.Proofs.Eval.Values
import TickScript.Proofs.Program.Deeds

/-! # No NaN on the stack or in a slot

    A NaN may stand in a variable, under a name, in a position or in a constant of an entity.  It
    becomes `failed` when it is read.  Operands and slots get their values from expressions and
    from each other, so as long as none of them is a NaN, none becomes one: not by an expression,
    not by a controller and not by a run of a program, whatever the roster holds.

    Beside expressions there are four places where a value moves: an assignment, the operands of a
    call, its arguments, and its results.
-/

namespace TickScript

/-! ## Slots -/

namespace Windows

variable {P : Value → Prop} {w w' : Windows}

/-- **All slots have a property.** -/
def Holds (P : Value → Prop) (w : Windows) : Prop := ∀ v ∈ w.slots, P v

theorem Holds.push (all : w.Holds P) (unset : P .unset) (size : Nat) : (w.push size).Holds P := by
  intro v i
  rcases List.mem_append.mp i with old | new
  · exact all v old
  · rw [List.eq_of_mem_replicate new]
    exact unset

theorem Holds.pop (all : w.Holds P) : w.pop.Holds P := by
  obtain ⟨slots, bases⟩ := w
  cases bases with
  | nil => exact all
  | cons base older => exact fun v i => all v (List.mem_of_mem_take i)

theorem Holds.write (all : w.Holds P) {v : Value} (has : P v) (place : Nat) :
    Windows.Holds P { w with slots := w.slots.set place v } := by
  intro u i
  rcases List.mem_or_eq_of_mem_set i with old | rfl
  · exact all u old
  · exact has

theorem Holds.set (all : w.Holds P) {slot : Nat} {v : Value} (has : P v)
    (set : w.set slot v = .ok w') : w'.Holds P := by
  unfold Windows.set at set
  split at set
  case isTrue =>
    cases set
    exact all.write has _
  case isFalse => cases set

theorem Holds.setInCaller (all : w.Holds P) {slot : Nat} {v : Value} (has : P v)
    (set : w.setInCaller slot v = .ok w') : w'.Holds P := by
  unfold Windows.setInCaller at set
  split at set
  case h_1 =>
    split at set
    case isTrue =>
      cases set
      exact all.write has _
    case isFalse => cases set
  case h_2 => cases set

end Windows

/-- **No operand and no slot is a NaN.** -/
structure Machine.NaNFree (m : Machine) : Prop where
  stack : ∀ v ∈ m.stack, v.NaNFree
  windows : m.windows.Holds Value.NaNFree

instance (m : Machine) : Decidable m.NaNFree :=
  decidable_of_iff ((∀ v ∈ m.stack, v.NaNFree) ∧ ∀ v ∈ m.windows.slots, v.NaNFree)
    ⟨fun all => ⟨all.1, all.2⟩, fun all => ⟨all.stack, all.windows⟩⟩

namespace Footprint

/-- **Changes that bring no NaN** to the stack or to a slot. -/
def naNFree : Footprint Scene := keeping fun s => s.machine.NaNFree

variable {s : Scene} {α : Type} {action : Act α}

theorem naNFree_same {s t : Scene} (same : t.machine = s.machine) : naNFree.allows s t := by
  intro clean
  rwa [same]

/-! ## Values -/

/-- **The value of an expression is no NaN.** -/
theorem ends_evaluate_naNFree (code : Expression) (id : EntityId) (clean : s.machine.NaNFree) :
    Ends (Act.evaluate code id) s (fun v t => v.NaNFree ∧ t.machine.NaNFree)
      fun _ t => t.machine.NaNFree := by
  have windows : ∀ v ∈ (Act.context s.machine).windows.slots, v.NaNFree := clean.windows
  have operands : s.bench.Holds Value.NaNFree := clean.stack
  have values := Eval.ends_eval_holds Value.closed_naNFree windows s.machine.budget code id operands
  refine ends_evaluate (values.mono (fun v b holds => ?_) fun _ b holds => ?_)
  · exact ⟨holds.1, holds.2, clean.windows⟩
  · exact ⟨holds, clean.windows⟩

/-- What is done with the value of an expression may use that it is no NaN. -/
theorem keeps_bind_evaluate {f : Value → Act α} (code : Expression) (id : EntityId)
    (rest : ∀ v, v.NaNFree → naNFree.Keeps (f v)) : naNFree.Keeps (Act.evaluate code id >>= f) := by
  refine keeps_keeping.mpr fun s clean => Ends.bind ?_
  refine (ends_evaluate_naNFree code id clean).mono (fun v t left => ?_) fun _ _ left => left
  exact keeps_keeping.mp (rest v left.1) t left.2

/-! ## Slots -/

theorem keeps_onWindows_naNFree {g : Windows → Except Fault Windows}
    (holds : ∀ w w', w.Holds Value.NaNFree → g w = .ok w' → w'.Holds Value.NaNFree) :
    naNFree.Keeps (Act.onWindows g) :=
  fun _ => ends_onWindows
    (fun _ changed clean => ⟨clean.stack, holds _ _ clean.windows changed⟩) fun _ _ clean => clean

theorem keeps_set_naNFree (slot : Nat) {v : Value} (number : v.NaNFree) :
    naNFree.Keeps (Act.onWindows fun w => w.set slot v) :=
  keeps_onWindows_naNFree fun _ _ all set => all.set number set

theorem keeps_withWindow_naNFree {size : Nat} (kept : naNFree.Keeps action) :
    naNFree.Keeps (Act.withWindow size action) := by
  refine keeps_keeping.mpr fun s clean => ends_withWindow ?_
  have opened : (s.withWindows (s.machine.windows.push size)).machine.NaNFree :=
    ⟨clean.stack, clean.windows.push trivial size⟩
  have closed {t : Scene} (left : t.machine.NaNFree) :
      (t.withWindows t.machine.windows.pop).machine.NaNFree := ⟨left.stack, left.windows.pop⟩
  exact (keeps_keeping.mp kept _ opened).mono (fun _ _ left => closed left) fun _ _ left => closed left

theorem keeps_withMemory_naNFree {memory : BlockMemory} (kept : naNFree.Keeps action) :
    naNFree.Keeps (Act.withMemory memory action) := by
  refine keeps_keeping.mpr fun s clean => ends_withMemory ?_
  have counters : ({ s with memory := memory } : Scene).machine.NaNFree := clean
  exact keeps_keeping.mp kept _ counters

/-! ## Calls -/

theorem keeps_pushArguments_naNFree (id : EntityId) (args : List Expression) :
    naNFree.Keeps (Act.pushArguments id args) := by
  refine Keeps.forM (fun code => keeps_bind_evaluate code id fun v number => ?_) args
  exact fun s clean => ⟨List.forall_mem_cons.mpr ⟨number, clean.stack⟩, clean.windows⟩

/-- Arguments come from the stack. -/
theorem keeps_takeArguments_naNFree (count : Nat) :
    naNFree.Keeps (Function.takeArguments count) := by
  induction count with
  | zero => exact fun s clean => ⟨nofun, clean.windows⟩
  | succ count ih =>
    refine keeps_keeping.mpr fun s clean => Ends.step (a := s.machine) (t := s) rfl ?_
    cases operands : s.machine.stack with
    | nil => exact clean
    | cons v rest =>
      have all := clean.stack
      rw [operands, List.forall_mem_cons] at all
      have popped : ({ s with machine := { s.machine with stack := rest } } : Scene).machine.NaNFree :=
        ⟨all.2, clean.windows⟩
      exact keeps_keeping.mp ((keeps_set_naNFree count all.1).bind fun _ => ih) _ popped

/-- Results come from slots. -/
theorem keeps_giveResults_naNFree (slot : Nat) (rets : List UInt8) :
    naNFree.Keeps (Function.giveResults slot rets) := by
  induction rets generalizing slot with
  | nil => exact .pure _
  | cons ret rest ih =>
    refine keeps_keeping.mpr fun s clean => ?_
    cases found : s.machine.windows.get slot with
    | error f =>
      have missing : Act.localSlot slot s = .error f s := by
        show Act.ofExcept (s.machine.windows.get slot) s = _
        rw [found]
        rfl
      rw [Ends, Function.giveResults, bind_of_error missing]
      exact clean
    | ok v =>
      have look : Act.localSlot slot s = .ok v s := by
        show Act.ofExcept (s.machine.windows.get slot) s = _
        rw [found]
        rfl
      have number : v.NaNFree := clean.windows v (Windows.mem_slots_of_get found)
      have binds : naNFree.Keeps (Act.onWindows fun w => w.setInCaller ret.toNat v) :=
        keeps_onWindows_naNFree fun _ _ all set => all.setInCaller number set
      refine Ends.step look ?_
      exact keeps_keeping.mp (binds.bind fun _ => ih (slot + 1)) s clean

/-! ## Programs -/

theorem allowsPrograms_naNFree : naNFree.AllowsPrograms where
  aside machine _ := naNFree_same machine
  deed _ _ _ := naNFree_same rfl
  evaluate code id :=
    keeps_keeping.mpr fun _ clean =>
      (ends_evaluate_naNFree code id clean).mono (fun _ _ left => left.2) fun _ _ left => left
  signal _ _ clean := ⟨clean.stack, clean.windows⟩
  assign slot code id := keeps_bind_evaluate code id fun _ number => keeps_set_naNFree slot number
  count slot n := keeps_set_naNFree slot (Value.closed_naNFree.ofInt32 n)
  pushArguments := keeps_pushArguments_naNFree
  call f rets _ kept :=
    keeps_invoke keeps_withWindow_naNFree keeps_withMemory_naNFree
      (keeps_takeArguments_naNFree f.argCount) (keeps_giveResults_naNFree f.argCount rets) kept

theorem allowsEntries_naNFree : naNFree.AllowsEntries where
  edit _ _ _ _ := naNFree_same rfl
  evaluate := allowsPrograms_naNFree.evaluate
  window _ _ := keeps_withWindow_naNFree

end Footprint

/-- **No NaN reaches an operand or a slot.**  If there is none among them, there is none after
    every evaluation of an expression, every controller, every entry of a state and every run of a
    program, whatever the bytes and the roster are, and also if a fault ends them; and the value
    of an expression is no NaN. -/
theorem operands_stay_numbers {s : Scene} (clean : s.machine.NaNFree) :
    let cleanly {α : Type} (x : Act α) : Prop :=
      Ends x s (fun _ t => t.machine.NaNFree) fun _ t => t.machine.NaNFree
    (∀ code id, Ends (Act.evaluate code id) s (fun v t => v.NaNFree ∧ t.machine.NaNFree)
      fun _ t => t.machine.NaNFree) ∧
    (∀ (c : Controller) id, cleanly (c.run id)) ∧
    (∀ (p : StateProgram) id, cleanly (p.enter id)) ∧
    ∀ (p : StateProgram) id, cleanly (p.run id) := by
  have programs := Footprint.allowsPrograms_naNFree
  have entries := Footprint.allowsEntries_naNFree
  refine ⟨fun code id => ?_, fun c id => ?_, fun p id => ?_, fun p id => ?_⟩
  · exact Footprint.ends_evaluate_naNFree code id clean
  · exact Footprint.keeps_keeping.mp (programs.controller id c) s clean
  · exact Footprint.keeps_keeping.mp (entries.enter id p) s clean
  · exact Footprint.keeps_keeping.mp (programs.run id Footprint.keeps_withWindow_naNFree p) s clean

/-- A scene with an open window, whose entity has a NaN in its first variable. -/
def Scene.spoiled : Scene :=
  { Scene.lone.withWindows (Windows.empty.push 1) with
    roster := Scene.lone.roster.modify 0 fun e =>
      { e with vars := { e.vars with singles := e.vars.singles.set 0 Single.invalid } } }

/-- What arrives in the slot is `failed`. -/
theorem operands_stay_numbers_spoiled :
    Scene.spoiled.machine.NaNFree ∧ Single.invalid.isNaN = true ∧
    (Scene.spoiled.roster.get? 0).map (fun e => e.vars.singles[0]) = some Single.invalid ∧
    ∃ t, Controller.run 0
        (.assign 0 (Expression.int 0 ++ Expression.op (.entityVar .singles))) Scene.spoiled =
        .ok false t ∧
      t.machine.NaNFree ∧ t.machine.windows.slots = [.failed] := by
  have clean : Scene.spoiled.machine.NaNFree := by decide
  have assigned : Ends (Controller.run 0
      (.assign 0 (Expression.int 0 ++ Expression.op (.entityVar .singles)))) Scene.spoiled
      (fun stops t => stops = false ∧ t.machine.windows.slots = [.failed]) fun _ _ => False := by
    decide +kernel
  obtain ⟨_, t, run, rfl, slots⟩ := assigned.exists_ok
  obtain ⟨-, controllers, -⟩ := operands_stay_numbers clean
  exact ⟨clean, by decide, by decide +kernel, t, run, (controllers _ 0).ok run, slots⟩

end TickScript
