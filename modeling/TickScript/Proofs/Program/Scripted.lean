import TickScript.Program.State
import TickScript.Proofs.Effect.Composed

/-! # What programs are made of

    A program does what its effects do, and beyond that it counts, assigns slots, shows the counters
    of its loops, raises and takes signals, and calls functions.  `Act.Scripted` is the predicate of
    actions that are made of these.  It holds of every controller (`Controller.scripted`), by
    induction on the tree of controllers, blocks and functions.

    A call opens a window and closes it again, so it is a kind of its own, around a body that is
    made of the same kinds.

    The step that runs when a state is entered uses no more than evaluations and edits
    (`StateProgram.composed_entry`).
-/

namespace TickScript

/-- **A call around a body**, in place of the function's own. -/
def Function.invoke (f : Function) (rets : List UInt8) (body : Act Flow) : Act Bool := do
  f.checkCounts rets
  Act.withWindow f.windowSize do
    Function.takeArguments f.argCount
    Act.withMemory (.sized f.persistenceSlots f.toggleSlots) do
      if (← body) = .unwind then return true
      Function.giveResults f.argCount rets
      return false

theorem Function.run_eq_invoke (f : Function) (id : EntityId) (rets : List UInt8) :
    f.run id rets = f.invoke rets (Controller.runBody id false false f.body) := by
  obtain ⟨name, argCount, retCount, localCount, persistenceSlots, toggleSlots, body⟩ := f
  rw [Function.run]
  rfl

/-! ## Looks -/

namespace Act.Composed

variable (id : EntityId)

theorem localSlot {all : Prop} (slot : Nat) : Act.Composed all (Act.localSlot slot) :=
  .machine (fun _ _ => rfl) fun _ => .ofExcept _

theorem isPaused {all : Prop} : Act.Composed all (Act.isPaused id) :=
  (entity id).bind fun _ => .pure _

theorem checkCounts {all : Prop} (f : Function) (rets : List UInt8) :
    Act.Composed all (f.checkCounts rets) :=
  .machine (fun _ _ => rfl) fun _ =>
    .ite ((throw _).bind fun _ => .ite (.throw _) (.pure _)) (.ite (.throw _) (.pure _))

theorem guardHolds {all : Prop} (guard : Option Expression) :
    Act.Composed all (Block.guardHolds guard id) := by
  cases guard with
  | none => exact .pure _
  | some code => exact (evaluate code id).bind fun _ => .pure _

end Act.Composed

/-! ## Programs -/

/-- Reads and changes the counters. -/
def Act.onMemory {γ : Type} (g : BlockMemory → γ × BlockMemory) : Act γ := fun s =>
  .ok (g s.memory).1 { s with memory := (g s.memory).2 }

/-- **Made of the actions of programs.** -/
inductive Act.Scripted : {α : Type} → Act α → Prop
  | composed {α : Type} {x : Act α} (effect : x.Composed True) : Scripted x
  | bind {α β : Type} {x : Act α} {f : α → Act β} (first : Scripted x)
      (rest : ∀ a, Scripted (f a)) : Scripted (x >>= f)
  | machine {α : Type} {f : Machine → Act α} (blind : ∀ m p, f { m with profile := p } = f m)
      (rest : ∀ m, Scripted (f m)) : Scripted (Act.machine >>= f)
  | onMemory {γ : Type} (g : BlockMemory → γ × BlockMemory) : Scripted (Act.onMemory g)
  | raise (signal : LoopSignal) : Scripted (Act.raise signal)
  | takeSignal : Scripted Act.takeSignal
  /-- The value of an expression in a slot. -/
  | assign (slot : Nat) (code : Expression) (id : EntityId) :
      Scripted (Act.evaluate code id >>= fun v => Act.onWindows fun w => w.set slot v)
  /-- The counter of a loop in a slot. -/
  | count (slot : Nat) (n : Int32) : Scripted (Act.onWindows fun w => w.set slot (.ofInt32 n))
  | pushArguments (id : EntityId) (args : List Expression) : Scripted (Act.pushArguments id args)
  | call (f : Function) (rets : List UInt8) {body : Act Flow} (inner : Scripted body) :
      Scripted (f.invoke rets body)

namespace Act.Scripted

variable {α : Type}

theorem pure (a : α) : Scripted (Pure.pure a) := .composed (.pure a)

theorem ite {c : Prop} [Decidable c] {x y : Act α} (hx : Scripted x) (hy : Scripted y) :
    Scripted (if c then x else y) := by
  split
  · exact hx
  · exact hy

/-! ## Gates and counters -/

theorem memory : Scripted Act.memory := onMemory fun m => (m, m)

theorem setMemory (m : BlockMemory) : Scripted (Act.setMemory m) := onMemory fun _ => ((), m)

theorem passesPause (pause : PauseMode) (id : EntityId) : Scripted (Block.passesPause pause id) := by
  refine (composed (.isPaused id)).bind fun _ => .ite ?_ (.pure _)
  cases pause with
  | skip => exact .pure _
  | run => exact .pure _
  | alternate slot => exact memory.bind fun _ => (setMemory _).bind fun _ => .pure _

theorem isDue (persistence : Option Persistence) : Scripted (Block.isDue persistence) := by
  cases persistence with
  | none => exact .pure _
  | some p => exact memory.bind fun _ => (setMemory _).bind fun _ => .pure _

theorem reload (persistence : Option Persistence) : Scripted (Block.reload persistence) := by
  cases persistence with
  | none => exact .pure _
  | some p => exact memory.bind fun _ => setMemory _

/-! ## Loops -/

theorem whileHolds {test : Act Bool} {body : Act Flow} (tested : Scripted test)
    (inner : Scripted body) (limit left : Nat) :
    Scripted (Loop.whileHolds limit test body left) := by
  induction left with
  | zero => exact tested.bind fun _ => .ite (.composed (.throw _)) (.pure _)
  | succ left ih =>
    refine tested.bind fun _ => .ite (inner.bind fun flow => ?_) (.pure _)
    cases flow with
    | completed => exact ih
    | left => exact .pure _
    | unwind => exact .pure _

theorem advance (slot : Option UInt8) (stop step i : Int32) :
    Scripted (Loop.advance slot stop step i) := by
  cases slot with
  | none => exact .pure _
  | some slot =>
    exact bind (.composed (.localSlot _)) fun _ => .ite ((count _ _).bind fun _ => .pure _) (.pure _)

theorem forRange {body : Act Flow} (inner : Scripted body) (limit : Nat) (slot : Option UInt8)
    (stop step : Int32) (left : Nat) (i : Int32) :
    Scripted (Loop.forRange limit slot stop step body left i) := by
  induction left generalizing i with
  | zero => exact .ite (.composed (.throw _)) (.pure _)
  | succ left ih =>
    refine .ite (inner.bind fun flow => ?_) (.pure _)
    cases flow with
    | completed => exact (advance slot stop step i).bind fun next => ih next
    | left => exact .pure _
    | unwind => exact .pure _

theorem runRange {body : Act Flow} (inner : Scripted body) (loop : ForLoop) (id : EntityId) :
    Scripted (Block.runRange loop id body) := by
  have evaluated (code : Expression) : Scripted (Act.evaluate code id) := .composed (.evaluate _ _)
  have repeats (start : Int32) : Scripted (do
      let stop := (← Act.evaluate loop.stop id).toInt32
      let step := (← Act.evaluate loop.step id).toInt32
      let limit := (← Act.machine).loopLimit
      Loop.forRange limit loop.slot stop step body limit start) :=
    (evaluated _).bind fun _ => (evaluated _).bind fun _ => .machine (fun _ _ => rfl) fun _ =>
      forRange inner _ _ _ _ _ _
  refine (evaluated loop.start).bind fun start => ?_
  dsimp only
  split
  · exact repeats start.toInt32
  · exact (count _ _).bind fun _ => repeats start.toInt32

end Act.Scripted

mutual

/-- **Every controller is made of the actions of programs.** -/
theorem Controller.scripted (id : EntityId) : (c : Controller) → (c.run id).Scripted
  | .block b => by
    rw [Controller.run]
    exact b.scripted id
  | .evaluate code => by
    rw [Controller.run]
    exact .composed ((Act.Composed.evaluate code id).bind fun _ => .pure _)
  | .assign slot code => by
    rw [Controller.run]
    have all := (Act.Scripted.assign slot.toNat code id).bind fun _ => .pure false
    rwa [bind_assoc] at all
  | .signal s => by
    rw [Controller.run]
    exact (Act.Scripted.raise s).bind fun _ => .pure _
  | .call f args rets => by
    rw [Controller.run]
    exact (Act.Scripted.pushArguments id args).bind fun _ => f.scripted id rets
  | .nothing => by
    rw [Controller.run]
    exact .pure _
  | .effect kind args => by
    rw [Controller.run]
    exact .composed (Effect.composed_run id args kind)

theorem Block.scripted (id : EntityId) : (b : Block) → (b.run id).Scripted
  | ⟨guard, items, otherwise, pause, persistence, ignoresPause, loop⟩ => by
    rw [Block.run]
    have again : Act.Scripted (do
        Block.reload persistence
        return false) := (Act.Scripted.reload persistence).bind fun _ => .pure _
    have tested : Act.Scripted (Block.guardHolds guard id) := .composed (.guardHolds id guard)
    -- the checks before the loop may change counters, but they run no controller
    refine .bind (.passesPause pause id) fun _ => .ite (.pure _) ?_
    refine .bind (.isDue persistence) fun _ => .ite (.pure _) ?_
    cases loop with
    | once =>
      exact tested.bind fun _ => .ite
        ((Controller.scripted_body id ignoresPause false items).bind fun _ => .ite (.pure _) again)
        (Block.scripted_otherwise id otherwise)
    | whileGuard =>
      have body := Controller.scripted_body id ignoresPause true items
      exact .machine (fun _ _ => rfl) fun _ =>
        (Act.Scripted.whileHolds tested body _ _).bind fun _ => .ite (.pure _) again
    | forRange range =>
      have body := Controller.scripted_body id ignoresPause true items
      exact (Act.Scripted.runRange body range id).bind fun _ => .ite (.pure _) again

theorem Block.scripted_otherwise (id : EntityId) :
    (b : Option Block) → (Block.runOtherwise id b).Scripted
  | none => by
    rw [Block.runOtherwise]
    exact .pure _
  | some b => by
    rw [Block.runOtherwise]
    exact b.scripted id

theorem Controller.scripted_body (id : EntityId) (ignoresPause inLoop : Bool) :
    (items : List Controller) → (Controller.runBody id ignoresPause inLoop items).Scripted
  | [] => by
    rw [Controller.runBody]
    exact .pure _
  | c :: rest => by
    rw [Controller.runBody]
    have others := Controller.scripted_body id ignoresPause inLoop rest
    have turn : Act.Scripted (do
        if ← c.run id then
          if inLoop then return Block.flowOfSignal (← Act.takeSignal) else return .unwind
        else Controller.runBody id ignoresPause inLoop rest) :=
      (c.scripted id).bind fun _ => .ite
        (.ite (Act.Scripted.takeSignal.bind fun _ => .pure _) (.pure _)) others
    exact .ite (Act.Scripted.bind (.pure _) fun _ => .ite others turn)
      (Act.Scripted.bind (.composed (.isPaused id)) fun _ => .ite others turn)

theorem Function.scripted (id : EntityId) (rets : List UInt8) :
    (f : Function) → (f.run id rets).Scripted
  | ⟨name, argCount, retCount, localCount, persistenceSlots, toggleSlots, items⟩ => by
    rw [Function.run_eq_invoke]
    exact .call _ rets (Controller.scripted_body id false false items)

end

/-! ## The entry step -/

section

variable {all : Prop}

theorem Act.Composed.walk {visit : ArgRecord → Act Bool} (visited : ∀ r, Act.Composed all (visit r))
    (args : ArgBlock) : Act.Composed all (ArgBlock.walk args visit) := by
  have records (rs : List ArgRecord) : Act.Composed all (ArgBlock.visitRecords visit rs) := by
    induction rs with
    | nil => exact .pure _
    | cons r rest ih => exact (visited r).bind fun _ => .ite ih (.pure _)
  refine (records _).bind fun _ => .ite ?_ (.pure _)
  cases (ArgBlock.read args).malformedAt with
  | none => exact .pure _
  | some offset => exact .throw _

namespace StateProgram

variable (id : EntityId)

theorem edited_impose (p : StateProgram) (e : Entity) : e.Edited (p.impose e) := by
  cases types : p.stateType <;> cases moves : p.moveType <;> cases physics : p.physics <;>
    simp only [impose, types, moves, physics] <;> exact .aside rfl

theorem composed_faceEnemy : Act.Composed all (faceEnemy id) := by
  refine Act.Composed.roster.bind fun r => ?_
  cases r.nearestEnemy id with
  | none => exact .pure _
  | some enemy =>
    refine (Act.Composed.entity enemy).bind fun o => .update id fun e => ?_
    unfold Entity.face
    split
    · exact .aside rfl
    · exact .aside rfl

theorem composed_entryRecord (r : ArgRecord) : Act.Composed all (entryRecord id r) := by
  have value : Act.Composed all (do Act.evaluate (← Act.ofExcept (r.expression 0)) id) :=
    (Act.Composed.ofExcept _).bind fun code => .evaluate code id
  unfold entryRecord
  dsimp only
  split
  · -- two more arguments, which may be absent
    refine value.bind fun _ => Act.Composed.bind ?_ fun _ => Act.Composed.bind ?_ fun _ =>
      .update id fun _ => .aside rfl
    · split
      · exact (Act.Composed.evaluate _ id).bind fun _ => .pure _
      · exact .pure _
    · split
      · exact (Act.Composed.evaluate _ id).bind fun _ => .pure _
      · exact .pure _
  · exact value.bind fun _ => .update id fun e => .setAnim e _ _
  · exact value.bind fun _ => .update id fun _ => .aside rfl
  · exact value.bind fun _ => .update id fun e => .setPower e _
  · exact value.bind fun _ => .ite (composed_faceEnemy id) (.pure _)
  · exact value.bind fun _ => .update id fun _ => .aside rfl
  · exact value.bind fun _ => .update id fun _ => .aside rfl
  · exact value.bind fun _ => .ite (.update id fun _ => .aside rfl) (.pure _)
  · exact value.bind fun _ => .ite (.update id fun _ => .aside rfl) (.pure _)
  · exact .pure _

/-- **The entry step is composed** of evaluations and edits. -/
theorem composed_entry (entry : ArgBlock) : Act.Composed all (runEntry entry id) :=
  (Act.Composed.walk (fun r => (composed_entryRecord id r).bind fun _ => .pure _) entry).bind
    fun _ => .pure _

end StateProgram

end

end TickScript
