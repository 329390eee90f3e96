import TickScript.Proofs.Program.Started
import TickScript.Proofs.Program.Footprint
import Mathlib.Algebra.Group.Int.Defs
import Mathlib.Algebra.Group.Nat.Defs
import Mathlib.Data.List.Induction

/-! # When a persistent block runs its children

    A block with a period counts down at every activation, and is due when the count is down to
    zero.  If it is due and its guard holds, it runs its children, and starts the count again:

        activation      1   2   3   4   5   6   7
        guard           no  yes yes yes yes no  yes
        count before    0   -1  3   2   1   0   -1       period 3
        children run        *           *       *

    The count goes below zero while the guard fails, and nothing is lost by that: the children run
    as soon as the guard holds again.  So they run whenever the guard holds, unless they ran less
    than a period ago (`Block.persistence_schedule`).

    The count is kept in a slot of the block memory.  It is safe there from all controllers that do
    not count in this slot themselves, and from all functions, which have a memory of their own.
-/

namespace TickScript

/-! ## Counters -/

namespace BlockMemory

variable {slot other : Nat}

theorem counter_setCounter (m : BlockMemory) (slot : Nat) (count : Int32) :
    (m.setCounter slot count).counter slot = count := by
  have inside : slot < (grow slot 0 m.persistence).length := by
    rw [grow, List.length_append, List.length_replicate]
    omega
  simp [counter, setCounter, inside]

theorem counter_setCounter_of_ne (m : BlockMemory) (count : Int32) (ne : slot ≠ other) :
    (m.setCounter slot count).counter other = m.counter other := by
  -- the table may have grown, but new counters are zero, as missing ones are
  have grown : (grow slot 0 m.persistence)[other]?.getD 0 = m.persistence[other]?.getD 0 := by
    unfold grow
    by_cases inside : other < m.persistence.length
    · rw [List.getElem?_append_left inside]
    · rw [List.getElem?_append_right (Nat.le_of_not_lt inside),
        List.getElem?_eq_none (Nat.le_of_not_lt inside), List.getElem?_replicate]
      split <;> rfl
  rw [counter, setCounter, List.getElem?_set_ne ne, grown, counter]

theorem counter_sized (persistence toggles : Nat) :
    (sized persistence toggles).counter slot = 0 := by
  rw [counter, sized, List.getElem?_replicate]
  split <;> rfl

end BlockMemory

mutual

/-- **Whether a controller counts in a slot.**  Functions have counters of their own. -/
def Controller.countsIn (slot : Nat) : Controller → Bool
  | .block b => b.countsIn slot
  | _ => false

/-- Whether a block does, or one of its children. -/
def Block.countsIn (slot : Nat) : Block → Bool
  | ⟨_, body, otherwise, _, persistence, _, _⟩ =>
    persistence.any (·.slot = slot) || Controller.anyCountsIn slot body ||
      Block.otherwiseCountsIn slot otherwise

/-- Whether the block for a failed guard does. -/
def Block.otherwiseCountsIn (slot : Nat) : Option Block → Bool
  | none => false
  | some b => b.countsIn slot

/-- Whether one of the controllers of a body does. -/
def Controller.anyCountsIn (slot : Nat) : List Controller → Bool
  | [] => false
  | c :: rest => c.countsIn slot || Controller.anyCountsIn slot rest

end

/-! ## What leaves a counter alone -/

namespace Footprint

/-- The changes that leave a counter alone. -/
def counter (slot : Nat) : Footprint Scene := fixing fun s => s.memory.counter slot

variable {slot : Nat} (id : EntityId)

theorem keeps_evaluate_counter (code : Expression) : (counter slot).Keeps (Act.evaluate code id) :=
  keeps_evaluate (fun _ _ => rfl) code id

theorem keeps_onWindows_counter (g : Windows → Except Fault Windows) :
    (counter slot).Keeps (Act.onWindows g) :=
  fun _ => ends_onWindows (fun _ _ => rfl) fun _ _ => rfl

/-- Effects do not count. -/
theorem keeps_effect_counter (kind : EffectKind) (args : ArgBlock) :
    (counter slot).Keeps (kind.run id args) :=
  keeps_composed (Effect.composed_run id args kind) (fun code id => keeps_evaluate_counter id code)
    (fun _ _ _ _ => rfl) (fun _ _ _ _ => rfl) fun _ _ _ _ _ same =>
      congrArg (fun m : BlockMemory => m.counter slot) same

theorem keeps_passesPause_counter (pause : PauseMode) :
    (counter slot).Keeps (Block.passesPause pause id) := by
  refine (keeps_isPaused id).bind fun _ => .ite ?_ (.pure _)
  cases pause with
  | skip => exact .pure _
  | run => exact .pure _
  | alternate toggle => exact fun s => rfl

theorem keeps_guardHolds_counter (guard : Option Expression) :
    (counter slot).Keeps (Block.guardHolds guard id) := by
  cases guard with
  | none => exact .pure _
  | some code => exact (keeps_evaluate_counter id code).bind fun _ => .pure _

section

variable {persistence : Option Persistence} (elsewhere : persistence.any (·.slot = slot) = false)

include elsewhere

theorem keeps_isDue_counter : (counter slot).Keeps (Block.isDue persistence) := by
  cases persistence with
  | none => exact .pure _
  | some p =>
    have ne : p.slot ≠ slot := by simpa using elsewhere
    exact fun s => s.memory.counter_setCounter_of_ne _ ne

theorem keeps_reload_counter : (counter slot).Keeps (Block.reload persistence) := by
  cases persistence with
  | none => exact .pure _
  | some p =>
    have ne : p.slot ≠ slot := by simpa using elsewhere
    exact fun s => s.memory.counter_setCounter_of_ne _ ne

end

/-- A call brings the counters back, whatever its body does. -/
theorem keeps_invoke_counter (f : Function) (rets : List UInt8) (body : Act Flow) :
    (counter slot).Keeps (f.invoke rets body) := by
  have operands : (counter slot).AllowsOperands := fun _ _ => rfl
  have takes := operands.takeArguments (fun _ _ => keeps_onWindows_counter _) f.argCount
  have brackets {action : Act Bool} (memory : BlockMemory) :
      (counter slot).Keeps (Act.withMemory memory action) :=
    fun s => ends_withMemory (by unfold Ends; split <;> rfl)
  refine (keeps_checkCounts f rets).bind fun _ => fun s => ends_withWindow ?_
  exact (takes.bind fun _ => brackets _) _

end Footprint

mutual

/-- **A controller that does not count in a slot leaves the counter alone.** -/
theorem Controller.keeps_counter {slot : Nat} (id : EntityId) :
    (c : Controller) → c.countsIn slot = false → (Footprint.counter slot).Keeps (c.run id)
  | .block b, other => by
    rw [Controller.countsIn] at other
    rw [Controller.run]
    exact b.keeps_counter id other
  | .evaluate code, _ => by
    rw [Controller.run]
    exact (Footprint.keeps_evaluate_counter id code).bind fun _ => .pure _
  | .assign into code, _ => by
    rw [Controller.run]
    exact (Footprint.keeps_evaluate_counter id code).bind fun _ =>
      (Footprint.keeps_onWindows_counter _).bind fun _ => .pure _
  | .signal raised, _ => by
    rw [Controller.run]
    exact fun s => rfl
  | .call f args rets, _ => by
    rw [Controller.run]
    have operands : (Footprint.counter slot).AllowsOperands := fun _ _ => rfl
    refine (operands.pushArguments (fun code id => Footprint.keeps_evaluate_counter id code) id
      args).bind fun _ => ?_
    rw [Function.run_eq_invoke]
    exact Footprint.keeps_invoke_counter f rets _
  | .nothing, _ => by
    rw [Controller.run]
    exact .pure _
  | .effect kind args, _ => by
    rw [Controller.run]
    exact Footprint.keeps_effect_counter id kind args

theorem Block.keeps_counter {slot : Nat} (id : EntityId) :
    (b : Block) → b.countsIn slot = false → (Footprint.counter slot).Keeps (b.run id)
  | ⟨guard, items, otherwise, pause, persistence, ignoresPause, loop⟩, other => by
    rw [Block.countsIn, Bool.or_eq_false_iff, Bool.or_eq_false_iff] at other
    obtain ⟨⟨elsewhere, others⟩, failed⟩ := other
    have again : (Footprint.counter slot).Keeps (do
        Block.reload persistence
        return false) := (Footprint.keeps_reload_counter elsewhere).bind fun _ => .pure _
    have tested : (Footprint.counter slot).Keeps (Block.guardHolds guard id) :=
      Footprint.keeps_guardHolds_counter id guard
    rw [Block.run]
    refine (Footprint.keeps_passesPause_counter id pause).bind fun _ => .ite (.pure _) ?_
    refine (Footprint.keeps_isDue_counter elsewhere).bind fun _ => .ite (.pure _) ?_
    cases loop with
    | once =>
      have body := Controller.keeps_counter_body id ignoresPause false items others
      exact tested.bind fun _ => .ite (body.bind fun _ => .ite (.pure _) again)
        (Block.keeps_counter_otherwise id otherwise failed)
    | whileGuard =>
      have body := Controller.keeps_counter_body id ignoresPause true items others
      exact Footprint.keeps_machine.bind fun _ =>
        (Footprint.keeps_whileHolds tested body _ _).bind fun _ => .ite (.pure _) again
    | forRange range =>
      have body := Controller.keeps_counter_body id ignoresPause true items others
      exact (Footprint.keeps_runRange (fun _ _ => Footprint.keeps_onWindows_counter _) body range id
        (Footprint.keeps_evaluate_counter id)).bind fun _ => .ite (.pure _) again

theorem Block.keeps_counter_otherwise {slot : Nat} (id : EntityId) :
    (b : Option Block) → Block.otherwiseCountsIn slot b = false →
      (Footprint.counter slot).Keeps (Block.runOtherwise id b)
  | none, _ => by
    rw [Block.runOtherwise]
    exact .pure _
  | some b, other => by
    rw [Block.otherwiseCountsIn] at other
    rw [Block.runOtherwise]
    exact b.keeps_counter id other

theorem Controller.keeps_counter_body {slot : Nat} (id : EntityId) (ignoresPause inLoop : Bool) :
    (items : List Controller) → Controller.anyCountsIn slot items = false →
      (Footprint.counter slot).Keeps (Controller.runBody id ignoresPause inLoop items)
  | [], _ => by
    rw [Controller.runBody]
    exact .pure _
  | c :: rest, other => by
    rw [Controller.anyCountsIn, Bool.or_eq_false_iff] at other
    have first := c.keeps_counter id other.1
    have others := Controller.keeps_counter_body id ignoresPause inLoop rest other.2
    have taken : (Footprint.counter slot).Keeps Act.takeSignal := fun s => rfl
    have held : (Footprint.counter slot).Keeps (c.isHeld id ignoresPause) :=
      .ite (.pure _) (Footprint.keeps_isPaused id)
    rw [Controller.runBody_cons]
    exact held.bind fun _ => .ite others (first.bind fun _ =>
      .ite (.ite (taken.bind fun _ => .pure _) (.pure _)) others)

end

/-! ## What does not see counters -/

/-- **An action that does not see counters**: it does the same with others, which it leaves alone. -/
def Act.IgnoresCounters {α : Type} (x : Act α) : Prop :=
  ∀ (s : Scene) (memory : BlockMemory), x { s with memory := memory } =
    onEnd (fun t => { t with memory := memory }) (x s)

namespace Act

variable {α β : Type}

theorem IgnoresCounters.bind {x : Act α} {f : α → Act β} (first : x.IgnoresCounters)
    (others : ∀ a, (f a).IgnoresCounters) : (x >>= f).IgnoresCounters := by
  intro s memory
  have alike := first s memory
  cases ended : x s with
  | ok a t =>
    rw [ended] at alike
    rw [bind_of_ok alike, bind_of_ok ended]
    exact others a t memory
  | error f t =>
    rw [ended] at alike
    rw [bind_of_error alike, bind_of_error ended]
    rfl

theorem IgnoresCounters.pure (a : α) : (Pure.pure a : Act α).IgnoresCounters := fun _ _ => rfl

theorem ignoresCounters_evaluate (code : Expression) (id : EntityId) :
    (Act.evaluate code id).IgnoresCounters := by
  intro s memory
  rw [evaluate_eq, evaluate_eq]
  show onEnd _ (Eval.eval (Act.context s.machine) s.machine.budget code id s.bench) = _
  cases Eval.eval (Act.context s.machine) s.machine.budget code id s.bench with
  | ok v b => rfl
  | error f b => rfl

theorem ignoresCounters_onWindows (g : Windows → Except Fault Windows) :
    (Act.onWindows g).IgnoresCounters := by
  intro s memory
  have run (s : Scene) : Act.onWindows g s =
      (Act.ofExcept (g s.machine.windows) >>= fun w =>
        Act.setMachine { s.machine with windows := w }) s := rfl
  rw [run, run]
  cases g s.machine.windows with
  | ok w => rfl
  | error f => rfl

theorem ignoresCounters_bounds (loop : ForLoop) (id : EntityId) :
    (Block.bounds loop id).IgnoresCounters := by
  have limit : Act.machine.IgnoresCounters := fun _ _ => rfl
  have others (start : Int32) : Act.IgnoresCounters (do
      let stop := (← Act.evaluate loop.stop id).toInt32
      let step := (← Act.evaluate loop.step id).toInt32
      return (start, stop, step, (← Act.machine).loopLimit)) :=
    (ignoresCounters_evaluate _ id).bind fun _ => (ignoresCounters_evaluate _ id).bind fun _ =>
      limit.bind fun _ => .pure _
  refine (ignoresCounters_evaluate loop.start id).bind fun start => ?_
  dsimp only
  split
  · exact others start.toInt32
  · exact (ignoresCounters_onWindows _).bind fun _ => others start.toInt32

theorem ignoresCounters_guardHolds (guard : Option Expression) (id : EntityId) :
    (Block.guardHolds guard id).IgnoresCounters := by
  cases guard with
  | none => exact .pure true
  | some code => exact (ignoresCounters_evaluate code id).bind fun v => .pure v.toBool

end Act

/-! ## One activation -/

namespace Block

variable {b : Block} {p : Persistence} {id : EntityId} {s t : Scene} {guard fired : Bool}

/-- **An activation runs the children** of a block: the block is due, and its guard holds. -/
def Fires (b : Block) (id : EntityId) (s : Scene) : Prop :=
  ∃ t u, Block.opens b.pause b.persistence id s = .ok true t ∧
    Block.guardHolds b.guard id t = .ok true u

/-- **How an activation ends** that does not ask to unwind.  The children ran, or the guard failed,
    or the block was not due. -/
theorem activation_cases (once : b.loop = .once) (ran : b.run id s = .ok false t) :
    (∃ u v w, Block.opens b.pause b.persistence id s = .ok true u ∧
      Block.guardHolds b.guard id u = .ok true v ∧
      Controller.runBody id b.ignoresPause false b.body v = .ok .completed w ∧
      Block.reload b.persistence w = .ok () t) ∨
    (∃ u v, Block.opens b.pause b.persistence id s = .ok true u ∧
      Block.guardHolds b.guard id u = .ok false v ∧ Block.runOtherwise id b.otherwise v = .ok false t) ∨
    Block.opens b.pause b.persistence id s = .ok false t := by
  obtain ⟨guard, items, otherwise, pause, persistence, ignoresPause, loop⟩ := b
  obtain rfl : loop = .once := once
  rw [Block.run_activate] at ran
  obtain ⟨opened, u, opens, ran⟩ := exists_of_bind ran
  cases opened with
  | false =>
    obtain ⟨-, rfl⟩ := EStateM.Result.ok.inj ran
    exact .inr (.inr opens)
  | true =>
    obtain ⟨holds, v, guarded, ran⟩ := exists_of_bind ran
    cases holds with
    | false => exact .inr (.inl ⟨u, v, opens, guarded, ran⟩)
    | true =>
      obtain ⟨stops, w, children, ran⟩ := exists_of_bind ran
      cases stops with
      | true => cases ran
      | false =>
        obtain ⟨_, x, reloaded, ran⟩ := exists_of_bind ran
        obtain ⟨-, rfl⟩ := EStateM.Result.ok.inj ran
        refine .inl ⟨u, v, w, opens, guarded, ?_, reloaded⟩
        rw [Controller.runBody_ended]
        exact bind_of_ok children

/-- **A block with a period**.  What runs in place of its children does not count in its slot.  The
    children may, for the count starts again after they have run. -/
structure Periodic (b : Block) (p : Persistence) : Prop where
  once : b.loop = .once
  persistence : b.persistence = some p
  positive : 1 ≤ p.period
  otherwise : Block.otherwiseCountsIn p.slot b.otherwise = false

theorem Periodic.toInt_positive (periodic : b.Periodic p) : 1 ≤ p.period.toInt :=
  Int32.le_iff_toInt_le.mp periodic.positive

/-- **An activation** of a block, for an entity that is not in hit pause; what its guard gives, and
    whether the children run. -/
structure Activation (b : Block) (id : EntityId) (guard fired : Bool) (s t : Scene) : Prop where
  unpaused : Act.isPaused id s = .ok false s
  guarded : ∀ holds u, Block.guardHolds b.guard id s = .ok holds u → holds = guard
  ran : b.run id s = .ok false t
  fires : fired = true ↔ b.Fires id s

/-- The gate of an entity that is not in hit pause: the count goes down by one. -/
theorem opens_of_unpaused (pause : PauseMode) (unpaused : Act.isPaused id s = .ok false s) :
    Block.opens pause (some p) id s = .ok (s.memory.counter p.slot - 1 ≤ 0)
      { s with memory := s.memory.setCounter p.slot (s.memory.counter p.slot - 1) } := by
  have passes : Block.passesPause pause id s = .ok true s := bind_of_ok unpaused
  exact bind_of_ok passes

/-- Guards do not see counters. -/
theorem guardHolds_withMemory (guard : Option Expression) (id : EntityId) (s : Scene)
    (memory : BlockMemory) : Block.guardHolds guard id { s with memory := memory } =
      onEnd (fun t => { t with memory := memory }) (Block.guardHolds guard id s) :=
  Act.ignoresCounters_guardHolds guard id s memory

/-- The guard gives the same if it is tested after the count went down. -/
theorem Activation.holds_eq (active : b.Activation id guard fired s t) {memory : BlockMemory}
    {holds : Bool} {u : Scene}
    (tested : Block.guardHolds b.guard id { s with memory := memory } = .ok holds u) :
    holds = guard := by
  rw [guardHolds_withMemory] at tested
  cases ended : Block.guardHolds b.guard id s with
  | ok holds' v =>
    rw [ended] at tested
    obtain ⟨rfl, -⟩ := EStateM.Result.ok.inj tested
    exact active.guarded _ _ ended
  | error f v =>
    rw [ended] at tested
    cases tested

/-- **What an activation does to the count.** -/
theorem Activation.step (periodic : b.Periodic p) (active : b.Activation id guard fired s t) :
    (fired = true ↔ guard = true ∧ s.memory.counter p.slot - 1 ≤ 0) ∧
    t.memory.counter p.slot = if fired then p.period else s.memory.counter p.slot - 1 := by
  let count := s.memory.counter p.slot - 1
  let counted : Scene := { s with memory := s.memory.setCounter p.slot count }
  have opens : Block.opens b.pause b.persistence id s = .ok (count ≤ 0) counted := by
    rw [periodic.persistence]
    exact opens_of_unpaused b.pause active.unpaused
  have down : counted.memory.counter p.slot = count := s.memory.counter_setCounter p.slot count
  have tests : (Footprint.counter p.slot).Keeps (Block.guardHolds b.guard id) :=
    Footprint.keeps_guardHolds_counter id b.guard
  -- whoever fires has found the block due, and its guard true, in the scene that was counted
  have unfired (closed : ∀ u, Block.opens b.pause b.persistence id s = .ok true u →
      ∀ v, Block.guardHolds b.guard id u ≠ .ok true v) : fired = false := by
    rw [← Bool.not_eq_true, active.fires]
    exact fun ⟨u, v, opened, holds⟩ => closed u opened v holds
  rcases activation_cases periodic.once active.ran with ⟨u, v, w, opened, holds, children, reloaded⟩ |
    ⟨u, v, opened, fails, otherwise⟩ | closed
  · -- the children ran, and the count starts again
    obtain rfl : fired = true := active.fires.mpr ⟨u, v, opened, holds⟩
    obtain ⟨due, rfl⟩ := EStateM.Result.ok.inj (opens.symm.trans opened)
    obtain rfl : true = guard := active.holds_eq holds
    refine ⟨⟨fun _ => ⟨rfl, of_decide_eq_true due⟩, fun _ => rfl⟩, ?_⟩
    rw [periodic.persistence] at reloaded
    obtain ⟨-, rfl⟩ := EStateM.Result.ok.inj reloaded
    have some : p.period ≠ 0 := by
      intro none
      have positive := periodic.positive
      rw [none] at positive
      exact absurd positive (by decide)
    rw [if_pos rfl]
    exact (BlockMemory.counter_setCounter _ _ _).trans (if_neg some)
  · -- the guard failed, and neither it nor the block that ran instead has counted
    have known : fired = false := by
      refine unfired fun u' opened' v' holds => ?_
      obtain ⟨-, rfl⟩ := EStateM.Result.ok.inj (opened.symm.trans opened')
      cases fails.symm.trans holds
    subst known
    obtain ⟨due, rfl⟩ := EStateM.Result.ok.inj (opens.symm.trans opened)
    obtain rfl : false = guard := active.holds_eq fails
    refine ⟨⟨nofun, fun h => nomatch h.1⟩, ?_⟩
    have ran := (Block.keeps_counter_otherwise id b.otherwise periodic.otherwise).ok otherwise
    exact ran.trans ((tests.ok fails).trans down)
  · -- the block was not due
    have known : fired = false := by
      refine unfired fun u opened _ => ?_
      cases closed.symm.trans opened
    subst known
    obtain ⟨early, rfl⟩ := EStateM.Result.ok.inj (opens.symm.trans closed)
    exact ⟨⟨nofun, fun h => absurd h.2 (of_decide_eq_false early)⟩, down⟩

end Block

/-! ## The count of a history -/

/-- A counter that is not the smallest goes down by one. -/
theorem toInt_sub_one {c : Int32} (above : -2 ^ 31 < c.toInt) : (c - 1).toInt = c.toInt - 1 := by
  have upper := c.toInt_lt
  have same : c - 1 = Int32.ofInt (c.toInt - 1) := by
    rw [Int32.ofInt_sub, Int32.ofInt_toInt]
    rfl
  rw [same, Int32.toInt_ofInt_of_le (by omega) (by omega)]

namespace Persistence

variable {period : Int} {fired : List Bool} {k : Nat}

/-- **The count that a history leaves**, which says of each activation whether the children ran. -/
def countAfter (period : Int) (fired : List Bool) : Int :=
  fired.foldl (fun count ran => if ran then period else count - 1) 0

theorem countAfter_concat (period : Int) (fired : List Bool) (ran : Bool) :
    countAfter period (fired ++ [ran]) = if ran then period else countAfter period fired - 1 :=
  List.foldl_concat ..

/-- What holds of all activations that ran the children, if there is one more. -/
theorem forall_getElem?_concat {P : Nat → Prop} (fired : List Bool) (ran : Bool) :
    (∀ j, (fired ++ [ran])[j]? = some true → P j) ↔
      (∀ j, fired[j]? = some true → P j) ∧ (ran = true → P fired.length) := by
  constructor
  · intro all
    refine ⟨fun j at_j => ?_, fun at_end => ?_⟩
    · have inside := (List.getElem?_eq_some_iff.mp at_j).1
      exact all j ((List.getElem?_append_left inside).trans at_j)
    · exact all fired.length (by rw [List.getElem?_concat_length, at_end])
  · rintro ⟨before, last⟩ j at_j
    have inside := (List.getElem?_eq_some_iff.mp at_j).1
    rw [List.length_append, List.length_singleton] at inside
    rcases Nat.lt_succ_iff_lt_or_eq.mp inside with early | rfl
    · exact before j ((List.getElem?_append_left early).symm.trans at_j)
    · rw [List.getElem?_concat_length] at at_j
      exact last (Option.some_inj.mp at_j)

/-- The count does not leave the range of its slot. -/
theorem countAfter_bounds (positive : 1 ≤ period) (fired : List Bool) :
    -(fired.length : Int) ≤ countAfter period fired ∧ countAfter period fired ≤ period := by
  induction fired using List.reverseRecOn with
  | nil => exact ⟨by simp [countAfter], by simp [countAfter]; omega⟩
  | append_singleton fired ran ih =>
    rw [countAfter_concat, List.length_append, List.length_singleton]
    split
    · omega
    · omega

/-- **The count is down** if no run was less than a period ago. -/
theorem countAfter_le_iff (positive : 1 ≤ period) (fired : List Bool) (ahead : Nat) :
    countAfter period fired ≤ ahead + 1 ↔
      ∀ j : Nat, fired[j]? = some true → j + period ≤ fired.length + ahead := by
  -- the activations from the last one, which is one more activation behind those before it
  induction fired using List.reverseRecOn generalizing ahead with
  | nil => simp [countAfter]; omega
  | append_singleton fired ran ih =>
    have split : (∀ j : Nat, (fired ++ [ran])[j]? = some true →
        j + period ≤ (fired ++ [ran]).length + ahead) ↔
          (∀ j : Nat, fired[j]? = some true → j + period ≤ fired.length + (ahead + 1 : Nat)) ∧
            (ran = true → period ≤ ahead + 1) := by
      rw [forall_getElem?_concat, List.length_append, List.length_singleton]
      push_cast
      refine and_congr (forall₂_congr fun j _ => ?_) (forall_congr' fun _ => ?_)
      · omega
      · omega
    rw [split, ← ih, countAfter_concat]
    cases ran with
    | false =>
      simp only [Bool.false_eq_true, if_false, false_imp_iff, and_true]
      omega
    | true =>
      have := (countAfter_bounds positive fired).2
      simp only [if_true, true_imp_iff]
      omega

/-- **What may happen again only after a period, and does so at once, happens periodically.** -/
theorem iff_dvd_of_rested (positive : 1 ≤ period) {happens : Nat → Prop} {n : Nat}
    (rested : ∀ k < n, happens k ↔ ∀ j < k, happens j → j + period ≤ k) :
    ∀ k < n, happens k ↔ period ∣ k := by
  intro k
  induction k using Nat.strongRecOn with
  | ind k ih =>
    intro inside
    rw [rested k inside]
    constructor
    · intro rest
      -- the last multiple of the period is not before `k`, or it would be less than a period ago
      obtain ⟨q, last⟩ : ∃ q : Nat, (q : Int) = k / period * period :=
        ⟨(k / period * period).toNat, Int.toNat_of_nonneg
          (Int.mul_nonneg (Int.ediv_nonneg (by omega) (by omega)) (by omega))⟩
      have behind : k - q < period := by
        have := Int.emod_add_mul_ediv k period
        have := Int.emod_lt_of_pos k (show 0 < period by omega)
        rw [last, Int.mul_comm]
        omega
      have multiple : period ∣ q := ⟨k / period, by rw [last, Int.mul_comm]⟩
      have reached : q ≤ k := by
        have := Int.ediv_mul_le k (show period ≠ 0 by omega)
        omega
      rcases Nat.lt_or_eq_of_le reached with before | rfl
      · have := rest q before ((ih q before (by omega)).mpr multiple)
        omega
      · exact multiple
    · intro multiple j before happened
      have earlier := (ih j before (by omega)).mp happened
      have apart := Int.le_of_dvd (by omega) (Int.dvd_sub multiple earlier)
      omega

end Persistence

namespace Block

variable {b : Block} {p : Persistence} {id : EntityId} {s t : Scene} {guards fired : List Bool}

/-- **A history of activations**, from a block memory that was reset: what the guard gave each time,
    and whether the children ran.  Between activations, the slot of the block is left alone. -/
inductive History (b : Block) (id : EntityId) (slot : Nat) : List Bool → List Bool → Scene → Prop
  | reset {s : Scene} {persistence toggles : Nat} (memory : s.memory = .sized persistence toggles) :
      History b id slot [] [] s
  | active {guards fired : List Bool} {guard ran : Bool} {s t : Scene}
      (before : History b id slot guards fired s) (activation : b.Activation id guard ran s t) :
      History b id slot (guards ++ [guard]) (fired ++ [ran]) t
  | between {guards fired : List Bool} {s t : Scene} (before : History b id slot guards fired s)
      (kept : t.memory.counter slot = s.memory.counter slot) : History b id slot guards fired t

namespace History

theorem length_eq (history : b.History id p.slot guards fired s) : guards.length = fired.length := by
  induction history with
  | reset memory => rfl
  | active before activation ih => rw [List.length_append, List.length_append, ih]; rfl
  | between before kept ih => exact ih

/-- The slot holds the count. -/
theorem toInt_counter (periodic : b.Periodic p) (history : b.History id p.slot guards fired s)
    (few : fired.length < 2 ^ 31) :
    (s.memory.counter p.slot).toInt = Persistence.countAfter p.period.toInt fired := by
  induction history with
  | reset memory =>
    rw [memory, BlockMemory.counter_sized]
    rfl
  | @active guards fired guard ran s t before activation ih =>
    rw [List.length_append, List.length_singleton] at few
    have count := ih (by omega)
    have lower := (Persistence.countAfter_bounds periodic.toInt_positive fired).1
    have above : -2 ^ 31 < (s.memory.counter p.slot).toInt := by omega
    rw [(activation.step periodic).2, Persistence.countAfter_concat, ← count]
    split
    · rfl
    · exact toInt_sub_one above
  | between before kept ih => rw [kept, ih few]

/-- **An activation runs the children** if its guard holds and no run was less than a period ago. -/
theorem ran_iff (periodic : b.Periodic p) (history : b.History id p.slot guards fired s)
    (few : fired.length < 2 ^ 31) {guard ran : Bool} (activation : b.Activation id guard ran s t) :
    ran = true ↔ guard = true ∧
      ∀ j : Nat, fired[j]? = some true → j + p.period.toInt ≤ fired.length := by
  have count := history.toInt_counter periodic few
  have lower := (Persistence.countAfter_bounds periodic.toInt_positive fired).1
  have above : -2 ^ 31 < (s.memory.counter p.slot).toInt := by omega
  have down := Persistence.countAfter_le_iff periodic.toInt_positive fired 0
  rw [(activation.step periodic).1, Int32.le_iff_toInt_le, toInt_sub_one above, count]
  refine and_congr_right fun _ => Iff.trans ?_ down
  show _ ≤ (0 : Int) ↔ _
  omega

/-- **The schedule** of a history. -/
theorem schedule (periodic : b.Periodic p) (history : b.History id p.slot guards fired s)
    (few : fired.length < 2 ^ 31) (k : Nat) :
    fired[k]? = some true ↔ guards[k]? = some true ∧
      ∀ j < k, fired[j]? = some true → j + p.period.toInt ≤ k := by
  induction history with
  | reset memory => simp
  | @active guards fired guard ran s t before activation ih =>
    have size := before.length_eq
    rw [List.length_append, List.length_singleton] at few
    have earlier {j : Nat} (inside : j < fired.length) : (fired ++ [ran])[j]? = fired[j]? :=
      List.getElem?_append_left inside
    -- earlier activations do not see the new one, which looks back on all of them
    rcases Nat.lt_trichotomy k fired.length with early | rfl | late
    · rw [earlier early, List.getElem?_append_left (size ▸ early), ih (by omega)]
      refine and_congr_right fun _ => forall₂_congr fun j before => ?_
      rw [earlier (by omega)]
    · rw [List.getElem?_concat_length, ← size, List.getElem?_concat_length, size, Option.some_inj,
        Option.some_inj, before.ran_iff periodic (by omega) activation]
      refine and_congr_right fun _ => forall_congr' fun j => ?_
      constructor
      · intro rested inside at_j
        exact rested (earlier inside ▸ at_j)
      · intro rested at_j
        have inside := (List.getElem?_eq_some_iff.mp at_j).1
        exact rested inside ((earlier inside).trans at_j)
    · have fired_before : (fired ++ [ran]).length ≤ k := by
        rw [List.length_append, List.length_singleton]
        omega
      have guards_before : (guards ++ [guard]).length ≤ k := by
        rw [List.length_append, List.length_singleton]
        omega
      rw [List.getElem?_eq_none fired_before, List.getElem?_eq_none guards_before]
      simp
  | between before kept ih => exact ih few

end History

/-- **A persistent block runs its children on schedule.**  They run at an activation exactly if the
    guard holds, and no run since the memory was reset was less than a period ago.

    If the guard always holds, they run at every activation whose number is a multiple of the
    period, counted from zero.  When the memory has been reset, they run as soon as the guard
    holds. -/
theorem persistence_schedule (periodic : b.Periodic p)
    (history : b.History id p.slot guards fired s) (few : fired.length < 2 ^ 31) :
    (∀ k : Nat, fired[k]? = some true ↔ guards[k]? = some true ∧
      ∀ j < k, fired[j]? = some true → j + p.period.toInt ≤ k) ∧
    ((∀ guard ∈ guards, guard = true) →
      ∀ k < fired.length, fired[k]? = some true ↔ p.period.toInt ∣ k) ∧
    ∀ {u v : Scene} {persistence toggles : Nat} {guard ran : Bool},
      u.memory = .sized persistence toggles → b.Activation id guard ran u v →
        (ran = true ↔ guard = true) := by
  have rule := history.schedule periodic few
  refine ⟨rule, fun always => ?_, fun memory activation => ?_⟩
  · refine Persistence.iff_dvd_of_rested periodic.toInt_positive fun k inside => ?_
    have holds : guards[k]? = some true := by
      have inside' : k < guards.length := history.length_eq ▸ inside
      rw [List.getElem?_eq_getElem inside', always _ (List.getElem_mem inside')]
    rw [rule k, and_iff_right holds]
  · have fresh : b.History id p.slot [] [] _ := .reset memory
    rw [fresh.ran_iff periodic (by decide) activation, and_iff_left]
    nofun

end Block

/-- A block that does nothing at every second activation. -/
def Block.everySecond : Block := ⟨none, [.nothing], none, .skip, some ⟨0, 2⟩, false, .once⟩

/-- A lone entity with a count in the first slot. -/
def Scene.withCount (count : Int32) : Scene := { Scene.lone with memory := ⟨[count], []⟩ }

/-- Three activations of it, of which the second one is idle. -/
theorem Block.persistence_schedule_thrice :
    ∃ s, everySecond.Periodic ⟨0, 2⟩ ∧
      everySecond.History 0 0 [true, true, true] [true, false, true] s ∧
      ∀ k : Nat, k < 3 → ([true, false, true][k]? = some true ↔ (2 : Int) ∣ k) := by
  have periodic : everySecond.Periodic ⟨0, 2⟩ := ⟨rfl, rfl, by decide, rfl⟩
  have guarded (s : Scene) : ∀ holds u, Block.guardHolds none 0 s = .ok holds u → holds = true :=
    fun _ _ tested => (EStateM.Result.ok.inj tested).1.symm
  have first : everySecond.Activation 0 true true Scene.lone (.withCount 2) :=
    ⟨rfl, guarded _, rfl, fun _ => ⟨_, _, rfl, rfl⟩, fun _ => rfl⟩
  have idle : Block.opens .skip (some ⟨0, 2⟩) 0 (.withCount 2) = .ok false (.withCount 1) := rfl
  have ran : everySecond.run 0 (.withCount 2) = .ok false (.withCount 1) := by
    rw [Block.run_activate]
    exact bind_of_ok idle
  have second : everySecond.Activation 0 true false (.withCount 2) (.withCount 1) :=
    ⟨rfl, guarded _, ran, nofun, fun ⟨_, _, opened, _⟩ => nomatch idle.symm.trans opened⟩
  have third : everySecond.Activation 0 true true (.withCount 1) (.withCount 2) :=
    ⟨rfl, guarded _, rfl, fun _ => ⟨_, _, rfl, rfl⟩, fun _ => rfl⟩
  have fresh : Scene.lone.memory = .sized 0 0 := rfl
  have history : everySecond.History 0 0 [true, true, true] [true, false, true] (.withCount 2) :=
    (((History.reset fresh).active first).active second).active third
  obtain ⟨-, always, -⟩ := persistence_schedule periodic history (by decide)
  exact ⟨_, periodic, history, always (by decide)⟩

end TickScript
