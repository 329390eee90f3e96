import TickScript.Proofs.Program.Limits
import TickScript.Proofs.Program.Persistence

/-! # Blocks that are to run their children once

    A block whose period is zero is to run its children once per state entry.  It is implemented as
    one that counts down from the largest number, and so it keeps what it promises only for that
    long.  An activation that is due starts the count again:

        activation      0   1   2   3  ..  2^31 + 1
        test            no  no  yes yes    yes
        count before    0   -1  -2  2^31 - 1    1
        children run            *          *

    A block that waits for its guard runs the children as soon as the guard holds, if it does not
    have to wait too long, and not again before the count is down.  A loop does not wait, because
    its count starts again even if it did not start its body, so that a test that fails at first
    costs it its only chance (`Block.runs_until_recount`).
-/

namespace TickScript

/-! ## The count -/

namespace Persistence

/-- **The count after an activation** of a block whose period is zero, given what its test gives.
    A block that has no loop and is due goes on counting down until the test holds. -/
def recount (loops : Bool) (count : Int32) (wanted : Bool) : Int32 :=
  if count - 1 ≤ 0 ∧ (wanted || loops) = true then Int32.maxValue else count - 1

/-- The count after activations from a fresh memory. -/
def countSince (loops : Bool) (wanted : List Bool) : Int32 := wanted.foldl (recount loops) 0

variable {loops : Bool} {wanted : List Bool} {k : Nat}

theorem countSince_take_succ {w : Bool} (at_k : wanted[k]? = some w) :
    countSince loops (wanted.take (k + 1)) =
      recount loops (countSince loops (wanted.take k)) w := by
  rw [List.take_add_one, at_k]
  exact List.foldl_concat ..

/-- **A block that waits counts below zero.** -/
theorem toInt_countSince_of_idle (idle : ∀ j < k, wanted[j]? = some false) (few : k ≤ 2 ^ 31) :
    (countSince false (wanted.take k)).toInt = -k := by
  induction k with
  | zero => rfl
  | succ k ih =>
    have count := ih (fun j before => idle j (by omega)) (by omega)
    have waits : recount false (countSince false (wanted.take k)) false =
        countSince false (wanted.take k) - 1 := if_neg nofun
    rw [countSince_take_succ (idle k (by omega)), waits, toInt_sub_one (by omega), count]
    omega

/-- **A count that starts again goes down by one** at each activation until it is down. -/
theorem toInt_countSince_of_restarted
    (restarted : countSince loops (wanted.take k) = Int32.maxValue) :
    ∀ j, j + 1 < 2 ^ 31 → k + j ≤ wanted.length →
      (countSince loops (wanted.take (k + j))).toInt = 2 ^ 31 - 1 - j := by
  intro j early inside
  induction j with
  | zero =>
    rw [Nat.add_zero, restarted]
    rfl
  | succ j ih =>
    have count := ih (by omega) (by omega)
    have at_j : wanted[k + j]? = some wanted[k + j] := List.getElem?_eq_getElem (by omega)
    have down : (countSince loops (wanted.take (k + j)) - 1).toInt = 2 ^ 31 - 1 - j - 1 := by
      rw [toInt_sub_one (by omega), count]
    have above : ¬ countSince loops (wanted.take (k + j)) - 1 ≤ 0 := by
      rw [Int32.le_iff_toInt_le, down, Int32.toInt_zero]
      omega
    rw [← Nat.add_assoc, countSince_take_succ at_j, recount, if_neg fun due => above due.1, down]
    omega

/-- It is down when as many activations have followed as the largest number says. -/
theorem due_iff_of_restarted {j : Nat}
    (restarted : countSince loops (wanted.take k) = Int32.maxValue) (early : j + 1 < 2 ^ 31)
    (inside : k + j ≤ wanted.length) :
    countSince loops (wanted.take (k + j)) - 1 ≤ 0 ↔ j + 2 = 2 ^ 31 := by
  have count := toInt_countSince_of_restarted restarted j early inside
  rw [Int32.le_iff_toInt_le, toInt_sub_one (by omega), count, Int32.toInt_zero]
  omega

/-- The first activation is due. -/
theorem due_at_first (loops : Bool) (wanted : List Bool) :
    countSince loops (wanted.take 0) - 1 ≤ 0 := by
  rw [List.take_zero, countSince, List.foldl_nil]
  decide

/-- A count that is due starts again if the test holds, and in loops. -/
theorem countSince_restarts {w : Bool} (at_k : wanted[k]? = some w) (again : (w || loops) = true)
    (due : countSince loops (wanted.take k) - 1 ≤ 0) :
    countSince loops (wanted.take (k + 1)) = Int32.maxValue := by
  rw [countSince_take_succ at_k, recount, if_pos ⟨due, again⟩]

end Persistence

namespace Block

variable {b : Block} {p : Persistence} {id : EntityId} {s t u : Scene} {wanted ran : Bool}

/-! ## One activation -/

/-- **What a block tests** before it starts its body for the first time: its guard, or whether the
    range of its loop holds a number. -/
def test (id : EntityId) (b : Block) : Act Bool :=
  match b.loop with
  | .once => Block.guardHolds b.guard id
  | .whileGuard => Block.guardHolds b.guard id
  | .forRange range => do
    let (start, stop, step, _) ← Block.bounds range id
    return Loop.inRange stop step start

/-- **A run of a block starts its body**, once or more often. -/
def StartsBody (id : EntityId) (b : Block) (s : Scene) : Prop :=
  match b.loop with
  | .once => b.Fires id s
  | .whileGuard => b.rounds id s ≠ []
  | .forRange _ => b.rounds id s ≠ []

theorem startsBody_of_once (once : b.loop = .once) : b.StartsBody id s ↔ b.Fires id s := by
  rw [StartsBody, once]

theorem startsBody_of_loop (loops : b.loop ≠ .once) : b.StartsBody id s ↔ b.rounds id s ≠ [] := by
  unfold StartsBody
  split
  · exact absurd ‹_› loops
  · exact Iff.rfl
  · exact Iff.rfl

/-- **A block with period zero**.  What runs in place of its children does not count in its slot. -/
structure Single (b : Block) (p : Persistence) : Prop where
  persistence : b.persistence = some p
  once : p.period = 0
  otherwise : Block.otherwiseCountsIn p.slot b.otherwise = false

/-- **An activation that completes**, for an entity that is not in hit pause; what the test gives,
    and whether the body is started. -/
structure Trial (b : Block) (id : EntityId) (wanted ran : Bool) (s t : Scene) : Prop where
  unpaused : Act.isPaused id s = .ok false s
  tested : ∀ holds u, b.test id s = .ok holds u → holds = wanted
  completed : b.run id s = .ok false t
  starts : ran = true ↔ b.StartsBody id s

/-- Tests do not see counters. -/
theorem ignoresCounters_test (id : EntityId) (b : Block) : (b.test id).IgnoresCounters := by
  have guards := Act.ignoresCounters_guardHolds b.guard id
  unfold test
  split
  · exact guards
  · exact guards
  · exact (Act.ignoresCounters_bounds _ id).bind fun _ => .pure _

/-- The test gives the same after the count went down. -/
theorem Trial.wanted_eq (trial : b.Trial id wanted ran s t) {memory : BlockMemory} {holds : Bool}
    (tested : b.test id { s with memory := memory } = .ok holds u) : holds = wanted := by
  rw [b.ignoresCounters_test id s memory] at tested
  cases ended : b.test id s with
  | error f v =>
    rw [ended] at tested
    cases tested
  | ok holds' v =>
    rw [ended] at tested
    obtain ⟨rfl, -⟩ := EStateM.Result.ok.inj tested
    exact trial.tested _ _ ended

/-- What a reload sets, if the period is zero. -/
theorem Single.counter_of_reload (single : b.Single p)
    (reloaded : Block.reload b.persistence s = .ok () t) :
    t.memory.counter p.slot = Int32.maxValue := by
  rw [single.persistence] at reloaded
  obtain ⟨-, rfl⟩ := EStateM.Result.ok.inj reloaded
  exact (BlockMemory.counter_setCounter _ _ _).trans (if_pos single.once)

/-- What the parts of an activation give, for a block without a loop. -/
theorem trial_of_once {v w : Scene} {wanted : Bool} (due : Bool)
    (once : b.loop = .once) (unpaused : Act.isPaused id s = .ok false s)
    (tested : Block.guardHolds b.guard id s = .ok wanted u)
    (opened : Block.opens b.pause b.persistence id s = .ok due t)
    (tested' : Block.guardHolds b.guard id t = .ok wanted v)
    (completed : b.run id s = .ok false w) : b.Trial id wanted (due && wanted) s w where
  unpaused := unpaused
  tested holds x ended := by
    rw [test, once] at ended
    exact (EStateM.Result.ok.inj (ended.symm.trans tested)).1
  completed := completed
  starts := by
    rw [startsBody_of_once once, Bool.and_eq_true]
    constructor
    · rintro ⟨rfl, rfl⟩
      exact ⟨t, v, opened, tested'⟩
    · rintro ⟨t', v', opened', ended⟩
      obtain ⟨rfl, rfl⟩ := EStateM.Result.ok.inj (opened.symm.trans opened')
      exact ⟨rfl, (EStateM.Result.ok.inj (tested'.symm.trans ended)).1⟩

/-! ### Loops -/

/-- A loop that may run is entered by its test. -/
theorem test_of_enters {c : Loop.Cycle} {i : Int32}
    (opened : Block.opens b.pause b.persistence id s = .ok true t)
    (entered : b.enters id s = .ok (some (c, i)) u) : b.test id t = c.test i u := by
  obtain ⟨guard, items, otherwise, pause, persistence, ignoresPause, kind⟩ := b
  have reached := (bind_of_ok opened).symm.trans entered
  cases kind with
  | once => cases reached
  | whileGuard =>
    cases reached
    rfl
  | forRange range =>
    obtain ⟨bounds, v, bounded, reached⟩ := exists_of_bind reached
    cases reached
    exact bind_of_ok bounded

/-- A loop that may run is entered, unless there is a fault. -/
theorem enters_ne_none (loops : b.loop ≠ .once)
    (opened : Block.opens b.pause b.persistence id s = .ok true t) :
    b.enters id s ≠ .ok none u := by
  intro entered
  obtain ⟨guard, items, otherwise, pause, persistence, ignoresPause, kind⟩ := b
  have reached := (bind_of_ok opened).symm.trans entered
  cases kind with
  | once => exact loops rfl
  | whileGuard => cases reached
  | forRange range =>
    obtain ⟨_, _, _, reached⟩ := exists_of_bind reached
    cases reached

/-- **A loop that may run and completes** was tested, has started its body if the test held, and
    starts its count again in either case. -/
theorem exists_of_loop (loops : b.loop ≠ .once)
    (opened : Block.opens b.pause b.persistence id s = .ok true t)
    (completed : b.run id s = .ok false u) :
    (∃ holds v, b.test id t = .ok holds v ∧ (b.rounds id s ≠ [] ↔ holds = true)) ∧
      ∃ v, Block.reload b.persistence v = .ok () u := by
  have spec := b.ends_enters loops id s
  unfold Ends at spec
  split at spec
  · rename_i entered v enters
    cases entered with
    | none => exact absurd enters (enters_ne_none loops opened)
    | some entry =>
      obtain ⟨c, i⟩ := entry
      obtain ⟨stops, w, ended, reached⟩ := exists_of_bind (spec.1.symm.trans completed)
      cases stops with
      | true => cases reached
      | false =>
        obtain ⟨_, x, reloaded, reached⟩ := exists_of_bind reached
        obtain ⟨-, rfl⟩ := EStateM.Result.ok.inj reached
        refine ⟨?_, w, reloaded⟩
        rw [test_of_enters opened enters, Block.rounds, enters]
        exact Loop.Cycle.test_of_result ended
  · cases spec.1.symm.trans completed

/-- A block that is held back does not start its body. -/
theorem not_startsBody (held : Block.opens b.pause b.persistence id s = .ok false t) :
    ¬ b.StartsBody id s := by
  have entered : b.enters id s = .ok none t := bind_of_ok held
  have rounds : b.rounds id s = [] := by rw [Block.rounds, entered]
  by_cases once : b.loop = .once
  · rw [startsBody_of_once once]
    rintro ⟨u, v, opened, -⟩
    cases held.symm.trans opened
  · rw [startsBody_of_loop once]
    exact fun some => some rounds

/-- A block without a loop that is due runs its children, or waits. -/
theorem Trial.step_of_once (single : b.Single p) (trial : b.Trial id wanted ran s t)
    (once : b.loop = .once)
    (opens : Block.opens b.pause b.persistence id s = .ok true
      { s with memory := s.memory.setCounter p.slot (s.memory.counter p.slot - 1) })
    (due : s.memory.counter p.slot - 1 ≤ 0) :
    (b.Fires id s ↔ wanted = true ∧ s.memory.counter p.slot - 1 ≤ 0) ∧
      t.memory.counter p.slot =
        if s.memory.counter p.slot - 1 ≤ 0 ∧ (wanted || decide (b.loop ≠ .once)) = true
        then Int32.maxValue else s.memory.counter p.slot - 1 := by
  have guards : b.test id = Block.guardHolds b.guard id := by rw [test, once]
  rcases activation_cases once trial.completed with ⟨u, v, w, opened, holds, -, reloaded⟩ |
    ⟨u, v, opened, fails, otherwise⟩ | closed
  · -- the children ran, and the count starts again
    obtain ⟨-, rfl⟩ := EStateM.Result.ok.inj (opens.symm.trans opened)
    obtain rfl : true = wanted := trial.wanted_eq (guards ▸ holds)
    rw [if_pos ⟨due, rfl⟩]
    exact ⟨⟨fun _ => ⟨rfl, due⟩, fun _ => ⟨_, v, opens, holds⟩⟩,
      single.counter_of_reload reloaded⟩
  · -- the guard failed, and neither it nor the block that ran instead has counted
    obtain ⟨-, rfl⟩ := EStateM.Result.ok.inj (opens.symm.trans opened)
    obtain rfl : false = wanted := trial.wanted_eq (guards ▸ fails)
    rw [if_neg fun both => by simp [once] at both]
    refine ⟨⟨?_, nofun⟩, ?_⟩
    · rintro ⟨u, w, opened, holds⟩
      obtain ⟨-, rfl⟩ := EStateM.Result.ok.inj (opens.symm.trans opened)
      cases fails.symm.trans holds
    · have ran := (Block.keeps_counter_otherwise id b.otherwise single.otherwise).ok otherwise
      have tests : (Footprint.counter p.slot).allows _ v :=
        (Footprint.keeps_guardHolds_counter id b.guard).ok fails
      exact (ran.trans tests).trans (BlockMemory.counter_setCounter _ _ _)
  · cases opens.symm.trans closed

/-- **What an activation does to the count**, and when it starts the body: the block is due, and its
    test holds. -/
theorem Trial.step (single : b.Single p) (trial : b.Trial id wanted ran s t) :
    (ran = true ↔ wanted = true ∧ s.memory.counter p.slot - 1 ≤ 0) ∧
      t.memory.counter p.slot =
        Persistence.recount (b.loop ≠ .once) (s.memory.counter p.slot) wanted := by
  have opens := opens_of_unpaused (p := p) b.pause trial.unpaused
  rw [← single.persistence] at opens
  rw [trial.starts, Persistence.recount]
  by_cases due : s.memory.counter p.slot - 1 ≤ 0
  · rw [decide_eq_true due] at opens
    by_cases once : b.loop = .once
    · rw [startsBody_of_once once]
      exact trial.step_of_once single once opens due
    · obtain ⟨⟨holds, v, tested, started⟩, v, reloaded⟩ :=
        exists_of_loop once opens trial.completed
      obtain rfl := trial.wanted_eq tested
      rw [startsBody_of_loop once, started, single.counter_of_reload reloaded,
        if_pos ⟨due, by simp [once]⟩]
      exact ⟨⟨fun holds => ⟨holds, due⟩, And.left⟩, rfl⟩
  · rw [decide_eq_false due] at opens
    have ran := trial.completed
    rw [Block.run_activate, bind_of_ok opens] at ran
    obtain ⟨-, rfl⟩ := EStateM.Result.ok.inj ran
    rw [if_neg fun both => due both.1]
    refine ⟨⟨fun starts => absurd starts (not_startsBody opens), fun both => absurd both.2 due⟩, ?_⟩
    exact BlockMemory.counter_setCounter _ _ _

/-! ## Histories -/

/-- **A history of activations that complete**, from a block memory that was reset: what the test
    gave each time, and whether the body was started.  Between activations, the slot of the block is
    left alone. -/
inductive Trials (b : Block) (id : EntityId) (slot : Nat) : List Bool → List Bool → Scene → Prop
  | reset {s : Scene} {persistence toggles : Nat} (memory : s.memory = .sized persistence toggles) :
      Trials b id slot [] [] s
  | active {wanted ran : List Bool} {holds starts : Bool} {s t : Scene}
      (before : Trials b id slot wanted ran s) (trial : b.Trial id holds starts s t) :
      Trials b id slot (wanted ++ [holds]) (ran ++ [starts]) t
  | between {wanted ran : List Bool} {s t : Scene} (before : Trials b id slot wanted ran s)
      (kept : t.memory.counter slot = s.memory.counter slot) : Trials b id slot wanted ran t

namespace Trials

variable {wanted ran : List Bool} {k : Nat}

theorem length_eq (trials : b.Trials id p.slot wanted ran s) : wanted.length = ran.length := by
  induction trials with
  | reset memory => rfl
  | active before trial ih => simp [ih]
  | between before kept ih => exact ih

/-- The slot holds the count. -/
theorem counter_eq (single : b.Single p) (trials : b.Trials id p.slot wanted ran s) :
    s.memory.counter p.slot = Persistence.countSince (b.loop ≠ .once) wanted := by
  induction trials with
  | reset memory =>
    rw [memory, BlockMemory.counter_sized]
    rfl
  | active before trial ih =>
    rw [(trial.step single).2, ih]
    exact (List.foldl_concat ..).symm
  | between before kept ih => rw [kept, ih]

/-- **When the body is started**: the test holds, and the count was down. -/
theorem ran_iff (single : b.Single p) (trials : b.Trials id p.slot wanted ran s) (k : Nat) :
    ran[k]? = some true ↔ wanted[k]? = some true ∧
      Persistence.countSince (b.loop ≠ .once) (wanted.take k) - 1 ≤ 0 := by
  induction trials with
  | reset memory => simp
  | @active wanted ran holds starts s t before trial ih =>
    have size := before.length_eq
    rcases Nat.lt_trichotomy k ran.length with early | rfl | late
    · have inside : k < wanted.length := size ▸ early
      rw [List.getElem?_append_left early, List.getElem?_append_left inside, ih,
        List.take_append_of_le_length (Nat.le_of_lt inside)]
    · rw [List.getElem?_concat_length, ← size, List.getElem?_concat_length, List.take_left,
        Option.some_inj, Option.some_inj, (trial.step single).1, before.counter_eq single]
    · have beyond : (ran ++ [starts]).length ≤ k := by simp; omega
      have beyond' : (wanted ++ [holds]).length ≤ k := by simp; omega
      rw [List.getElem?_eq_none beyond, List.getElem?_eq_none beyond']
      simp
  | between before kept ih => exact ih

/-- **Once the count starts again**, the body is not started until it is down, and then if the test
    holds. -/
theorem rests (single : b.Single p) (trials : b.Trials id p.slot wanted ran s)
    (restarted : Persistence.countSince (b.loop ≠ .once) (wanted.take (k + 1)) = Int32.maxValue) :
    (∀ j, k < j → j < k + (2 ^ 31 - 1) → ran[j]? ≠ some true) ∧
      (ran[k + (2 ^ 31 - 1)]? = some true ↔ wanted[k + (2 ^ 31 - 1)]? = some true) := by
  -- both are about the activation that many after the one that follows `k`
  have due_iff {j : Nat} (after : k < j) (early : j ≤ k + (2 ^ 31 - 1)) (inside : j < wanted.length) :
      Persistence.countSince (b.loop ≠ .once) (wanted.take j) - 1 ≤ 0 ↔ j = k + (2 ^ 31 - 1) := by
    have due := Persistence.due_iff_of_restarted (j := j - (k + 1)) restarted (by omega) (by omega)
    rw [show k + 1 + (j - (k + 1)) = j by omega] at due
    rw [due]
    omega
  constructor
  · intro j after early started
    obtain ⟨at_j, due⟩ := (trials.ran_iff single j).mp started
    have inside := (List.getElem?_eq_some_iff.mp at_j).1
    have last := (due_iff after (by omega) inside).mp due
    omega
  · rw [trials.ran_iff single]
    refine ⟨And.left, fun holds => ⟨holds, ?_⟩⟩
    have inside := (List.getElem?_eq_some_iff.mp holds).1
    exact (due_iff (by omega) (by omega) inside).mpr rfl

end Trials

/-- **A block with period zero runs its children once, until its count is down.**  If it is no loop,
    it runs them when its guard holds for the first time, unless the count has wrapped around by
    then.  If it is a loop, it has only its first activation to run them.  After a run, or after the
    first activation of a loop, the children do not run until the count is down from the largest
    number; then they run again if the test holds.

    So the children run once in a history of fewer than `2 ^ 31` activations, unless the block is a
    loop whose test failed at first. -/
theorem runs_until_recount {wanted ran : List Bool} (single : b.Single p)
    (trials : b.Trials id p.slot wanted ran s) :
    (b.loop = .once → ∀ k < 2 ^ 31, wanted[k]? = some true →
      (∀ j < k, wanted[j]? = some false) → ran[k]? = some true) ∧
    (b.loop ≠ .once → (wanted[0]? = some true → ran[0]? = some true) ∧
      ∀ k, 0 < k → k < 2 ^ 31 - 1 → ran[k]? ≠ some true) ∧
    ∀ k, ran[k]? = some true → wanted[k]? = some true ∧
      (∀ j, k < j → j < k + (2 ^ 31 - 1) → ran[j]? ≠ some true) ∧
      (ran[k + (2 ^ 31 - 1)]? = some true ↔ wanted[k + (2 ^ 31 - 1)]? = some true) := by
  have ran_iff := trials.ran_iff single
  refine ⟨fun once k few holds idle => ?_, fun loops => ⟨fun holds => ?_, ?_⟩, fun k started => ?_⟩
  · have count := Persistence.toInt_countSince_of_idle idle (by omega)
    have waits : decide (b.loop ≠ .once) = false := by simp [once]
    rw [ran_iff, waits]
    refine ⟨holds, ?_⟩
    rw [Int32.le_iff_toInt_le, toInt_sub_one (by omega), count, Int32.toInt_zero]
    omega
  · rw [ran_iff]
    exact ⟨holds, Persistence.due_at_first _ wanted⟩
  · intro k after early
    -- the first activation is due, and starts the count again whatever its test gave
    cases first : wanted[0]? with
    | none =>
      have empty : wanted.length ≤ 0 := List.getElem?_eq_none_iff.mp first
      intro started
      have inside := (List.getElem?_eq_some_iff.mp ((ran_iff k).mp started).1).1
      omega
    | some holds =>
      have again : (holds || decide (b.loop ≠ .once)) = true := by simp [loops]
      have restarted := Persistence.countSince_restarts first again
        (Persistence.due_at_first _ wanted)
      exact (trials.rests single restarted).1 k after (by omega)
  · obtain ⟨holds, due⟩ := (ran_iff k).mp started
    exact ⟨holds, trials.rests single (Persistence.countSince_restarts holds rfl due)⟩

end Block

/-! ## Blocks that look at the time -/

/-- A block whose guard holds when the time is not zero. -/
def Block.timed (loop : LoopKind) (c : Controller) : Block :=
  ⟨some [(Opcode.tally .gameTime).toByte], [c], none, .skip, some ⟨0, 0⟩, false, loop⟩

theorem Block.single_timed (loop : LoopKind) (c : Controller) :
    (Block.timed loop c).Single ⟨0, 0⟩ := ⟨rfl, rfl, rfl⟩

/-- A lone entity with a count in the first slot, at time one. -/
def Scene.later (count : Int32) : Scene :=
  { Scene.withCount count with roster := Scene.lone.roster.advance }

/-- A block that waits for the time runs its children when it comes, and then rests. -/
theorem Block.runs_until_recount_thrice :
    let b := Block.timed .once .nothing
    ∃ s, b.Trials 0 0 [false, true, true] [false, true, false] s ∧ b.Single ⟨0, 0⟩ ∧
      [false, true, false][1]? = some true ∧
      ∀ j : Nat, 1 < j → j < 1 + (2 ^ 31 - 1) → [false, true, false][j]? ≠ some true := by
  intro b
  have early : b.Trial 0 false (true && false) Scene.lone (.withCount (-1)) :=
    Block.trial_of_once true rfl rfl rfl rfl rfl rfl
  have starts : b.Trial 0 true (true && true) (.later (-1)) (.later Int32.maxValue) :=
    Block.trial_of_once true rfl rfl rfl rfl rfl rfl
  have rests : b.Trial 0 true (false && true) (.later Int32.maxValue)
      (.later (Int32.maxValue - 1)) := Block.trial_of_once false rfl rfl rfl rfl rfl rfl
  have fresh : Scene.lone.memory = .sized 0 0 := rfl
  have waited : b.Trials 0 0 [false] [false] (.later (-1)) :=
    .between ((Block.Trials.reset fresh).active early) rfl
  have trials : b.Trials 0 0 [false, true, true] [false, true, false] _ :=
    (waited.active starts).active rests
  obtain ⟨first, -, later⟩ := Block.runs_until_recount (Block.single_timed _ _) trials
  have idle : ∀ j < 1, [false, true, true][j]? = some false := by decide
  have ran := first rfl 1 (by decide) rfl idle
  exact ⟨_, trials, Block.single_timed _ _, ran, (later 1 ran).2.1⟩

/-! ## Blocks that run again -/

namespace Block

/-- A block without a guard. -/
def unguarded : Block := ⟨none, [.nothing], none, .skip, some ⟨0, 0⟩, false, .once⟩

/-- It can be activated at any count. -/
theorem exists_trial (count : Int32) :
    ∃ ran next, unguarded.Trial 0 true ran (.withCount count) (.withCount next) := by
  have gate : Block.opens .skip (some ⟨0, 0⟩) 0 (.withCount count) =
      .ok (decide (count - 1 ≤ 0)) (.withCount (count - 1)) := opens_of_unpaused .skip rfl
  by_cases due : count - 1 ≤ 0
  · rw [decide_eq_true due] at gate
    have ran : unguarded.run 0 (.withCount count) = .ok false (.withCount Int32.maxValue) := by
      rw [Block.run_activate]
      exact bind_of_ok gate
    exact ⟨_, _, trial_of_once true rfl rfl rfl gate rfl ran⟩
  · rw [decide_eq_false due] at gate
    have ran : unguarded.run 0 (.withCount count) = .ok false (.withCount (count - 1)) := by
      rw [Block.run_activate]
      exact bind_of_ok gate
    exact ⟨_, _, trial_of_once false rfl rfl rfl gate rfl ran⟩

/-- So it can be activated any number of times. -/
theorem exists_trials (n : Nat) :
    ∃ ran count, unguarded.Trials 0 0 (List.replicate n true) ran (.withCount count) := by
  induction n with
  | zero =>
    have fresh : Scene.lone.memory = .sized 0 0 := rfl
    exact ⟨[], 0, .between (.reset fresh) rfl⟩
  | succ n ih =>
    obtain ⟨ran, count, trials⟩ := ih
    obtain ⟨again, next, trial⟩ := exists_trial count
    rw [List.replicate_succ']
    exact ⟨_, next, trials.active trial⟩

/-- **Its children run again** when the count is down. -/
theorem exists_trials_again {n : Nat} (many : 2 ^ 31 ≤ n) :
    ∃ ran s, unguarded.Trials 0 0 (List.replicate n true) ran s ∧
      ran[0]? = some true ∧ ran[2 ^ 31 - 1]? = some true := by
  obtain ⟨ran, count, trials⟩ := exists_trials n
  have single : unguarded.Single ⟨0, 0⟩ := ⟨rfl, rfl, rfl⟩
  have wanted {k : Nat} (inside : k < n) : (List.replicate n true)[k]? = some true := by
    rw [List.getElem?_replicate, if_pos inside]
  have first := Persistence.due_at_first (decide (unguarded.loop ≠ .once)) (List.replicate n true)
  have restarted := Persistence.countSince_restarts (wanted (by omega)) rfl first
  have again := (trials.rests single restarted).2
  rw [Nat.zero_add] at again
  exact ⟨ran, _, trials, (trials.ran_iff single 0).mpr ⟨wanted (by omega), first⟩,
    again.mpr (wanted (by omega))⟩

end Block

/-- **A second run, and none at all.**  A block without a guard runs its children at its first
    activation and again when the count is down.  A loop whose guard holds at its second activation
    for the first time does not run them. -/
theorem Block.runs_until_recount_again :
    let loop := Block.timed .whileGuard (.signal .leave)
    (Block.unguarded.Single ⟨0, 0⟩ ∧ ∃ ran s,
      Block.unguarded.Trials 0 0 (List.replicate (2 ^ 31) true) ran s ∧
        ran[0]? = some true ∧ ran[2 ^ 31 - 1]? = some true) ∧
    loop.Single ⟨0, 0⟩ ∧ ∃ s, loop.Trials 0 0 [false, true] [false, false] s := by
  intro loop
  have unguarded : Block.unguarded.Single ⟨0, 0⟩ := ⟨rfl, rfl, rfl⟩
  have early : loop.Trial 0 false false Scene.lone (.withCount Int32.maxValue) :=
    ⟨rfl, fun _ _ ended => (EStateM.Result.ok.inj ended).1.symm, rfl, nofun, fun some => absurd rfl some⟩
  have late : loop.Trial 0 true false (.later Int32.maxValue) (.later (Int32.maxValue - 1)) :=
    ⟨rfl, fun _ _ ended => (EStateM.Result.ok.inj ended).1.symm, rfl, nofun, fun some => absurd rfl some⟩
  have fresh : Scene.lone.memory = .sized 0 0 := rfl
  have waited : loop.Trials 0 0 [false] [false] (.later Int32.maxValue) :=
    .between ((Block.Trials.reset fresh).active early) rfl
  exact ⟨⟨unguarded, Block.exists_trials_again (Nat.le_refl _)⟩, Block.single_timed _ _, _,
    waited.active late⟩

end TickScript
