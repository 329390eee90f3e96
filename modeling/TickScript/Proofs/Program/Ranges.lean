import TickScript.Proofs.Program.Calls
import TickScript.Proofs.Program.Started
import Mathlib.Tactic.Linarith
import Mathlib.Tactic.Ring

/-! # Loops over ranges

    A loop over a range is meant to run its body once for each of the numbers `start`,
    `start + step`, `start + 2 * step`, .. that come before `stop`.  The counter has 32 bits and
    wraps around, so this holds only if the number behind the range, the first one that does not
    come before `stop`, has 32 bits as well (`Block.visits_range`).  Otherwise the counter wraps
    back in front of `stop`, and the loop goes on (`Loop.inRange_wrapped`).

    `Rounds` are the rounds that a loop has behind it, each with the number and the scene that the
    body was started with.  They grow at their end, as the loop does.
-/

namespace TickScript

namespace Loop

/-! ## Ranges -/

section Ranges

variable {start stop step : Int} {k : Nat}

/-- **A number comes before the end** of a range. -/
def Before (stop step i : Int) : Prop := (0 < step ∧ i < stop) ∨ (step < 0 ∧ stop < i)

/-- How many numbers a range holds. -/
def size (start stop step : Int) : Nat :=
  if 0 < step then ((stop - start + step - 1) / step).toNat
  else if step < 0 then ((start - stop - step - 1) / -step).toNat
  else 0

/-- **The numbers of a range**, in order. -/
def terms (start stop step : Int) : List Int :=
  (List.range (size start stop step)).map fun k : Nat => start + k * step

/-- The numbers of a range are those that come before its end. -/
theorem lt_size_iff : k < size start stop step ↔ Before stop step (start + k * step) := by
  unfold size Before
  -- the size is a quotient rounded up, and downward ranges are upward ones with the signs changed
  rcases lt_trichotomy 0 step with up | none | down
  · have below : ¬ step < 0 := by omega
    rw [if_pos up, Int.lt_toNat, ← Int.add_one_le_iff, Int.le_ediv_iff_mul_le up, add_one_mul]
    simp only [up, below, true_and, false_and, or_false]
    constructor <;> intro h <;> linarith
  · subst none
    simp
  · have above : ¬ 0 < step := by omega
    have up : 0 < -step := by omega
    rw [if_neg above, if_pos down, Int.lt_toNat, ← Int.add_one_le_iff, Int.le_ediv_iff_mul_le up,
      add_one_mul, mul_neg]
    simp only [down, above, true_and, false_and, false_or]
    constructor <;> intro h <;> linarith

/-- The number behind the range, the first one that does not come before its end. -/
def behind (start stop step : Int) : Int := start + size start stop step * step

/-- **The number behind the range has 32 bits.** -/
def Fits (start stop step : Int) : Prop :=
  -2 ^ 31 ≤ behind start stop step ∧ behind start stop step < 2 ^ 31

instance : Decidable (Fits start stop step) := inferInstanceAs (Decidable (_ ∧ _))

end Ranges

/-! ## The counter -/

section Counter

variable {start stop step i : Int32} {k : Nat}

theorem inRange_iff : inRange stop step i = true ↔ Before stop.toInt step.toInt i.toInt := by
  have zero : step = 0 ↔ step.toInt = 0 := by rw [← Int32.toInt_inj, Int32.toInt_zero]
  unfold inRange Before
  split
  case isTrue none =>
    have := zero.mp none
    constructor
    · nofun
    · omega
  case isFalse some =>
    have := mt zero.mpr some
    split
    case isTrue up =>
      rw [Int32.lt_iff_toInt_lt, Int32.toInt_zero] at up
      rw [decide_eq_true_iff, Int32.lt_iff_toInt_lt]
      omega
    case isFalse down =>
      rw [Int32.lt_iff_toInt_lt, Int32.toInt_zero] at down
      rw [decide_eq_true_iff, Int32.lt_iff_toInt_lt]
      omega

/-- **The counter after some rounds**, which has wrapped around if need be. -/
def counter (start step : Int32) (k : Nat) : Int32 := .ofInt (start.toInt + k * step.toInt)

theorem counter_zero : counter start step 0 = start := by simp [counter, Int32.ofInt_toInt]

theorem counter_succ : counter start step (k + 1) = counter start step k + step := by
  unfold counter
  rw [← Int32.ofInt_toInt step, ← Int32.ofInt_add, Int32.ofInt_toInt]
  push_cast
  rw [add_one_mul, add_assoc]

/-- As long as there are numbers in the range, the counter does not wrap around. -/
theorem toInt_counter (more : k < size start.toInt stop.toInt step.toInt) :
    (counter start step k).toInt = start.toInt + k * step.toInt := by
  have before := lt_size_iff.mp more
  have lower := stop.le_toInt
  have upper := stop.toInt_lt
  have lower' := start.le_toInt
  have upper' := start.toInt_lt
  refine Int32.toInt_ofInt_of_le ?_ ?_
  · rcases before with ⟨up, -⟩ | ⟨-, before⟩
    · have : 0 ≤ k * step.toInt := by positivity
      omega
    · omega
  · rcases before with ⟨-, before⟩ | ⟨down, -⟩
    · omega
    · have : k * step.toInt ≤ 0 := mul_nonpos_of_nonneg_of_nonpos (by positivity) down.le
      omega

theorem inRange_counter (more : k < size start.toInt stop.toInt step.toInt) :
    inRange stop step (counter start step k) = true := by
  rw [inRange_iff, toInt_counter more]
  exact lt_size_iff.mp more

/-- **A number behind the range that fits ends the loop.** -/
theorem inRange_behind (fits : Fits start.toInt stop.toInt step.toInt) :
    inRange stop step (counter start step (size start.toInt stop.toInt step.toInt)) = false := by
  have same : (counter start step (size start.toInt stop.toInt step.toInt)).toInt =
      behind start.toInt stop.toInt step.toInt := Int32.toInt_ofInt_of_le fits.1 fits.2
  rw [← Bool.not_eq_true, inRange_iff, same, behind, ← lt_size_iff]
  exact Nat.lt_irrefl _

/-- **A number behind the range that does not fit wraps back into it.** -/
theorem inRange_wrapped (overflows : ¬ Fits start.toInt stop.toInt step.toInt) :
    inRange stop step (counter start step (size start.toInt stop.toInt step.toInt)) = true := by
  have lower := stop.le_toInt
  have upper := stop.toInt_lt
  have lower' := step.le_toInt
  have upper' := step.toInt_lt
  have wraps : (counter start step (size start.toInt stop.toInt step.toInt)).toInt =
      (behind start.toInt stop.toInt step.toInt).bmod (2 ^ 32) := Int32.toInt_ofInt
  rw [inRange_iff, wraps]
  unfold Fits at overflows
  -- the first number fits, so there is a last one in the range, one step before
  cases count : size start.toInt stop.toInt step.toInt with
  | zero =>
    have first : behind start.toInt stop.toInt step.toInt = start.toInt := by simp [behind, count]
    have := start.le_toInt
    have := start.toInt_lt
    omega
  | succ k =>
    have last : Before stop.toInt step.toInt (start.toInt + k * step.toInt) :=
      lt_size_iff.mp (by omega)
    have next : behind start.toInt stop.toInt step.toInt =
        start.toInt + k * step.toInt + step.toInt := by
      rw [behind, count]
      push_cast
      ring
    have out : ¬ Before stop.toInt step.toInt (behind start.toInt stop.toInt step.toInt) :=
      fun before => absurd (lt_size_iff.mpr before) (Nat.lt_irrefl _)
    generalize behind start.toInt stop.toInt step.toInt = j at *
    generalize start.toInt + k * step.toInt = i at *
    unfold Before at *
    rw [Int.bmod_def]
    omega

end Counter

/-! ## Rounds -/

/-- **The slot of the loop shows a number**, if the loop has a slot. -/
def Shows (slot : Option UInt8) (i : Int32) (s : Scene) : Prop :=
  ∀ x ∈ slot, s.machine.windows.get x.toNat = .ok (.ofInt32 i)

/-- **The rounds of a loop so far**, and the number and the scene that it goes on with. -/
inductive Rounds (slot : Option UInt8) (stop step : Int32) (body : Act Flow) (start : Int32)
    (s : Scene) : List (Int32 × Scene) → Int32 → Scene → Prop
  | nil : Rounds slot stop step body start s [] start s
  | concat {rounds : List (Int32 × Scene)} {i j : Int32} {t u v : Scene}
      (before : Rounds slot stop step body start s rounds i t)
      (within : inRange stop step i = true) (completed : body t = .ok .completed u)
      (moved : advance slot stop step i u = .ok j v) :
      Rounds slot stop step body start s (rounds ++ [(i, t)]) j v

/-- **A body that suits the loop.**  However many rounds there were, it is completed, and leaves
    the slot of the loop alone. -/
def Suits (slot : Option UInt8) (stop step : Int32) (body : Act Flow) (start : Int32)
    (s : Scene) : Prop :=
  ∀ rounds i t, Rounds slot stop step body start s rounds i t → inRange stop step i = true →
    ∃ u, body t = .ok .completed u ∧
      ∀ x ∈ slot, u.machine.windows.get x.toNat = t.machine.windows.get x.toNat

section Rounds

variable {slot : Option UInt8} {start stop step i j : Int32} {body : Act Flow} {s t u : Scene}
  {rounds : List (Int32 × Scene)} {limit left : Nat}

/-- The counter moves on, and the slot shows it as long as it is in range. -/
theorem advance_of_shows (stop step : Int32) (shows : Shows slot i s) :
    ∃ t, advance slot stop step i s = .ok (i + step) t ∧
      if inRange stop step (i + step) = true then Shows slot (i + step) t else t = s := by
  cases slot with
  | none =>
    refine ⟨s, rfl, ?_⟩
    split
    · exact nofun
    · rfl
  | some x =>
    have read : Act.localSlot x.toNat s = .ok (.ofInt32 i) s := localSlot_of_ok (shows x rfl)
    have next : (Value.ofInt32 i).toInt32 + step = i + step :=
      congrArg (· + step) (Int32.toInt32_toInt64 i)
    by_cases within : inRange stop step (i + step) = true
    · obtain ⟨w, set⟩ := Windows.exists_set (v := .ofInt32 (i + step)) (shows x rfl)
      have moved : advance (some x) stop step i s = .ok (i + step) (s.withWindows w) := by
        refine (bind_of_ok read).trans ?_
        rw [next, if_pos within]
        exact (bind_of_ok (onWindows_of_ok set)).trans rfl
      refine ⟨_, moved, ?_⟩
      rw [if_pos within]
      rintro _ ⟨rfl⟩
      exact Windows.get_set set
    · have moved : advance (some x) stop step i s = .ok (i + step) s := by
        refine (bind_of_ok read).trans ?_
        rw [next, if_neg within]
        rfl
      exact ⟨s, moved, by rw [if_neg within]⟩

/-- A loop whose counter is out of range ends. -/
theorem forRange_of_out (out : inRange stop step i = false) :
    forRange limit slot stop step body left i = pure false := by
  cases left with
  | zero => rw [forRange, out, if_neg nofun]
  | succ left => rw [forRange, out, if_neg nofun]

theorem rangeStarts_of_out (out : inRange stop step i = false) (starts : Scene → List Started) :
    rangeStarts slot stop step body starts left i = Started.nothing := by
  cases left with
  | zero => rfl
  | succ left => rw [rangeStarts, out, if_neg nofun]

namespace Rounds

/-- A loop goes on after its rounds. -/
theorem forRange_eq (before : Rounds slot stop step body start s rounds i t) :
    forRange limit slot stop step body (rounds.length + left) start s =
      forRange limit slot stop step body left i t := by
  induction before generalizing left with
  | nil => rw [List.length_nil, Nat.zero_add]
  | @concat rounds i j t u v before within completed moved ih =>
    rw [List.length_append, List.length_singleton, Nat.add_assoc, Nat.add_comm 1, ih, forRange,
      if_pos within]
    exact (bind_of_ok completed).trans (bind_of_ok moved)

/-- What a loop starts begins with what its rounds start. -/
theorem rangeStarts_eq (before : Rounds slot stop step body start s rounds i t)
    (starts : Scene → List Started) :
    rangeStarts slot stop step body starts (rounds.length + left) start s =
      rounds.flatMap (fun r => starts r.2) ++ rangeStarts slot stop step body starts left i t := by
  induction before generalizing left with
  | nil => rw [List.length_nil, Nat.zero_add, List.flatMap_nil, List.nil_append]
  | @concat rounds i j t u v before within completed moved ih =>
    rw [List.length_append, List.length_singleton, Nat.add_assoc, Nat.add_comm 1, ih, rangeStarts,
      if_pos within, roundStarts, Act.thenStarts_of_ok completed, if_pos rfl,
      Act.thenStarts_of_ok moved, List.flatMap_append, List.flatMap_singleton, List.append_assoc]

/-- **Behind a range whose end fits, the loop ends.** -/
theorem ends (before : Rounds slot stop step body start s rounds
      (counter start step (size start.toInt stop.toInt step.toInt)) t)
    (fits : Fits start.toInt stop.toInt step.toInt) (starts : Scene → List Started) :
    forRange limit slot stop step body (rounds.length + left) start s = .ok false t ∧
    rangeStarts slot stop step body starts (rounds.length + left) start s =
      rounds.flatMap fun r => starts r.2 := by
  have out := inRange_behind fits
  rw [before.forRange_eq, before.rangeStarts_eq, forRange_of_out out, rangeStarts_of_out out]
  exact ⟨rfl, List.append_nil _⟩

section

variable (before : Rounds slot stop step body start s rounds
  (counter start step (size start.toInt stop.toInt step.toInt)) t)
  (overflows : ¬ Fits start.toInt stop.toInt step.toInt)

include before overflows

/-- **Behind a range whose end does not fit, the loop goes on.** -/
theorem goes_on (starts : Scene → List Started) :
    rounds.flatMap (fun r => starts r.2) ++ starts t <+:
      rangeStarts slot stop step body starts (rounds.length + (left + 1)) start s := by
  rw [before.rangeStarts_eq, rangeStarts, if_pos (inRange_wrapped overflows)]
  exact (List.prefix_append_right_inj _).mpr (List.prefix_append _ _)

/-- If it may not, it faults. -/
theorem faults : forRange limit slot stop step body (rounds.length + 0) start s =
    .error (.loopLimit limit) t := by
  rw [before.forRange_eq, forRange, if_pos (inRange_wrapped overflows)]
  rfl

end

end Rounds

/-- The counters of as many rounds as there are numbers in the range are these numbers. -/
theorem map_toInt_counter {numbers : List Int32} (counted : numbers =
      (List.range (size start.toInt stop.toInt step.toInt)).map (counter start step)) :
    numbers.map Int32.toInt = terms start.toInt stop.toInt step.toInt := by
  rw [counted, List.map_map, terms]
  exact List.map_congr_left fun k member => toInt_counter (List.mem_range.mp member)

/-- **A body that suits the loop is started with the numbers of the range**, in order. -/
theorem exists_rounds (suits : Suits slot stop step body start s) (shows : Shows slot start s) :
    ∀ k ≤ size start.toInt stop.toInt step.toInt, ∃ rounds t,
      Rounds slot stop step body start s rounds (counter start step k) t ∧
      rounds.map (·.1) = (List.range k).map (counter start step) ∧
      (∀ r ∈ rounds, Shows slot r.1 r.2) ∧
      if inRange stop step (counter start step k) = true then Shows slot (counter start step k) t
      else ∀ r ∈ rounds.getLast?, Shows slot r.1 t := by
  intro k enough
  -- on the number of rounds: the slot shows the counter for as long as that is in range
  induction k with
  | zero =>
    refine ⟨[], s, ?_, rfl, nofun, ?_⟩
    · rw [counter_zero]
      exact .nil
    · rw [counter_zero]
      split
      · exact shows
      · exact nofun
  | succ k ih =>
    obtain ⟨rounds, t, before, numbers, shown, now⟩ := ih (by omega)
    have within : inRange stop step (counter start step k) = true := inRange_counter enough
    rw [if_pos within] at now
    obtain ⟨u, completed, same⟩ := suits rounds _ t before within
    have kept : Shows slot (counter start step k) u := fun x i => (same x i).trans (now x i)
    obtain ⟨v, moved, next⟩ := advance_of_shows stop step kept
    rw [← counter_succ] at moved next
    refine ⟨_, v, before.concat within completed moved, ?_, ?_, ?_⟩
    · rw [List.map_append, numbers, List.range_succ, List.map_append]
      rfl
    · intro r member
      rcases List.mem_append.mp member with early | last
      · exact shown r early
      · obtain rfl := List.mem_singleton.mp last
        exact now
    · split at next
      case isTrue more => rwa [if_pos more]
      case isFalse ended =>
        -- the slot was not written any more
        rw [if_neg ended, next, List.getLast?_concat]
        rintro _ ⟨rfl⟩
        exact kept

end Rounds

end Loop

/-! ## Blocks -/

/-- The slot of a loop shows the first number once the bounds are known. -/
theorem Block.shows_of_bounds {loop : ForLoop} {id : EntityId} {s t : Scene}
    {start stop step : Int32} {limit : Nat}
    (bounds : Block.bounds loop id s = .ok (start, stop, step, limit) t) :
    Loop.Shows loop.slot start t := by
  intro x slot
  obtain ⟨first, u, -, bounds⟩ := exists_of_bind bounds
  rw [Option.mem_def] at slot
  simp only [slot] at bounds
  -- the slot is written before the other two bounds are evaluated, which leave it alone
  obtain ⟨_, v, written, bounds⟩ := exists_of_bind bounds
  obtain ⟨_, w, second, bounds⟩ := exists_of_bind bounds
  obtain ⟨_, y, third, bounds⟩ := exists_of_bind bounds
  obtain ⟨values, rfl⟩ := EStateM.Result.ok.inj bounds
  have kept (code : Expression) : (Footprint.fixing fun s : Scene => s.machine.windows).Keeps
      (Act.evaluate code id) := Footprint.keeps_evaluate (fun _ _ => rfl) code id
  have same : y.machine.windows = v.machine.windows :=
    ((kept _).ok third).trans ((kept _).ok second)
  have shown : v.machine.windows.get x.toNat = .ok (.ofInt32 first.toInt32) := by
    have ends : Ends (Act.onWindows fun w => w.set x.toNat (.ofInt32 first.toInt32)) u
        (fun _ v => v.machine.windows.get x.toNat = .ok (.ofInt32 first.toInt32))
        fun _ _ => True := ends_onWindows (fun _ set => Windows.get_set set) fun _ _ => trivial
    exact ends.ok written
  rw [same, shown, (Prod.mk.inj values).1]

/-- A block that loops over a range, once it may run and its bounds are known. -/
theorem Block.run_of_bounds {id : EntityId} {b : Block} {loop : ForLoop}
    (loops : b.loop = .forRange loop) {s s' t : Scene} {start stop step : Int32} {limit : Nat}
    (opened : Block.opens b.pause b.persistence id s = .ok true s')
    (bounds : Block.bounds loop id s' = .ok (start, stop, step, limit) t) :
    b.run id s = Block.thenReload b.persistence (Loop.forRange limit loop.slot stop step
      (Controller.runBody id b.ignoresPause true b.body) limit start) t ∧
    b.starts id 0 s = Loop.rangeStarts loop.slot stop step
      (Controller.runBody id b.ignoresPause true b.body)
      (Controller.allStart id 1 b.ignoresPause b.body) limit start t := by
  obtain ⟨guard, items, otherwise, pause, persistence, ignoresPause, kind⟩ := b
  obtain rfl : kind = .forRange loop := loops
  constructor
  · rw [Block.run_activate, bind_of_ok opened, if_pos rfl, Controller.runBody_ended]
    show Block.thenReload persistence (Block.bounds loop id >>= _) s' = _
    unfold Block.thenReload
    rw [bind_assoc]
    exact bind_of_ok bounds
  · rw [Block.starts, Act.thenStarts_of_ok opened, if_pos rfl, Controller.runBody_ended]
    exact Act.thenStarts_of_ok bounds

/-- A reload never faults, and concerns counters only. -/
theorem Block.exists_of_reload (persistence : Option Persistence) (s : Scene) :
    ∃ memory, Block.reload persistence s = .ok () { s with memory := memory } := by
  cases persistence with
  | none => exact ⟨s.memory, rfl⟩
  | some p => exact ⟨_, rfl⟩

/-- **A loop visits its range.**  If it may start its body as often as there are numbers in the
    range, and the body suits it, then the body is started with these numbers in order, and the slot
    of the loop shows them.

    If the number behind the range fits, this is all.  The loop ends, and the slot keeps the last
    number.  If it does not fit, the loop starts its body again, or faults if it may not. -/
theorem Block.visits_range (id : EntityId) {b : Block} {loop : ForLoop}
    (loops : b.loop = .forRange loop) {s s' t : Scene} {start stop step : Int32} {limit : Nat}
    (opened : Block.opens b.pause b.persistence id s = .ok true s')
    (bounds : Block.bounds loop id s' = .ok (start, stop, step, limit) t)
    (enough : Loop.size start.toInt stop.toInt step.toInt ≤ limit)
    (suits : Loop.Suits loop.slot stop step (Controller.runBody id b.ignoresPause true b.body)
      start t) :
    let starts := Controller.allStart id 1 b.ignoresPause b.body
    ∃ rounds j u, Loop.Rounds loop.slot stop step
        (Controller.runBody id b.ignoresPause true b.body) start t rounds j u ∧
      rounds.map (·.1.toInt) = Loop.terms start.toInt stop.toInt step.toInt ∧
      (∀ r ∈ rounds, Loop.Shows loop.slot r.1 r.2) ∧
      (Loop.Fits start.toInt stop.toInt step.toInt →
        b.starts id 0 s = rounds.flatMap (fun r => starts r.2) ∧
        ∃ memory, b.run id s = .ok false { u with memory := memory } ∧
          ∀ r ∈ rounds.getLast?, Loop.Shows loop.slot r.1 u) ∧
      (¬ Loop.Fits start.toInt stop.toInt step.toInt →
        if limit = rounds.length then b.run id s = .error (.loopLimit limit) u
        else rounds.flatMap (fun r => starts r.2) ++ starts u <+: b.starts id 0 s) := by
  intro starts
  obtain ⟨ran, started⟩ := Block.run_of_bounds loops opened bounds
  obtain ⟨rounds, u, before, numbers, shown, now⟩ :=
    Loop.exists_rounds suits (Block.shows_of_bounds bounds) _ le_rfl
  have terms : rounds.map (·.1.toInt) = Loop.terms start.toInt stop.toInt step.toInt := by
    rw [← Loop.map_toInt_counter numbers, List.map_map]
    rfl
  have length : rounds.length = Loop.size start.toInt stop.toInt step.toInt := by
    simpa using congrArg List.length numbers
  rw [← length] at enough
  obtain ⟨left, rfl⟩ := Nat.exists_eq_add_of_le enough
  rw [ran, started]
  refine ⟨rounds, _, u, before, terms, shown, fun fits => ?_, fun overflows => ?_⟩
  · obtain ⟨ended, all⟩ := before.ends fits starts
    obtain ⟨memory, reloaded⟩ := Block.exists_of_reload b.persistence u
    have out := Loop.inRange_behind fits
    rw [if_neg (by rw [out]; nofun)] at now
    exact ⟨all, memory, (bind_of_ok ended).trans (bind_of_ok reloaded), now⟩
  · cases left with
    | zero =>
      rw [if_pos (Nat.add_zero _)]
      exact bind_of_error (before.faults overflows)
    | succ left =>
      rw [if_neg (by omega)]
      exact before.goes_on overflows starts

/-- A loop over a range whose body proceeds to the next number at once. -/
def Block.counting (start stop step : Int32) : Block :=
  ⟨none, [.signal .proceed], none, .skip, none, true,
    .forRange ⟨Expression.int start, some 0, Expression.int stop, Expression.int step⟩⟩

theorem Block.suits_counting (slot : Option UInt8) (start stop step : Int32) (s : Scene) :
    Loop.Suits slot stop step (Controller.runBody 0 true true [.signal .proceed]) start s := by
  intro rounds i t _ _
  refine ⟨{ t with machine := { t.machine with signal := none } }, ?_, fun _ _ => rfl⟩
  rw [Controller.runBody, Controller.run]
  rfl

/-- A range of two numbers right below the largest one. -/
theorem Block.visits_range_top :
    let b := Block.counting 2147483645 2147483647 1
    ∃ (rounds : List (Int32 × Scene)) (u : Scene) (memory : BlockMemory),
      rounds.map (·.1.toInt) = [2147483645, 2147483646] ∧
      b.starts 0 0 Scene.windowed =
        rounds.flatMap (fun r => Controller.allStart 0 1 true b.body r.2) ∧
      b.run 0 Scene.windowed = .ok false { u with memory := memory } ∧
      ∀ r ∈ rounds.getLast?, Loop.Shows (some 0) r.1 u := by
  intro b
  have opened : Block.opens b.pause b.persistence 0 Scene.windowed = .ok true Scene.windowed := rfl
  obtain ⟨t, bounds⟩ : ∃ t, Block.bounds
      ⟨Expression.int 2147483645, some 0, Expression.int 2147483647, Expression.int 1⟩ 0
      Scene.windowed = .ok (2147483645, 2147483647, 1, 10) t := ⟨_, rfl⟩
  obtain ⟨rounds, _, u, -, numbers, -, ends, -⟩ := Block.visits_range 0 (b := b) rfl opened bounds
    (by decide +kernel) (Block.suits_counting _ _ _ _ _)
  obtain ⟨started, memory, ran, last⟩ := ends (by decide +kernel)
  exact ⟨rounds, u, memory, numbers.trans (by decide +kernel), started, ran, last⟩

/-- **A range of one number, visited too often.**  The number behind it does not fit, and the loop
    goes on with the smallest number until it may not start its body again. -/
theorem Block.visits_range_overrun :
    Loop.terms 2147483646 2147483647 2 = [2147483646] ∧
    (∃ t, Block.bounds
        ⟨Expression.int 2147483646, some 0, Expression.int 2147483647, Expression.int 2⟩ 0
        Scene.windowed = .ok (2147483646, 2147483647, 2, 10) t ∧
      Loop.Suits (some 0) 2147483647 2 (Controller.runBody 0 true true [.signal .proceed])
        2147483646 t) ∧
    Ends ((Block.counting 2147483646 2147483647 2).run 0) Scene.windowed (fun _ _ => False)
      fun e _ => e = .loopLimit 10 := by
  refine ⟨by decide, ⟨_, rfl, Block.suits_counting _ _ _ _ _⟩, ?_⟩
  decide +kernel

end TickScript
