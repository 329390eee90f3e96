import TickScript.Proofs.Program.Deeds
import TickScript.Proofs.Program.Ranges
import TickScript.Proofs.Program.Signals

/-! # How often loops start their bodies

    A loop that goes on while its guard holds and a loop over a range are both a cycle: a test, a
    body, and a move to the next number, which only ranges have a use for.  Without a limit, a
    cycle takes its course, if it ever ends.  `Cycle.Course` is one that does, with a test that
    fails, a body that leaves or unwinds, or a fault of one of its parts.

    A cycle with a limit ends in any case.  It takes the same course, up to the point where the
    test asks for one start more than the limit (`Cycle.Asks`), and there it has a fault of its own.
    With a limit of two:

        test that holds     once    twice     three times
        starts              1       2         2
        end                 ok      ok        limit exceeded

    Nothing that is run changes the limit, so loops inside of loops have the same one, and each of
    their runs starts to count from zero (`Block.loops_respect_limit`).
-/

namespace TickScript

namespace Loop

/-- **Cycle**, which is all that loops have in common. -/
structure Cycle where
  test : Int32 → Act Bool
  body : Act Flow
  /-- To the next number, after a body that was completed. -/
  move : Int32 → Act Int32

/-- Goes on while a test holds.  Nothing reads the number. -/
def Cycle.whileHolds (test : Act Bool) (body : Act Flow) : Cycle := ⟨fun _ => test, body, pure⟩

/-- Goes on while a counter is in range. -/
def Cycle.forRange (slot : Option UInt8) (stop step : Int32) (body : Act Flow) : Cycle :=
  ⟨fun i => pure (inRange stop step i), body, advance slot stop step⟩

/-- **How a cycle with a limit ends.** -/
inductive Outcome where
  /-- As its last round did. -/
  | ran (result : EStateM.Result Fault Scene Bool)
  /-- Its test holds, but it may not start its body again. -/
  | overran (s : Scene)

/-- An overrun is a fault. -/
def Outcome.result (limit : Nat) : Outcome → EStateM.Result Fault Scene Bool
  | .ran result => result
  | .overran s => .error (.loopLimit limit) s

/-- **What one round comes to.** -/
inductive Cycle.Round where
  /-- The test ended the loop. -/
  | ended (result : EStateM.Result Fault Scene Bool)
  /-- The body was started in a scene and ended the loop. -/
  | last (start : Scene) (result : EStateM.Result Fault Scene Bool)
  /-- The body was started in a scene, and the loop goes on with a number in another one. -/
  | next (start : Scene) (i : Int32) (s : Scene)

namespace Cycle

/-- A round whose body was started in a scene. -/
def started (c : Cycle) (i : Int32) (start : Scene) : Round :=
  match c.body start with
  | .error f u => .last start (.error f u)
  | .ok .left u => .last start (.ok false u)
  | .ok .unwind u => .last start (.ok true u)
  | .ok .completed u =>
    match c.move i u with
    | .error f v => .last start (.error f v)
    | .ok j v => .next start j v

/-- **One round.** -/
def round (c : Cycle) (i : Int32) (s : Scene) : Round :=
  match c.test i s with
  | .error f t => .ended (.error f t)
  | .ok false t => .ended (.ok false t)
  | .ok true t => c.started i t

/-- **A course that a cycle takes to its end** if it has no limit: the scenes in which it starts
    its body, and how it ends. -/
inductive Course (c : Cycle) : Int32 → Scene → List Scene → EStateM.Result Fault Scene Bool → Prop
  | ended {i : Int32} {s : Scene} {result : EStateM.Result Fault Scene Bool}
      (round : c.round i s = .ended result) : Course c i s [] result
  | last {i : Int32} {s start : Scene} {result : EStateM.Result Fault Scene Bool}
      (round : c.round i s = .last start result) : Course c i s [start] result
  | next {i j : Int32} {s start t : Scene} {starts : List Scene}
      {result : EStateM.Result Fault Scene Bool} (round : c.round i s = .next start j t)
      (rest : Course c j t starts result) : Course c i s (start :: starts) result

/-- **The test asks for one more start** after so many, in a scene. -/
inductive Asks (c : Cycle) : Nat → Int32 → Scene → Scene → Prop
  | now {i : Int32} {s t : Scene} (holds : c.test i s = .ok true t) : Asks c 0 i s t
  | next {n : Nat} {i j : Int32} {s start t u : Scene} (round : c.round i s = .next start j t)
      (later : Asks c n j t u) : Asks c (n + 1) i s u

/-- **The cycle with a limit**: the scenes in which it starts its body, and how it ends. -/
def limited (c : Cycle) : (left : Nat) → Int32 → Scene → List Scene × Outcome
  | 0, i, s =>
    match c.test i s with
    | .error f t => ([], .ran (.error f t))
    | .ok false t => ([], .ran (.ok false t))
    | .ok true t => ([], .overran t)
  | left + 1, i, s =>
    match c.round i s with
    | .ended result => ([], .ran result)
    | .last start result => ([start], .ran result)
    | .next start j t => ((start :: (c.limited left j t).1), (c.limited left j t).2)

variable {c : Cycle} {left n : Nat} {i : Int32} {s t : Scene} {starts : List Scene}
  {result : EStateM.Result Fault Scene Bool}

/-! ## Rounds -/

/-- A test that holds lets the body start. -/
theorem round_of_holds (holds : c.test i s = .ok true t) : c.round i s = c.started i t := by
  rw [round, holds]

/-- A body that was started does not end the loop as if it had not been. -/
theorem started_ne_ended : c.started i t ≠ .ended result := by
  unfold started
  split
  · nofun
  · nofun
  · nofun
  · split
    · nofun
    · nofun

/-- **A test ends the loop, or asks for a start.** -/
theorem holds_or_ended (c : Cycle) (i : Int32) (s : Scene) :
    (∃ t, c.test i s = .ok true t) ∨ ∃ result, c.round i s = .ended result := by
  cases tested : c.test i s with
  | error f t => exact .inr ⟨.error f t, by rw [round, tested]⟩
  | ok holds t =>
    cases holds with
    | false => exact .inr ⟨.ok false t, by rw [round, tested]⟩
    | true => exact .inl ⟨t, rfl⟩

theorem limited_zero_of_holds (holds : c.test i s = .ok true t) :
    c.limited 0 i s = ([], .overran t) := by
  rw [limited, holds]

theorem limited_of_ended (round : c.round i s = .ended result) (left : Nat) :
    c.limited left i s = ([], .ran result) := by
  cases left with
  | succ left => rw [limited, round]
  | zero =>
    unfold Cycle.round at round
    rw [limited]
    split at round
    · rw [← Cycle.Round.ended.inj round]
    · rw [← Cycle.Round.ended.inj round]
    · exact absurd round started_ne_ended

theorem limited_of_next {start : Scene} {j : Int32} (round : c.round i s = .next start j t) :
    c.limited (left + 1) i s = (start :: (c.limited left j t).1, (c.limited left j t).2) := by
  rw [limited, round]

/-! ## Limits -/

/-- **At most as many starts as the limit says.** -/
theorem length_limited_le (c : Cycle) (left : Nat) (i : Int32) (s : Scene) :
    (c.limited left i s).1.length ≤ left := by
  induction left generalizing i s with
  | zero =>
    rcases c.holds_or_ended i s with ⟨t, holds⟩ | ⟨result, round⟩
    · rw [limited_zero_of_holds holds]
      exact Nat.le_refl 0
    · rw [limited_of_ended round]
      exact Nat.le_refl 0
  | succ left ih =>
    cases round : c.round i s with
    | ended result =>
      rw [limited_of_ended round]
      exact Nat.zero_le _
    | last start result =>
      rw [limited, round]
      exact Nat.succ_le_succ (Nat.zero_le left)
    | next start j t =>
      rw [limited_of_next round]
      exact Nat.succ_le_succ (ih j t)

/-- **A cycle overruns its limit** if its test asks for one start more. -/
theorem limited_overran_iff :
    (c.limited left i s).2 = .overran t ↔ c.Asks left i s t := by
  induction left generalizing i s with
  | zero =>
    constructor
    · intro overran
      rcases c.holds_or_ended i s with ⟨u, holds⟩ | ⟨result, round⟩
      · rw [limited_zero_of_holds holds] at overran
        obtain rfl := Outcome.overran.inj overran
        exact .now holds
      · rw [limited_of_ended round] at overran
        cases overran
    · rintro ⟨holds⟩
      rw [limited_zero_of_holds holds]
  | succ left ih =>
    constructor
    · intro overran
      rw [limited] at overran
      split at overran
      · cases overran
      · cases overran
      · rename_i round
        exact .next round (ih.mp overran)
    · intro asks
      obtain _ | ⟨round, later⟩ := asks
      rw [limited_of_next round]
      exact ih.mpr later

/-- A cycle that overruns its limit has made use of all of it. -/
theorem length_of_asks (asks : c.Asks left i s t) : (c.limited left i s).1.length = left := by
  induction asks with
  | now holds => rw [limited_zero_of_holds holds, List.length_nil]
  | next round later ih => rw [limited_of_next round, List.length_cons, ih]

/-- **A cycle that does not overrun its limit takes its course.** -/
theorem course_of_limited (ran : (c.limited left i s).2 = .ran result) :
    c.Course i s (c.limited left i s).1 result := by
  induction left generalizing i s with
  | zero =>
    rcases c.holds_or_ended i s with ⟨t, holds⟩ | ⟨result', round⟩
    · rw [limited_zero_of_holds holds] at ran
      cases ran
    · rw [limited_of_ended round] at ran ⊢
      obtain rfl := Outcome.ran.inj ran
      exact .ended round
  | succ left ih =>
    rw [limited] at ran ⊢
    cases round : c.round i s with
    | ended result' =>
      rw [round] at ran
      obtain rfl := Outcome.ran.inj ran
      exact .ended round
    | last start result' =>
      rw [round] at ran
      obtain rfl := Outcome.ran.inj ran
      exact .last round
    | next start j t =>
      rw [round] at ran
      exact .next round (ih ran)

/-- **A course within the limit is taken.** -/
theorem limited_of_course (course : c.Course i s starts result) (few : starts.length ≤ left) :
    c.limited left i s = (starts, .ran result) := by
  induction course generalizing left with
  | ended round => exact limited_of_ended round left
  | last round =>
    obtain ⟨left, rfl⟩ : ∃ n, left = n + 1 := Nat.exists_eq_succ_of_ne_zero (Nat.ne_of_gt few)
    rw [limited, round]
  | next round rest ih =>
    obtain ⟨left, rfl⟩ : ∃ n, left = n + 1 :=
      Nat.exists_eq_succ_of_ne_zero (Nat.ne_of_gt (Nat.zero_lt_of_lt few))
    rw [limited_of_next round, ih (Nat.le_of_succ_le_succ few)]

/-- A cycle that ends without a fault was tested, and it has started its body if the test held. -/
theorem test_of_result {limit : Nat} {stops : Bool}
    (ran : (c.limited left i s).2.result limit = .ok stops t) :
    ∃ holds u, c.test i s = .ok holds u ∧ ((c.limited left i s).1 ≠ [] ↔ holds = true) := by
  rcases c.holds_or_ended i s with ⟨u, holds⟩ | ⟨result, round⟩
  · refine ⟨true, u, holds, fun _ => rfl, fun _ => ?_⟩
    cases left with
    | zero =>
      rw [limited_zero_of_holds holds] at ran
      cases ran
    | succ left =>
      rw [limited, round_of_holds holds]
      split
      · exact absurd ‹_› started_ne_ended
      · nofun
      · nofun
  · rw [limited_of_ended round] at ran ⊢
    obtain rfl : result = .ok stops t := ran
    unfold Cycle.round at round
    split at round
    · cases round
    · rename_i u fails
      exact ⟨false, u, fails, fun some => absurd rfl some, nofun⟩
    · exact absurd round started_ne_ended

end Cycle

/-! ## Loops are cycles -/

namespace Cycle

variable (c : Cycle) (i : Int32) (s : Scene)

/-- **What runs like a round ends like it**, or goes on as it does. -/
theorem run_round (others : Int32 → Act Bool) :
    (do
      if ← c.test i then
        match ← c.body with
        | .completed => others (← c.move i)
        | .left => return false
        | .unwind => return true
      else return false : Act Bool) s =
    match c.round i s with
    | .ended result => result
    | .last _ result => result
    | .next _ j t => others j t := by
  unfold round
  cases tested : c.test i s with
  | error f t => exact bind_of_error tested
  | ok holds t =>
    rw [bind_of_ok tested]
    cases holds with
    | false => rfl
    | true =>
      simp only [if_true, started]
      cases ended : c.body t with
      | error f u => exact bind_of_error ended
      | ok flow u =>
        rw [bind_of_ok ended]
        cases flow with
        | left => rfl
        | unwind => rfl
        | completed =>
          simp only
          cases moved : c.move i u with
          | error f v => exact bind_of_error moved
          | ok j v => exact bind_of_ok moved

/-- The last test, after which no round may follow. -/
theorem run_last (limit : Nat) :
    (do if ← c.test i then throw (.loopLimit limit) else return false : Act Bool) s =
      (c.limited 0 i s).2.result limit := by
  rw [limited]
  cases tested : c.test i s with
  | error f t => exact bind_of_error tested
  | ok holds t =>
    rw [bind_of_ok tested]
    cases holds with
    | false => rfl
    | true => rfl

/-- What a round starts, and those that follow. -/
theorem starts_round (starts : Scene → List Started) (others : Int32 → Scene → List Started) :
    (c.test i).thenStarts (fun holds =>
      if holds then roundStarts c.body starts ((c.move i).thenStarts others)
      else Started.nothing) s =
    match c.round i s with
    | .ended _ => []
    | .last start _ => starts start
    | .next start j t => starts start ++ others j t := by
  unfold round Act.thenStarts
  cases tested : c.test i s with
  | error f t => rfl
  | ok holds t =>
    cases holds with
    | false => rfl
    | true =>
      simp only [if_true, started, roundStarts, Act.thenStarts]
      cases ended : c.body t with
      | error f u => exact List.append_nil _
      | ok flow u =>
        cases flow with
        | left => exact List.append_nil _
        | unwind => exact List.append_nil _
        | completed =>
          simp only [if_true]
          cases moved : c.move i u with
          | error f v => exact List.append_nil _
          | ok j v => rfl

/-- What the rounds of a cycle start, from the first one and those that follow. -/
theorem flatMap_limited_succ (left : Nat) (starts : Scene → List Started) :
    (c.limited (left + 1) i s).1.flatMap starts =
      match c.round i s with
      | .ended _ => []
      | .last start _ => starts start
      | .next start j t => starts start ++ (c.limited left j t).1.flatMap starts := by
  rw [limited]
  split
  · rfl
  · exact List.flatMap_singleton _ _
  · exact List.flatMap_cons

theorem flatMap_limited_zero (starts : Scene → List Started) :
    (c.limited 0 i s).1.flatMap starts = [] := by
  rw [List.eq_nil_of_length_eq_zero (Nat.le_zero.mp (c.length_limited_le 0 i s)), List.flatMap_nil]

theorem result_limited_succ (limit left : Nat) :
    (c.limited (left + 1) i s).2.result limit =
      match c.round i s with
      | .ended result => result
      | .last _ result => result
      | .next _ j t => (c.limited left j t).2.result limit := by
  rw [limited]
  split <;> rfl

end Cycle

section

variable {limit left : Nat} {body : Act Flow} {i : Int32} {s : Scene}

/-- **A while loop runs as its cycle.** -/
theorem whileHolds_eq (test : Act Bool) :
    whileHolds limit test body left s =
      ((Cycle.whileHolds test body).limited left i s).2.result limit := by
  induction left generalizing i s with
  | zero =>
    rw [← Cycle.run_last]
    rfl
  | succ left ih =>
    rw [Cycle.result_limited_succ]
    refine ((Cycle.whileHolds test body).run_round i s
      fun _ => whileHolds limit test body left).trans ?_
    split
    · rfl
    · rfl
    · exact ih

theorem whileStarts_eq (test : Act Bool) (starts : Scene → List Started) :
    whileStarts test body starts left s =
      ((Cycle.whileHolds test body).limited left i s).1.flatMap starts := by
  induction left generalizing i s with
  | zero => exact (Cycle.flatMap_limited_zero _ i s starts).symm
  | succ left ih =>
    rw [Cycle.flatMap_limited_succ]
    refine ((Cycle.whileHolds test body).starts_round i s starts
      fun _ => whileStarts test body starts left).trans ?_
    split
    · rfl
    · rfl
    · exact congrArg _ ih

/-- **A loop over a range runs as its cycle.** -/
theorem forRange_eq (slot : Option UInt8) (stop step : Int32) :
    forRange limit slot stop step body left i s =
      ((Cycle.forRange slot stop step body).limited left i s).2.result limit := by
  induction left generalizing i s with
  | zero =>
    rw [← Cycle.run_last]
    rfl
  | succ left ih =>
    rw [Cycle.result_limited_succ]
    refine ((Cycle.forRange slot stop step body).run_round i s
      (forRange limit slot stop step body left)).trans ?_
    split
    · rfl
    · rfl
    · exact ih

theorem rangeStarts_eq (slot : Option UInt8) (stop step : Int32)
    (starts : Scene → List Started) :
    rangeStarts slot stop step body starts left i s =
      ((Cycle.forRange slot stop step body).limited left i s).1.flatMap starts := by
  induction left generalizing i s with
  | zero => exact (Cycle.flatMap_limited_zero _ i s starts).symm
  | succ left ih =>
    rw [Cycle.flatMap_limited_succ, rangeStarts]
    refine ((Cycle.forRange slot stop step body).starts_round i s starts
      (rangeStarts slot stop step body starts left)).trans ?_
    split
    · rfl
    · rfl
    · exact congrArg _ ih

end

end Loop

/-! ## What keeps the limit -/

namespace Footprint

/-- **A list of starts within a footprint**: what is started is started in scenes that are allowed. -/
def Within (F : Footprint Scene) (starts : Scene → List Started) : Prop :=
  ∀ s, ∀ x ∈ starts s, F.allows s x.scene

namespace Within

variable {F : Footprint Scene} {α : Type} {starts others : Scene → List Started}

theorem nothing : F.Within Started.nothing := fun _ _ member => (List.not_mem_nil member).elim

theorem ite {c : Prop} [Decidable c] (first : F.Within starts) (second : F.Within others) :
    F.Within (if c then starts else others) := by
  split
  · exact first
  · exact second

/-- An action before the starts. -/
theorem after {x : Act α} (kept : F.Keeps x) {g : α → Scene → List Started}
    (h : ∀ a, F.Within (g a)) : F.Within (x.thenStarts g) := by
  intro s y member
  obtain ⟨a, t, ran, member⟩ := Act.mem_thenStarts member
  exact F.trans (kept.ok ran) (h a t y member)

theorem append (first : F.Within starts) (second : F.Within others) :
    F.Within fun s => starts s ++ others s := by
  intro s x member
  rcases List.mem_append.mp member with member | member
  · exact first s x member
  · exact second s x member

/-- A controller is started where it stands, before all that it starts. -/
theorem cons {depth : Nat} {c : Controller} (inner : F.Within starts) :
    F.Within fun s => ⟨depth, c, s⟩ :: starts s := by
  intro s x member
  rcases List.mem_cons.mp member with rfl | member
  · exact F.refl s
  · exact inner s x member

theorem alone {id : EntityId} {depth : Nat} {c : Controller} (block : ∀ b, c ≠ .block b)
    (call : ∀ f args rets, c ≠ .call f args rets) : F.Within (c.starts id depth) := by
  rw [Controller.starts_alone block call]
  exact cons nothing

/-! ### Loops -/

section

variable {body : Act Flow}

theorem roundStarts (kept : F.Keeps body) (inner : F.Within starts) (next : F.Within others) :
    F.Within (Loop.roundStarts body starts others) :=
  inner.append (after kept fun _ => .ite next nothing)

theorem whileStarts {test : Act Bool} (tested : F.Keeps test) (kept : F.Keeps body)
    (inner : F.Within starts) (left : Nat) : F.Within (Loop.whileStarts test body starts left) := by
  induction left with
  | zero => exact nothing
  | succ left ih => exact after tested fun _ => .ite (roundStarts kept inner ih) nothing

theorem rangeStarts (assign : ∀ slot v, F.Keeps (Act.onWindows fun w => w.set slot v))
    (kept : F.Keeps body) (inner : F.Within starts) (slot : Option UInt8) (stop step : Int32)
    (left : Nat) (i : Int32) : F.Within (Loop.rangeStarts slot stop step body starts left i) := by
  induction left generalizing i with
  | zero => exact nothing
  | succ left ih =>
    rw [Loop.rangeStarts]
    exact .ite (roundStarts kept inner (after (keeps_advance assign slot stop step i) ih)) nothing

end

end Within

section

variable {F : Footprint Scene} (h : F.Free) (id : EntityId)

include h

theorem Free.ended (ignoresPause : Bool) (items : List Controller) :
    F.Keeps (Block.ended true (Controller.runAll id ignoresPause items)) := by
  rw [← Controller.runBody_ended]
  exact h.allowsPrograms.body id ignoresPause true items

theorem Free.bounds (loop : ForLoop) : F.Keeps (Block.bounds loop id) :=
  h.allowsEffects.bounds id (fun _ _ => h.onWindows _) loop

end

end Footprint

mutual

/-- **What a controller starts is started within every free footprint.** -/
theorem Controller.starts_within {F : Footprint Scene} (h : F.Free) (id : EntityId) (depth : Nat) :
    (c : Controller) → F.Within (c.starts id depth)
  | .block b => by
    rw [Controller.starts]
    exact .cons (b.starts_within h id depth)
  | .call f args rets => by
    rw [Controller.starts]
    exact .cons (.after (h.allowsPrograms.pushArguments id args) fun _ =>
      f.starts_within h id (depth + 1) rets)
  | .evaluate code => .alone (c := .evaluate code) nofun nofun
  | .assign slot code => .alone (c := .assign slot code) nofun nofun
  | .signal raised => .alone (c := .signal raised) nofun nofun
  | .nothing => .alone (c := .nothing) nofun nofun
  | .effect kind args => .alone (c := .effect kind args) nofun nofun

theorem Block.starts_within {F : Footprint Scene} (h : F.Free) (id : EntityId) (depth : Nat) :
    (b : Block) → F.Within (b.starts id depth)
  | ⟨guard, items, otherwise, pause, persistence, ignoresPause, loop⟩ => by
    have opens := h.allowsEffects.opens id pause persistence
    have tested := h.allowsEffects.guardHolds id guard
    have body := h.ended id ignoresPause items
    cases loop with
    | once =>
      rw [Block.starts]
      refine .after opens fun opened => .ite (.after tested fun holds => ?_) .nothing
      exact .ite (Controller.starts_within_all h id depth ignoresPause items)
        (Block.starts_within_otherwise h id depth otherwise)
    | whileGuard =>
      have inner := Controller.starts_within_all h id (depth + 1) ignoresPause items
      rw [Block.starts]
      refine .after opens fun opened => .ite (.after Footprint.keeps_machine fun m => ?_) .nothing
      exact .whileStarts tested body inner m.loopLimit
    | forRange range =>
      have inner := Controller.starts_within_all h id (depth + 1) ignoresPause items
      rw [Block.starts]
      refine .after opens fun opened => .ite (.after (h.bounds id range) fun bounds => ?_) .nothing
      exact .rangeStarts (fun _ _ => h.onWindows _) body inner range.slot _ _ _ _

theorem Block.starts_within_otherwise {F : Footprint Scene} (h : F.Free) (id : EntityId)
    (depth : Nat) : (b : Option Block) → F.Within (Block.otherwiseStarts id depth b)
  | none => by
    rw [Block.otherwiseStarts]
    exact .nothing
  | some b => by
    rw [Block.otherwiseStarts]
    exact b.starts_within h id depth

theorem Controller.starts_within_all {F : Footprint Scene} (h : F.Free) (id : EntityId)
    (depth : Nat) (ignoresPause : Bool) :
    (items : List Controller) → F.Within (Controller.allStart id depth ignoresPause items)
  | [] => by
    rw [Controller.allStart]
    exact .nothing
  | c :: rest => by
    have others := Controller.starts_within_all h id depth ignoresPause rest
    rw [Controller.allStart]
    refine .after (Footprint.keeps_isHeld id ignoresPause c) fun held => .ite others ?_
    exact (c.starts_within h id depth).append
      (.after (h.allowsPrograms.controller id c) fun stops => .ite .nothing others)

theorem Function.starts_within {F : Footprint Scene} (h : F.Free) (id : EntityId) (depth : Nat)
    (rets : List UInt8) : (f : Function) → F.Within (f.starts id depth rets)
  | ⟨name, argCount, retCount, localCount, persistenceSlots, toggleSlots, body⟩ => by
    have inner := Controller.starts_within_all h id depth false body
    have takes : F.Keeps (Function.takeArguments argCount) :=
      Footprint.AllowsOperands.takeArguments (fun _ _ => h.aside rfl rfl)
        (fun _ _ => h.onWindows _) argCount
    rw [Function.starts]
    refine .after (Footprint.keeps_checkCounts _ rets) fun _ => ?_
    intro s x member
    obtain ⟨_, t, taken, member⟩ := Act.mem_thenStarts member
    -- a window is open before the arguments are taken, and a memory after that
    have opened (w : Windows) : F.allows s (s.withWindows w) := h.aside rfl rfl
    have entered (memory : BlockMemory) : F.allows t { t with memory := memory } :=
      h.aside rfl rfl
    exact F.trans (F.trans (opened _) (takes.ok taken)) (F.trans (entered _) (inner _ x member))

end

/-! ## Blocks -/

/-- Nothing that is run changes the limit. -/
def Footprint.limit : Footprint Scene := fixing fun s => s.machine.loopLimit

theorem Footprint.free_limit : limit.Free where
  aside same _ := congrArg Prod.fst same
  deed _ _ _ := rfl

namespace Block

/-- **How a block enters its loop**, as a cycle that starts with a number.  It does not if it is
    held back, or has none. -/
def enters (id : EntityId) (b : Block) : Act (Option (Loop.Cycle × Int32)) := do
  let body := Controller.runBody id b.ignoresPause true b.body
  if ← Block.opens b.pause b.persistence id then
    match b.loop with
    | .once => return none
    | .whileGuard => return some (.whileHolds (Block.guardHolds b.guard id) body, 0)
    | .forRange range =>
      let (start, stop, step, _) ← Block.bounds range id
      return some (.forRange range.slot stop step body, start)
  else return none

/-- **The scenes in which a loop starts its body**, in order. -/
def rounds (id : EntityId) (b : Block) (s : Scene) : List Scene :=
  match b.enters id s with
  | .ok (some (c, i)) t => (c.limited t.machine.loopLimit i t).1
  | _ => []

/-- **A loop overruns its limit** in a scene. -/
def Overruns (id : EntityId) (b : Block) (s t : Scene) : Prop :=
  ∃ c i u, b.enters id s = .ok (some (c, i)) u ∧
    (c.limited u.machine.loopLimit i u).2 = .overran t

variable {b : Block} {s : Scene}

theorem limit_of_bounds {loop : ForLoop} {id : EntityId} {s t : Scene} {start stop step : Int32}
    {limit : Nat} (bounds : Block.bounds loop id s = .ok (start, stop, step, limit) t) :
    limit = t.machine.loopLimit := by
  have limited : Ends (Block.bounds loop id) s (fun r t => r.2.2.2 = t.machine.loopLimit)
      fun _ _ => True := by
    have others (start : Int32) (t : Scene) : Ends (do
        let stop := (← Act.evaluate loop.stop id).toInt32
        let step := (← Act.evaluate loop.step id).toInt32
        return (start, stop, step, (← Act.machine).loopLimit)) t
        (fun r t => r.2.2.2 = t.machine.loopLimit) fun _ _ => True :=
      .last fun _ _ => .last fun _ _ => rfl
    refine .last fun first t => ?_
    dsimp only
    split
    · exact others first.toInt32 t
    · exact .last fun _ u => others first.toInt32 u
  exact limited.ok bounds

/-- A block that is held back starts nothing. -/
theorem starts_of_held {id : EntityId} {depth : Nat}
    (held : ∀ t, Block.opens b.pause b.persistence id s ≠ .ok true t) :
    b.starts id depth s = [] := by
  obtain ⟨guard, items, otherwise, pause, persistence, ignoresPause, kind⟩ := b
  rw [Block.starts.eq_def]
  simp only [Act.thenStarts]
  split
  · rename_i opens t opened
    cases opens with
    | false => rfl
    | true => exact absurd opened (held t)
  · rfl

/-- What comes of a reload depends on how the action before it ends. -/
theorem thenReload_congr {persistence : Option Persistence} {action action' : Act Bool}
    (same : action s = action' s) :
    Block.thenReload persistence action s = Block.thenReload persistence action' s := by
  simp only [thenReload, Bind.bind, EStateM.bind, same]

theorem thenReload_bind {α : Type} {persistence : Option Persistence} {x : Act α} {f : α → Act Bool}
    {a : α} {t : Scene} (first : x s = .ok a t) :
    Block.thenReload persistence (x >>= f) s = Block.thenReload persistence (f a) t := by
  unfold thenReload
  rw [bind_assoc]
  exact bind_of_ok first

/-- **What entering says of the run**: a loop that is entered runs as its cycle does, and starts its
    body where that does; a block that is not entered starts nothing. -/
def RunsEntered (id : EntityId) (b : Block) (s : Scene) :
    Option (Loop.Cycle × Int32) → Scene → Prop
  | none, t => b.run id s = .ok false t ∧ ∀ depth, b.starts id depth s = []
  | some (c, i), t =>
    b.run id s = Block.thenReload b.persistence
      (fun _ => (c.limited t.machine.loopLimit i t).2.result t.machine.loopLimit) t ∧
    ∀ depth, b.starts id depth s = (c.limited t.machine.loopLimit i t).1.flatMap
      (Controller.allStart id (depth + 1) b.ignoresPause b.body)

section

variable {id : EntityId} {t u : Scene} {guard : Option Expression} {items : List Controller}
  {otherwise : Option Block} {pause : PauseMode} {persistence : Option Persistence}
  {ignoresPause : Bool}

theorem runsEntered_while (opened : Block.opens pause persistence id s = .ok true t) :
    RunsEntered id ⟨guard, items, otherwise, pause, persistence, ignoresPause, .whileGuard⟩ s
      (some (.whileHolds (Block.guardHolds guard id)
        (Controller.runBody id ignoresPause true items), 0)) t := by
  constructor
  · rw [Block.run_activate, bind_of_ok opened, if_pos rfl]
    refine thenReload_congr ?_
    rw [← Controller.runBody_ended]
    exact Loop.whileHolds_eq _
  · intro depth
    rw [Block.starts, Act.thenStarts_of_ok opened, if_pos rfl, ← Controller.runBody_ended]
    exact Loop.whileStarts_eq _ _

theorem runsEntered_range {range : ForLoop} {start stop step : Int32} {limit : Nat}
    (opened : Block.opens pause persistence id s = .ok true t)
    (bounded : Block.bounds range id t = .ok (start, stop, step, limit) u) :
    RunsEntered id ⟨guard, items, otherwise, pause, persistence, ignoresPause, .forRange range⟩ s
      (some (.forRange range.slot stop step
        (Controller.runBody id ignoresPause true items), start)) u := by
  obtain rfl := limit_of_bounds bounded
  constructor
  · rw [Block.run_activate, bind_of_ok opened, if_pos rfl]
    refine Eq.trans (thenReload_bind bounded) (thenReload_congr ?_)
    rw [← Controller.runBody_ended]
    exact Loop.forRange_eq _ _ _
  · intro depth
    rw [Block.starts, Act.thenStarts_of_ok opened, if_pos rfl, Act.thenStarts_of_ok bounded,
      ← Controller.runBody_ended]
    exact Loop.rangeStarts_eq _ _ _ _

end

/-- **A block that loops runs as it is entered.** -/
theorem ends_enters (loops : b.loop ≠ .once) (id : EntityId) (s : Scene) :
    Ends (b.enters id) s (b.RunsEntered id s)
      fun f t => b.run id s = .error f t ∧ ∀ depth, b.starts id depth s = [] := by
  -- the three ways in which the look at pause and counter can end
  cases opened : Block.opens b.pause b.persistence id s with
  | error f t =>
    have entered : b.enters id s = .error f t := bind_of_error opened
    rw [Ends, entered, Block.run_activate]
    exact ⟨bind_of_error opened, fun _ => starts_of_held fun _ passes =>
      nomatch opened.symm.trans passes⟩
  | ok passes t =>
    cases passes with
    | false =>
      have entered : b.enters id s = .ok none t := bind_of_ok opened
      rw [Ends, entered]
      show b.run id s = .ok false t ∧ ∀ depth, b.starts id depth s = []
      rw [Block.run_activate]
      exact ⟨bind_of_ok opened, fun _ => starts_of_held fun _ passes =>
        nomatch opened.symm.trans passes⟩
    | true =>
      obtain ⟨guard, items, otherwise, pause, persistence, ignoresPause, kind⟩ := b
      cases kind with
      | once => exact absurd rfl loops
      | whileGuard =>
        have entered : enters id ⟨guard, items, otherwise, pause, persistence, ignoresPause,
          .whileGuard⟩ s = .ok (some _) t := bind_of_ok opened
        rw [Ends, entered]
        exact runsEntered_while opened
      | forRange range =>
        cases bounded : Block.bounds range id t with
        | error f u =>
          have entered : enters id ⟨guard, items, otherwise, pause, persistence, ignoresPause,
            .forRange range⟩ s = .error f u := (bind_of_ok opened).trans (bind_of_error bounded)
          rw [Ends, entered, Block.run_activate, bind_of_ok opened, if_pos rfl]
          refine ⟨bind_of_error (bind_of_error bounded), fun depth => ?_⟩
          rw [Block.starts, Act.thenStarts_of_ok opened, if_pos rfl, Act.thenStarts, bounded]
        | ok bounds u =>
          have entered : enters id ⟨guard, items, otherwise, pause, persistence, ignoresPause,
            .forRange range⟩ s = .ok (some _) u := (bind_of_ok opened).trans (bind_of_ok bounded)
          rw [Ends, entered]
          exact runsEntered_range opened bounded

theorem limit_of_enters {id : EntityId} {entered : Option (Loop.Cycle × Int32)} {t : Scene}
    (enters : b.enters id s = .ok entered t) : t.machine.loopLimit = s.machine.loopLimit := by
  have kept : Footprint.limit.Keeps (b.enters id) := by
    have effects := Footprint.free_limit.allowsEffects
    refine (effects.opens id b.pause b.persistence).bind fun opened => .ite ?_ (.pure _)
    split
    · exact .pure _
    · exact .pure _
    · exact (Footprint.free_limit.bounds id _).bind fun _ => .pure _
  exact kept.ok enters

section

variable {id : EntityId}

theorem run_of_enters {c : Loop.Cycle} {i : Int32} {u : Scene} (loops : b.loop ≠ .once)
    (entered : b.enters id s = .ok (some (c, i)) u) :
    b.run id s = Block.thenReload b.persistence
      (fun _ => (c.limited s.machine.loopLimit i u).2.result s.machine.loopLimit) u ∧
    ∀ depth, b.starts id depth s = (c.limited s.machine.loopLimit i u).1.flatMap
      (Controller.allStart id (depth + 1) b.ignoresPause b.body) := by
  rw [← limit_of_enters entered]
  exact (ends_enters loops id s).ok entered

theorem starts_of_not_enters (loops : b.loop ≠ .once)
    (held : ∀ c i u, b.enters id s ≠ .ok (some (c, i)) u) (depth : Nat) :
    b.starts id depth s = [] := by
  have spec := ends_enters loops id s
  unfold Ends at spec
  split at spec
  · rename_i entered t enters
    cases entered with
    | none => exact spec.2 depth
    | some entry => exact absurd enters (held _ _ _)
  · exact spec.2 depth

/-! ### Rounds -/

theorem rounds_of_enters {c : Loop.Cycle} {i : Int32} {u : Scene}
    (entered : b.enters id s = .ok (some (c, i)) u) :
    b.rounds id s = (c.limited s.machine.loopLimit i u).1 := by
  rw [rounds, entered, ← limit_of_enters entered]

theorem rounds_of_not_enters (held : ∀ c i u, b.enters id s ≠ .ok (some (c, i)) u) :
    b.rounds id s = [] := by
  unfold rounds
  split
  case h_1 entered => exact absurd entered (held _ _ _)
  case h_2 => rfl

/-- **A loop starts its body no more often than it may.** -/
theorem length_rounds_le (id : EntityId) (b : Block) (s : Scene) :
    (b.rounds id s).length ≤ s.machine.loopLimit := by
  by_cases entry : ∃ c i u, b.enters id s = .ok (some (c, i)) u
  · obtain ⟨c, i, u, entered⟩ := entry
    rw [rounds_of_enters entered]
    exact c.length_limited_le _ i u
  · rw [rounds_of_not_enters fun c i u entered => entry ⟨c, i, u, entered⟩]
    exact Nat.zero_le _

/-- **What a loop starts** is what its body starts in the rounds. -/
theorem starts_eq_rounds (loops : b.loop ≠ .once) (depth : Nat) :
    b.starts id depth s = (b.rounds id s).flatMap
      (Controller.allStart id (depth + 1) b.ignoresPause b.body) := by
  by_cases entry : ∃ c i u, b.enters id s = .ok (some (c, i)) u
  · obtain ⟨c, i, u, entered⟩ := entry
    rw [rounds_of_enters entered]
    exact (run_of_enters loops entered).2 depth
  · have held (c : Loop.Cycle) (i : Int32) (u : Scene) : b.enters id s ≠ .ok (some (c, i)) u :=
      fun entered => entry ⟨c, i, u, entered⟩
    rw [rounds_of_not_enters held]
    exact starts_of_not_enters loops held depth

/-- **A loop overruns its limit** exactly if its test asks for one start more. -/
theorem overruns_iff {t : Scene} :
    b.Overruns id s t ↔
      ∃ c i u, b.enters id s = .ok (some (c, i)) u ∧ c.Asks s.machine.loopLimit i u t := by
  constructor
  · rintro ⟨c, i, u, entered, overran⟩
    rw [limit_of_enters entered] at overran
    exact ⟨c, i, u, entered, Loop.Cycle.limited_overran_iff.mp overran⟩
  · rintro ⟨c, i, u, entered, asks⟩
    refine ⟨c, i, u, entered, ?_⟩
    rw [limit_of_enters entered]
    exact Loop.Cycle.limited_overran_iff.mpr asks

/-- A loop that overruns its limit fails, after as many starts as it may have. -/
theorem run_of_overruns {t : Scene} (loops : b.loop ≠ .once) (overruns : b.Overruns id s t) :
    b.run id s = .error (.loopLimit s.machine.loopLimit) t ∧
      (b.rounds id s).length = s.machine.loopLimit := by
  obtain ⟨c, i, u, entered, asks⟩ := overruns_iff.mp overruns
  obtain ⟨ran, -⟩ := run_of_enters loops entered
  rw [Loop.Cycle.limited_overran_iff.mpr asks] at ran
  refine ⟨ran, ?_⟩
  rw [rounds_of_enters entered]
  exact Loop.Cycle.length_of_asks asks

/-- A loop that does not overrun its limit takes its course. -/
theorem course_of_enters {c : Loop.Cycle} {i : Int32} {u : Scene}
    (entered : b.enters id s = .ok (some (c, i)) u) :
    (∃ t, b.Overruns id s t) ∨ ∃ result, c.Course i u (b.rounds id s) result := by
  rw [rounds_of_enters entered]
  cases ended : (c.limited s.machine.loopLimit i u).2 with
  | overran t =>
    have asks := Loop.Cycle.limited_overran_iff.mp ended
    exact Or.inl ⟨t, overruns_iff.mpr ⟨c, i, u, entered, asks⟩⟩
  | ran result => exact Or.inr ⟨result, Loop.Cycle.course_of_limited ended⟩

/-- **A course that the limit allows** is the one that is taken. -/
theorem run_of_course {c : Loop.Cycle} {i : Int32} {u : Scene} {starts : List Scene}
    {result : EStateM.Result Fault Scene Bool} (loops : b.loop ≠ .once)
    (entered : b.enters id s = .ok (some (c, i)) u) (course : c.Course i u starts result)
    (few : starts.length ≤ s.machine.loopLimit) :
    b.rounds id s = starts ∧
      b.run id s = Block.thenReload b.persistence (fun _ => result) u := by
  obtain ⟨ran, -⟩ := run_of_enters loops entered
  rw [Loop.Cycle.limited_of_course course few] at ran
  refine ⟨?_, ran⟩
  rw [rounds_of_enters entered, Loop.Cycle.limited_of_course course few]

end

/-- **Loops respect their limit.**  A loop starts its body no more often than the machine allows.
    It has a fault of its own, which ends the run, exactly if its test asks for one start more.  If
    it has none, it takes the course that it would take without a limit.  So one that needs no more
    starts than it may have runs as if there were no limit.

    The limit is the same for all that the loop starts, other loops too, and after the run.  As this
    holds for every run, each one counts for itself. -/
theorem loops_respect_limit (id : EntityId) {b : Block} (loops : b.loop ≠ .once) (s : Scene) :
    let limit := s.machine.loopLimit
    (b.rounds id s).length ≤ limit ∧
    (∀ depth, b.starts id depth s = (b.rounds id s).flatMap
      (Controller.allStart id (depth + 1) b.ignoresPause b.body)) ∧
    (∀ t, b.Overruns id s t ↔
      ∃ c i u, b.enters id s = .ok (some (c, i)) u ∧ c.Asks limit i u t) ∧
    (∀ t, b.Overruns id s t →
      b.run id s = .error (.loopLimit limit) t ∧ (b.rounds id s).length = limit) ∧
    (∀ c i u, b.enters id s = .ok (some (c, i)) u →
      ((∃ t, b.Overruns id s t) ∨ ∃ result, c.Course i u (b.rounds id s) result) ∧
      ∀ starts result, c.Course i u starts result → starts.length ≤ limit →
        b.rounds id s = starts ∧
        b.run id s = Block.thenReload b.persistence (fun _ => result) u) ∧
    (∀ depth, ∀ x ∈ b.starts id depth s, x.scene.machine.loopLimit = limit) ∧
    Ends (b.run id) s (fun _ t => t.machine.loopLimit = limit) fun _ t =>
      t.machine.loopLimit = limit := by
  intro limit
  refine ⟨length_rounds_le id b s, fun depth => starts_eq_rounds loops depth,
    fun t => overruns_iff, fun t => run_of_overruns loops, fun c i u entered => ?_, ?_, ?_⟩
  · constructor
    · exact course_of_enters entered
    · intro starts result course few
      exact run_of_course loops entered course few
  · intro depth
    exact b.starts_within Footprint.free_limit id depth s
  · exact Footprint.free_limit.allowsPrograms.block id b s

end Block

/-- A loop without end. -/
def Block.endless : Block := ⟨none, [], none, .skip, none, false, .whileGuard⟩

/-- Its test asks for any number of starts. -/
theorem Block.asks_endless (n : Nat) (i : Int32) (s : Scene) :
    (Loop.Cycle.whileHolds (Block.guardHolds none 0)
      (Controller.runBody 0 false true [])).Asks n i s s := by
  induction n with
  | zero => exact .now rfl
  | succ n ih =>
    rw [Controller.runBody] at ih ⊢
    exact .next rfl ih

/-- It fails after as many starts as it may have. -/
theorem Block.loops_respect_limit_endless :
    Block.endless.run 0 Scene.lone = .error (.loopLimit 10) Scene.lone ∧
      (Block.endless.rounds 0 Scene.lone).length = 10 := by
  obtain ⟨-, -, overruns, fails, -⟩ := Block.loops_respect_limit 0 (b := Block.endless) nofun Scene.lone
  exact fails Scene.lone ((overruns Scene.lone).mpr ⟨_, _, _, rfl, Block.asks_endless 10 0 _⟩)

/-- A loop over ten numbers is not too long where ten starts are allowed. -/
example : Ends ((Block.counting 0 10 1).run 0) Scene.windowed (fun stops _ => stops = false)
    fun _ _ => False := by decide +kernel

/-- One over eleven numbers is. -/
example : Ends ((Block.counting 0 11 1).run 0) Scene.windowed (fun _ _ => False)
    fun e _ => e = .loopLimit 10 := by decide +kernel

end TickScript
