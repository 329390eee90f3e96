import TickScript.Proofs.Program.Isolation
import Mathlib.Data.List.Induction

/-! # The convention of calls

    A call site evaluates its arguments onto the operand stack, the first one lowest.  The call
    takes them off again, the top one into the last of the leading slots of a new window:

        operands, top first   v2 v1 v0
        window of the call    v0 v1 v2 | none none ..
                              arguments  results and locals

    So the body starts with no operands, and with its arguments in order.  If it does not ask to
    unwind, the slots behind the arguments are copied into the caller's window, one for each slot
    that the call site names, and the later copies win.  In all other cases the caller's windows
    are what they were.
-/

namespace TickScript

open Windows (Changed)

/-- The scene with another operand stack. -/
def Scene.withStack (s : Scene) (stack : Stack) : Scene :=
  { s with machine := { s.machine with stack := stack } }

namespace Function

variable {id : EntityId} {args : List Expression} {vs : List Value} {rets : List UInt8}
  {f : Function} {s t u : Scene} {w : Windows}

/-! ## Arguments -/

/-- **Arguments are evaluated** in order, each on top of the values of those before it, which it
    leaves alone. -/
inductive Arguments (id : EntityId) : List Expression → List Value → Scene → Scene → Prop
  | nil (s : Scene) : Arguments id [] [] s s
  | cons {code : Expression} {codes : List Expression} {v : Value} {vs : List Value}
      {s t u : Scene} (first : Act.evaluate code id s = .ok v t)
      (alone : t.machine.stack = s.machine.stack)
      (rest : Arguments id codes vs (t.withStack (t.machine.stack.push v)) u) :
      Arguments id (code :: codes) (v :: vs) s u

namespace Arguments

/-- Pushing arguments evaluates them. -/
theorem pushed (evaluated : Arguments id args vs s t) : Act.pushArguments id args s = .ok () t := by
  induction evaluated with
  | nil s => rfl
  | @cons code codes v vs s t u first _ _ ih =>
    have step : (do
        let v ← Act.evaluate code id
        let m ← Act.machine
        Act.setMachine { m with stack := m.stack.push v } : Act Unit) s =
          .ok () (t.withStack (t.machine.stack.push v)) := (bind_of_ok first).trans rfl
    exact (bind_of_ok step).trans ih

/-- The values lie on the stack, the last one on top. -/
theorem stack_eq (evaluated : Arguments id args vs s t) :
    t.machine.stack = vs.reverse ++ s.machine.stack := by
  induction evaluated with
  | nil s => rfl
  | @cons code codes v vs s t u _ alone _ ih =>
    have below : (t.withStack (t.machine.stack.push v)).machine.stack = v :: s.machine.stack :=
      congrArg (v :: ·) alone
    rw [ih, below, List.reverse_cons, List.append_assoc, List.singleton_append]

/-- No window is opened or written. -/
theorem windows_eq (evaluated : Arguments id args vs s t) :
    t.machine.windows = s.machine.windows := by
  induction evaluated with
  | nil s => rfl
  | @cons code _ _ _ s t _ first _ _ ih =>
    have kept : (Footprint.fixing fun s : Scene => s.machine.windows).Keeps
        (Act.evaluate code id) := Footprint.keeps_evaluate (fun _ _ => rfl) code id
    have same : t.machine.windows = s.machine.windows := kept.ok first
    exact ih.trans same

end Arguments

/-- **Arguments move from the stack into slots**, the top one into the last slot. -/
theorem takeArguments_of_stack {rest : List Value} (stack : s.machine.stack = vs.reverse)
    (windows : s.machine.windows = w.pushWith (List.replicate vs.length .unset ++ rest)) :
    takeArguments vs.length s = .ok () ((s.withStack []).withWindows (w.pushWith (vs ++ rest))) := by
  -- on the values from the last one, which is on top and is taken first
  induction vs using List.reverseRecOn generalizing s rest with
  | nil =>
    have same : s.machine.windows = w.pushWith rest := windows
    rw [List.nil_append, ← same]
    rfl
  | append_singleton vs v ih =>
    have popped : s.machine.stack.pop = .ok (v, vs.reverse) := by
      rw [stack, List.reverse_append]
      rfl
    let below := s.withStack vs.reverse
    -- the slot of the value stands behind those that are still unset
    have unset : s.machine.windows =
        w.pushWith (List.replicate vs.length .unset ++ .unset :: rest) := by
      rw [windows, List.length_append, List.length_singleton, List.replicate_succ',
        List.append_assoc, List.singleton_append]
    have written : s.machine.windows.set vs.length v =
        .ok (w.pushWith (List.replicate vs.length .unset ++ v :: rest)) := by
      have slot := w.set_pushWith (List.replicate vs.length .unset) rest .unset v
      rwa [List.length_replicate, ← unset] at slot
    have first : takeArguments (vs ++ [v]).length s = takeArguments vs.length
        (below.withWindows (w.pushWith (List.replicate vs.length .unset ++ v :: rest))) := by
      rw [List.length_append, List.length_singleton, takeArguments]
      have pop : Act.ofExcept s.machine.stack.pop s = .ok (v, vs.reverse) s := by
        rw [popped]
        rfl
      have set : (Act.onWindows fun w => w.set vs.length v) below = .ok ()
          (below.withWindows (w.pushWith (List.replicate vs.length .unset ++ v :: rest))) :=
        onWindows_of_ok written
      exact (bind_of_ok (s := s) rfl).trans ((bind_of_ok pop).trans
        ((bind_of_ok (t := below) rfl).trans (bind_of_ok set)))
    rw [first, ih rfl rfl, List.append_assoc, List.singleton_append]
    rfl

/-! ## Results -/

/-- **A window after results were bound** to some of its slots, one after the other. -/
def bound (rets : List UInt8) (results window : List Value) : List Value :=
  (rets.zip results).foldl (fun window x => window.set x.1.toNat x.2) window

/-- **Results are copied** from the slots of the newest window, beginning with a given one, into
    slots of the window behind it. -/
theorem giveResults_of_frames {callee : List Value} {slot : Nat} {older : List (List Value)}
    (opened : s.machine.windows.bases = w.slots.length :: w.bases)
    (frames : s.machine.windows.frames = callee :: older)
    (exist : ∀ ret ∈ rets, ret.toNat < w.current.length)
    (enough : slot + rets.length ≤ callee.length) :
    ∃ w' : Windows, giveResults slot rets s = .ok () (s.withWindows w') ∧
      w'.frames = callee :: older.modifyHead (bound rets (callee.drop slot)) := by
  induction rets generalizing s slot older with
  | nil =>
    refine ⟨s.machine.windows, rfl, ?_⟩
    rw [frames]
    cases older <;> rfl
  | cons ret rest ih =>
    rw [List.length_cons] at enough
    have inside : slot < callee.length := by omega
    have read : Act.localSlot slot s = .ok callee[slot] s :=
      localSlot_of_ok (Windows.get_of_frames frames inside)
    obtain ⟨w₁, set⟩ := Windows.exists_setInCaller (v := callee[slot]) opened
      (exist ret List.mem_cons_self)
    -- the window of the call stays as it is, so the next result is read from the same slots
    obtain ⟨callee', caller, older', before, after, bases⟩ := Windows.frames_setInCaller set
    obtain ⟨rfl, rfl⟩ := List.cons.inj (frames.symm.trans before)
    have left : slot + 1 + rest.length ≤ callee.length := by omega
    obtain ⟨w', given, result⟩ := ih (s := s.withWindows w₁) (bases.trans opened) after
      (fun r i => exist r (List.mem_cons_of_mem ret i)) left
    refine ⟨w', (bind_of_ok read).trans ((bind_of_ok (onWindows_of_ok set)).trans given), ?_⟩
    rw [result, List.drop_eq_getElem_cons inside]
    rfl

/-! ## Calls -/

/-- **The scene in which the body of a call starts**, given its arguments and the scene that they
    leave. -/
def entered (f : Function) (vs : List Value) (t : Scene) : Scene :=
  { t with
    machine := { t.machine with
      stack := []
      windows := t.machine.windows.pushWith
        (vs ++ List.replicate (f.windowSize - f.argCount) .unset) }
    memory := .sized f.persistenceSlots f.toggleSlots }

/-- What follows the body of a call, in the window of the call. -/
def conclude (f : Function) (rets : List UInt8) (flow : Flow) : Act Bool := do
  if flow = .unwind then return true
  giveResults f.argCount rets
  return false

/-- **The scene that a call leaves**, given the scene in which it ends: the window is closed, and
    the counters are those of the caller. -/
def returned (s u : Scene) : Scene :=
  { u.withWindows u.machine.windows.pop with memory := s.memory }

/-- The arguments are counted first. -/
theorem checkCounts_eq (f : Function) (rets : List UInt8) (s : Scene) :
    f.checkCounts rets s =
      if s.machine.stack.length ≠ f.argCount then
        .error (.argumentCount f.name f.argCount s.machine.stack.length) s
      else if rets ≠ [] ∧ rets.length ≠ f.retCount then
        .error (.returnCount f.name f.retCount rets.length) s
      else .ok () s := by
  let found := s.machine.stack.length
  let countResults : Act Unit := if rets ≠ [] ∧ rets.length ≠ f.retCount
    then throw (.returnCount f.name f.retCount rets.length) else pure ()
  have run : f.checkCounts rets s = (if found ≠ f.argCount
      then throw (.argumentCount f.name f.argCount found) >>= fun _ : Unit => countResults
      else countResults : Act Unit) s := rfl
  rw [run]
  split
  · rfl
  · unfold countResults
    split
    · rfl
    · rfl

/-- A fault in the counts is the fault of the call. -/
theorem run_of_miscounted {e : Fault} (miscounted : f.checkCounts rets s = .error e s) :
    f.run id rets s = .error e s := by
  rw [run_eq_invoke]
  exact bind_of_error miscounted

/-- **A call runs its body from the scene that was entered.** -/
theorem run_eq_entered (stack : s.machine.stack = vs.reverse) (arguments : vs.length = f.argCount)
    (results : rets ≠ [] → rets.length = f.retCount) :
    f.run id rets s = onEnd (returned s)
      ((Controller.runBody id false false f.body >>= f.conclude rets) (f.entered vs s)) := by
  have counted : f.checkCounts rets s = .ok () s := by
    rw [checkCounts_eq, if_neg (by simp [stack, arguments])]
    exact if_neg fun ⟨bound, other⟩ => other (results bound)
  have slots : List.replicate f.windowSize Value.unset =
      List.replicate vs.length .unset ++ List.replicate (f.windowSize - f.argCount) .unset := by
    rw [List.replicate_append_replicate, arguments]
    congr 1
    unfold windowSize
    omega
  have taken := takeArguments_of_stack (w := s.machine.windows)
    (s := s.withWindows (s.machine.windows.push f.windowSize)) stack
    (congrArg s.machine.windows.pushWith slots)
  rw [arguments] at taken
  -- the counters come back before the window is closed
  have bracketed := (bind_of_ok (f := fun _ =>
    Act.withMemory (.sized f.persistenceSlots f.toggleSlots)
      (Controller.runBody id false false f.body >>= f.conclude rets)) taken).trans
    (withMemory_eq _ _ _)
  rw [run_eq_invoke]
  refine (bind_of_ok counted).trans ((withWindow_eq _ _ s).trans ((congrArg _ bracketed).trans ?_))
  show onEnd _ (onEnd _ ((Controller.runBody id false false f.body >>= f.conclude rets)
    (f.entered vs s))) = _
  generalize (Controller.runBody id false false f.body >>= f.conclude rets) (f.entered vs s) = ended
  cases ended with
  | ok a u => rfl
  | error e u => rfl

/-- The body leaves all windows but its own as they are. -/
theorem windows_of_body {u : Scene}
    (changed : Changed (fun _ => True) (f.entered vs s).machine.windows u.machine.windows) :
    u.machine.windows.bases = s.machine.windows.slots.length :: s.machine.windows.bases ∧
    ∃ callee, u.machine.windows.frames = callee :: s.machine.windows.frames ∧
      callee.length = vs.length + (f.windowSize - f.argCount) := by
  refine ⟨changed.bases, ?_⟩
  have frames := changed.frames
  rw [entered, Windows.frames_pushWith] at frames
  generalize u.machine.windows.frames = after at frames
  cases frames with
  | first older size same => exact ⟨_, rfl, by simpa using size⟩

/-- When the window of a call is closed, the frames below it are left. -/
theorem frames_returned {callee : List Value} {older : List (List Value)}
    (frames : u.machine.windows.frames = callee :: older) :
    (returned s u).machine.windows.frames = older := by
  show u.machine.windows.pop.frames = older
  rw [Windows.frames_pop, frames, List.tail_cons]

/-- **A body that does not ask to unwind is concluded by copying the results.** -/
theorem conclude_of_completed {flow : Flow} (completed : flow ≠ .unwind)
    (changed : Changed (fun _ => True) (f.entered vs s).machine.windows u.machine.windows)
    (arguments : vs.length = f.argCount) (results : rets ≠ [] → rets.length = f.retCount)
    (exist : ∀ ret ∈ rets, ret.toNat < s.machine.windows.current.length) :
    ∃ (w : Windows) (callee : List Value), f.conclude rets flow u = .ok false (u.withWindows w) ∧
      w.frames = callee :: s.machine.windows.frames.modifyHead
        (bound rets (u.machine.windows.current.drop f.argCount)) := by
  obtain ⟨opened, callee, frames, size⟩ := windows_of_body changed
  have enough : f.argCount + rets.length ≤ callee.length := by
    unfold windowSize at size
    by_cases none : rets = []
    · simp [none]
      omega
    · have := results none
      omega
  obtain ⟨w, given, copied⟩ := giveResults_of_frames opened frames exist enough
  have current : u.machine.windows.current = callee := by
    rw [Windows.current_eq_frames, frames, List.headD_cons]
  rw [conclude, if_neg completed, current]
  exact ⟨w, callee, bind_of_ok given, copied⟩

end Function

/-- **Calls follow a convention.**  If the arguments are as many as the function has, and results
    are bound to as many slots as it has results or to none, then the body runs in the scene that
    was entered: with no operands, and in a window of its own that holds the arguments in order
    and nothing else.

    If the body does not ask to unwind, and the slots for the results exist, the call goes on, and
    the results are in these slots of the caller's window; nothing else in any window has changed.
    If it asks to unwind, so does the call, and if it faults, so does the call; then no window has
    changed.

    If a number is wrong, the call faults in the scene that the arguments left. -/
theorem Controller.calls_follow_convention (id : EntityId) (f : Function) {args : List Expression}
    (rets : List UInt8) {vs : List Value} {s t : Scene}
    (evaluated : Function.Arguments id args vs s t) :
    let call := Controller.run id (.call f args rets)
    let body := Controller.runBody id false false f.body
    let w := s.machine.windows
    (t.machine.stack.length ≠ f.argCount →
      call s = .error (.argumentCount f.name f.argCount t.machine.stack.length) t) ∧
    (t.machine.stack.length = f.argCount → rets ≠ [] → rets.length ≠ f.retCount →
      call s = .error (.returnCount f.name f.retCount rets.length) t) ∧
    (s.machine.stack = [] → vs.length = f.argCount → (rets ≠ [] → rets.length = f.retCount) →
      (∀ flow u, body (f.entered vs t) = .ok flow u → flow ≠ .unwind →
        (∀ ret ∈ rets, ret.toNat < w.current.length) →
        ∃ v, call s = .ok false v ∧ v.machine.windows.frames = w.frames.modifyHead
          (Function.bound rets (u.machine.windows.current.drop f.argCount))) ∧
      (∀ u, body (f.entered vs t) = .ok .unwind u →
        ∃ v, call s = .ok true v ∧ v.machine.windows.frames = w.frames) ∧
      ∀ e u, body (f.entered vs t) = .error e u →
        ∃ v, call s = .error e v ∧ v.machine.windows.frames = w.frames) := by
  intro call body w
  have called : call s = f.run id rets t := by
    show Controller.run id (.call f args rets) s = _
    rw [Controller.run]
    exact bind_of_ok evaluated.pushed
  rw [called]
  refine ⟨fun other => ?_, fun same bound other => ?_, fun empty arguments results => ?_⟩
  · exact Function.run_of_miscounted (by rw [Function.checkCounts_eq, if_pos other])
  · refine Function.run_of_miscounted ?_
    rw [Function.checkCounts_eq, if_neg (by simp [same]), if_pos ⟨bound, other⟩]
  · have stack : t.machine.stack = vs.reverse := by
      rw [evaluated.stack_eq, empty, List.append_nil]
    rw [Function.run_eq_entered stack arguments results]
    have kept := Footprint.allowsPrograms_wholeWindow.body id false false f.body
    have same := evaluated.windows_eq
    refine ⟨fun flow u ran completed exist => ?_, fun u ran => ?_, fun e u ran => ?_⟩
    · obtain ⟨x, callee, concluded, frames⟩ := Function.conclude_of_completed completed
        (kept.ok ran) arguments results (by rwa [same])
      rw [same] at frames
      rw [bind_of_ok ran, concluded]
      exact ⟨_, rfl, Function.frames_returned frames⟩
    · obtain ⟨-, callee, frames, -⟩ := Function.windows_of_body (kept.ok ran)
      rw [same] at frames
      rw [bind_of_ok ran]
      exact ⟨_, rfl, Function.frames_returned frames⟩
    · obtain ⟨-, callee, frames, -⟩ := Function.windows_of_body (kept.error ran)
      rw [same] at frames
      rw [bind_of_error ran]
      exact ⟨_, rfl, Function.frames_returned frames⟩

/-- A function of two arguments that gives them back the other way round. -/
def Function.exchange : Function :=
  let slot (n : UInt8) : Expression := Expression.op .windowSlot ++ [n]
  ⟨"exchange", 2, 2, 4, 0, 0, [.assign 2 (slot 1), .assign 3 (slot 0)]⟩

/-- A scene with a window of three slots. -/
def Scene.windowed : Scene := Scene.lone.withWindows (Windows.empty.push 3)

/-- Both results are bound to one slot, and the second one stays. -/
theorem Controller.calls_follow_convention_twice :
    ∃ t v, Function.Arguments 0 [Expression.int 7, Expression.int 2] [.ofInt32 7, .ofInt32 2]
        Scene.windowed t ∧
      Controller.run 0 (.call Function.exchange [Expression.int 7, Expression.int 2] [2, 2])
        Scene.windowed = .ok false v ∧
      v.machine.windows.frames = [[.unset, .unset, .ofInt32 7]] := by
  obtain ⟨t, evaluated, ran⟩ : ∃ t, Function.Arguments 0 [Expression.int 7, Expression.int 2]
      [.ofInt32 7, .ofInt32 2] Scene.windowed t ∧
      Ends (runBody 0 false false Function.exchange.body)
        (Function.exchange.entered [.ofInt32 7, .ofInt32 2] t)
        (fun flow u => flow = .completed ∧
          u.machine.windows.current = [.ofInt32 7, .ofInt32 2, .ofInt32 2, .ofInt32 7])
        fun _ _ => False :=
    ⟨_, .cons rfl rfl (.cons rfl rfl (.nil _)), by decide +kernel⟩
  obtain ⟨flow, u, ran, rfl, current⟩ := ran.exists_ok
  obtain ⟨-, -, called⟩ :=
    calls_follow_convention 0 Function.exchange [2, 2] evaluated
  have inside : ∀ ret ∈ [2, 2],
      UInt8.toNat ret < Scene.windowed.machine.windows.current.length := by
    decide +kernel
  obtain ⟨v, goes, frames⟩ := (called rfl rfl fun _ => rfl).1 _ u ran nofun inside
  rw [current] at frames
  exact ⟨t, v, evaluated, goes, frames⟩

end TickScript
