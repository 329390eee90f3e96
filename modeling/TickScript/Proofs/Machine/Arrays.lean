import TickScript.Proofs.Machine.Windows

/-! # Windows are separate arrays

    All windows share one list of slots and are told apart by their bases, and a window without
    slots even shares its base with the next one.  From outside none of this can be seen: whatever
    is done to windows, they answer as a stack of separate arrays would, each of a size of its own
    (`Windows.answer_as_arrays`).

    The view is `arrays`, and every operation commutes with it (`agrees`).  What a window
    says of its caller is the distance of two bases, which is the size of an array only as long as
    the bases are in order and none lies behind the slots.  That is `Ordered`, which all operations
    keep.
-/

namespace TickScript

/-! ## Operations and what is seen of them -/

/-- **An operation on windows.** -/
inductive WindowOp where
  /-- Opens a window. -/
  | push (size : Nat)
  /-- Closes the newest window. -/
  | pop
  | get (slot : Nat)
  | set (slot : Nat) (v : Value)
  | setInCaller (slot : Nat) (v : Value)
  /-- Closes all windows. -/
  | clear

/-- What an operation answers: the value that was read, if one was to be read, or a fault. -/
abbrev WindowAnswer := Except Fault (Option Value)

/-- **What can be seen of an operation**: its answer, how many windows are open afterwards, and
    the slots of the newest one. -/
structure WindowReport where
  answer : WindowAnswer
  depth : Nat
  current : List Value

/-- What can be seen of operations, one after the other. -/
def WindowOp.reports {σ : Type} (perform : σ → WindowOp → WindowAnswer × σ) (depth : σ → Nat)
    (current : σ → List Value) : σ → List WindowOp → List WindowReport
  | _, [] => []
  | s, op :: rest =>
    let (answer, t) := perform s op
    ⟨answer, depth t, current t⟩ :: reports perform depth current t rest

/-! ## Separate arrays -/

/-- **A stack of arrays**, newest first. -/
abbrev WindowArrays := List (Array Value)

namespace WindowArrays

def current : WindowArrays → Array Value
  | [] => #[]
  | a :: _ => a

/-- Each operation is on one array, or puts one on the stack or takes it off. -/
def perform (arrays : WindowArrays) : WindowOp → WindowAnswer × WindowArrays
  | .push size => (.ok none, Array.replicate size .unset :: arrays)
  | .pop => (.ok none, arrays.tail)
  | .get slot =>
    match arrays.current[slot]? with
    | some v => (.ok (some v), arrays)
    | none => (.error (.localSlot slot arrays.current.size), arrays)
  | .set slot v =>
    match arrays with
    | a :: older =>
      if slot < a.size then (.ok none, a.setIfInBounds slot v :: older)
      else (.error (.localSlot slot a.size), arrays)
    | [] => (.error (.localSlot slot 0), arrays)
  | .setInCaller slot v =>
    match arrays with
    | callee :: caller :: older =>
      if slot < caller.size then (.ok none, callee :: caller.setIfInBounds slot v :: older)
      else (.error (.localSlot slot caller.size), arrays)
    | _ => (.error .noWindow, arrays)
  | .clear => (.ok none, [])

/-- What is seen of operations on a stack of arrays. -/
def reports : WindowArrays → List WindowOp → List WindowReport :=
  WindowOp.reports perform List.length fun arrays => arrays.current.toList

end WindowArrays

namespace Windows

variable {w w' : Windows} {slot : Nat} {v : Value}

/-- An answer and the windows afterwards; a fault leaves them as they were. -/
def answered (w : Windows) : Except Fault Windows → WindowAnswer × Windows
  | .ok w' => (.ok none, w')
  | .error f => (.error f, w)

def perform (w : Windows) : WindowOp → WindowAnswer × Windows
  | .push size => (.ok none, w.push size)
  | .pop => (.ok none, w.pop)
  | .get slot => (some <$> w.get slot, w)
  | .set slot v => w.answered (w.set slot v)
  | .setInCaller slot v => w.answered (w.setInCaller slot v)
  | .clear => (.ok none, .empty)

/-- What is seen of operations on windows. -/
def reports : Windows → List WindowOp → List WindowReport :=
  WindowOp.reports perform depth current

/-- The windows that operations leave. -/
def after (w : Windows) (ops : List WindowOp) : Windows :=
  ops.foldl (fun w op => (w.perform op).2) w

/-! ## The bases -/

/-- **The bases are in order**, newest first, and lie within the slots. -/
structure Ordered (w : Windows) : Prop where
  descending : w.bases.Pairwise (· ≥ ·)
  within : ∀ base ∈ w.bases, base ≤ w.slots.length

namespace Ordered

theorem empty : Ordered .empty := ⟨.nil, nofun⟩

theorem push (h : w.Ordered) (size : Nat) : (w.push size).Ordered where
  descending := List.pairwise_cons.mpr ⟨h.within, h.descending⟩
  within := by
    rw [bases_push, List.forall_mem_cons]
    have grown : w.slots.length ≤ (w.push size).slots.length := by simp [Windows.push]
    exact ⟨grown, fun base i => Nat.le_trans (h.within base i) grown⟩

/-- What is left reaches up to the base of the window that is closed, and no older base lies
    behind it. -/
theorem pop (h : w.Ordered) : w.pop.Ordered := by
  obtain ⟨slots, bases⟩ := w
  cases bases with
  | nil => exact h
  | cons base older =>
    obtain ⟨below, descending⟩ := List.pairwise_cons.mp h.descending
    have inside : base ≤ slots.length := h.within base List.mem_cons_self
    refine ⟨descending, fun other i => ?_⟩
    show other ≤ (slots.take base).length
    rw [List.length_take, Nat.min_eq_left inside]
    exact below other i

/-- Writing moves neither the bases nor the end. -/
theorem of_same (h : w.Ordered) (bases : w'.bases = w.bases)
    (size : w'.slots.length = w.slots.length) : w'.Ordered := by
  constructor
  · rw [bases]
    exact h.descending
  · rw [bases, size]
    exact h.within

theorem set (h : w.Ordered) (written : w.set slot v = .ok w') : w'.Ordered := by
  unfold Windows.set at written
  split at written
  case isFalse => cases written
  case isTrue =>
    cases written
    exact h.of_same rfl List.length_set

theorem setInCaller (h : w.Ordered) (written : w.setInCaller slot v = .ok w') : w'.Ordered := by
  unfold Windows.setInCaller at written
  split at written
  case h_2 => cases written
  case h_1 =>
    split at written
    case isFalse => cases written
    case isTrue =>
      cases written
      exact h.of_same rfl List.length_set

theorem answered {result : Except Fault Windows} (h : w.Ordered)
    (written : ∀ w', result = .ok w' → w'.Ordered) : (w.answered result).2.Ordered := by
  cases result with
  | ok w' => exact written w' rfl
  | error f => exact h

/-- **Every operation keeps the bases in order.** -/
theorem perform (h : w.Ordered) (op : WindowOp) : (w.perform op).2.Ordered := by
  cases op with
  | push size => exact h.push size
  | pop => exact h.pop
  | get slot => exact h
  | set slot v => exact h.answered fun _ written => h.set written
  | setInCaller slot v => exact h.answered fun _ written => h.setInCaller written
  | clear => exact empty

end Ordered

/-! ## The view -/

/-- **The windows as arrays**, newest first. -/
def arrays (w : Windows) : WindowArrays := w.frames.map List.toArray

theorem length_framesOf (slots : List Value) (bases : List Nat) :
    (framesOf slots bases).length = bases.length := by
  induction bases generalizing slots with
  | nil => rfl
  | cons base older ih => rw [framesOf, List.length_cons, List.length_cons, ih]

theorem length_arrays (w : Windows) : w.arrays.length = w.depth := by
  rw [arrays, List.length_map]
  exact length_framesOf w.slots w.bases

theorem current_arrays (w : Windows) : w.arrays.current.toList = w.current := by
  rw [current_eq_frames, arrays]
  cases w.frames <;> rfl

/-! ## Operations commute with the view -/

/-- **An operation does the same** to windows as to the arrays that they show. -/
def Agrees (w : Windows) (op : WindowOp) : Prop :=
  w.arrays.perform op = ((w.perform op).1, (w.perform op).2.arrays)

theorem agrees_push (w : Windows) (size : Nat) : w.Agrees (.push size) := by
  simp [Agrees, WindowArrays.perform, perform, arrays]

theorem agrees_pop (w : Windows) : w.Agrees .pop := by
  simp [Agrees, WindowArrays.perform, perform, arrays]

theorem agrees_get (w : Windows) (slot : Nat) : w.Agrees (.get slot) := by
  have size : w.arrays.current.size = w.current.length := by
    rw [← current_arrays, Array.length_toList]
  have found : w.arrays.current[slot]? = w.current[slot]? := by
    rw [← current_arrays, Array.getElem?_toList]
  simp only [Agrees, WindowArrays.perform, perform, get, found, size]
  cases w.current[slot]? <;> rfl

theorem agrees_set (w : Windows) (slot : Nat) (v : Value) : w.Agrees (.set slot v) := by
  by_cases inside : slot < w.current.length
  · obtain ⟨w', written⟩ : ∃ w', w.set slot v = .ok w' := ⟨_, if_pos inside⟩
    obtain ⟨frame, older, before, after, -⟩ := frames_set written
    rw [current_eq_frames, before, List.headD_cons] at inside
    simp [Agrees, WindowArrays.perform, perform, written, answered, arrays, before, after, inside]
  · have missed : w.set slot v = .error (.localSlot slot w.current.length) := if_neg inside
    rw [current_eq_frames] at inside missed
    simp only [Agrees, WindowArrays.perform, perform, missed, answered, arrays]
    cases frames : w.frames with
    | nil => rfl
    | cons frame older =>
      rw [frames, List.headD_cons] at inside
      simp [inside]

/-- The distance of two bases is the size of the window between them. -/
theorem Ordered.exists_frames {callee caller : Nat} {older : List Nat} (h : w.Ordered)
    (two : w.bases = callee :: caller :: older) :
    ∃ newest second rest, w.frames = newest :: second :: rest ∧
      second.length = callee - caller := by
  obtain ⟨slots, bases⟩ := w
  obtain rfl : bases = callee :: caller :: older := two
  have inside : callee ≤ slots.length := h.within callee List.mem_cons_self
  refine ⟨_, _, _, rfl, ?_⟩
  rw [List.length_drop, List.length_take, Nat.min_eq_left inside]

theorem agrees_setInCaller (h : w.Ordered) (slot : Nat) (v : Value) :
    w.Agrees (.setInCaller slot v) := by
  obtain ⟨slots, bases⟩ := w
  match bases with
  | [] | [_] => rfl
  | callee :: caller :: older =>
    obtain ⟨newest, second, rest, frames, size⟩ := h.exists_frames rfl
    by_cases inside : slot < callee - caller
    · obtain ⟨w', written⟩ : ∃ w', setInCaller ⟨slots, callee :: caller :: older⟩ slot v = .ok w' :=
        ⟨_, if_pos inside⟩
      obtain ⟨_, _, _, before, after, -⟩ := frames_setInCaller written
      obtain ⟨rfl, rest⟩ := List.cons.inj (frames.symm.trans before)
      obtain ⟨rfl, rfl⟩ := List.cons.inj rest
      simp [Agrees, WindowArrays.perform, perform, written, answered, arrays, before, after, size,
        inside]
    · have missed : setInCaller ⟨slots, callee :: caller :: older⟩ slot v =
          .error (.localSlot slot (callee - caller)) := if_neg inside
      simp [Agrees, WindowArrays.perform, perform, missed, answered, arrays, frames, size, inside]

/-- **Every operation commutes with the view**, as long as the bases are in order. -/
theorem agrees (h : w.Ordered) (op : WindowOp) : w.Agrees op := by
  cases op with
  | push size => exact agrees_push w size
  | pop => exact agrees_pop w
  | get slot => exact agrees_get w slot
  | set slot v => exact agrees_set w slot v
  | setInCaller slot v => exact agrees_setInCaller h slot v
  | clear => rfl

/-! ## Sequences of operations -/

theorem reports_arrays (h : w.Ordered) (ops : List WindowOp) :
    w.arrays.reports ops = w.reports ops := by
  induction ops generalizing w with
  | nil => rfl
  | cons op rest ih =>
    have next := ih (h.perform op)
    have same : w.arrays.perform op = ((w.perform op).1, (w.perform op).2.arrays) := agrees h op
    unfold WindowArrays.reports reports at next ⊢
    rw [WindowOp.reports, WindowOp.reports, same]
    dsimp only
    rw [next, length_arrays, current_arrays]

theorem ordered_after (h : w.Ordered) (ops : List WindowOp) : (w.after ops).Ordered := by
  induction ops generalizing w with
  | nil => exact h
  | cons op rest ih => exact ih (h.perform op)

/-- **Windows answer as separate arrays do.**  Every sequence of operations, begun without a
    window, has the same answers and shows the same windows as on a stack of arrays.  The bases
    stay in order and within the slots. -/
theorem answer_as_arrays (ops : List WindowOp) :
    empty.reports ops = WindowArrays.reports [] ops ∧
    (empty.after ops).bases.Pairwise (· ≥ ·) ∧
    ∀ base ∈ (empty.after ops).bases, base ≤ (empty.after ops).slots.length := by
  have ordered := ordered_after .empty ops
  exact ⟨(reports_arrays .empty ops).symm, ordered.descending, ordered.within⟩

/-- Two windows without slots, and between them one with two. -/
example : empty.reports [.push 0, .push 2, .push 0, .setInCaller 1 (.bool true), .get 0, .pop,
    .get 1] =
  [⟨.ok none, 1, []⟩, ⟨.ok none, 2, [.unset, .unset]⟩, ⟨.ok none, 3, []⟩, ⟨.ok none, 3, []⟩,
    ⟨.error (.localSlot 0 0), 3, []⟩, ⟨.ok none, 2, [.unset, .bool true]⟩,
    ⟨.ok (some (.bool true)), 2, [.unset, .bool true]⟩] := by
  rfl

end Windows
end TickScript
