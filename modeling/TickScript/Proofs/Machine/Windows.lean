import TickScript.Machine.Windows

/-! # Frames

    The slots of all windows lie in one list, and addresses are computed from bases.  `frames`
    cuts this list into the windows themselves, newest first; every operation on windows is an
    operation on frames:

        push        puts a new frame in front
        pop         takes the first one away
        set         changes a slot of the first one
        setInCaller changes a slot of the second one

    `Changed which w w'` says that only slots of the current window may differ, of those only the
    ones that `which` admits, and that no window was opened, closed or resized.
-/

namespace TickScript.Windows

variable {w w' w'' : Windows} {slot : Nat} {v : Value}

/-! ## The view -/

/-- The windows with the given bases, newest first. -/
def framesOf : List Value → List Nat → List (List Value)
  | _, [] => []
  | slots, base :: older => slots.drop base :: framesOf (slots.take base) older

/-- **Frames**: the slots of each open window, newest first. -/
def frames (w : Windows) : List (List Value) := framesOf w.slots w.bases

/-- Reads and writes see the first frame. -/
theorem current_eq_frames (w : Windows) : w.current = w.frames.headD [] := by
  obtain ⟨slots, bases⟩ := w
  cases bases <;> rfl

/-! ## Operations -/

@[simp] theorem frames_push (w : Windows) (size : Nat) :
    (w.push size).frames = List.replicate size .unset :: w.frames := by
  simp [frames, push, framesOf]

@[simp] theorem frames_pop (w : Windows) : w.pop.frames = w.frames.tail := by
  obtain ⟨slots, bases⟩ := w
  cases bases <;> rfl

@[simp] theorem bases_push (w : Windows) (size : Nat) :
    (w.push size).bases = w.slots.length :: w.bases := rfl

@[simp] theorem bases_pop (w : Windows) : w.pop.bases = w.bases.tail := by
  obtain ⟨slots, bases⟩ := w
  cases bases <;> rfl

theorem pop_push (w : Windows) (size : Nat) : (w.push size).pop = w := by
  simp [push, pop]

theorem frames_set (h : w.set slot v = .ok w') :
    ∃ frame older, w.frames = frame :: older ∧ w'.frames = frame.set slot v :: older ∧
      w'.bases = w.bases := by
  unfold set at h
  split at h
  case isFalse => cases h
  case isTrue inside =>
    cases h
    obtain ⟨slots, bases⟩ := w
    cases bases with
    | nil => exact absurd inside (Nat.not_lt_zero slot)
    | cons base older =>
      -- the slot lies above the base, so no older frame reaches it
      refine ⟨slots.drop base, framesOf (slots.take base) older, rfl, ?_, rfl⟩
      have front : (slots.set (base + slot) v).take base = slots.take base :=
        List.take_set_of_le (Nat.le_add_right base slot)
      have back : (slots.set (base + slot) v).drop base = (slots.drop base).set slot v := by
        rw [List.drop_set, if_neg (by omega), Nat.add_sub_cancel_left]
      simp only [frames, framesOf, List.headD_cons, front, back]

theorem frames_setInCaller (h : w.setInCaller slot v = .ok w') :
    ∃ callee caller older, w.frames = callee :: caller :: older ∧
      w'.frames = callee :: caller.set slot v :: older ∧ w'.bases = w.bases := by
  obtain ⟨slots, bases⟩ := w
  unfold setInCaller at h
  split at h
  case h_2 => cases h
  case h_1 callee caller older bases =>
    cases bases
    split at h
    case isFalse => cases h
    case isTrue inside =>
      cases h
      -- the slot lies between the two bases
      refine ⟨slots.drop callee, (slots.take callee).drop caller,
        framesOf ((slots.take callee).take caller) older, rfl, ?_, rfl⟩
      have newest : (slots.set (caller + slot) v).drop callee = slots.drop callee :=
        List.drop_set_of_lt (by omega)
      have front : (slots.set (caller + slot) v).take callee =
          (slots.take callee).set (caller + slot) v := List.take_set
      have second : ((slots.take callee).set (caller + slot) v).drop caller =
          ((slots.take callee).drop caller).set slot v := by
        rw [List.drop_set, if_neg (by omega), Nat.add_sub_cancel_left]
      have third : ((slots.take callee).set (caller + slot) v).take caller =
          (slots.take callee).take caller := List.take_set_of_le (Nat.le_add_right caller slot)
      simp only [frames, framesOf, newest, front, second, third]

/-! ## Windows with known slots -/

/-- **A window is opened whose slots hold given values.** -/
def pushWith (w : Windows) (values : List Value) : Windows :=
  ⟨w.slots ++ values, w.slots.length :: w.bases⟩

@[simp] theorem frames_pushWith (w : Windows) (values : List Value) :
    (w.pushWith values).frames = values :: w.frames := by
  simp [frames, pushWith, framesOf]

/-- The first slot behind some others is written. -/
theorem set_pushWith (w : Windows) (before after : List Value) (old v : Value) :
    (w.pushWith (before ++ old :: after)).set before.length v =
      .ok (w.pushWith (before ++ v :: after)) := by
  have current : (w.pushWith (before ++ old :: after)).current = before ++ old :: after := by
    rw [current_eq_frames, frames_pushWith, List.headD_cons]
  unfold set
  rw [if_pos (by simp [current])]
  simp [pushWith]

/-- A slot of the newest window is read. -/
theorem get_of_frames {frame : List Value} {older : List (List Value)}
    (frames : w.frames = frame :: older) (inside : slot < frame.length) :
    w.get slot = .ok frame[slot] := by
  have current : w.current = frame := by rw [current_eq_frames, frames, List.headD_cons]
  simp only [get, current, List.getElem?_eq_getElem inside]

/-- A slot that can be written is one of the newest window. -/
theorem inside_of_set (written : w.set slot v = .ok w') : slot < w.current.length := by
  unfold set at written
  split at written
  case isTrue inside => exact inside
  case isFalse => cases written

/-- A slot that can be read can be written. -/
theorem exists_set {old : Value} (read : w.get slot = .ok old) : ∃ w', w.set slot v = .ok w' := by
  unfold get at read
  split at read
  case h_1 v found => exact ⟨_, if_pos (List.getElem?_eq_some_iff.mp found).1⟩
  case h_2 => cases read

/-- What is written is read. -/
theorem get_set (written : w.set slot v = .ok w') : w'.get slot = .ok v := by
  have inside := inside_of_set written
  obtain ⟨frame, older, before, after, -⟩ := frames_set written
  rw [current_eq_frames, before, List.headD_cons] at inside
  rw [get_of_frames after (by rwa [List.length_set]), List.getElem_set_self]

/-- The window behind the newest one is as large as it was when the newest one was opened. -/
theorem exists_setInCaller (opened : w'.bases = w.slots.length :: w.bases)
    (inside : slot < w.current.length) : ∃ w'', w'.setInCaller slot v = .ok w'' := by
  obtain ⟨slots, bases⟩ := w
  cases bases with
  | nil => exact absurd inside (Nat.not_lt_zero slot)
  | cons base older =>
    have between : slot < slots.length - base := by rwa [current, List.length_drop] at inside
    unfold setInCaller
    rw [opened]
    exact ⟨_, if_pos between⟩

/-! ## Changes of the current window -/

/-- **Only the first frame differs**, and of its slots only those that `which` admits. -/
inductive FrameChange (which : Nat → Prop) : List (List Value) → List (List Value) → Prop where
  | none : FrameChange which [] []
  | first {frame frame' : List Value} (older : List (List Value))
      (size : frame'.length = frame.length)
      (same : ∀ slot, ¬which slot → frame'[slot]? = frame[slot]?) :
      FrameChange which (frame :: older) (frame' :: older)

namespace FrameChange

variable {which which' : Nat → Prop} {fs fs' fs'' older : List (List Value)} {frame : List Value}

theorem refl (which : Nat → Prop) (fs : List (List Value)) : FrameChange which fs fs := by
  cases fs with
  | nil => exact none
  | cons frame older => exact first older rfl fun _ _ => rfl

theorem trans (h : FrameChange which fs fs') (h' : FrameChange which fs' fs'') :
    FrameChange which fs fs'' := by
  cases h with
  | none => exact h'
  | first older size same =>
    cases h' with
    | first _ size' same' =>
      exact first older (size'.trans size) fun slot out => (same' slot out).trans (same slot out)

theorem mono (h : FrameChange which fs fs') (sub : ∀ slot, which slot → which' slot) :
    FrameChange which' fs fs' := by
  cases h with
  | none => exact none
  | first older size same => exact first older size fun slot out => same slot fun i => out (sub slot i)

theorem set (i : which slot) : FrameChange which (frame :: older) (frame.set slot v :: older) := by
  refine first older List.length_set fun other out => ?_
  have ne : slot ≠ other := by
    intro same
    exact out (same ▸ i)
  rw [List.getElem?_set_ne ne]

theorem tail_eq (h : FrameChange which fs fs') : fs'.tail = fs.tail := by
  cases h <;> rfl

theorem sizes_eq (h : FrameChange which fs fs') : fs'.map List.length = fs.map List.length := by
  cases h with
  | none => rfl
  | first older size same => rw [List.map_cons, List.map_cons, size]

theorem slot_eq (h : FrameChange which fs fs') (out : ¬which slot) :
    (fs'.headD [])[slot]? = (fs.headD [])[slot]? := by
  cases h with
  | none => rfl
  | first older size same => exact same slot out

/-- If no slot is admitted, nothing differs. -/
theorem eq (h : FrameChange (fun _ => False) fs fs') : fs' = fs := by
  cases h with
  | none => rfl
  | first older size same => rw [List.ext_getElem? fun slot => same slot id]

end FrameChange

/-- **Only slots of the current window differ**, and of those only the ones that `which` admits. -/
structure Changed (which : Nat → Prop) (w w' : Windows) : Prop where
  bases : w'.bases = w.bases
  frames : FrameChange which w.frames w'.frames

/-- **One more window is open**, and below it only admitted slots of the window that was current
    before differ. -/
structure Called (which : Nat → Prop) (w w' : Windows) : Prop where
  bases : w'.bases.tail = w.bases
  frames : FrameChange which w.frames w'.frames.tail

namespace Changed

variable {which which' : Nat → Prop}

theorem refl (which : Nat → Prop) (w : Windows) : Changed which w w :=
  ⟨rfl, FrameChange.refl which w.frames⟩

theorem trans (h : Changed which w w') (h' : Changed which w' w'') : Changed which w w'' :=
  ⟨h'.bases.trans h.bases, h.frames.trans h'.frames⟩

theorem mono (h : Changed which w w') (sub : ∀ slot, which slot → which' slot) :
    Changed which' w w' :=
  ⟨h.bases, h.frames.mono sub⟩

theorem set (i : which slot) (h : w.set slot v = .ok w') : Changed which w w' := by
  obtain ⟨frame, older, before, after, bases⟩ := frames_set h
  refine ⟨bases, ?_⟩
  rw [before, after]
  exact FrameChange.set i

theorem depth_eq (h : Changed which w w') : w'.depth = w.depth := congrArg List.length h.bases

theorem slot_eq (h : Changed which w w') (out : ¬which slot) :
    w'.current[slot]? = w.current[slot]? := by
  rw [current_eq_frames, current_eq_frames]
  exact h.frames.slot_eq out

end Changed

namespace Called

variable {which which' : Nat → Prop}

theorem push (which : Nat → Prop) (w : Windows) (size : Nat) : Called which w (w.push size) := by
  refine ⟨by simp, ?_⟩
  rw [frames_push]
  exact FrameChange.refl which w.frames

theorem mono (h : Called which w w') (sub : ∀ slot, which slot → which' slot) :
    Called which' w w' :=
  ⟨h.bases, h.frames.mono sub⟩

/-- The callee may change all of its own window. -/
theorem changed (h : Called which w w') (h' : Changed which' w' w'') : Called which w w'' := by
  refine ⟨?_, ?_⟩
  · rw [h'.bases]
    exact h.bases
  · rw [h'.frames.tail_eq]
    exact h.frames

/-- And it may bind its results to admitted slots of the caller. -/
theorem setInCaller (h : Called which w w') (i : which slot)
    (h' : w'.setInCaller slot v = .ok w'') : Called which w w'' := by
  obtain ⟨callee, caller, older, before, after, bases⟩ := frames_setInCaller h'
  have frames := h.frames
  refine ⟨?_, ?_⟩
  · rw [bases]
    exact h.bases
  · rw [before, List.tail_cons] at frames
    rw [after, List.tail_cons]
    exact frames.trans (FrameChange.set i)

/-- When the callee's window is closed, the caller finds its own changed in admitted slots only. -/
theorem pop (h : Called which w w') : Changed which w w'.pop := by
  refine ⟨?_, ?_⟩
  · rw [bases_pop]
    exact h.bases
  · rw [frames_pop]
    exact h.frames

end Called

end TickScript.Windows
