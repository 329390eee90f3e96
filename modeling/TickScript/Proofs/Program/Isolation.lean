import TickScript.Proofs.Machine.Windows
import TickScript.Proofs.Program.Footprint

/-! # Frames are isolated

    A controller changes slots of the current window only, however deep its blocks, loops and
    calls are nested and however it ends.  The case that matters is the call: its body runs in a
    window of its own, may change all of that, and by induction nothing below; afterwards results
    are written to the caller's slots that the call names, unless the body asked to unwind; then
    the window is closed.
-/

namespace TickScript

open Windows (Changed Called)

/-- **Changes of the current window**, in slots that `which` admits. -/
def Footprint.window (which : Nat → Prop) : Footprint Scene where
  allows s t := Changed which s.machine.windows t.machine.windows
  refl s := Changed.refl which s.machine.windows
  trans h h' := h.trans h'

/-- All slots of the current window. -/
def Footprint.wholeWindow : Footprint Scene := window fun _ => True

/-- The slots that a call binds its results to. -/
def Function.Binds (rets : List UInt8) (slot : Nat) : Prop := ∃ ret ∈ rets, ret.toNat = slot

namespace Footprint

variable {which : Nat → Prop}

theorem window_same {s t : Scene} (h : t.machine.windows = s.machine.windows) :
    (window which).allows s t := by
  show Changed which s.machine.windows t.machine.windows
  rw [h]
  exact Changed.refl which s.machine.windows

theorem allowsEffects_window (which : Nat → Prop) : (window which).AllowsEffects where
  aside same _ := window_same (congrArg Machine.windows same)
  deed _ _ _ := window_same rfl
  evaluate := keeps_evaluate fun _ _ => window_same rfl

theorem keeps_set (slot : Nat) (v : Value) :
    wholeWindow.Keeps (Act.onWindows fun w => w.set slot v) :=
  fun s => ends_onWindows (fun _ set => Changed.set trivial set) fun _ _ => wholeWindow.refl s

theorem keeps_takeArguments (count : Nat) : wholeWindow.Keeps (Function.takeArguments count) :=
  AllowsOperands.takeArguments (fun _ _ => window_same rfl) keeps_set count

end Footprint

/-! ## Calls -/

section

variable {which : Nat → Prop} {w : Windows} {s : Scene}

/-- Results are written to the caller's slots that the call names. -/
theorem ends_giveResults {rets : List UInt8} (admits : ∀ ret ∈ rets, which ret.toNat) (slot : Nat)
    (called : Called which w s.machine.windows) :
    Ends (Function.giveResults slot rets) s (fun _ t => Called which w t.machine.windows)
      fun _ t => Called which w t.machine.windows := by
  -- on the results: each is looked up in the callee's window and written below it
  induction rets generalizing slot s with
  | nil => exact called
  | cons ret rest ih =>
    refine Ends.bind ((Footprint.keeps_localSlot slot).still (fun v => ?_) fun _ => called)
    refine Ends.bind (ends_onWindows (fun w' set => ?_) fun _ _ => called)
    exact ih (fun r i => admits r (List.mem_cons_of_mem ret i)) (slot + 1)
      (called.setInCaller (admits ret List.mem_cons_self) set)

/-- **A call changes the caller's window in the slots it binds**, and not at all if its body asks
    to unwind. -/
theorem Function.ends_invoke (f : Function) (rets : List UInt8) {body : Act Flow}
    (kept : Footprint.wholeWindow.Keeps body) (s : Scene) :
    Ends (f.invoke rets body) s
      (fun unwinds t => Changed (Binds rets) s.machine.windows t.machine.windows ∧
        (unwinds = true → Changed (fun _ => False) s.machine.windows t.machine.windows))
      fun _ t => Changed (Binds rets) s.machine.windows t.machine.windows := by
  have widen {t : Scene} (called : Called (fun _ => False) s.machine.windows t.machine.windows) :
      Called (Binds rets) s.machine.windows t.machine.windows := called.mono fun _ out => out.elim
  refine Ends.bind ((Footprint.keeps_checkCounts f rets).still (fun _ => ?_) fun _ => Changed.refl _ _)
  -- from here on a window of the call is open, and `Called` is what every step keeps; closing it
  -- turns it into `Changed`, also on the way of a fault
  refine ends_withWindow ?_
  have opened := Called.push (fun _ => False) s.machine.windows f.windowSize
  refine Ends.bind ((Footprint.keeps_takeArguments f.argCount _).mono (fun _ u taken => ?_)
    fun _ u taken => ?_)
  case refine_2 => exact (widen (opened.changed taken)).pop
  refine ends_withMemory (Ends.bind ((kept _).mono (fun flow x ran => ?_) fun _ x ran => ?_))
  case refine_2 => exact (widen ((opened.changed taken).changed ran)).pop
  have called := (opened.changed taken).changed ran
  -- a body that asks to unwind gives no results
  by_cases unwinds : flow = .unwind
  · rw [if_pos unwinds]
    exact ⟨(widen called).pop, fun _ => called.pop⟩
  · rw [if_neg unwinds]
    have admits : ∀ ret ∈ rets, Binds rets ret.toNat := fun ret i => ⟨ret, i, rfl⟩
    refine Ends.bind ((ends_giveResults admits f.argCount (widen called)).mono
      (fun _ y given => ?_) fun _ y given => given.pop)
    exact ⟨given.pop, nofun⟩

end

/-! ## All controllers -/

theorem Footprint.allowsPrograms_wholeWindow : wholeWindow.AllowsPrograms := by
  refine .of_scratch (allowsEffects_window _) (fun _ _ _ => window_same rfl) keeps_set ?_
  intro f rets body kept s
  exact (f.ends_invoke rets kept s).mono (fun _ _ ended => ended.1.mono fun _ _ => trivial)
    fun _ _ ended => ended.mono fun _ _ => trivial

/-- What a call leaves of the windows that it was made from. -/
theorem Controller.ends_call (f : Function) (args : List Expression) (rets : List UInt8)
    (id : EntityId) (s : Scene) :
    Ends (Controller.run id (.call f args rets)) s
      (fun unwinds t => Changed (Function.Binds rets) s.machine.windows t.machine.windows ∧
        (unwinds = true → Changed (fun _ => False) s.machine.windows t.machine.windows))
      fun _ t => Changed (Function.Binds rets) s.machine.windows t.machine.windows := by
  have body := Footprint.allowsPrograms_wholeWindow.body id false false f.body
  have pushed : (Footprint.fixing fun s : Scene => s.machine.windows).Keeps
      (Act.pushArguments id args) := by
    refine Footprint.Keeps.forM (fun code => ?_) args
    exact (Footprint.keeps_evaluate (fun _ _ => rfl) code id).bind fun _ _ => rfl
  rw [Controller.run]
  refine Ends.bind ((pushed s).mono (fun _ t same => ?_) fun _ t same => ?_)
  · have same : t.machine.windows = s.machine.windows := same
    rw [Function.run_eq_invoke, ← same]
    exact f.ends_invoke rets body t
  · exact Footprint.window_same same

/-- **Frames are isolated.**  However a controller ends, as many windows are open as before, each
    as large as it was, and all but the current one hold what they held.

    A call changes the window that it was made from only in the slots that it binds its results
    to, and does not change it if the body asked to unwind. -/
theorem Controller.run_isolates_frames (id : EntityId) (c : Controller) (s : Scene) :
    let w := s.machine.windows
    let isolated (t : Scene) : Prop :=
      t.machine.windows.depth = w.depth ∧
      t.machine.windows.frames.map List.length = w.frames.map List.length ∧
      t.machine.windows.frames.tail = w.frames.tail
    let bound (rets : List UInt8) (t : Scene) : Prop :=
      ∀ slot, (∀ ret ∈ rets, ret.toNat ≠ slot) →
        t.machine.windows.current[slot]? = w.current[slot]?
    Ends (c.run id) s (fun _ t => isolated t) (fun _ t => isolated t) ∧
    ∀ f args rets,
      Ends (Controller.run id (.call f args rets)) s
        (fun unwinds t => isolated t ∧ bound rets t ∧
          (unwinds = true → t.machine.windows.frames = w.frames))
        fun _ t => isolated t ∧ bound rets t := by
  intro w isolated bound
  have isolates {which : Nat → Prop} {t : Scene} (changed : Changed which w t.machine.windows) :
      isolated t :=
    ⟨changed.depth_eq, changed.frames.sizes_eq, changed.frames.tail_eq⟩
  have binds {rets : List UInt8} {t : Scene}
      (changed : Changed (Function.Binds rets) w t.machine.windows) : bound rets t := by
    intro slot out
    refine changed.slot_eq ?_
    rintro ⟨ret, i, same⟩
    exact out ret i same
  refine ⟨?_, fun f args rets => ?_⟩
  · have kept := Footprint.allowsPrograms_wholeWindow.controller id c s
    exact kept.mono (fun _ _ changed => isolates changed) fun _ _ changed => isolates changed
  · refine (Controller.ends_call f args rets id s).mono (fun unwinds t ended => ?_)
      fun _ t changed => ⟨isolates changed, binds changed⟩
    exact ⟨isolates ended.1, binds ended.1, fun unwound => (ended.2 unwound).frames.eq⟩

end TickScript
