import TickScript.Fault

/-! # Variable windows

    Every program run and every function call has a window of local slots.  All windows lie in
    one list of slots, each behind the one it was opened from:

        program (3 slots) called a function (4 slots)

        [l0][l1][l2] | [a0][a1][l2][r0]
         ^              ^
         first base     second base

    Slots are addressed relative to the base of the newest window.
-/

namespace TickScript

/-- **Open windows.** -/
structure Windows where
  /-- The slots of all windows, oldest first. -/
  slots : List Value
  /-- Where each window begins, newest first. -/
  bases : List Nat
  deriving DecidableEq, Inhabited

namespace Windows

/-- No window. -/
def empty : Windows := ⟨[], []⟩

/-- Opens a window of unset slots. -/
def push (w : Windows) (size : Nat) : Windows :=
  ⟨w.slots ++ List.replicate size .unset, w.slots.length :: w.bases⟩

/-- Closes the newest window. -/
def pop (w : Windows) : Windows :=
  match w.bases with
  | [] => w
  | base :: older => ⟨w.slots.take base, older⟩

/-- The number of open windows. -/
def depth (w : Windows) : Nat := w.bases.length

/-- The slots of the newest window; none if no window is open. -/
def current (w : Windows) : List Value :=
  match w.bases with
  | [] => []
  | base :: _ => w.slots.drop base

/-- The value of a slot of the newest window. -/
def get (w : Windows) (slot : Nat) : Except Fault Value :=
  match w.current[slot]? with
  | some v => .ok v
  | none => .error (.localSlot slot w.current.length)

/-- Writes a slot of the newest window. -/
def set (w : Windows) (slot : Nat) (v : Value) : Except Fault Windows :=
  if slot < w.current.length then .ok { w with slots := w.slots.set (w.bases.headD 0 + slot) v }
  else .error (.localSlot slot w.current.length)

/-- Writes a slot of the window that the newest one was opened from. -/
def setInCaller (w : Windows) (slot : Nat) (v : Value) : Except Fault Windows :=
  match w.bases with
  | callee :: caller :: _ =>
    if slot < callee - caller then .ok { w with slots := w.slots.set (caller + slot) v }
    else .error (.localSlot slot (callee - caller))
  | _ => .error .noWindow

end Windows
end TickScript
