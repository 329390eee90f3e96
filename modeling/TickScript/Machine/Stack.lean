import TickScript.Fault

/-! # The operand stack

    The only channel between instructions.  It is a list with the top value first; `toList` is
    the view from the bottom that reports and dumps show.
-/

namespace TickScript

/-- **Operand stack**, top value first. -/
abbrev Stack := List Value

namespace Stack

/-- The values from the bottom up. -/
def bottomFirst (s : Stack) : List Value := s.reverse

def push (s : Stack) (v : Value) : Stack := v :: s

/-- The top value and the rest. -/
def pop : Stack → Except Fault (Value × Stack)
  | [] => .error .stackUnderflow
  | v :: rest => .ok (v, rest)

def top : Stack → Except Fault Value
  | [] => .error .stackUnderflow
  | v :: _ => .ok v

/-- Replaces the top value by a function of it. -/
def modifyTop (f : Value → Value) : Stack → Except Fault Stack
  | [] => .error .stackUnderflow
  | v :: rest => .ok (f v :: rest)

def dup : Stack → Except Fault Stack
  | [] => .error .stackUnderflow
  | v :: rest => .ok (v :: v :: rest)

def swap : Stack → Except Fault Stack
  | v :: w :: rest => .ok (w :: v :: rest)
  | _ => .error .stackUnderflow

/-- Adds unset slots. -/
def allocate (s : Stack) (count : Nat) : Stack := List.replicate count .unset ++ s

/-- Keeps at most `size` values from the bottom. -/
def truncate (s : Stack) (size : Nat) : Stack := s.drop (s.length - size)

end Stack
end TickScript
