import TickScript.Fault
import TickScript.Bytecode.Opcode

/-! # Reading operands

    Operands are read at an offset of the code.  One that reaches beyond the end, or a nested
    expression whose length is negative or too large, is a `truncatedOperand` at that offset.
-/

namespace TickScript

/-- **Expression**: the bytes of a compiled program. -/
abbrev Expression := Bytes

namespace Expression

/-- The bytes of a fixed-width operand. -/
def operandAt (width : Nat) (code : Expression) (offset : Nat) : Except Fault Bytes :=
  if offset + width ≤ code.length then .ok ((code.drop offset).take width)
  else .error (.truncatedOperand offset)

def uint8At (code : Expression) (offset : Nat) : Except Fault UInt8 :=
  match code[offset]? with
  | some b => .ok b
  | none => .error (.truncatedOperand offset)

def int8At (code : Expression) (offset : Nat) : Except Fault Int8 :=
  UInt8.toInt8 <$> code.uint8At offset

def int32At (code : Expression) (offset : Nat) : Except Fault Int32 :=
  Bytes.toInt32 <$> code.operandAt 4 offset

def int64At (code : Expression) (offset : Nat) : Except Fault Int64 :=
  Bytes.toInt64 <$> code.operandAt 8 offset

def singleAt (code : Expression) (offset : Nat) : Except Fault Single :=
  Single.ofBytes <$> code.operandAt 4 offset

/-- **Nested expression**: its bytes, and the offset behind it. -/
def nestedAt (code : Expression) (offset : Nat) : Except Fault (Expression × Nat) := do
  let length ← code.int32At offset
  let start := offset + 4
  let stop := start + length.toInt.toNat
  if 0 ≤ length ∧ stop ≤ code.length then
    .ok ((code.drop start).take length.toInt.toNat, stop)
  else .error (.truncatedOperand offset)

/-! ## Jump targets -/

/-- The target of a short jump: forward from the operand's end, or the end of the code. -/
def shortTargetAt (code : Expression) (offset : Nat) : Except Fault Nat :=
  (fun d => if d = 0 then code.length else offset + 1 + d.toNat) <$> code.uint8At offset

/-- The target of a long jump.  One before the start of the code counts as truncated. -/
def longTargetAt (code : Expression) (offset : Nat) : Except Fault Nat := do
  let target := (offset : Int) + 4 + (← code.int32At offset).toInt
  if 0 ≤ target then .ok target.toNat else .error (.truncatedOperand offset)

end Expression
end TickScript
