import TickScript.Bytecode.Operand
import TickScript.Text.Utf8

/-! # Assembling expressions

    What a compiler appends to an expression.  Redirects and nested runs carry their length, and
    a forward jump is emitted open and closed when its target is reached.
-/

namespace TickScript.Expression

/-- One opcode, operands not included. -/
def op (o : Opcode) : Expression := [o.toByte]

/-! ## Literals -/

/-- The shortest form of an integer. -/
def integer (i : Int64) : Expression :=
  if i.toInt8.toInt64 = i then op (.literal .int8) ++ [i.toInt8.toUInt8]
  else if i.toInt32.toInt64 = i then op (.literal .int32) ++ Bytes.ofInt32 i.toInt32
  else op (.literal .int64) ++ Bytes.ofInt64 i

/-- **Literal of a value.**  Unset and failed values have none. -/
def literal? : Value → Option Expression
  | .int i => some (integer i)
  | .bool b => some (integer (if b then 1 else 0))
  | .float s => some (op (.literal .single) ++ s.toBytes)
  | .unset | .failed => none

/-- **Appends the literal of a value**; whether it has one. -/
def pushValue (code : Expression) (v : Value) : Expression × Bool :=
  match literal? v with
  | some part => (code ++ part, true)
  | none => (code, false)

/-- An integer constant. -/
def int (i : Int32) : Expression := integer i.toInt64

/-- A single constant. -/
def single (s : Single) : Expression := op (.literal .single) ++ s.toBytes

/-- A text argument: no code, but UTF-8. -/
def text (s : String) : Expression := Utf8.encode s

/-- The text an argument holds; octets that form no character are replaced. -/
def toText (code : Expression) : String := Utf8.lossy code

/-! ## Pages -/

def constant (o : ConstantOp) : Expression := op (.page .constants) ++ [o.toByte]
def store (o : StoreOp) : Expression := op (.page .stores) ++ [o.toByte]
def extended (o : ExtendedOp) : Expression := op (.page .extended) ++ [o.toByte]

/-! ## Nested expressions -/

/-- The length of an expression as an operand. -/
def lengthBytes (body : Expression) : Bytes := Bytes.ofInt32 (Int32.ofNat body.length)

/-- Runs the body on the current entity. -/
def run (body : Expression) : Expression := op .run ++ body.lengthBytes ++ body

/-- Runs the body on the calling entity. -/
def runUnredirected (body : Expression) : Expression :=
  op .runUnredirected ++ body.lengthBytes ++ body

/-- One instruction on a related entity, skipped if there is none. -/
def redirectInline (o : Opcode) (read : Expression) : Expression :=
  op o ++ read.lengthBytes ++ read

/-- **A body on a related entity**, skipped if there is none. -/
def redirect (o : Opcode) (body : Expression) : Expression := redirectInline o (run body)

/-! ## Forward jumps -/

/-- A long jump whose target is not known yet, and the offset to close it with. -/
def openJump (o : Opcode) (code : Expression) : Expression × Nat :=
  (code ++ op o ++ Bytes.ofInt32 0, code.length + 1)

/-- Makes the long jump with its operand at the offset lead to the end of the code so far. -/
def closeJump (code : Expression) (offset : Nat) : Expression :=
  let distance := Int32.ofInt ((code.length : Int) - (offset + 4))
  code.take offset ++ Bytes.ofInt32 distance ++ code.drop (offset + 4)

/-- A short jump whose target is not known yet, and the offset to close it with. -/
def openShortJump (o : Opcode) (code : Expression) : Expression × Nat :=
  (code ++ op o ++ [0], code.length + 1)

/-- Makes a short jump lead to the end of the code so far, if it reaches that far. -/
def closeShortJump (code : Expression) (offset : Nat) : Option Expression :=
  let distance := code.length - (offset + 1)
  if 0 < distance ∧ distance < 256 then some (code.set offset (UInt8.ofNat distance)) else none

end TickScript.Expression
