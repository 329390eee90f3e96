import TickScript.Bytecode.Operand
import TickScript.Eval.Reads

/-! # What one instruction does

    An instruction is dispatched for a *current* entity, which reads and writes apply to, on
    behalf of an *origin*, the entity the expression was started for.  It says where to continue
    and with which current entity: always the origin, except that a redirect binds another one
    for the next instruction.
-/

namespace TickScript

namespace UnaryOp

/-- The function of the top value. -/
def apply : UnaryOp → Value → Value
  | neg => .neg
  | boolNot => .boolNot
  | bitNot => .bitNot
  | abs => .abs
  | exp => .exp
  | ln => .ln
  | cos => .cos
  | sin => .sin
  | tan => .tan
  | acos => .acos
  | asin => .asin
  | atan => .atan
  | floor => .floor
  | ceil => .ceil

end UnaryOp

namespace BinaryOp

/-- The function of the left and the right side. -/
def apply (order : PowOrder) : BinaryOp → Value → Value → Value
  | add => .add
  | sub => .sub
  | mul => .mul
  | div => .div
  | rem => .rem
  | pow => .pow order
  | equals => .equals
  | notEquals => .notEquals
  | gt => .gt
  | ge => .ge
  | lt => .lt
  | le => .le
  | boolAnd => .boolAnd
  | boolOr => .boolOr
  | boolXor => .boolXor
  | bitAnd => .bitAnd
  | bitOr => .bitOr
  | bitXor => .bitXor
  | log => .log

end BinaryOp

/-- Whether a jump is taken on a condition. -/
def JumpTest.holds (condition : Bool) : JumpTest → Bool
  | .always => true
  | .ifZero => !condition
  | .ifNonZero => condition

/-- **How execution continues**: with the next instruction, or first with a nested expression. -/
inductive Continuation where
  | goto (offset : Nat) (current : EntityId)
  /-- Runs the body for an entity, then continues. -/
  | call (body : Expression) (entity : EntityId) (offset : Nat) (current : EntityId)
  deriving DecidableEq

namespace Eval

/-! ## Page operations: each gives the offset behind it -/

/-- Pushes a constant. -/
def constantOp (ctx : EvalContext) (code : Expression) (offset : Nat) (current origin : EntityId) :
    Eval Nat := do
  let b ← ofExcept (code.uint8At offset)
  match ConstantOp.ofByte? b with
  | none => throw (.unknownOpcode b offset)
  | some op =>
    let ratio ← scaleRatio current origin
    let c := (← entity current).constants
    match op with
    | .named =>
      let index ← ofExcept (code.int32At (offset + 1))
      push (c.constant (← ofExcept (ctx.strings.resolve index)))
      return offset + 5
    | _ =>
      push (op.read c ratio)
      return offset + 1

/-- Pops an index and updates that variable with the value; pushes the number written. -/
def storeVariable (current : EntityId) (mode : UpdateMode) (bank : VariableBank) (v : Value) :
    Eval Unit := do
  let e ← entity current
  let index := (← pop).toInt32
  let r := e.updateVariable mode bank index v
  update current fun _ => r.1
  push r.2

/-- Updates the named number with the value; pushes the number written. -/
def storeNamed (ctx : EvalContext) (code : Expression) (offset : Nat) (current : EntityId)
    (mode : UpdateMode) (v : Value) : Eval Unit := do
  let e ← entity current
  let index ← ofExcept (code.int32At offset)
  let name ← ofExcept (ctx.strings.resolve index)
  let r := e.updateNamed mode name v.toSingle
  update current fun _ => r.1
  push (.ofSingle r.2)

/-- Pops a value and writes it to a store. -/
def storeOp (ctx : EvalContext) (code : Expression) (offset : Nat) (current : EntityId) :
    Eval Nat := do
  let b ← ofExcept (code.uint8At offset)
  match StoreOp.ofByte? b with
  | none => throw (.unknownOpcode b offset)
  | some op =>
    let v ← pop
    match op with
    | .set bank =>
      storeVariable current .set bank v
      return offset + 1
    | .add bank =>
      storeVariable current .add bank v
      return offset + 1
    | .setName =>
      storeNamed ctx code (offset + 1) current .set v
      return offset + 5
    | .addName =>
      storeNamed ctx code (offset + 1) current .add v
      return offset + 5

/-- Extended mathematics and reads. -/
def extendedOp (ctx : EvalContext) (code : Expression) (offset : Nat)
    (current origin : EntityId) : Eval Nat := do
  let b ← ofExcept (code.uint8At offset)
  match ExtendedOp.ofByte? b with
  | none => throw (.unknownOpcode b offset)
  | some op =>
    match op with
    | .max => fold .max
    | .min => fold .min
    | .clamp =>
      let high ← pop
      let low ← pop
      modifyTop (.clamp · low high)
    | .sign => modifyTop .sign
    | .atan2 => fold .atan2
    | .radians => modifyTop .radians
    | .degrees => modifyTop .degrees
    | .lerp =>
      let share ← pop
      let far ← pop
      modifyTop (.lerp · far share)
    | .round => fold .round
    | .randomRange =>
      let high := (← pop).toInt32
      let low := (← top).toInt32
      let n ← random low high
      modifyTop fun _ => .ofInt32 n
    | .distance mark axis => distance current origin mark axis
    | .getName =>
      let index ← ofExcept (code.int32At (offset + 1))
      let name ← ofExcept (ctx.strings.resolve index)
      push (.ofSingle ((← entity current).named name))
    | .depth d => pushScaled current origin d.read
    | .number f => push (.ofSingle (f.read (← entity current)))
    | .spritePriority => push (.ofInt32 (← entity current).spritePriority)
    return if op = .getName then offset + 5 else offset + 1

/-! ## Instructions -/

/-- The value of a literal. -/
def literal (code : Expression) (offset : Nat) : Literal → Except Fault Value
  | .int8 => (fun i => .int i.toInt64) <$> code.int8At offset
  | .int32 => .ofInt32 <$> code.int32At offset
  | .int64 => .int <$> code.int64At offset
  | .single => .ofSingle <$> code.singleAt offset

/-- How many bytes execution passes over behind the opcode of a literal. -/
def literalSize : Literal → Nat
  | .int8 => 1
  | .int32 => 4
  | .int64 => 8
  | .single => 4

/-- Pops the condition of a jump that has one; whether the jump is taken. -/
def jumpTaken (test : JumpTest) : Eval Bool := do
  match test with
  | .always => return true
  | _ => return test.holds (← pop).toBool

/-- **Binds the entity in a role** for the next instruction, or pushes `failed` and skips. -/
def redirect (code : Expression) (offset : Nat) (current origin : EntityId) (role : Role) :
    Eval Continuation := do
  let selector ← if role.takesSelector then (return (← pop).toInt32) else pure 0
  let _ ← entity current
  match (← roster).resolve current selector role with
  | some id => return .goto (offset + 4) id
  | none =>
    recordFailedRedirect
    push .failed
    return .goto (← ofExcept (code.longTargetAt offset)) origin

/-- **Executes one instruction**, given the offset behind its opcode. -/
def instruction (ctx : EvalContext) (code : Expression) (offset : Nat)
    (current origin : EntityId) (o : Opcode) : Eval Continuation := do
  match o with
  | .literal form =>
    push (← ofExcept (literal code offset form))
    return .goto (offset + literalSize form) origin
  | .pop =>
    let _ ← pop
    return .goto offset origin
  | .dup =>
    onStack Stack.dup
    return .goto offset origin
  | .swap =>
    onStack Stack.swap
    return .goto offset origin
  | .entityVar bank =>
    let e ← entity current
    modifyTop fun v => e.vars.read bank v.toInt32
    return .goto offset origin
  | .windowSlot =>
    let slot ← ofExcept (code.uint8At offset)
    push (← ofExcept (ctx.windows.get slot.toNat))
    return .goto (offset + 1) origin
  | .unary op =>
    modifyTop op.apply
    return .goto offset origin
  | .binary op =>
    fold (op.apply ctx.powOrder)
    return .goto offset origin
  | .ifElse =>
    let otherwise ← pop
    let chosen ← pop
    modifyTop fun v => if v.toBool then chosen else otherwise
    return .goto offset origin
  | .jumpShort test =>
    if ← jumpTaken test then return .goto (← ofExcept (code.shortTargetAt offset)) origin
    else return .goto (offset + 1) origin
  | .jumpIfFailed =>
    if (← top).isFailed then return .goto (← ofExcept (code.shortTargetAt offset)) origin
    else return .goto (offset + 1) origin
  | .jumpLong test =>
    if ← jumpTaken test then return .goto (← ofExcept (code.longTargetAt offset)) origin
    else return .goto (offset + 4) origin
  | .run =>
    let (body, next) ← ofExcept (code.nestedAt offset)
    return .call body current next origin
  | .runUnredirected =>
    let (body, next) ← ofExcept (code.nestedAt offset)
    return .call body origin next current
  | .random =>
    push (.ofInt32 (← random 0 999))
    return .goto offset origin
  | .redirect role => redirect code offset current origin role
  | .redirectReset => return .goto offset origin
  | .field f =>
    push (f.read (← entity current))
    return .goto offset origin
  | .coordinate c =>
    pushScaled current origin c.read
    return .goto offset origin
  | .stateTypeIs =>
    let code ← ofExcept (code.uint8At offset)
    let e ← entity current
    push (.bool (StateType.ofCode? code == some e.state.stateType))
    return .goto (offset + 1) origin
  | .moveTypeIs =>
    let code ← ofExcept (code.uint8At offset)
    let e ← entity current
    push (.bool (MoveType.ofCode? code == some e.state.moveType))
    return .goto (offset + 1) origin
  | .prevMoveTypeIs =>
    let code ← ofExcept (code.uint8At offset)
    let e ← entity current
    push (.bool (MoveType.ofCode? code == some e.state.previousMoveType))
    return .goto (offset + 1) origin
  | .query q =>
    query current q
    return .goto offset origin
  | .tally t =>
    tally current t
    return .goto offset origin
  | .page .constants => return .goto (← constantOp ctx code offset current origin) origin
  | .page .stores => return .goto (← storeOp ctx code offset current) origin
  | .page .extended => return .goto (← extendedOp ctx code offset current origin) origin

end Eval
end TickScript
