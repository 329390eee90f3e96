import TickScript.Eval.Instruction

/-! # Running expressions

    An expression runs from its first byte to its end, one instruction after the other, on an
    operand stack that it shares with its surroundings.  Nested expressions run on the same
    stack.  Jumps may lead backwards, so a run has a budget of instructions; a run that needs no
    more than its budget does not notice it.
-/

namespace TickScript.Eval

/-- The instruction at an offset: its byte is decoded, counted and executed. -/
def dispatch (ctx : EvalContext) (code : Expression) (offset : Nat) (current origin : EntityId)
    (b : UInt8) : Eval Continuation :=
  match Opcode.ofByte? b with
  | none => throw (.unknownOpcode b offset)
  | some o => do
    record o
    instruction ctx code (offset + 1) current origin o

/-- **Runs code from an offset to its end.**  A nested expression has the entity it starts with
    as its origin. -/
def runFrom (ctx : EvalContext) (origin : EntityId) :
    (budget : Nat) → (code : Expression) → (offset : Nat) → (current : EntityId) → Eval Unit
  | 0, code, offset, _ => if offset < code.length then throw .outOfFuel else pure ()
  | budget + 1, code, offset, current =>
    match code[offset]? with
    | none => pure ()
    | some b => do
      match ← dispatch ctx code offset current origin b with
      | .goto next current => runFrom ctx origin budget code next current
      | .call body entity next current => do
        runFrom ctx entity budget body 0 entity
        runFrom ctx origin budget code next current

/-- Runs an expression for an entity. -/
def run (ctx : EvalContext) (budget : Nat) (code : Expression) (entity : EntityId) : Eval Unit :=
  runFrom ctx entity budget code 0 entity

/-- **Evaluates an expression**: runs it and pops its result. -/
def eval (ctx : EvalContext) (budget : Nat) (code : Expression) (entity : EntityId) :
    Eval Value := do
  run ctx budget code entity
  pop

end TickScript.Eval
