import TickScript.Proofs.Action
import TickScript.Proofs.Eval.Step

/-! # Plain instructions

    A plain instruction only computes: it is no run, no redirect and no jump.  Whatever it does,
    if it does not fault it goes on behind its operand and with the origin as the current entity
    (`ends_plain`), so a redirect lasts for one instruction.
-/

namespace TickScript

open Expression (Holds)

namespace Opcode

/-- Whether the opcode only computes: it is no run, no redirect and no jump. -/
def isPlain : Opcode → Bool
  | .run | .runUnredirected | .redirect _ | .jumpShort _ | .jumpIfFailed | .jumpLong _ => false
  | _ => true

/-- **The size of the operand**, given the bytes behind the opcode.  Behind a page stands its
    operation, which may have an operand of its own. -/
def operandSize (o : Opcode) (rest : Bytes) : Nat :=
  match o with
  | .page p => 1 + ((rest.head?.bind (ListingLine.pageOp? p)).map (·.2.width)).getD 0
  | o => o.operand.width

/-- The size of a page operation with the given byte. -/
theorem operandSize_page {p : Page} {byte : UInt8} {rest : Bytes}
    (h : rest.head? = some byte) :
    (page p).operandSize rest = 1 + ((ListingLine.pageOp? p byte).map (·.2.width)).getD 0 := by
  simp only [operandSize, h, Option.bind_some]

/-- An operand is as long with more bytes behind it. -/
theorem operandSize_append {o : Opcode} {operands : Bytes} (after : Bytes)
    (whole : operands.length = o.operandSize operands) :
    o.operandSize (operands ++ after) = operands.length := by
  cases o with
  | page p =>
    cases operands with
    | nil => simp [operandSize] at whole
    | cons b rest => exact whole.symm
  | _ => exact whole.symm

theorem operandSize_le (o : Opcode) (rest : Bytes) : o.operandSize rest ≤ 9 := by
  have width (operand : Operand) : operand.width ≤ 8 := by cases operand <;> decide
  unfold operandSize
  split
  · rename_i p
    cases rest.head?.bind (ListingLine.pageOp? p) with
    | none => simp
    | some op =>
      have := width op.2
      simp only [Option.map_some, Option.getD_some]
      omega
  · exact Nat.le_succ_of_le (width _)

end Opcode

namespace Eval

variable {ctx : EvalContext} {code : Expression} {offset : Nat} {current origin : EntityId}
  {b : Bench}

/-! ## Pages -/

theorem head?_drop_of_uint8At {byte : UInt8} (read : code.uint8At offset = .ok byte) :
    (code.drop offset).head? = some byte := by
  unfold Expression.uint8At at read
  split at read
  · rename_i found
    rw [List.head?_drop, found, Except.ok.inj read]
  · cases read

theorem ends_constantOp {byte : UInt8} (read : code.uint8At offset = .ok byte) :
    Ends (constantOp ctx code offset current origin) b
      (fun next _ => next = offset + (Opcode.page .constants).operandSize (code.drop offset))
      fun _ _ => True := by
  rw [Opcode.operandSize_page (head?_drop_of_uint8At read)]
  simp only [constantOp, read, ListingLine.pageOp?]
  refine Ends.step (a := byte) (t := b) rfl ?_
  cases ConstantOp.ofByte? byte with
  | none => trivial
  | some op =>
    refine Ends.last fun _ _ => Ends.last fun _ _ => ?_
    cases op with
    | named => exact Ends.last fun _ _ => Ends.last fun _ _ => Ends.last fun _ _ => Ends.pure rfl
    | _ => exact Ends.last fun _ _ => Ends.pure rfl

theorem ends_storeOp {byte : UInt8} (read : code.uint8At offset = .ok byte) :
    Ends (storeOp ctx code offset current) b
      (fun next _ => next = offset + (Opcode.page .stores).operandSize (code.drop offset))
      fun _ _ => True := by
  rw [Opcode.operandSize_page (head?_drop_of_uint8At read)]
  simp only [storeOp, read, ListingLine.pageOp?]
  refine Ends.step (a := byte) (t := b) rfl ?_
  cases StoreOp.ofByte? byte with
  | none => trivial
  | some op =>
    refine Ends.last fun _ _ => ?_
    cases op <;> exact Ends.last fun _ _ => Ends.pure rfl

theorem ends_extendedOp {byte : UInt8} (read : code.uint8At offset = .ok byte) :
    Ends (extendedOp ctx code offset current origin) b
      (fun next _ => next = offset + (Opcode.page .extended).operandSize (code.drop offset))
      fun _ _ => True := by
  rw [Opcode.operandSize_page (head?_drop_of_uint8At read)]
  simp only [extendedOp, read, ListingLine.pageOp?]
  refine Ends.step (a := byte) (t := b) rfl ?_
  cases ExtendedOp.ofByte? byte with
  | none => trivial
  | some op =>
    cases op with
    | clamp | lerp => exact Ends.last fun _ _ => Ends.last fun _ _ => Ends.last fun _ _ => Ends.pure rfl
    | randomRange | getName =>
      exact Ends.last fun _ _ => Ends.last fun _ _ => Ends.last fun _ _ => Ends.last fun _ _ =>
        Ends.pure rfl
    | number | spritePriority => exact Ends.last fun _ _ => Ends.last fun _ _ => Ends.pure rfl
    | _ => exact Ends.last fun _ _ => Ends.pure rfl

/-! ## All plain instructions -/

/-- An instruction that computes where to go on. -/
theorem ends_goto {x : Eval Nat} {stop : Nat}
    (h : Ends x b (fun next _ => next = stop) fun _ _ => True) :
    Ends (do return .goto (← x) origin) b (fun c _ => c = Continuation.goto stop origin)
      fun _ _ => True :=
  Ends.bind (h.mono (fun _ _ same => Ends.pure (congrArg (Continuation.goto · origin) same))
    fun _ _ _ => trivial)

/-- **A plain instruction goes on behind its operand**, with the origin as the current entity. -/
theorem ends_plain {o : Opcode} (plain : o.isPlain) :
    Ends (instruction ctx code offset current origin o) b
      (fun c _ => c = .goto (offset + o.operandSize (code.drop offset)) origin)
      fun _ _ => True := by
  cases o with
  | page p =>
    cases read : code.uint8At offset with
    | error f =>
      cases p <;> simp only [instruction, constantOp, storeOp, extendedOp, read] <;> trivial
    | ok byte =>
      cases p with
      | constants => exact ends_goto (ends_constantOp read)
      | stores => exact ends_goto (ends_storeOp read)
      | extended => exact ends_goto (ends_extendedOp read)
  | run | runUnredirected | redirect | jumpShort | jumpIfFailed | jumpLong => cases plain
  | redirectReset => exact Ends.pure rfl
  | literal form => cases form <;> exact Ends.last fun _ _ => Ends.last fun _ _ => Ends.pure rfl
  | entityVar | random | field =>
    exact Ends.last fun _ _ => Ends.last fun _ _ => Ends.pure rfl
  | windowSlot | ifElse | stateTypeIs | moveTypeIs | prevMoveTypeIs =>
    exact Ends.last fun _ _ => Ends.last fun _ _ => Ends.last fun _ _ => Ends.pure rfl
  | _ => exact Ends.last fun _ _ => Ends.pure rfl

/-- **One plain instruction of a run.** -/
theorem runFrom_plain {o : Opcode} {operands : Bytes} (budget : Nat)
    (held : Holds code offset (o.toByte :: operands)) (plain : o.isPlain)
    (whole : operands.length = o.operandSize operands) :
    runFrom ctx origin (budget + 1) code offset current b =
      (do
        let _ ← dispatch ctx code offset current origin o.toByte
        runFrom ctx origin budget code (offset + 1 + operands.length) origin) b := by
  have size : o.operandSize (code.drop (offset + 1)) = operands.length := by
    obtain ⟨after, rest⟩ := held.tail.drop
    rw [rest, Opcode.operandSize_append after whole]
  have ends : Ends (instruction ctx code (offset + 1) current origin o) (b.counted o)
      (fun c _ => c = .goto (offset + 1 + o.operandSize (code.drop (offset + 1))) origin)
      fun _ _ => True := ends_plain plain
  rw [size] at ends
  have counted : dispatch ctx code offset current origin o.toByte b =
      instruction ctx code (offset + 1) current origin o (b.counted o) :=
    dispatch_of_known (Opcode.ofByte?_toByte o) b
  rw [runFrom_instruction budget held]
  -- a fault ends both sides alike; otherwise the place to go on is known
  unfold Ends at ends
  split at ends
  · rename_i c t run
    rw [bind_of_ok run, bind_of_ok (counted.trans run), ends]
    rfl
  · rename_i f t run
    rw [bind_of_error run, bind_of_error (counted.trans run)]

end Eval
end TickScript
