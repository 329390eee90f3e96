import TickScript.Bytecode.Emit
import TickScript.Bytecode.Listing
import TickScript.Proofs.Words

/-! # Reading back what was assembled

    Assembled parts are found again wherever they are embedded.  `Holds code offset part` says
    that the code has the part at the offset, whatever stands before and behind it; each operand
    reader is then described by what it gives where its operand is held.

    * Words are read back by value (`Bytes.toInt32_ofInt32`), so the signed operands are read
      back exactly.
    * A nested expression is read back with the offset behind it, as long as its length fits the
      prefix (`Holds.nestedAt`).
    * What is read at an offset is what is read at the start of the rest of the code from there
      (`nestedAt_drop`).
-/

namespace TickScript

theorem StoreOp.ofByte?_toByte (op : StoreOp) : ofByte? op.toByte = some op := by
  cases op with
  | set bank => cases bank <;> rfl
  | add bank => cases bank <;> rfl
  | setName => rfl
  | addName => rfl

theorem ExtendedOp.ofByte?_toByte (op : ExtendedOp) : ofByte? op.toByte = some op := by
  cases op with
  | distance mark axis => cases mark <;> cases axis <;> rfl
  | depth d => cases d <;> rfl
  | number f => cases f <;> rfl
  | _ => rfl

namespace Expression

/-! ## Parts of code -/

/-- **The code holds a part at an offset**, whatever surrounds it. -/
def Holds (code : Expression) (offset : Nat) (part : Bytes) : Prop :=
  ∃ before after, code = before ++ part ++ after ∧ before.length = offset

namespace Holds

variable {code : Expression} {part first second : Bytes} {offset : Nat}

theorem intro (before part after : Bytes) :
    Holds (before ++ part ++ after) before.length part := ⟨before, after, rfl, rfl⟩

/-- All code is held by itself. -/
theorem whole (code : Expression) : Holds code 0 code := ⟨[], [], by simp, rfl⟩

theorem left (h : Holds code offset (first ++ second)) : Holds code offset first := by
  obtain ⟨before, after, rfl, rfl⟩ := h
  exact ⟨before, second ++ after, by simp, rfl⟩

theorem right (h : Holds code offset (first ++ second)) :
    Holds code (offset + first.length) second := by
  obtain ⟨before, after, rfl, rfl⟩ := h
  exact ⟨before ++ first, after, by simp, by simp⟩

theorem head {b : UInt8} (h : Holds code offset (b :: part)) : code[offset]? = some b := by
  obtain ⟨before, after, rfl, rfl⟩ := h
  simp

theorem tail {b : UInt8} (h : Holds code offset (b :: part)) : Holds code (offset + 1) part := by
  have h : Holds code offset ([b] ++ part) := h
  exact h.right

/-- A part is what the code goes on with. -/
theorem drop (h : Holds code offset part) : ∃ after, code.drop offset = part ++ after := by
  obtain ⟨before, after, rfl, rfl⟩ := h
  exact ⟨after, by simp⟩

theorem of_drop {after : Bytes} (inside : offset ≤ code.length)
    (split : code.drop offset = part ++ after) : Holds code offset part := by
  refine ⟨code.take offset, after, ?_, ?_⟩
  · rw [List.append_assoc, ← split, List.take_append_drop]
  · rw [List.length_take, Nat.min_eq_left inside]

/-- A part lies inside the code. -/
theorem le_length (h : Holds code offset part) : offset + part.length ≤ code.length := by
  obtain ⟨before, after, rfl, rfl⟩ := h
  simp

/-- A part of a part. -/
theorem trans {start : Nat} (h : Holds code offset part) (h' : Holds part start first) :
    Holds code (offset + start) first := by
  obtain ⟨before, after, rfl, rfl⟩ := h
  obtain ⟨before', after', rfl, rfl⟩ := h'
  exact ⟨before ++ before', after' ++ after, by simp, by simp⟩

theorem getElem? {i : Nat} {b : UInt8} (h : Holds code offset part) (found : part[i]? = some b) :
    code[offset + i]? = some b := by
  obtain ⟨before, after, rfl, rfl⟩ := h
  obtain ⟨inside, rfl⟩ := List.getElem?_eq_some_iff.mp found
  rw [List.append_assoc, List.getElem?_append_right (Nat.le_add_right ..), Nat.add_sub_cancel_left,
    List.getElem?_append_left inside, List.getElem?_eq_getElem inside]

/-! ## Operands -/

theorem operandAt (h : Holds code offset part) :
    code.operandAt part.length offset = .ok part := by
  obtain ⟨before, after, rfl, rfl⟩ := h
  simp [Expression.operandAt]

theorem uint8At {b : UInt8} (h : Holds code offset [b]) : code.uint8At offset = .ok b := by
  rw [Expression.uint8At, h.head]

theorem int8At {b : UInt8} (h : Holds code offset [b]) : code.int8At offset = .ok b.toInt8 := by
  rw [Expression.int8At, h.uint8At]
  rfl

theorem int32At {i : Int32} (h : Holds code offset (Bytes.ofInt32 i)) :
    code.int32At offset = .ok i := by
  have read := h.operandAt
  rw [Bytes.length_ofInt32] at read
  rw [Expression.int32At, read]
  exact congrArg Except.ok (Bytes.toInt32_ofInt32 i)

theorem int64At {i : Int64} (h : Holds code offset (Bytes.ofInt64 i)) :
    code.int64At offset = .ok i := by
  have read := h.operandAt
  rw [Bytes.length_ofInt64] at read
  rw [Expression.int64At, read]
  exact congrArg Except.ok (Bytes.toInt64_ofInt64 i)

theorem singleAt {s : Single} (h : Holds code offset s.toBytes) :
    code.singleAt offset = .ok s := by
  have read := h.operandAt
  rw [Single.length_toBytes] at read
  rw [Expression.singleAt, read]
  exact congrArg Except.ok (Single.ofBytes_toBytes s)

end Holds

/-! ## Lengths and displacements

    Both are written as signed words, so they are read back as long as their sign bit is not set. -/

@[simp] theorem length_op (o : Opcode) : (op o).length = 1 := rfl

@[simp] theorem length_lengthBytes (body : Expression) : body.lengthBytes.length = 4 :=
  Bytes.length_ofInt32 _

@[simp] theorem length_run (body : Expression) : (run body).length = body.length + 5 := by
  simp [run]
  omega

@[simp] theorem length_runUnredirected (body : Expression) :
    (runUnredirected body).length = body.length + 5 := by
  simp [runUnredirected]
  omega

@[simp] theorem length_redirectInline (o : Opcode) (read : Expression) :
    (redirectInline o read).length = read.length + 5 := by
  simp [redirectInline]
  omega

@[simp] theorem length_redirect (o : Opcode) (body : Expression) :
    (redirect o body).length = body.length + 10 := by
  simp [redirect]

namespace Holds

variable {code : Expression} {offset : Nat}

theorem nestedAt {body : Expression} (h : Holds code offset (body.lengthBytes ++ body))
    (small : body.length < 0x80000000) :
    code.nestedAt offset = .ok (body, offset + 4 + body.length) := by
  have read := h.left.int32At
  have value : (Int32.ofNat body.length).toInt = body.length := Int32.toInt_ofNat_of_lt small
  have nonneg : 0 ≤ Int32.ofNat body.length := by
    rw [Int32.le_iff_toInt_le, value]
    exact Int.natCast_nonneg _
  -- the length is read as it was written, and so many bytes do follow
  have inside := h.le_length
  obtain ⟨before, after, rfl, rfl⟩ := h
  rw [List.length_append, length_lengthBytes] at inside
  simp only [Expression.nestedAt, read, bind, Except.bind, value, Int.toNat_natCast]
  rw [if_pos ⟨nonneg, by omega⟩]
  simp [List.drop_append, List.take_append]

theorem longTargetAt {distance : Nat} (h : Holds code offset (Bytes.ofInt32 (.ofNat distance)))
    (small : distance < 0x80000000) :
    code.longTargetAt offset = .ok (offset + 4 + distance) := by
  have value : (Int32.ofNat distance).toInt = distance := Int32.toInt_ofNat_of_lt small
  have target : (offset : Int) + 4 + distance = (offset + 4 + distance : Nat) := by omega
  simp only [Expression.longTargetAt, h.int32At, bind, Except.bind, value, target]
  rw [if_pos (Int.natCast_nonneg _), Int.toNat_natCast]

end Holds

/-- A jump that is closed leads over everything emitted since it was opened. -/
theorem closeJump_openJump (o : Opcode) (code rest : Expression) :
    closeJump ((openJump o code).1 ++ rest) (openJump o code).2 =
      code ++ op o ++ Bytes.ofInt32 (.ofNat rest.length) ++ rest := by
  have size : (((openJump o code).1 ++ rest).length : Int) - ((openJump o code).2 + 4) =
      rest.length := by
    simp only [openJump, List.length_append, length_op, Bytes.length_ofInt32]
    omega
  have front : ((openJump o code).1 ++ rest).take (openJump o code).2 = code ++ op o := by
    have before : (openJump o code).2 = (code ++ op o).length := by simp [openJump]
    rw [before, openJump, List.append_assoc, List.take_left]
  have back : ((openJump o code).1 ++ rest).drop ((openJump o code).2 + 4) = rest := by
    have behind : (openJump o code).2 + 4 = (openJump o code).1.length := by simp [openJump]
    rw [behind, List.drop_left]
  rw [closeJump, front, back]
  rw [size, Int32.ofInt_eq_ofNat]

/-! ## Operands at the start of what is left -/

variable {code : Expression} {offset : Nat}

theorem drop_of_getElem? {b : UInt8} (found : code[offset]? = some b) :
    code.drop offset = b :: code.drop (offset + 1) := by
  obtain ⟨inside, rfl⟩ := List.getElem?_eq_some_iff.mp found
  exact List.drop_eq_getElem_cons inside

theorem drop_of_uint8At {b : UInt8} (read : code.uint8At offset = .ok b) :
    code.drop offset = b :: code.drop (offset + 1) := by
  unfold uint8At at read
  split at read
  case h_1 found => exact drop_of_getElem? (Except.ok.inj read ▸ found)
  case h_2 => cases read

theorem operandAt_drop {width : Nat} {part : Bytes}
    (read : code.operandAt width offset = .ok part) :
    offset + width ≤ code.length ∧ operandAt width (code.drop offset) 0 = .ok part := by
  unfold operandAt at read ⊢
  split at read
  case isTrue inside =>
    have left : 0 + width ≤ (code.drop offset).length := by
      rw [List.length_drop]
      omega
    rw [if_pos left]
    exact ⟨inside, read⟩
  case isFalse => cases read

theorem int32At_drop {i : Int32} (read : code.int32At offset = .ok i) :
    offset + 4 ≤ code.length ∧ int32At (code.drop offset) 0 = .ok i := by
  unfold int32At at read ⊢
  cases part : code.operandAt 4 offset with
  | error f =>
    rw [part] at read
    cases read
  | ok bytes =>
    obtain ⟨inside, same⟩ := operandAt_drop part
    rw [part] at read
    rw [same]
    exact ⟨inside, read⟩

/-- A word is read where its bytes are. -/
theorem holds_of_int32At {i : Int32} (read : code.int32At offset = .ok i) :
    Holds code offset (Bytes.ofInt32 i) := by
  unfold int32At operandAt at read
  by_cases inside : offset + 4 ≤ code.length
  · rw [if_pos inside] at read
    obtain rfl : Bytes.toInt32 ((code.drop offset).take 4) = i := Except.ok.inj read
    have four : ((code.drop offset).take 4).length = 4 := by
      rw [List.length_take, List.length_drop]
      omega
    rw [Bytes.ofInt32_toInt32 four]
    exact .of_drop (by omega) (List.take_append_drop 4 _).symm
  · rw [if_neg inside] at read
    cases read

theorem nestedAt_drop {body : Expression} {next : Nat}
    (read : code.nestedAt offset = .ok (body, next)) :
    ∃ size, nestedAt (code.drop offset) 0 = .ok (body, size) ∧ next = offset + size := by
  unfold nestedAt at read ⊢
  cases length : code.int32At offset with
  | error f =>
    rw [length] at read
    cases read
  | ok n =>
    obtain ⟨inside, same⟩ := int32At_drop length
    rw [length] at read
    rw [same]
    simp only [bind, Except.bind] at read ⊢
    split at read
    case isTrue fits =>
      obtain ⟨rfl, rfl⟩ := Prod.mk.inj (Except.ok.inj read)
      have left : 0 ≤ n ∧ 0 + 4 + n.toInt.toNat ≤ (code.drop offset).length := by
        rw [List.length_drop]
        exact ⟨fits.1, by omega⟩
      rw [if_pos left, List.drop_drop]
      exact ⟨_, rfl, by omega⟩
    case isFalse => cases read

end Expression
end TickScript
