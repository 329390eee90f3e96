import TickScript.Bytecode.Operand

/-! # Argument blocks

    The arguments of an effect are a sequence of records, each a tag and some expressions:

        tag: 1 byte  count: 1 byte  (length: 4 bytes, expression) × count

    Records are visited in order, and the visitor may decline to go on.  A block that breaks off
    inside a record is malformed at the start of that record, which shows only when the visit
    gets there.
-/

namespace TickScript

/-- **One record of arguments.** -/
structure ArgRecord where
  tag : UInt8
  expressions : List Expression
  deriving DecidableEq

/-- **Argument block**: the bytes of its records. -/
abbrev ArgBlock := Bytes

namespace ArgRecord

/-- An expression behind its length. -/
def expressionBytes (e : Expression) : Bytes := Bytes.ofInt32 (Int32.ofNat e.length) ++ e

/-- The bytes of a record. -/
def toBytes (r : ArgRecord) : Bytes :=
  r.tag :: UInt8.ofNat r.expressions.length :: r.expressions.flatMap expressionBytes

/-- `count` expressions at the start of the bytes, and what follows them. -/
def expressions? : (count : Nat) → Bytes → Option (List Expression × Bytes)
  | 0, b => some ([], b)
  | count + 1, b =>
    match Expression.nestedAt b 0 with
    | .error _ => none
    | .ok (e, next) => (expressions? count (b.drop next)).map fun r => (e :: r.1, r.2)

/-- The record at the start of the bytes, and what follows it. -/
def ofBytes? : Bytes → Option (ArgRecord × Bytes)
  | tag :: count :: rest =>
    (expressions? count.toNat rest).map fun r => (⟨tag, r.1⟩, r.2)
  | _ => none

theorem length_expressions? {count : Nat} {b rest : Bytes} {es : List Expression}
    (h : expressions? count b = some (es, rest)) : rest.length ≤ b.length := by
  induction count generalizing b es with
  | zero => cases h; exact Nat.le_refl _
  | succ count ih =>
    unfold expressions? at h
    split at h
    · cases h
    · rename_i e next _
      cases hr : expressions? count (b.drop next) with
      | none => simp [hr] at h
      | some r =>
        simp only [hr, Option.map_some, Option.some.injEq, Prod.mk.injEq] at h
        have := ih (show expressions? count (b.drop next) = some (r.1, rest) by rw [hr, ← h.2])
        rw [List.length_drop] at this
        omega

/-- A record is at least two bytes long. -/
theorem length_ofBytes? {b rest : Bytes} {r : ArgRecord} (h : ofBytes? b = some (r, rest)) :
    rest.length + 2 ≤ b.length := by
  unfold ofBytes? at h
  split at h
  · rename_i tag count tail
    cases hr : expressions? count.toNat tail with
    | none => simp [hr] at h
    | some e =>
      simp only [hr, Option.map_some, Option.some.injEq, Prod.mk.injEq] at h
      have := length_expressions? (show expressions? count.toNat tail = some (e.1, rest) by
        rw [hr, ← h.2])
      simp only [List.length_cons]
      omega
  · cases h

/-- Expression `n` of the record. -/
def expression (r : ArgRecord) (n : Nat) : Except Fault Expression :=
  match r.expressions[n]? with
  | some e => .ok e
  | none => .error (.missingArgument r.tag (n + 1))

end ArgRecord

namespace ArgBlock

/-- Appends a record. -/
def push (b : ArgBlock) (r : ArgRecord) : ArgBlock := b ++ r.toBytes

/-- The block of the records in order. -/
def ofRecords (rs : List ArgRecord) : ArgBlock := rs.flatMap ArgRecord.toBytes

/-- **What a visit meets**: the whole records in order, and where the block is malformed. -/
structure Reading where
  records : List ArgRecord
  malformedAt : Option Nat
  deriving DecidableEq

/-- Reads the records from an offset on, given the bytes there. -/
def readFrom (offset : Nat) (b : Bytes) : Reading :=
  if b = [] then ⟨[], none⟩
  else match h : ArgRecord.ofBytes? b with
    | none => ⟨[], some offset⟩
    | some (r, rest) =>
      have : rest.length + 2 ≤ b.length := ArgRecord.length_ofBytes? h
      let tail := readFrom (offset + (b.length - rest.length)) rest
      { tail with records := r :: tail.records }
  termination_by b.length

/-- Reads a block. -/
def read (b : ArgBlock) : Reading := readFrom 0 b

/-- Visits records until the visitor declines; whether it never did. -/
def visitRecords [Monad m] (visit : ArgRecord → m Bool) : List ArgRecord → m Bool
  | [] => pure true
  | r :: rest => do if ← visit r then visitRecords visit rest else pure false

/-- **Visits the records of a block** until the visitor declines; whether it never did. -/
def walk [Monad m] [MonadExcept Fault m] (b : ArgBlock) (visit : ArgRecord → m Bool) :
    m Bool := do
  let reading := read b
  if ← visitRecords visit reading.records then
    match reading.malformedAt with
    | some offset => throw (.malformedArgs offset)
    | none => pure true
  else pure false

end ArgBlock
end TickScript
