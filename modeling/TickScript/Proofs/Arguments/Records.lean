import TickScript.Arguments
import TickScript.Proofs.Bytecode.Reading

/-! # Argument blocks are read as they were written

    Reading a part of a block gives a value exactly if the part is what writing that value gives,
    whatever follows:

        nested expression   nestedAt_eq_ok_iff        its length fits a signed word
        expressions         expressions?_eq_some_iff  as many as asked for
        record              ofBytes?_eq_some_iff      `Encodable`

    So every block is some whole records and then nothing, or bytes that start no record
    (`exists_records`), and both are what a visit meets (`read_append`).
-/

namespace TickScript

variable {b rest : Bytes} {e : Expression} {r : ArgRecord} {rs : List ArgRecord}

namespace ArgRecord

/-! ## Records -/

theorem ofNat_toNat_of_nonneg {length : Int32} (nonneg : 0 ≤ length) :
    Int32.ofNat length.toInt.toNat = length := by
  have value : 0 ≤ length.toInt := Int32.le_iff_toInt_le.mp nonneg
  rw [← Int32.ofInt_eq_ofNat, Int.toNat_of_nonneg value, Int32.ofInt_toInt]

/-- What is read as a nested expression stands behind its length. -/
theorem of_nestedAt {next : Nat} (h : Expression.nestedAt b 0 = .ok (e, next)) :
    ∃ rest, e.length < 0x80000000 ∧ b = expressionBytes e ++ rest ∧ next = 4 + e.length := by
  unfold Expression.nestedAt Expression.int32At Expression.operandAt at h
  by_cases short : b.length < 0 + 4
  · rw [if_neg (Nat.not_le.mpr short)] at h
    cases h
  rw [if_pos (Nat.not_lt.mp short)] at h
  simp only [Functor.map, Except.map, bind, Except.bind] at h
  split at h
  · rename_i fits
    obtain ⟨nonneg, inside⟩ := fits
    simp only [Except.ok.injEq, Prod.mk.injEq] at h
    obtain ⟨rfl, rfl⟩ := h
    simp only [List.drop_zero, Nat.zero_add] at nonneg inside short ⊢
    -- the four bytes ahead are the word that is written for the length
    have four : (b.take 4).length = 4 := by
      rw [List.length_take]
      omega
    have spelt := Bytes.ofInt32_toInt32 four
    generalize Bytes.toInt32 (b.take 4) = length at nonneg inside spelt ⊢
    have bound : length.toInt < 0x80000000 := length.toInt_lt
    have size : ((b.drop 4).take length.toInt.toNat).length = length.toInt.toNat := by
      rw [List.length_take, List.length_drop]
      omega
    refine ⟨(b.drop 4).drop length.toInt.toNat, ?_, ?_, ?_⟩
    · rw [size]
      omega
    · rw [expressionBytes, size, ofNat_toNat_of_nonneg nonneg, spelt, List.append_assoc,
        List.take_append_drop, List.take_append_drop]
    · rw [size]
  · cases h

/-- **A nested expression is read exactly if it stands behind its length.** -/
theorem nestedAt_eq_ok_iff {next : Nat} :
    Expression.nestedAt b 0 = .ok (e, next) ↔
      ∃ rest, e.length < 0x80000000 ∧ b = expressionBytes e ++ rest ∧ next = 4 + e.length := by
  constructor
  · exact of_nestedAt
  · rintro ⟨rest, small, rfl, rfl⟩
    have held : Expression.Holds (expressionBytes e ++ rest) 0 (e.lengthBytes ++ e) :=
      ⟨[], rest, rfl, rfl⟩
    rw [held.nestedAt small, Nat.zero_add]

theorem length_expressionBytes (e : Expression) : (expressionBytes e).length = 4 + e.length := by
  simp [expressionBytes]

theorem expressions?_eq_some_iff {count : Nat} {es : List Expression} :
    expressions? count b = some (es, rest) ↔
      es.length = count ∧ (∀ e ∈ es, e.length < 0x80000000) ∧
        b = es.flatMap expressionBytes ++ rest := by
  induction count generalizing b es with
  | zero =>
    constructor
    · intro h
      cases h
      simp
    · rintro ⟨none, -, rfl⟩
      cases List.length_eq_zero_iff.mp none
      rfl
  | succ count ih =>
    constructor
    · intro h
      unfold expressions? at h
      split at h
      · cases h
      · rename_i e next read
        obtain ⟨behind, small, rfl, rfl⟩ := nestedAt_eq_ok_iff.mp read
        obtain ⟨⟨others, last⟩, later, same⟩ := Option.map_eq_some_iff.mp h
        cases same
        -- what follows the first expression is read by the same rule
        rw [← length_expressionBytes, List.drop_left] at later
        obtain ⟨size, smalls, rfl⟩ := ih.mp later
        simpa [size, small] using smalls
    · rintro ⟨size, smalls, rfl⟩
      cases es with
      | nil => cases size
      | cons e others =>
        obtain ⟨small, smalls⟩ := List.forall_mem_cons.mp smalls
        rw [List.flatMap_cons, List.append_assoc]
        have read := nestedAt_eq_ok_iff.mpr ⟨others.flatMap expressionBytes ++ rest, small, rfl, rfl⟩
        have later : expressions? count (others.flatMap expressionBytes ++ rest) =
            some (others, rest) := ih.mpr ⟨Nat.succ.inj size, smalls, rfl⟩
        rw [expressions?, read]
        simp only []
        rw [← length_expressionBytes, List.drop_left, later]
        rfl

/-- **The record can be written**: its octet holds the count and each word the length. -/
structure Encodable (r : ArgRecord) : Prop where
  count : r.expressions.length ≤ 255
  lengths : ∀ e ∈ r.expressions, e.length < 0x80000000

instance (r : ArgRecord) : Decidable r.Encodable :=
  decidable_of_iff (r.expressions.length ≤ 255 ∧ ∀ e ∈ r.expressions, e.length < 0x80000000)
    ⟨fun h => ⟨h.1, h.2⟩, fun h => ⟨h.count, h.lengths⟩⟩

/-- **A record is read exactly if its bytes are there.** -/
theorem ofBytes?_eq_some_iff :
    ofBytes? b = some (r, rest) ↔ r.Encodable ∧ b = r.toBytes ++ rest := by
  constructor
  · intro h
    unfold ofBytes? at h
    split at h
    · rename_i tag count behind
      obtain ⟨⟨es, last⟩, read, same⟩ := Option.map_eq_some_iff.mp h
      cases same
      obtain ⟨size, small, rfl⟩ := expressions?_eq_some_iff.mp read
      have octet : UInt8.ofNat es.length = count := by
        rw [size]
        exact UInt8.ofNat_toNat
      refine ⟨⟨?_, small⟩, ?_⟩
      · rw [size]
        exact Nat.le_of_lt_succ count.toNat_lt
      · simp [toBytes, octet]
    · cases h
  · rintro ⟨encodable, rfl⟩
    have octet : (UInt8.ofNat r.expressions.length).toNat = r.expressions.length := by
      rw [UInt8.toNat_ofNat']
      exact Nat.mod_eq_of_lt (Nat.lt_succ_of_le encodable.count)
    have read : expressions? (UInt8.ofNat r.expressions.length).toNat
        (r.expressions.flatMap expressionBytes ++ rest) = some (r.expressions, rest) :=
      expressions?_eq_some_iff.mpr ⟨octet.symm, encodable.lengths, rfl⟩
    rw [toBytes, List.cons_append, List.cons_append, ofBytes?, read]
    rfl

theorem toBytes_ne_nil (r : ArgRecord) (rest : Bytes) : r.toBytes ++ rest ≠ [] := by
  simp [toBytes]

end ArgRecord

namespace ArgBlock

/-! ## Blocks -/

theorem foldl_push (b : ArgBlock) (rs : List ArgRecord) :
    rs.foldl push b = b ++ ofRecords rs := by
  induction rs generalizing b with
  | nil => simp [ofRecords]
  | cons r rs ih => simp [ih, push, ofRecords]

theorem ofRecords_append (front back : List ArgRecord) :
    ofRecords (front ++ back) = ofRecords front ++ ofRecords back := List.flatMap_append

theorem readFrom_nil (offset : Nat) : readFrom offset [] = ⟨[], none⟩ := by
  rw [readFrom, if_pos rfl]

/-- A block that breaks off inside a record. -/
theorem readFrom_broken (offset : Nat) (more : b ≠ []) (broken : ArgRecord.ofBytes? b = none) :
    readFrom offset b = ⟨[], some offset⟩ := by
  rw [readFrom, if_neg more]
  split
  · rfl
  · rename_i read
    rw [broken] at read
    cases read

theorem readFrom_record (offset : Nat) (encodable : r.Encodable) (rest : Bytes) :
    readFrom offset (r.toBytes ++ rest) =
      { readFrom (offset + r.toBytes.length) rest with
        records := r :: (readFrom (offset + r.toBytes.length) rest).records } := by
  have whole : ArgRecord.ofBytes? (r.toBytes ++ rest) = some (r, rest) :=
    ArgRecord.ofBytes?_eq_some_iff.mpr ⟨encodable, rfl⟩
  rw [readFrom, if_neg (r.toBytes_ne_nil rest)]
  split
  · rename_i broken
    rw [whole] at broken
    cases broken
  · rename_i read
    rw [whole] at read
    cases read
    have size : (r.toBytes ++ rest).length - rest.length = r.toBytes.length := by
      rw [List.length_append, Nat.add_sub_cancel]
    rw [size]

theorem readFrom_append (offset : Nat) (encodable : ∀ r ∈ rs, r.Encodable) (rest : Bytes) :
    readFrom offset (ofRecords rs ++ rest) =
      { readFrom (offset + (ofRecords rs).length) rest with
        records := rs ++ (readFrom (offset + (ofRecords rs).length) rest).records } := by
  induction rs generalizing offset with
  | nil => rfl
  | cons r rs ih =>
    obtain ⟨first, others⟩ := List.forall_mem_cons.mp encodable
    have split : ofRecords (r :: rs) ++ rest = r.toBytes ++ (ofRecords rs ++ rest) := by
      simp [ofRecords]
    have size : offset + (ofRecords (r :: rs)).length =
        offset + r.toBytes.length + (ofRecords rs).length := by
      simp [ofRecords, Nat.add_assoc]
    rw [split, readFrom_record offset first, ih (offset + r.toBytes.length) others, size]
    rfl

/-- **Every block is whole records, and then nothing or bytes that start no record.** -/
theorem exists_records (b : ArgBlock) :
    ∃ rs rest, b = ofRecords rs ++ rest ∧ (∀ r ∈ rs, r.Encodable) ∧
      (rest = [] ∨ rest ≠ [] ∧ ArgRecord.ofBytes? rest = none) := by
  by_cases none : b = []
  · exact ⟨[], b, rfl, by simp, .inl none⟩
  -- on the length: a record is at least two bytes long
  cases read : ArgRecord.ofBytes? b with
  | none => exact ⟨[], b, rfl, by simp, .inr ⟨none, read⟩⟩
  | some r =>
    have shorter := ArgRecord.length_ofBytes? read
    obtain ⟨encodable, split⟩ := ArgRecord.ofBytes?_eq_some_iff.mp read
    obtain ⟨rs, rest, later, encodables, ends⟩ := exists_records r.2
    refine ⟨r.1 :: rs, rest, ?_, List.forall_mem_cons.mpr ⟨encodable, encodables⟩, ends⟩
    rw [split, later]
    simp [ofRecords]
  termination_by b.length

/-- **What a visit meets**, for a block of which nothing is left over or only bytes that start no
    record. -/
theorem read_append (encodable : ∀ r ∈ rs, r.Encodable)
    (ends : rest = [] ∨ rest ≠ [] ∧ ArgRecord.ofBytes? rest = none) :
    read (ofRecords rs ++ rest) =
      ⟨rs, if rest = [] then none else some (ofRecords rs).length⟩ := by
  rw [read, readFrom_append 0 encodable, Nat.zero_add]
  rcases ends with rfl | ⟨more, broken⟩
  · rw [readFrom_nil, List.append_nil]
    rfl
  · rw [readFrom_broken _ more broken, List.append_nil, if_neg more]

/-- Of records that were written nothing is left over. -/
theorem read_ofRecords (encodable : ∀ r ∈ rs, r.Encodable) : read (ofRecords rs) = ⟨rs, none⟩ := by
  have whole := read_append encodable (.inl rfl)
  rwa [List.append_nil, if_pos rfl] at whole

end ArgBlock
end TickScript
