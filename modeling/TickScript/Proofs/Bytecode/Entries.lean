import TickScript.Bytecode.Listing

/-! # The entries of a listing

    A listing has a line for each instruction that it finds in an expression and in the bodies of
    its nested runs.  `Expression.entries` says of each line how deep the expression is nested,
    at which offset the instruction stands and which opcode it has; written out in order, the
    entries are the listing (`listing_eq_join`).
-/

namespace TickScript

/-- **An entry of a listing.** -/
structure ListingEntry where
  /-- How many nested runs are around the expression. -/
  depth : Nat
  /-- Where the instruction stands in its expression. -/
  offset : Nat
  /-- There is none for a byte that is no opcode. -/
  opcode : Option Opcode
  text : String
  deriving DecidableEq

namespace ListingEntry

/-- The line of an entry. -/
def line (e : ListingEntry) : String :=
  String.ofList (List.replicate (2 * e.depth) ' ') ++ ListingLine.place e.offset ++ "  " ++
    e.text ++ "\n"

/-- Which instruction the entry is about. -/
def position (e : ListingEntry) : Nat × Nat × Option Opcode := (e.depth, e.offset, e.opcode)

end ListingEntry

namespace Expression

/-- The entries from an offset on, given the bytes there. -/
def entriesFrom (depth offset : Nat) : Bytes → List ListingEntry
  | [] => []
  | b :: rest =>
    let line := ListingLine.ofByte b (offset + 1) rest
    let inner := match h : line.body with
      | some body =>
        have : body.length ≤ rest.length := ListingLine.length_body_le h
        entriesFrom (depth + 1) 0 body
      | none => []
    ⟨depth, offset, Opcode.ofByte? b, line.text⟩ ::
      (inner ++ entriesFrom depth (offset + 1 + line.size) (rest.drop line.size))
  termination_by code => code.length
  decreasing_by
    all_goals simp only [List.length_cons, List.length_drop]; omega

/-- **The entries of the listing of an expression**, in order. -/
def entries (code : Expression) : List ListingEntry := entriesFrom 0 0 code

/-- The entries of the expression that an instruction runs. -/
def innerEntries (depth : Nat) (body : Option Expression) : List ListingEntry :=
  body.elim [] (entriesFrom (depth + 1) 0)

variable {depth offset : Nat} {b : UInt8} {rest : Bytes}

theorem entriesFrom_cons :
    entriesFrom depth offset (b :: rest) =
      let line := ListingLine.ofByte b (offset + 1) rest
      ⟨depth, offset, Opcode.ofByte? b, line.text⟩ ::
        (innerEntries depth line.body ++
          entriesFrom depth (offset + 1 + line.size) (rest.drop line.size)) := by
  rw [entriesFrom]
  dsimp only
  split
  · rename_i runs
    rw [runs]
    rfl
  · rename_i runs
    rw [runs]
    rfl

theorem listFrom_eq_join (depth offset : Nat) (code : Bytes) :
    listFrom depth offset code = String.join ((entriesFrom depth offset code).map (·.line)) := by
  -- along the listing, which recurses into a nested run before it goes on behind it
  induction depth, offset, code using listFrom.induct with
  | case1 depth offset =>
    rw [listFrom, entriesFrom]
    rfl
  | case2 depth offset b rest line inner others =>
    rw [listFrom, entriesFrom_cons]
    simp only [List.map_cons, List.map_append, String.join_cons, String.join_append,
      ← String.append_assoc]
    rw [← others]
    congr 1
    split
    · rename_i body runs
      rw [inner body runs, runs]
      rfl
    · rename_i runs
      rw [runs]
      rfl

/-- **A listing is its entries, written out.** -/
theorem listing_eq_join (code : Expression) :
    code.listing = String.join (code.entries.map (·.line)) :=
  listFrom_eq_join 0 0 code

end Expression

/-! ## Lines of opcodes -/

namespace ListingLine

variable {name : String} {operand : Operand} {offset : Nat} {rest : Bytes}

theorem plain_starts (name : String) (width : Nat) (operand : Except Fault String) :
    ∃ text, (plain name width operand).text = name ++ text := by
  cases operand with
  | ok text => exact ⟨text, rfl⟩
  | error f => exact ⟨" <truncated>", rfl⟩

theorem paged_starts (name : String) (p : Page) (rest : Bytes) :
    ∃ text, (paged name p rest).text = name ++ text := by
  unfold paged
  split
  · exact ⟨" <truncated>", rfl⟩
  · split
    · exact ⟨_, by simp only [String.append_assoc]; rfl⟩
    · split
      · exact ⟨_, by simp only [String.append_assoc]; rfl⟩
      · exact ⟨" <truncated>", rfl⟩
    · exact ⟨_, by simp only [String.append_assoc]; rfl⟩

theorem single_starts (name : String) (operand : Operand) (offset : Nat) (rest : Bytes) :
    ∃ text, (single name operand offset rest).text = name ++ text := by
  cases operand with
  | none | page => exact ⟨"", String.append_empty.symm⟩
  | nested =>
    unfold single
    dsimp only
    split
    · exact ⟨_, by simp only [String.append_assoc]; rfl⟩
    · exact ⟨" <truncated>", rfl⟩
  | uint8 | int8 | int32 | int64 | single | jump8 | jump32 => exact plain_starts name _ _

@[simp] theorem size_plain (name : String) (width : Nat) (operand : Except Fault String) :
    (plain name width operand).size = width := by
  cases operand with
  | ok text => rfl
  | error f => rfl

theorem pageOp?_operand {p : Page} {byte : UInt8} {name : String} {operand : Operand}
    (known : pageOp? p byte = some (name, operand)) : operand = .none ∨ operand = .int32 := by
  unfold pageOp? at known
  split at known
  all_goals
    obtain ⟨op, -, same⟩ := Option.map_eq_some_iff.mp known
    obtain ⟨-, rfl⟩ := Prod.mk.inj same
    cases op <;> simp [ConstantOp.operand, StoreOp.operand, ExtendedOp.operand]

/-- A page operation whose operand is there is passed over as a whole. -/
theorem size_paged {p : Page} {byte : UInt8} {opName name : String} {operand : Operand}
    {rest : Bytes} (known : pageOp? p byte = some (opName, operand))
    (present : operand = .int32 → ∃ i, Expression.int32At rest 0 = .ok i) :
    (paged name p (byte :: rest)).size = 1 + operand.width := by
  -- only an operand of four bytes can be cut short
  rcases pageOp?_operand known with rfl | rfl
  · simp only [paged, known]
    rfl
  · obtain ⟨i, read⟩ := present rfl
    simp only [paged, known, read]
    rfl

/-- Operands of fixed width are passed over, and nothing is run. -/
theorem single_of_fixed (nested : operand ≠ .nested) (page : operand ≠ .page) :
    (single name operand offset rest).size = operand.width ∧
      (single name operand offset rest).body = none := by
  cases operand with
  | none => exact ⟨rfl, rfl⟩
  | page => exact absurd rfl page
  | nested => exact absurd rfl nested
  | uint8 | int8 | int32 | int64 | single | jump8 | jump32 => exact ⟨size_plain .., body_plain ..⟩

/-- The line of an opcode that is no page. -/
theorem ofOpcode_eq_single {o : Opcode} (page : o.operand ≠ .page) (offset : Nat) (rest : Bytes) :
    ofOpcode o offset rest = single o.name o.operand offset rest := by
  cases o with
  | page p => exact absurd rfl page
  | _ => rfl

/-- **The line of an opcode begins with its name.** -/
theorem ofOpcode_starts (o : Opcode) (offset : Nat) (rest : Bytes) :
    ∃ text, (ofOpcode o offset rest).text = o.name ++ text := by
  cases o with
  | page p => exact paged_starts _ p rest
  | _ => exact single_starts _ _ offset rest

end ListingLine

namespace Expression

/-- The text of an entry begins with the name of its opcode. -/
theorem entriesFrom_starts {depth offset : Nat} {code : Bytes} {e : ListingEntry} {o : Opcode}
    (i : e ∈ entriesFrom depth offset code) (named : e.opcode = some o) :
    ∃ text, e.text = o.name ++ text := by
  induction depth, offset, code using entriesFrom.induct with
  | case1 depth offset =>
    rw [entriesFrom] at i
    cases i
  | case2 depth offset b rest line inner others =>
    rw [entriesFrom_cons] at i
    rcases List.mem_cons.mp i with rfl | i
    · have named : Opcode.ofByte? b = some o := named
      show ∃ text, (ListingLine.ofByte b (offset + 1) rest).text = o.name ++ text
      simp only [ListingLine.ofByte, named]
      exact ListingLine.ofOpcode_starts o (offset + 1) rest
    · rcases List.mem_append.mp i with i | i
      · cases runs : (ListingLine.ofByte b (offset + 1) rest).body with
        | none =>
          rw [runs] at i
          cases i
        | some body =>
          rw [runs] at i
          exact inner body runs i
      · exact others i

end Expression
end TickScript
