import TickScript.Proofs.NameTable
import TickScript.Proofs.Save.Reading
import TickScript.Proofs.Text.Utf8
import TickScript.Proofs.Words

/-! # The save format

    A file is read exactly if it starts with

        "TKSV"  version 1: 2 bytes  kind: 1 byte  count: 4 bytes  entries

    and the data are then what the counted entries make up (`Spells`).  The relation mentions
    neither the reader nor how a table is filled: of several entries under one name the last
    counts.

    * Each part of the reader accepts its part of the format (`reads_readName`,
      `reads_readBody`, `reads_reader`).
    * Writing produces the format as long as the sizes fit their words (`spells_toBytes`).
-/

namespace TickScript.SaveData

/-! ## The format -/

/-- **The counted entries of a file, and the data they make up.**  Of the names, a later entry
    replaces an earlier one. -/
inductive Lists : SaveData → Nat → Bytes → Prop where
  | names (table : NameTable) (entries : List (String × Single)) :
      (∀ e ∈ entries, (Utf8.encode e.1).length < Nat.pow 256 4) →
      (∀ name, table.get? name = Keyed.lookup entries.reverse name) →
      Lists (.names table) entries.length (entries.flatMap nameBytes)
  | ints (values : List Int32) : Lists (.ints values) values.length (values.flatMap Bytes.ofInt32)
  | floats (values : List Single) :
      Lists (.floats values) values.length (values.flatMap Single.toBytes)

/-- **The format**: a header and the entries it counts. -/
def Spells (part : Bytes) (d : SaveData) : Prop :=
  ∃ count entries, count < Nat.pow 256 4 ∧ Lists d count entries ∧
    part = Utf8.encode "TKSV" ++ Bytes.ofWord 2 1 ++ [d.kind.code] ++ Bytes.ofWord 4 count ++
      entries

/-! ## The reader accepts the format -/

/-- The number behind a name. -/
theorem reads_number (name : String) :
    Reads (do return (name, Single.ofBytes (← take 4))) fun part e =>
      name = e.1 ∧ part = e.2.toBytes := by
  refine (Reads.takeThen 4 fun x => .pure (name, Single.ofBytes x)).congr ?_
  intro part e
  constructor
  · rintro ⟨x, _, size, rfl, rfl, rfl⟩
    rw [List.append_nil]
    exact ⟨rfl, Single.eq_toBytes_iff.mpr ⟨size, rfl⟩⟩
  · rintro ⟨rfl, rfl⟩
    refine ⟨e.2.toBytes, [], Single.length_toBytes e.2, (List.append_nil _).symm, rfl, ?_⟩
    rw [Single.ofBytes_toBytes]

/-- What follows the octets of a name. -/
theorem reads_name (offset : Nat) (name : Bytes) :
    Reads (match Utf8.decode? name with
      | none => throw (.invalidUtf8 offset)
      | some name => do return (name, Single.ofBytes (← take 4))) fun part e =>
      name = Utf8.encode e.1 ∧ part = e.2.toBytes := by
  cases read : Utf8.decode? name with
  | none =>
    refine (Reads.throw _).congr ?_
    intro part e
    simp [← Utf8.decode?_eq_some_iff, read]
  | some s =>
    refine (reads_number s).congr ?_
    intro part e
    simp [← Utf8.decode?_eq_some_iff, read]

theorem reads_readName :
    Reads readName fun part e =>
      (Utf8.encode e.1).length < Nat.pow 256 4 ∧ part = nameBytes e := by
  refine (Reads.takeThen 4 fun length => .place fun c =>
    .takeThen (Bytes.word length) fun name => reads_name c.offset name).congr ?_
  intro part e
  constructor
  · rintro ⟨length, _, size, rfl, name, _, spelt, rfl, rfl, rfl⟩
    obtain ⟨small, rfl⟩ := Bytes.eq_ofWord_iff.mpr ⟨size, spelt.symm⟩
    exact ⟨small, (List.append_assoc ..).symm⟩
  · rintro ⟨small, rfl⟩
    obtain ⟨size, spelt⟩ := Bytes.eq_ofWord_iff.mp ⟨small, rfl⟩
    exact ⟨_, _, size, List.append_assoc .., _, _, spelt.symm, rfl, rfl, rfl⟩

theorem ofCode?_eq_some_iff {code : UInt8} {kind : SaveKind} :
    SaveKind.ofCode? (Int32.ofNat code.toNat) = some kind ↔ code = kind.code := by
  have same (n : UInt8) :
      Int32.ofNat code.toNat = Int32.ofNat n.toNat ↔ code = n := by
    constructor
    · intro h
      have value (m : UInt8) : (Int32.ofNat m.toNat).toInt = m.toNat :=
        Int32.toInt_ofNat_of_lt (Nat.lt_trans m.toNat_lt (by decide))
      have numbers := congrArg Int32.toInt h
      rw [value, value] at numbers
      exact UInt8.toNat_inj.mp (Int.ofNat_inj.mp numbers)
    · intro h
      rw [h]
  have zero : Int32.ofNat code.toNat = 0 ↔ code = 0 := same 0
  have one : Int32.ofNat code.toNat = 1 ↔ code = 1 := same 1
  have two : Int32.ofNat code.toNat = 2 ↔ code = 2 := same 2
  simp only [SaveKind.ofCode?, zero, one, two]
  by_cases isZero : code = 0
  · rw [if_pos isZero, isZero]
    cases kind <;> decide
  by_cases isOne : code = 1
  · rw [if_neg isZero, if_pos isOne, isOne]
    cases kind <;> decide
  by_cases isTwo : code = 2
  · rw [if_neg isZero, if_neg isOne, if_pos isTwo, isTwo]
    cases kind <;> decide
  · rw [if_neg isZero, if_neg isOne, if_neg isTwo]
    cases kind <;> simp [SaveKind.code, isZero, isOne, isTwo]

/-- Values of four bytes each. -/
theorem reads_row {α : Type} {read : Bytes → α} {write : α → Bytes}
    (canonical : ∀ part a, part = write a ↔ part.length = 4 ∧ read part = a)
    (make : List α → SaveData) (count : Nat) :
    Reads (do return make (← readMany (read <$> take 4) count)) fun part d =>
      ∃ values, values.length = count ∧ part = values.flatMap write ∧ d = make values := by
  have one : Reads (read <$> take 4) fun part a => True ∧ part = write a :=
    (Reads.word canonical).congr (by simp)
  refine (Reads.bind (.many one count) fun values => .pure (make values)).congr ?_
  intro part d
  constructor
  · rintro ⟨values, _, _, rfl, ⟨size, -, rfl⟩, rfl, rfl⟩
    rw [List.append_nil]
    exact ⟨values, size, rfl, rfl⟩
  · rintro ⟨values, size, rfl, rfl⟩
    exact ⟨values, _, [], (List.append_nil _).symm, ⟨size, by simp, rfl⟩, rfl, rfl⟩

theorem reads_readBody (kind : SaveKind) (count : Nat) :
    Reads (readBody kind count) fun part d => d.kind = kind ∧ Lists d count part := by
  cases kind with
  | names =>
    refine (Reads.bind (.many reads_readName count) fun entries => .pure _).congr ?_
    intro part d
    constructor
    · rintro ⟨entries, _, _, rfl, ⟨rfl, short, rfl⟩, rfl, rfl⟩
      rw [List.append_nil]
      exact ⟨rfl, .names _ entries short (NameTable.get?_ofList entries)⟩
    · rintro ⟨sort, lists⟩
      cases lists with
      | names table entries short last =>
        have read : table = NameTable.ofList entries := NameTable.ext_get? fun name => by
          rw [last, NameTable.get?_ofList]
        exact ⟨entries, _, [], (List.append_nil _).symm, ⟨rfl, short, rfl⟩, rfl, by rw [read]⟩
      | ints values => cases sort
      | floats values => cases sort
  | ints =>
    refine (reads_row (fun _ _ => Bytes.eq_ofInt32_iff) ints count).congr ?_
    intro part d
    constructor
    · rintro ⟨values, rfl, rfl, rfl⟩
      exact ⟨rfl, .ints values⟩
    · rintro ⟨sort, lists⟩
      cases lists with
      | names table entries short last => cases sort
      | ints values => exact ⟨values, rfl, rfl, rfl⟩
      | floats values => cases sort
  | floats =>
    refine (reads_row (fun _ _ => Single.eq_toBytes_iff) floats count).congr ?_
    intro part d
    constructor
    · rintro ⟨values, rfl, rfl, rfl⟩
      exact ⟨rfl, .floats values⟩
    · rintro ⟨sort, lists⟩
      cases lists with
      | names table entries short last => cases sort
      | ints values => cases sort
      | floats values => exact ⟨values, rfl, rfl, rfl⟩

/-- A count, and so many entries. -/
theorem reads_counted (kind : SaveKind) :
    Reads (do readBody kind (Bytes.word (← take 4))) fun part d =>
      ∃ count entries, count < Nat.pow 256 4 ∧ Lists d count entries ∧ d.kind = kind ∧
        part = Bytes.ofWord 4 count ++ entries := by
  refine (Reads.takeThen 4 fun count => reads_readBody kind (Bytes.word count)).congr ?_
  intro part d
  constructor
  · rintro ⟨count, entries, size, rfl, sort, lists⟩
    obtain ⟨small, spelt⟩ := Bytes.eq_ofWord_iff.mpr ⟨size, rfl⟩
    exact ⟨_, entries, small, lists, sort, by rw [← spelt]⟩
  · rintro ⟨count, entries, small, lists, sort, rfl⟩
    obtain ⟨size, spelt⟩ := Bytes.eq_ofWord_iff.mp ⟨small, rfl⟩
    exact ⟨_, entries, size, rfl, sort, by rwa [spelt]⟩

/-- What follows the octet that names the kind. -/
theorem reads_kind (code : UInt8) :
    Reads (match SaveKind.ofCode? (Int32.ofNat code.toNat) with
      | none => throw (.unknownKind code)
      | some kind => do readBody kind (Bytes.word (← take 4))) fun part d =>
      ∃ count entries, count < Nat.pow 256 4 ∧ Lists d count entries ∧ code = d.kind.code ∧
        part = Bytes.ofWord 4 count ++ entries := by
  cases read : SaveKind.ofCode? (Int32.ofNat code.toNat) with
  | none =>
    refine (Reads.throw _).congr ?_
    intro part e
    simp [← ofCode?_eq_some_iff, read]
  | some kind =>
    refine (reads_counted kind).congr ?_
    intro part e
    simp [← ofCode?_eq_some_iff, read, eq_comm]

theorem reads_reader : Reads reader Spells := by
  refine (Reads.takeThen 4 fun first => .check _ _ <| .takeThen 2 fun version => .check _ _ <|
    .takeThen 1 fun code => reads_kind _).congr ?_
  have spelling : magic = Utf8.encode "TKSV" := rfl
  intro part d
  constructor
  · rintro ⟨first, _, -, rfl, isMagic, version, _, size, rfl, isVersion, code, _, single, rfl,
      count, entries, small, lists, known, rfl⟩
    obtain ⟨_, spelt⟩ := Bytes.eq_ofWord_iff.mpr ⟨size, Decidable.not_not.mp isVersion⟩
    obtain ⟨c, rfl⟩ := List.length_eq_one_iff.mp single
    rw [List.headD_cons] at known
    refine ⟨count, entries, small, lists, ?_⟩
    rw [Decidable.not_not.mp isMagic, spelt, known, spelling]
    simp [saveVersion]
  · rintro ⟨count, entries, small, lists, rfl⟩
    refine ⟨magic, _, rfl, ?_, not_not_intro rfl, Bytes.ofWord 2 1, _, by simp, rfl,
      not_not_intro rfl, [d.kind.code], _, rfl, rfl, count, entries, small, lists, rfl, rfl⟩
    simp [spelling]

/-! ## Whole files -/

/-- A file may go on after the part that is read. -/
theorem ofBytes_eq_ok_iff {b : Bytes} {d : SaveData} :
    ofBytes b = .ok d ↔ ∃ part rest, Spells part d ∧ b = part ++ rest := by
  have opened : ofBytes b = .ok d ↔ ∃ after, reader ⟨0, b⟩ = .ok (d, after) := by
    have unfolded : ofBytes b = (·.1) <$> reader ⟨0, b⟩ := rfl
    rw [unfolded]
    cases reader ⟨0, b⟩ with
    | error fault => simp [Functor.map, Except.map]
    | ok r =>
      constructor
      · intro h
        cases h
        exact ⟨r.2, rfl⟩
      · rintro ⟨after, h⟩
        cases h
        rfl
  rw [opened]
  constructor
  · rintro ⟨after, h⟩
    obtain ⟨part, spells, split, -⟩ := (reads_reader _ _ _).mp h
    exact ⟨part, after.rest, spells, split⟩
  · rintro ⟨part, rest, spells, split⟩
    exact ⟨⟨0 + part.length, rest⟩, (reads_reader _ _ _).mpr ⟨part, spells, split, rfl⟩⟩

/-- **The sizes fit their words**: fewer than 2^32 entries, and fewer than 2^32 bytes in each
    name. -/
structure Fits (d : SaveData) : Prop where
  size : d.size < Nat.pow 256 4
  names : ∀ table, d = .names table →
    ∀ e ∈ table.entries, (Utf8.encode e.1).length < Nat.pow 256 4

theorem spells_toBytes {d : SaveData} (fits : Fits d) : Spells d.toBytes d := by
  refine ⟨d.size, d.body, fits.size, ?_, rfl⟩
  cases d with
  | names table =>
    refine .names table table.entries (fits.names table rfl) fun name => ?_
    exact (Keyed.lookup_reverse table.distinct name).symm
  | ints values => exact .ints values
  | floats values => exact .floats values

/-- **The reader accepts exactly the format, and undoes the writer.**  Bytes behind the counted
    entries are not looked at.  Equality of singles is equality of bits. -/
theorem ofBytes_iff_spells :
    (∀ b d, ofBytes b = .ok d ↔ ∃ part rest, Spells part d ∧ b = part ++ rest) ∧
      ∀ d, Fits d → ofBytes d.toBytes = .ok d := by
  refine ⟨fun b d => ofBytes_eq_ok_iff, fun d fits => ?_⟩
  rw [ofBytes_eq_ok_iff]
  exact ⟨d.toBytes, [], spells_toBytes fits, (List.append_nil _).symm⟩

/-- A name that is not in ASCII, and a NaN. -/
theorem ofBytes_iff_spells_nan :
    Fits (names (.ofList [("é", ⟨0x7fc00001⟩)])) ∧
      ofBytes (names (.ofList [("é", ⟨0x7fc00001⟩)])).toBytes =
        .ok (names (.ofList [("é", ⟨0x7fc00001⟩)])) := by
  have fits : Fits (names (.ofList [("é", ⟨0x7fc00001⟩)])) := by
    refine ⟨by decide, ?_⟩
    intro table same
    cases same
    decide
  exact ⟨fits, ofBytes_iff_spells.2 _ fits⟩

/-- A later number replaces an earlier one, and the last byte is not read. -/
example :
    ofBytes ([0x54, 0x4b, 0x53, 0x56, 1, 0, 0, 2, 0, 0, 0] ++ nameBytes ("hp", ⟨5⟩) ++
      nameBytes ("hp", ⟨7⟩) ++ [0xff]) = .ok (names (.ofList [("hp", ⟨7⟩)])) := rfl

end TickScript.SaveData
