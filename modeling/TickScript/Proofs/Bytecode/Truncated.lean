import TickScript.Proofs.Bytecode.Entries

/-! # Operands that are cut short

    `Opcode.hasOperand` says whether all of the inline operand of an opcode is there.  A listing
    marks exactly the lines of the opcodes for which it is not
    (`ListingLine.text_eq_truncated_iff`).

    The mark is told from every operand that is written out by one character, the bracket that it
    begins with: names and operands are without it (`Bare`).  Only a page operation that there is
    not is written in brackets, too; it is told from the mark by its point.
-/

namespace TickScript

/-- **Whether the operand is there**, at the start of the bytes behind the opcode. -/
def Operand.fits : Operand → Bytes → Bool
  | .nested, rest => (Expression.nestedAt rest 0).isOk
  | operand, rest => operand.width ≤ rest.length

/-- **Whether an opcode has all of its operand**, given the bytes behind it.  A page operation has
    an operand of its own; a byte that selects none is not cut short. -/
def Opcode.hasOperand : Opcode → Bytes → Bool
  | .page _, [] => false
  | .page p, b :: rest => (ListingLine.pageOp? p b).all (·.2.fits rest)
  | o, rest => o.operand.fits rest

theorem Operand.fits_of_fixed {operand : Operand} {rest : Bytes} (nested : operand ≠ .nested) :
    operand.fits rest = decide (operand.width ≤ rest.length) := by
  cases operand with
  | nested => exact absurd rfl nested
  | _ => rfl

@[simp] theorem Operand.fits_none (rest : Bytes) : Operand.none.fits rest = true := by
  rw [fits_of_fixed (by decide)]
  exact decide_eq_true (Nat.zero_le _)

theorem Opcode.hasOperand_of_fixed {o : Opcode} {rest : Bytes} (page : o.operand ≠ .page) :
    o.hasOperand rest = o.operand.fits rest := by
  cases o with
  | page p => exact absurd rfl page
  | _ => rfl

/-- Only pages have the operand of a page. -/
theorem Opcode.exists_page {o : Opcode} (page : o.operand = .page) : ∃ p, o = .page p := by
  cases o with
  | page p => exact ⟨p, rfl⟩
  | literal form => cases form <;> cases page
  | _ => cases page

namespace Expression

variable {code : Expression} {offset width : Nat}

/-! ## Readers -/

@[simp] theorem isOk_map {α β : Type} (f : α → β) (x : Except Fault α) :
    (f <$> x).isOk = x.isOk := by
  cases x <;> rfl

theorem isOk_ok_ne_false {α : Type} (a : α) : (Except.ok a : Except Fault α).isOk ≠ false := by
  simp [Except.isOk, Except.toBool]

@[simp] theorem isOk_uint8At :
    (code.uint8At offset).isOk = decide (offset + 1 ≤ code.length) := by
  unfold uint8At
  split
  case h_1 found =>
    obtain ⟨inside, -⟩ := List.getElem?_eq_some_iff.mp found
    exact (decide_eq_true inside).symm
  case h_2 missing =>
    exact (decide_eq_false (Nat.not_lt.mpr (List.getElem?_eq_none_iff.mp missing))).symm

@[simp] theorem isOk_operandAt :
    (code.operandAt width offset).isOk = decide (offset + width ≤ code.length) := by
  unfold operandAt
  split
  case isTrue inside => exact (decide_eq_true inside).symm
  case isFalse outside => exact (decide_eq_false outside).symm

@[simp] theorem isOk_int8At : (code.int8At offset).isOk = decide (offset + 1 ≤ code.length) := by
  rw [int8At, isOk_map, isOk_uint8At]

@[simp] theorem isOk_int32At : (code.int32At offset).isOk = decide (offset + 4 ≤ code.length) := by
  rw [int32At, isOk_map, isOk_operandAt]

@[simp] theorem isOk_int64At : (code.int64At offset).isOk = decide (offset + 8 ≤ code.length) := by
  rw [int64At, isOk_map, isOk_operandAt]

@[simp] theorem isOk_singleAt :
    (code.singleAt offset).isOk = decide (offset + 4 ≤ code.length) := by
  rw [singleAt, isOk_map, isOk_operandAt]

end Expression

/-! ## Texts without the mark -/

/-- **A text without the bracket** that the mark of a cut operand begins with. -/
def Bare (text : String) : Prop := '<' ∉ text.toList

instance (text : String) : Decidable (Bare text) :=
  inferInstanceAs (Decidable ('<' ∉ text.toList))

namespace Bare

variable {s t : String}

@[simp] theorem append : Bare (s ++ t) ↔ Bare s ∧ Bare t := by
  simp only [Bare, String.toList_append, List.mem_append, not_or]

theorem ofList {cs : List Char} (h : '<' ∉ cs) : Bare (String.ofList cs) := by
  rwa [Bare, String.toList_ofList]

theorem ite {c : Prop} [Decidable c] (hs : Bare s) (ht : Bare t) : Bare (if c then s else t) := by
  split
  · exact hs
  · exact ht

/-- A part of a bare text. -/
theorem part {cs : List Char} (h : Bare s) (sub : cs ⊆ s.toList) : Bare (String.ofList cs) :=
  ofList fun i => h (sub i)

theorem fill {c : Char} (other : c ≠ '<') (n : Nat) : Bare (String.ofList (List.replicate n c)) :=
  ofList fun i => other (List.eq_of_mem_replicate i).symm

theorem nat (n : Nat) : Bare (toString n) := by
  rw [Nat.toString_eq_ofList_toDigits]
  refine ofList fun i => ?_
  have digit : '<'.isDigit := Nat.isDigit_of_mem_toDigits (by decide) (by decide) i
  exact absurd digit (by decide)

theorem int (i : Int) : Bare (toString i) := by
  cases i with
  | ofNat n => exact nat n
  | negSucc n =>
    show Bare ("-" ++ toString (n + 1))
    exact append.mpr ⟨by decide, nat _⟩

theorem place (i : Int) : Bare (ListingLine.place i) := by
  unfold ListingLine.place
  refine ite ?_ ?_
  · exact append.mpr ⟨fill (by decide) _, nat _⟩
  · exact append.mpr ⟨append.mpr ⟨by decide, fill (by decide) _⟩, nat _⟩

/-! ### Literals -/

theorem pointed (n places : Nat) : Bare (Decimal.pointed n places) := by
  have padded : Bare (String.ofList
      (List.replicate (places + 1 - (toString n).length) '0') ++ toString n) :=
    append.mpr ⟨fill (by decide) _, nat n⟩
  unfold Decimal.pointed
  refine append.mpr ⟨padded.part (List.take_subset ..), ite (by decide) ?_⟩
  exact append.mpr ⟨by decide, padded.part (List.drop_subset ..)⟩

theorem positional (l : Decimal.Layout) (d : Decimal.Digits) : Bare (l.positional d) := by
  unfold Decimal.Layout.positional
  refine ite ?_ (pointed _ _)
  exact append.mpr ⟨append.mpr ⟨nat _, fill (by decide) _⟩, ite (by decide) (by decide)⟩

theorem scientific (l : Decimal.Layout) (d : Decimal.Digits) : Bare (l.scientific d) := by
  have digits := nat d.digits
  unfold Decimal.Layout.scientific
  refine append.mpr ⟨append.mpr ⟨append.mpr ⟨append.mpr ⟨?_, ite (by decide) ?_⟩, by decide⟩,
    ite (by decide) (by decide)⟩, int _⟩
  · exact digits.part (List.take_subset ..)
  · exact append.mpr ⟨by decide, digits.part (List.drop_subset ..)⟩

theorem decimal (l : Decimal.Layout) (s : Single) : Bare (l.text s) := by
  unfold Decimal.Layout.text
  refine ite (by decide) (ite (ite (by decide) (by decide)) ?_)
  unfold Decimal.Layout.finite
  refine append.mpr ⟨ite (by decide) (by decide), ite (positional _ _) ?_⟩
  exact ite (scientific _ _) (positional _ _)

/-! ### Names -/

theorem opcode (o : Opcode) : Bare o.name := by
  cases o with
  | literal form => cases form <;> decide
  | entityVar bank => cases bank <;> decide
  | unary op => cases op <;> decide
  | binary op => cases op <;> decide
  | jumpShort test => cases test <;> decide
  | jumpLong test => cases test <;> decide
  | redirect role => cases role <;> decide
  | field f => cases f <;> decide
  | coordinate c => cases c <;> decide
  | query q => cases q <;> decide
  | tally t => cases t <;> decide
  | page p => cases p <;> decide
  | _ => decide

theorem constantOp (op : ConstantOp) : Bare op.name := by
  cases op <;> decide

theorem storeOp (op : StoreOp) : Bare op.name := by
  cases op with
  | set bank => cases bank <;> decide
  | add bank => cases bank <;> decide
  | setName => decide
  | addName => decide

theorem extendedOp (op : ExtendedOp) : Bare op.name := by
  cases op with
  | distance mark axis => cases mark <;> cases axis <;> decide
  | depth d => cases d <;> decide
  | number f => cases f <;> decide
  | _ => decide

theorem pageOp {p : Page} {byte : UInt8} {op : String × Operand}
    (known : ListingLine.pageOp? p byte = some op) : Bare op.1 := by
  unfold ListingLine.pageOp? at known
  split at known
  all_goals obtain ⟨found, -, rfl⟩ := Option.map_eq_some_iff.mp known
  · exact constantOp found
  · exact storeOp found
  · exact extendedOp found

end Bare

/-! ## Lines -/

namespace ListingLine

variable {name text : String} {rest : Bytes} {offset : Nat} {operand : Operand}

theorem ne_truncated_of_bare (bare : Bare text) : name ++ text ≠ truncated name := by
  intro same
  obtain rfl : text = " <truncated>" := (String.append_right_inj name).mp same
  exact bare (by decide)

theorem ne_truncated_of_point (point : '.' ∈ text.toList) : name ++ text ≠ truncated name := by
  intro same
  obtain rfl : text = " <truncated>" := (String.append_right_inj name).mp same
  exact absurd point (by decide)

/-- **A text shows an operand** if it writes out one that is there, and marks one that is cut
    short. -/
def Shows (name : String) (there : Bool) (text : String) : Prop :=
  if there then ∃ operand, Bare operand ∧ text = name ++ operand else text = truncated name

namespace Shows

theorem truncated_iff {there : Bool} (h : Shows name there text) :
    text = truncated name ↔ there = false := by
  cases there with
  | false => exact iff_of_true h rfl
  | true =>
    obtain ⟨operand, bare, rfl⟩ := h
    exact iff_of_false (ne_truncated_of_bare bare) nofun

/-- What is written out has no bracket. -/
theorem bare (h : Shows name true text) (named : Bare name) : Bare text := by
  obtain ⟨operand, written, rfl⟩ := h
  exact Bare.append.mpr ⟨named, written⟩

end Shows

/-- A line whose operand is written without the bracket. -/
theorem shows_plain {α : Type} {read : Except Fault α} {write : α → String}
    (bare : ∀ a, Bare (write a)) (nested : operand ≠ .nested)
    (reads : read.isOk = decide (0 + operand.width ≤ rest.length)) :
    Shows name (operand.fits rest) (plain name operand.width (write <$> read)).text := by
  rw [Nat.zero_add, ← Operand.fits_of_fixed nested] at reads
  rw [← reads]
  cases read with
  | ok a => exact ⟨write a, bare a, rfl⟩
  | error f => rfl

theorem shows_single (page : operand ≠ .page) :
    Shows name (operand.fits rest) (single name operand offset rest).text := by
  have spaced {s : String} (h : Bare s) : Bare (" " ++ s) := Bare.append.mpr ⟨by decide, h⟩
  have aimed {s : String} (h : Bare s) : Bare (" -> " ++ s) := Bare.append.mpr ⟨by decide, h⟩
  cases operand with
  | page => exact absurd rfl page
  | none =>
    rw [Operand.fits_none]
    exact ⟨"", by decide, String.append_empty.symm⟩
  | nested =>
    simp only [single, Operand.fits]
    cases Expression.nestedAt rest 0 with
    | error f => rfl
    | ok found => exact ⟨_, spaced (Bare.nat found.1.length), String.append_assoc ..⟩
  | uint8 =>
    apply shows_plain _ (by decide) Expression.isOk_uint8At
    exact fun v => spaced (Bare.nat v.toNat)
  | int8 =>
    apply shows_plain _ (by decide) Expression.isOk_int8At
    exact fun v => spaced (Bare.int v.toInt)
  | int32 =>
    apply shows_plain _ (by decide) Expression.isOk_int32At
    exact fun v => spaced (Bare.int v.toInt)
  | int64 =>
    apply shows_plain _ (by decide) Expression.isOk_int64At
    exact fun v => spaced (Bare.int v.toInt)
  | single =>
    apply shows_plain _ (by decide) Expression.isOk_singleAt
    exact fun v => spaced (Bare.decimal _ v)
  | jump8 =>
    -- a displacement of zero is written as the end of the code
    apply shows_plain _ (by decide) Expression.isOk_uint8At
    exact fun v => Bare.ite (by decide) (aimed (Bare.place _))
  | jump32 =>
    apply shows_plain _ (by decide) Expression.isOk_int32At
    exact fun v => aimed (Bare.place _)

/-- A page operation has an operand of its own, the only one that can be cut short. -/
theorem shows_paged {p : Page} {b : UInt8} {opName : String}
    (known : pageOp? p b = some (opName, operand)) :
    Shows name (operand.fits rest) (paged name p (b :: rest)).text := by
  have named : Bare ("." ++ opName) := Bare.append.mpr ⟨by decide, Bare.pageOp known⟩
  rcases pageOp?_operand known with rfl | rfl
  · rw [Operand.fits_none]
    simp only [paged, known]
    exact ⟨_, named, String.append_assoc ..⟩
  · have fits : Operand.int32.fits rest = (Expression.int32At rest 0).isOk := by
      rw [Expression.isOk_int32At, Nat.zero_add]
      rfl
    rw [fits]
    simp only [paged, known]
    cases Expression.int32At rest 0 with
    | error f => rfl
    | ok i =>
      have written : Bare ("." ++ opName ++ (" " ++ toString i.toInt)) :=
        Bare.append.mpr ⟨named, Bare.append.mpr ⟨by decide, Bare.int _⟩⟩
      exact ⟨_, written, by simp only [String.append_assoc]⟩

/-- **A page is told from a cut operand**, also where its byte selects no operation: by the point
    that follows its name. -/
theorem paged_truncated_iff (name : String) (p : Page) (rest : Bytes) :
    (paged name p rest).text = truncated name ↔ (Opcode.page p).hasOperand rest = false := by
  cases rest with
  | nil => exact iff_of_true rfl rfl
  | cons b rest =>
    rw [Opcode.hasOperand]
    cases known : pageOp? p b with
    | none =>
      -- a byte that selects no operation is there, and is written out
      apply iff_of_false _ (by simp)
      simp only [paged, known, String.append_assoc]
      apply ne_truncated_of_point
      rw [String.toList_append]
      exact List.mem_append_left _ (by decide)
    | some op => exact (shows_paged known).truncated_iff

/-- **A listing marks the opcodes whose operand is cut short**, and no others. -/
theorem text_eq_truncated_iff (o : Opcode) (offset : Nat) (rest : Bytes) :
    (ofOpcode o offset rest).text = truncated o.name ↔ o.hasOperand rest = false := by
  by_cases page : o.operand = .page
  · obtain ⟨p, rfl⟩ := Opcode.exists_page page
    exact paged_truncated_iff _ p rest
  · rw [Opcode.hasOperand_of_fixed page, ofOpcode_eq_single page]
    exact (shows_single page).truncated_iff

end ListingLine
end TickScript
