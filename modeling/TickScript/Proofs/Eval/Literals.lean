import Mathlib.Algebra.Group.Int.Defs
import TickScript.Proofs.Action
import TickScript.Proofs.Eval.Step

/-! # Literals keep their values

    A value is written into code as an opcode and its operand, and is pushed when the code runs:

        int      the first of three operands that holds it, in two's complement
        bool     the same as one or zero
        float    its bits; a NaN fails when it is read
        unset    nothing
        failed   nothing

    The reader has no more than the opcode to tell how long the operand is, and goes on behind it.
    So literals can be put one behind the other: they push their values in this order, on any stack
    and wherever they stand (`arrives_literals`).
-/

namespace TickScript

open Expression (Holds)

/-! ## Words of a shorter width -/

namespace Bytes

/-- A word has the low bytes of a number only. -/
theorem ofWord_mod (width n : Nat) : ofWord width (n % Nat.pow 256 width) = ofWord width n := by
  have spelt := ofWord_word (ofWord width n)
  rwa [length_ofWord, word_ofWord] at spelt

theorem ofWord_one (i : Int64) : ofWord 1 i.toUInt64.toNat = [i.toInt8.toUInt8] := by
  -- narrowing drops high bits, whether they are a sign or not
  have low : i.toInt8.toUInt8 = i.toUInt64.toUInt8 := by
    apply UInt8.toBitVec_inj.mp
    exact BitVec.signExtend_eq_setWidth_of_le _ (by decide)
  rw [low]
  rfl

theorem ofWord_four (i : Int64) : ofWord 4 i.toUInt64.toNat = ofInt32 i.toInt32 := by
  have low : i.toInt32.toUInt32 = i.toUInt64.toUInt32 := by
    apply UInt32.toBitVec_inj.mp
    exact BitVec.signExtend_eq_setWidth_of_le _ (by decide)
  rw [ofInt32, low, UInt64.toNat_toUInt32]
  exact (ofWord_mod 4 _).symm

end Bytes

/-! ## The width of an integer -/

namespace Literal

variable {form : Literal} {i : Int64}

/-- The number of bits of an operand. -/
def bits (form : Literal) : Nat := 8 * Eval.literalSize form

/-- **The operand can hold an integer** in two's complement. -/
def Fits (form : Literal) (i : Int64) : Prop :=
  -2 ^ (form.bits - 1) ≤ i.toInt ∧ i.toInt < 2 ^ (form.bits - 1)

instance (form : Literal) (i : Int64) : Decidable (form.Fits i) :=
  inferInstanceAs (Decidable (_ ∧ _))

/-- The literals of integers, the shortest first. -/
def integers : List Literal := [int8, int32, int64]

/-- **The form of an integer.** -/
def shortest? (i : Int64) : Option Literal := integers.find? fun form => form.Fits i

theorem fits_int8_iff : int8.Fits i ↔ i.toInt8.toInt64 = i := by
  show -2 ^ 7 ≤ i.toInt ∧ i.toInt < 2 ^ 7 ↔ _
  rw [← Int64.toInt_inj, Int8.toInt_toInt64]
  constructor
  · rintro ⟨least, most⟩
    rw [Int64.toInt_toInt8]
    exact Int.bmod_eq_of_le_mul_two (by omega) (by omega)
  · intro same
    rw [← same]
    exact ⟨i.toInt8.le_toInt, i.toInt8.toInt_lt⟩

theorem fits_int32_iff : int32.Fits i ↔ i.toInt32.toInt64 = i := by
  show -2 ^ 31 ≤ i.toInt ∧ i.toInt < 2 ^ 31 ↔ _
  rw [← Int64.toInt_inj, Int32.toInt_toInt64]
  constructor
  · rintro ⟨least, most⟩
    rw [Int64.toInt_toInt32]
    exact Int.bmod_eq_of_le_mul_two (by omega) (by omega)
  · intro same
    rw [← same]
    exact ⟨i.toInt32.le_toInt, i.toInt32.toInt_lt⟩

theorem fits_int64 (i : Int64) : int64.Fits i := ⟨i.le_toInt, i.toInt_lt⟩

theorem shortest?_eq (i : Int64) :
    shortest? i = some (if int8.Fits i then int8 else if int32.Fits i then int32 else int64) := by
  unfold shortest? integers
  by_cases narrow : int8.Fits i
  · simp [narrow]
  · by_cases medium : int32.Fits i
    · simp [narrow, medium]
    · simp [narrow, medium, fits_int64]

end Literal

/-- **An integer is written** in the first form that holds it, low byte first. -/
theorem Expression.integer_eq (i : Int64) :
    ∃ form, Literal.shortest? i = some form ∧ form.Fits i ∧ form ≠ .single ∧
      Expression.integer i =
        op (.literal form) ++ Bytes.ofWord (Eval.literalSize form) i.toUInt64.toNat := by
  rw [Literal.shortest?_eq, Expression.integer]
  by_cases narrow : Literal.int8.Fits i
  · rw [if_pos narrow, if_pos (Literal.fits_int8_iff.mp narrow), ← Bytes.ofWord_one]
    exact ⟨.int8, rfl, narrow, nofun, rfl⟩
  · rw [if_neg narrow, if_neg (mt Literal.fits_int8_iff.mpr narrow)]
    by_cases medium : Literal.int32.Fits i
    · rw [if_pos medium, if_pos (Literal.fits_int32_iff.mp medium), ← Bytes.ofWord_four]
      exact ⟨.int32, rfl, medium, nofun, rfl⟩
    · rw [if_neg medium, if_neg (mt Literal.fits_int32_iff.mpr medium)]
      exact ⟨.int64, rfl, Literal.fits_int64 i, nofun, rfl⟩

/-! ## What a literal pushes -/

/-- **What the literal of a value pushes**, if it has one. -/
def Value.pushed? : Value → Option Value
  | int i => some (int i)
  | bool b => some (int (if b then 1 else 0))
  | float s => some (if s.isNaN then failed else float s)
  | unset | failed => none

namespace Eval

variable {ctx : EvalContext} {origin current : EntityId} {code part : Expression}
  {offset : Nat} {form : Literal} {i : Int64} {v w : Value}

/-- An integer is read back in every form that holds it. -/
theorem literal_of_holds (held : Holds code offset (Bytes.ofWord (literalSize form) i.toUInt64.toNat))
    (fits : form.Fits i) (integer : form ≠ .single) :
    literal code offset form = .ok (.int i) := by
  cases form with
  | int8 =>
    have held : Holds code offset [i.toInt8.toUInt8] := Bytes.ofWord_one i ▸ held
    simp only [literal, held.int8At]
    show Except.ok (Value.int i.toInt8.toInt64) = _
    rw [Literal.fits_int8_iff.mp fits]
  | int32 =>
    have held : Holds code offset (Bytes.ofInt32 i.toInt32) := Bytes.ofWord_four i ▸ held
    simp only [literal, held.int32At]
    show Except.ok (Value.int i.toInt32.toInt64) = _
    rw [Literal.fits_int32_iff.mp fits]
  | int64 =>
    have held : Holds code offset (Bytes.ofInt64 i) := held
    simp only [literal, held.int64At]
    rfl
  | single => exact absurd rfl integer

/-- A function of what was read, if it was read. -/
theorem exists_of_map {α β : Type} {f : α → β} {x : Except Fault α} {y : β}
    (h : f <$> x = .ok y) : ∃ a, x = .ok a ∧ f a = y := by
  cases x with
  | error e => cases h
  | ok a => exact ⟨a, rfl, Except.ok.inj h⟩

/-- No operand is read as an integer that it cannot hold. -/
theorem fits_of_literal (read : literal code offset form = .ok (.int i)) : form.Fits i := by
  cases form with
  | int8 =>
    obtain ⟨small, -, same⟩ := exists_of_map read
    cases same
    rw [Literal.Fits, Int8.toInt_toInt64]
    exact ⟨small.le_toInt, small.toInt_lt⟩
  | int32 =>
    obtain ⟨small, -, same⟩ := exists_of_map read
    cases same
    rw [Literal.Fits, Int32.toInt_toInt64]
    exact ⟨small.le_toInt, small.toInt_lt⟩
  | int64 => exact Literal.fits_int64 i
  | single =>
    -- what is read from bits is a float or failed
    obtain ⟨s, -, same⟩ := exists_of_map read
    unfold Value.ofSingle at same
    split at same <;> cases same

/-- **No literal of an integer is shorter** than its own. -/
theorem shortest_le (own : Literal.shortest? i = some form) {other : Literal}
    (read : literal code offset other = .ok (.int i)) : literalSize form ≤ literalSize other := by
  have fits := fits_of_literal read
  rw [Literal.shortest?_eq] at own
  cases own
  by_cases narrow : Literal.int8.Fits i
  · rw [if_pos narrow]
    cases other <;> decide
  · rw [if_neg narrow]
    by_cases medium : Literal.int32.Fits i
    · rw [if_pos medium]
      cases other with
      | int8 => exact absurd fits narrow
      | int32 | int64 | single => decide
    · rw [if_neg medium]
      cases other with
      | int8 => exact absurd fits narrow
      | int32 | single => exact absurd fits medium
      | int64 => decide

/-- **Every literal** is an opcode and an operand, from which the value is read back. -/
theorem exists_operand (pushed : v.pushed? = some w) :
    ∃ form operand, Expression.literal? v = some ((Opcode.literal form).toByte :: operand) ∧
      operand.length = literalSize form ∧
      ∀ code offset, Holds code offset operand → literal code offset form = .ok w := by
  have integer (i : Int64) : ∃ form operand,
      Expression.integer i = (Opcode.literal form).toByte :: operand ∧
        operand.length = literalSize form ∧
        ∀ code offset, Holds code offset operand → literal code offset form = .ok (.int i) := by
    obtain ⟨form, -, fits, integer, written⟩ := Expression.integer_eq i
    refine ⟨form, _, written, Bytes.length_ofWord .., ?_⟩
    intro code offset held
    exact literal_of_holds held fits integer
  cases v with
  | int i =>
    cases pushed
    obtain ⟨form, operand, written, rest⟩ := integer i
    exact ⟨form, operand, congrArg some written, rest⟩
  | bool b =>
    cases pushed
    obtain ⟨form, operand, written, rest⟩ := integer (if b then 1 else 0)
    exact ⟨form, operand, congrArg some written, rest⟩
  | float s =>
    cases pushed
    refine ⟨.single, s.toBytes, rfl, Single.length_toBytes s, ?_⟩
    intro code offset held
    simp only [literal, held.singleAt]
    rfl
  | unset => cases pushed
  | failed => cases pushed

theorem literal?_eq_none_iff (v : Value) : Expression.literal? v = none ↔ v.pushed? = none := by
  cases v <;> simp [Expression.literal?, Value.pushed?]

/-- **One literal** pushes its value and goes on behind itself. -/
theorem arrives_literal (pushed : v.pushed? = some w) (written : Expression.literal? v = some part)
    (held : Holds code offset part) (b : Bench) :
    ∃ profile, Arrives ctx origin code 1 ⟨offset, current, b⟩
      ⟨offset + part.length, origin, ⟨w :: b.stack, profile, b.roster⟩⟩ := by
  obtain ⟨form, operand, written', size, reads⟩ := exists_operand pushed
  cases written.symm.trans written'
  have behind : offset + ((Opcode.literal form).toByte :: operand).length =
      offset + 1 + literalSize form := by
    rw [List.length_cons, size]
    omega
  refine ⟨(b.counted (.literal form)).profile, Arrives.instruction held ?_⟩
  rw [behind]
  simp only [instruction, reads _ _ held.tail]
  rfl

/-! ## One literal after the other -/

/-- The literals of values, one behind the other. -/
def literals (vs : List Value) : Expression :=
  vs.flatMap fun v => (Expression.literal? v).getD []

/-- What literals push, the first one first. -/
abbrev pushes (vs : List Value) : List Value := vs.filterMap Value.pushed?

/-- **Literals push their values in order**, and nothing else, wherever they stand. -/
theorem arrives_literals (vs : List Value) (held : Holds code offset (literals vs)) (b : Bench) :
    ∃ profile, Arrives ctx origin code (pushes vs).length ⟨offset, origin, b⟩
      ⟨offset + (literals vs).length, origin,
        ⟨(pushes vs).reverse ++ b.stack, profile, b.roster⟩⟩ := by
  -- on the values, for all places and stacks: the rest stands behind the first literal, and finds
  -- its value on the stack
  induction vs generalizing offset b with
  | nil => exact ⟨b.profile, Arrives.refl _⟩
  | cons v rest ih =>
    cases pushed : v.pushed? with
    | none =>
      have nothing : literals (v :: rest) = literals rest := by
        simp [literals, (literal?_eq_none_iff v).mpr pushed]
      have same : pushes (v :: rest) = pushes rest := List.filterMap_cons_none pushed
      rw [nothing] at held ⊢
      rw [same]
      exact ih held b
    | some w =>
      obtain ⟨form, operand, written, -⟩ := exists_operand pushed
      have first : literals (v :: rest) =
          ((Opcode.literal form).toByte :: operand) ++ literals rest := by
        simp [literals, written]
      have values : pushes (v :: rest) = w :: pushes rest := List.filterMap_cons_some pushed
      rw [first] at held ⊢
      rw [values]
      obtain ⟨profile, one⟩ : ∃ profile, Arrives ctx origin code 1 ⟨offset, origin, b⟩ _ :=
        arrives_literal pushed written held.left b
      obtain ⟨profile', others⟩ := ih held.right ⟨w :: b.stack, profile, b.roster⟩
      have all := one.trans others
      rw [List.length_append, ← Nat.add_assoc, List.length_cons, Nat.add_comm _ 1,
        List.reverse_cons, List.append_assoc]
      exact ⟨profile', all⟩

end Eval

/-! ## Appending -/

namespace Expression

/-- Appends the literals of values, one after the other. -/
def pushAll (code : Expression) (vs : List Value) : Expression :=
  vs.foldl (fun code v => (code.pushValue v).1) code

theorem pushValue_eq (code : Expression) (v : Value) :
    code.pushValue v = (code ++ (literal? v).getD [], (literal? v).isSome) := by
  unfold pushValue
  cases literal? v with
  | none => simp
  | some part => rfl

theorem pushAll_eq (code : Expression) (vs : List Value) :
    code.pushAll vs = code ++ Eval.literals vs := by
  induction vs generalizing code with
  | nil => exact (List.append_nil code).symm
  | cons v rest ih =>
    show pushAll (code.pushValue v).1 rest = _
    rw [ih, pushValue_eq, List.append_assoc]
    rfl

end Expression

/-! ## The theorem -/

namespace Eval

/-- **Literals keep their values.**

    An integer is appended in the first form that holds it, low byte first, and no form that pushes
    it is shorter.  A value that is unset or failed appends nothing.

    The literals of any values, one after the other, append code that pushes what they stand for in
    this order and does nothing else, on any stack and for any entity; one of them alone evaluates
    to it. -/
theorem literals_keep_values :
    (∀ i : Int64, ∃ form, Literal.shortest? i = some form ∧
      (∀ code : Expression, code.pushValue (.int i) =
        (code ++ (Expression.op (.literal form) ++
          Bytes.ofWord (literalSize form) i.toUInt64.toNat), true)) ∧
      ∀ code offset other, literal code offset other = .ok (.int i) →
        literalSize form ≤ literalSize other) ∧
    (∀ (v : Value) (code : Expression), (code.pushValue v).2 = v.pushed?.isSome ∧
      (v.pushed? = none → (code.pushValue v).1 = code)) ∧
    ∀ vs : List Value, ∃ part, (∀ code : Expression, code.pushAll vs = code ++ part) ∧
      ∀ ctx budget id b, (pushes vs).length ≤ budget →
        (∃ profile, run ctx budget part id b =
          .ok () ⟨(pushes vs).reverse ++ b.stack, profile, b.roster⟩) ∧
        ∀ w, pushes vs = [w] →
          ∃ profile, eval ctx budget part id b = .ok w ⟨b.stack, profile, b.roster⟩ := by
  refine ⟨?integers, ?values, ?sequences⟩
  case integers =>
    intro i
    obtain ⟨form, own, -, -, written⟩ := Expression.integer_eq i
    refine ⟨form, own, ?_, fun _ _ _ read => shortest_le own read⟩
    intro code
    rw [Expression.pushValue_eq, ← written]
    rfl
  case values =>
    intro v code
    rw [Expression.pushValue_eq]
    cases pushed : v.pushed? with
    | none =>
      rw [(literal?_eq_none_iff v).mpr pushed]
      exact ⟨rfl, fun _ => List.append_nil code⟩
    | some w =>
      obtain ⟨form, operand, written, -⟩ := exists_operand pushed
      rw [written]
      exact ⟨rfl, fun none => nomatch none⟩
  case sequences =>
    intro vs
    refine ⟨literals vs, fun code => Expression.pushAll_eq code vs, ?_⟩
    intro ctx budget id b enough
    obtain ⟨profile, arrives⟩ : ∃ profile, Arrives ctx id _ _ ⟨0, id, b⟩ _ :=
      arrives_literals vs (.whole _) b
    rw [Nat.zero_add] at arrives
    -- behind the last literal is the end of the code
    have finish := arrives.run enough
    refine ⟨⟨profile, finish⟩, ?_⟩
    intro w one
    rw [one] at finish
    exact ⟨profile, bind_of_ok finish⟩

/-- One integer of each width, a truth value, a NaN, and a value without a literal. -/
theorem literals_keep_values_mixed :
    let vs := [.int (-5), .int 300, .unset, .int 0x10000000000, .bool true, .float Single.nan]
    let part : Expression := [0x01, 0xfb, 0x02, 0x2c, 0x01, 0, 0, 0x03, 0, 0, 0, 0, 0, 1, 0, 0,
      0x01, 1, 0x04, 0, 0, 0xc0, 0x7f]
    Expression.pushAll [] vs = part ∧ (pushes vs).length ≤ 5 ∧
    ∀ ctx id b, ∃ profile, run ctx 5 part id b =
      .ok () ⟨[.failed, .int 1, .int 0x10000000000, .int 300, .int (-5)] ++ b.stack, profile,
        b.roster⟩ := by
  intro vs part
  obtain ⟨part', appended, runs⟩ := literals_keep_values.2.2 vs
  have code : Expression.pushAll [] vs = part := by decide
  obtain rfl : part' = part := (appended []).symm.trans code
  have enough : (pushes vs).length ≤ 5 := by decide
  exact ⟨code, enough, fun ctx id b => (runs ctx 5 id b enough).1⟩

end Eval
end TickScript
