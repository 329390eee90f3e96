import TickScript.Eval.Instruction
import TickScript.Proofs.Number.Single

/-! # Values that are no NaN

    A float enters the world of values through `Value.ofSingle`, which turns a NaN into `failed`.
    Only negation and magnitude build a float directly; they act on the sign bit and so make no
    NaN of a number.

    `Value.Closed` states what a property of values needs in order to survive every operation;
    that a value is no NaN is such a property (`closed_naNFree`).
-/

namespace TickScript

namespace Value

/-! ## Properties that operations keep -/

/-- **What a property of values needs** to hold of the results of all operations. -/
structure Closed (P : Value → Prop) : Prop where
  ofSingle : ∀ s, P (.ofSingle s)
  int : ∀ i, P (.int i)
  bool : ∀ b, P (.bool b)
  failed : P .failed
  neg : ∀ s, P (.float s) → P (.float (-s))
  abs : ∀ s, P (.float s) → P (.float s.abs)

namespace Closed

theorem trivial : Closed fun _ => True :=
  ⟨fun _ => .intro, fun _ => .intro, fun _ => .intro, .intro, fun _ _ => .intro, fun _ _ => .intro⟩

variable {P : Value → Prop} (h : Closed P)

include h

theorem ofInt32 (i : Int32) : P (.ofInt32 i) := h.int i.toInt64

theorem ofCount (n : Nat) : P (.ofCount n) := h.ofInt32 _

theorem ofDouble (x : Float) : P (.ofDouble x) := h.ofSingle _

theorem negate {v : Value} (hv : P v) : P v.neg := by
  cases v with
  | float s => exact h.neg s hv
  | unset | int | bool | failed => exact h.ofInt32 _

theorem magnitude {v : Value} (hv : P v) : P v.abs := by
  cases v with
  | float s => exact h.abs s hv
  | unset | int | bool | failed => exact h.ofInt32 _

theorem toWhole (how : Scaled → Int) {v : Value} (hv : P v) : P (v.toWhole how) := by
  cases v with
  | float s =>
    simp only [Value.toWhole]
    split
    · exact h.failed
    · exact h.ofInt32 _
  | unset | int | bool | failed => exact hv

theorem arith (onSingle : Single → Single → Single) (onInt : Int32 → Int32 → Int32) (a b : Value) :
    P (Value.arith onSingle onInt a b) := by
  unfold Value.arith
  split
  · exact h.ofSingle _
  · exact h.ofInt32 _

theorem sign (v : Value) : P v.sign := by
  unfold Value.sign
  split
  · exact h.ofInt32 _
  · split
    · exact h.ofInt32 _
    · exact h.ofInt32 _

/-- **Functions of one value** keep the property. -/
theorem unary (op : UnaryOp) {v : Value} (hv : P v) : P (op.apply v) := by
  cases op with
  | neg => exact h.negate hv
  | abs => exact h.magnitude hv
  | floor | ceil => exact h.toWhole _ hv
  | boolNot => exact h.bool _
  | bitNot => exact h.ofInt32 _
  | exp | cos | sin | tan | acos | asin | atan => exact h.ofDouble _
  | ln =>
    show P (Value.ln v)
    unfold Value.ln
    split
    · exact h.failed
    · exact h.ofDouble _

/-- **Functions of two values** have the property whatever the two are. -/
theorem binary (order : PowOrder) (op : BinaryOp) (a b : Value) : P (op.apply order a b) := by
  cases op with
  | add | sub | mul => exact h.arith _ _ a b
  | equals | notEquals | gt | ge | lt | le | boolAnd | boolOr | boolXor => exact h.bool _
  | bitAnd | bitOr | bitXor => exact h.ofInt32 _
  | div =>
    show P (Value.div a b)
    unfold Value.div
    split
    · exact h.ofSingle _
    · split
      · exact h.failed
      · exact h.ofInt32 _
  | rem =>
    show P (Value.rem a b)
    unfold Value.rem
    split
    · exact h.failed
    · exact h.ofInt32 _
  | pow =>
    show P (Value.pow order a b)
    unfold Value.pow
    split
    · exact h.ofDouble _
    · exact h.ofInt32 _
  | log =>
    show P (Value.log a b)
    unfold Value.log
    split
    · exact h.failed
    · exact h.ofDouble _

/-! ## Reads -/

/-- A literal has the property, whatever its bytes. -/
theorem literal {code : Expression} {offset : Nat} {form : Literal} {v : Value}
    (read : Eval.literal code offset form = .ok v) : P v := by
  have mapped {α : Type} {f : α → Value} {x : Except Fault α} (hf : ∀ a, P (f a))
      (read : f <$> x = .ok v) : P v := by
    cases x with
    | ok a =>
      cases read
      exact hf a
    | error e => cases read
  cases form with
  | int8 => exact mapped (fun _ => h.int _) read
  | int32 => exact mapped h.ofInt32 read
  | int64 => exact mapped h.int read
  | single => exact mapped h.ofSingle read

theorem field (f : Field) (e : Entity) : P (f.read e) := by
  cases f with
  | ctrl | alive | moveHit | moveContact => exact h.bool _
  | playerNo => exact h.ofCount _
  | _ => exact h.ofInt32 _

theorem constant (op : ConstantOp) (c : EntityConstants) (ratio : Single) : P (op.read c ratio) := by
  cases op with
  | named => exact h.failed
  | life | power | attack | defence => exact h.ofInt32 _
  | xScale | yScale | yAccel | walkForward | walkBack | jump => exact h.ofSingle _

theorem namedConstant (c : EntityConstants) (name : String) : P (c.constant name) := by
  unfold EntityConstants.constant
  cases c.named.get? (Text.lower name) with
  | none => exact h.failed
  | some s => exact h.ofSingle s

theorem readArray {α : Type} {n : Nat} (array : Vector α n) {toValue : α → Value}
    (hv : ∀ a, P (toValue a)) (index : Int32) : P (Variables.readArray array toValue index) := by
  unfold Variables.readArray
  split
  · exact hv _
  · exact h.failed

/-- A variable has the property, also one that holds a NaN. -/
theorem readVariable (vs : Variables) (bank : VariableBank) (index : Int32) : P (vs.read bank index) := by
  cases bank with
  | ints | systemInts => exact h.readArray _ h.ofInt32 index
  | singles | systemSingles => exact h.readArray _ h.ofSingle index

theorem updateArray {α : Type} {n : Nat} [Add α] (array : Vector α n) {toValue : α → Value}
    (hv : ∀ a, P (toValue a)) (mode : UpdateMode) (index : Int32) (x : α) :
    P (Variables.updateArray array toValue mode index x).2 := by
  unfold Variables.updateArray
  split
  · exact hv _
  · exact h.failed

/-- The number that an update of a variable leaves. -/
theorem updateVariable (e : Entity) (mode : UpdateMode) (bank : VariableBank) (index : Int32)
    (v : Value) : P (e.updateVariable mode bank index v).2 := by
  cases bank with
  | ints | systemInts => exact h.updateArray _ h.ofInt32 mode index _
  | singles | systemSingles => exact h.updateArray _ h.ofSingle mode index _

end Closed

/-! ## No NaN -/

/-- **The value is no NaN.** -/
def NaNFree : Value → Prop
  | .float s => s.isNaN = false
  | _ => True

instance (v : Value) : Decidable v.NaNFree :=
  match v with
  | .float s => inferInstanceAs (Decidable (s.isNaN = false))
  | .unset | .int _ | .bool _ | .failed => .isTrue .intro

theorem ofSingle_of_isNaN {s : Single} (nan : s.isNaN) : ofSingle s = failed := if_pos nan

theorem ofSingle_of_number {s : Single} (number : s.isNaN = false) : ofSingle s = float s :=
  if_neg (by rw [number]; exact Bool.false_ne_true)

theorem naNFree_ofSingle (s : Single) : (ofSingle s).NaNFree := by
  unfold ofSingle
  split
  case isTrue => exact .intro
  case isFalse number => exact Bool.eq_false_iff.mpr number

/-- **No operation makes a NaN** of values that are none. -/
theorem closed_naNFree : Closed NaNFree where
  ofSingle := naNFree_ofSingle
  int _ := .intro
  bool _ := .intro
  failed := .intro
  neg s number := (Single.isNaN_neg s).trans number
  abs s number := (Single.isNaN_abs s).trans number

end Value
end TickScript
