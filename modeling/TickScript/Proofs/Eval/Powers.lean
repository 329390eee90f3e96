import TickScript.Proofs.Eval.Encounters
import TickScript.Proofs.Value.Power

/-! # Runs in either order of powers

    The bit order of powers is read by a single instruction, the power.  So a run is the same in
    both orders if every power that it meets is (`runFrom_inOrder`): up to the first power that
    is not, both runs are in the same state.

    A power is the same in both orders if it is one of floats, if its exponent is negative, or if
    the bits of its exponent below the highest one are a palindrome (`Value.pow_legacy`).
-/

namespace TickScript

/-! ## Exponents -/

/-- **The bits below the highest one are a palindrome.** -/
def IsPalindrome (e : Nat) : Prop := ∀ j < e.log2, e.testBit j = e.testBit (e.log2 - 1 - j)

instance (e : Nat) : Decidable (IsPalindrome e) :=
  inferInstanceAs (Decidable (∀ j < e.log2, _))

/-- **Palindromes are what both orders read alike.** -/
theorem PowOrder.reads_legacy_eq_iff (e : Nat) : PowOrder.legacy.reads e = e ↔ IsPalindrome e := by
  constructor
  · intro same j below
    have read := PowOrder.legacy.testBit_reads e j
    have other : j ≠ e.log2 := by omega
    rw [same] at read
    simpa [PowOrder.place, other, Nat.le_of_lt below] using read
  · intro palindrome
    apply Nat.eq_of_testBit_eq
    intro j
    rw [PowOrder.testBit_reads, PowOrder.place]
    rcases Nat.lt_trichotomy j e.log2 with below | rfl | above
    · have other : j ≠ e.log2 := by omega
      simp [other, Nat.le_of_lt below, palindrome j below]
    · simp
    · have outside : ¬ j ≤ e.log2 := by omega
      have none : e.testBit j = false :=
        Nat.testBit_lt_two_pow
          (Nat.lt_of_lt_of_le Nat.lt_log2_self (Nat.pow_le_pow_right (by omega) (by omega)))
      simp [outside, none]

/-- **Powers that are the same in both orders.** -/
theorem Value.pow_legacy {left right : Value}
    (settled : left.floating right = true ∨ right.toSingle.lt Single.zero = true ∨
      IsPalindrome right.toInt32.toUInt32.toNat) :
    Value.pow .legacy left right = Value.pow .current left right := by
  unfold Value.pow
  split
  case isTrue => rfl
  case isFalse integers =>
    simp only [Bool.or_eq_true, not_or] at integers
    obtain ⟨exact, nonnegative⟩ := integers
    have palindrome : IsPalindrome right.toInt32.toUInt32.toNat :=
      (settled.resolve_left exact).resolve_left nonnegative
    refine congrArg Value.ofInt32 (Int32.toInt_inj.mp ?_)
    by_cases none : right.toInt32.toUInt32.toNat = 0
    · have one (order : PowOrder) : intPow left.toInt32 right.toInt32 order = 1 := if_pos none
      rw [one, one]
    · rw [toInt_intPow .legacy none, toInt_intPow .current none, PowOrder.reads_current,
        (PowOrder.reads_legacy_eq_iff _).mpr palindrome]

/-! ## Instructions -/

/-- The same, but powers are computed in this order. -/
def EvalContext.inOrder (ctx : EvalContext) (order : PowOrder) : EvalContext :=
  { ctx with powOrder := order }

namespace Encounter

/-- The base and the exponent of a power. -/
def power? (e : Encounter) : Option (Value × Value) :=
  match e.opcode, e.stack with
  | .binary .pow, right :: left :: _ => some (left, right)
  | _, _ => none

/-- **Not a power that depends on the order.** -/
def Settled (e : Encounter) : Prop :=
  ∀ p ∈ e.power?, Value.pow .legacy p.1 p.2 = Value.pow .current p.1 p.2

instance (e : Encounter) : Decidable e.Settled :=
  inferInstanceAs (Decidable (∀ p ∈ e.power?, _))

variable {e : Encounter}

/-- Powers of floats, with negative exponents or with palindromes are settled. -/
theorem settled_of_power (same : ∀ p ∈ e.power?, p.1.floating p.2 = true ∨
    p.2.toSingle.lt Single.zero = true ∨ IsPalindrome p.2.toInt32.toUInt32.toNat) : e.Settled :=
  fun p power => Value.pow_legacy (same p power)

theorem Settled.pow_eq (settled : e.Settled) {left right : Value}
    (power : e.power? = some (left, right)) (order order' : PowOrder) :
    Value.pow order left right = Value.pow order' left right := by
  have same := settled (left, right) power
  cases order <;> cases order' <;> first | rfl | exact same | exact same.symm

end Encounter

namespace Eval

variable {ctx : EvalContext} {code : Expression} {offset budget : Nat}
  {current origin : EntityId} {b : Bench} {byte : UInt8} {o : Opcode}

/-- Only what a fold makes of its own operands matters. -/
theorem fold_congr {f g : Value → Value → Value}
    (same : ∀ right left rest, b.stack = right :: left :: rest → f left right = g left right) :
    fold f b = fold g b := by
  obtain ⟨stack, profile, r⟩ := b
  match stack with
  | [] | [_] => rfl
  | right :: left :: rest =>
    have folded (h : Value → Value → Value) :
        fold h ⟨right :: left :: rest, profile, r⟩ =
          .ok () ⟨h left right :: rest, profile, r⟩ := rfl
    rw [folded, folded, same right left rest rfl]

/-- No other instruction reads the order. -/
theorem instruction_inOrder (plain : o ≠ .binary .pow) (order : PowOrder) :
    instruction (ctx.inOrder order) code offset current origin o =
      instruction ctx code offset current origin o := by
  cases o with
  | binary op =>
    cases op with
    | pow => exact absurd rfl plain
    | _ => rfl
  | page p => cases p <;> rfl
  | _ => rfl

/-- **A settled instruction does the same in every order.** -/
theorem dispatch_inOrder (known : Opcode.ofByte? byte = some o)
    (settled : Encounter.Settled ⟨o, current, b.stack, b.roster⟩) (order : PowOrder) :
    dispatch (ctx.inOrder order) code offset current origin byte b =
      dispatch ctx code offset current origin byte b := by
  rw [dispatch_of_known known, dispatch_of_known known]
  by_cases power : o = .binary .pow
  · subst power
    have folded : fold (Value.pow order) (b.counted (.binary .pow)) =
        fold (Value.pow ctx.powOrder) (b.counted (.binary .pow)) := by
      refine fold_congr fun right left rest operands => ?_
      have operands : b.stack = right :: left :: rest := operands
      rw [operands] at settled
      exact settled.pow_eq rfl order ctx.powOrder
    have executed (ctx : EvalContext) :
        instruction ctx code (offset + 1) current origin (.binary .pow) =
          fold (Value.pow ctx.powOrder) >>= fun _ => pure (.goto (offset + 1) origin) := rfl
    rw [executed, executed]
    simp only [EvalContext.inOrder, bind, EStateM.bind, folded]
  · rw [instruction_inOrder power order]

/-! ## Runs -/

/-- **A run in which every power is settled is the same in every order.** -/
theorem runFrom_inOrder (order : PowOrder)
    (settled : ∀ e ∈ encountersFrom ctx origin budget code offset current b, e.Settled) :
    runFrom (ctx.inOrder order) origin budget code offset current b =
      runFrom ctx origin budget code offset current b := by
  -- what is met is listed for one order only: so far both runs were the same
  induction budget generalizing origin code offset current b with
  | zero => rfl
  | succ budget ih =>
    cases found : code[offset]? with
    | none => simp only [runFrom, found]
    | some byte =>
      rw [runFrom_of_found budget found, runFrom_of_found budget found]
      cases known : Opcode.ofByte? byte with
      | none =>
        have unknown (ctx : EvalContext) : dispatch ctx code offset current origin byte b =
            .error (.unknownOpcode byte offset) b := by
          rw [dispatch, known]
          rfl
        rw [bind_of_error (unknown _), bind_of_error (unknown _)]
      | some o =>
        rw [encountersFrom_of_known found known, List.forall_mem_cons] at settled
        obtain ⟨now, later⟩ := settled
        have same : dispatch (ctx.inOrder order) code offset current origin byte b =
            dispatch ctx code offset current origin byte b := dispatch_inOrder known now order
        cases executed : dispatch ctx code offset current origin byte b with
        | error f t => rw [bind_of_error executed, bind_of_error (same.trans executed)]
        | ok c t =>
          rw [bind_of_ok executed, bind_of_ok (same.trans executed)]
          rw [executed] at later
          cases c with
          | goto next following => exact ih later
          | call body entity next following =>
            rw [encountersAfter, List.forall_mem_append] at later
            obtain ⟨nested, behind⟩ := later
            have inner : run (ctx.inOrder order) budget body entity t =
                run ctx budget body entity t := ih nested
            simp only [proceed]
            cases ended : run ctx budget body entity t with
            | error f u => rw [bind_of_error ended, bind_of_error (inner.trans ended)]
            | ok _ u =>
              rw [bind_of_ok ended, bind_of_ok (inner.trans ended)]
              have ended : runFrom ctx entity budget body 0 entity t = .ok () u := ended
              rw [ended] at behind
              exact ih behind

/-- The value of an expression in which every power is settled. -/
theorem eval_inOrder (order : PowOrder) (entity : EntityId)
    (settled : ∀ e ∈ encounters ctx budget code entity b, e.Settled) :
    eval (ctx.inOrder order) budget code entity b = eval ctx budget code entity b := by
  have same : run (ctx.inOrder order) budget code entity b = run ctx budget code entity b :=
    runFrom_inOrder order settled
  simp only [eval, bind, EStateM.bind, same]

end Eval
end TickScript
