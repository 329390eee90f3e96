import TickScript.Proofs.Number.Double
import TickScript.Proofs.Value.NaNFree

/-! # Failed inputs of extended mathematics

    A failed input is a NaN while an operation works, and a result that is a NaN is failed.  A NaN
    comes through the functions of the library and through arithmetic, so most operations fail if
    any operand is failed.

    Three operations choose one of their operands by comparing them, and a NaN compares with
    nothing:

        maximum, minimum   the left side is chosen if it compares well with the right one,
                           else the right side
        clamp              a bound is chosen if the value lies beyond it, else the value

    So it is one operand that decides whether they fail: the right side, or the value.  A failed
    operand in another place is passed over (`fails_iff_decisive`).
-/

namespace TickScript

namespace Value

/-- **A number**: neither failed nor a NaN.  A slot that nobody wrote counts as zero. -/
def IsNumber (v : Value) : Prop := v ≠ failed ∧ v.NaNFree

instance (v : Value) : Decidable v.IsNumber := inferInstanceAs (Decidable (_ ∧ _))

theorem not_isNumber_failed : ¬ failed.IsNumber := fun number => number.1 rfl

/-! ## Working values -/

/-- **The working value** of a number is one, and of everything else a NaN. -/
theorem isNumber_iff (v : Value) : v.IsNumber ↔ v.working.isNaN = false := by
  cases v with
  | failed => exact iff_of_false not_isNumber_failed (fun no => nomatch no)
  | float s =>
    have number : (float s).IsNumber ↔ s.isNaN = false :=
      and_iff_right_of_imp fun _ same => nomatch same
    rw [number, ← Single.isNaN_toDouble s]
    rfl
  | int i => exact iff_of_true ⟨fun same => (nomatch same), .intro⟩ (Double.isNaN_ofInt64 i)
  | unset => decide
  | bool b => cases b <;> decide

theorem isNaN_working {v : Value} (no : ¬ v.IsNumber) : v.working.isNaN := by
  rw [isNumber_iff, Bool.not_eq_false] at no
  exact no

/-- **A result** is failed if it is a NaN. -/
theorem ofDouble_eq_failed_iff (x : Float) : ofDouble x = failed ↔ x.isNaN := by
  rw [ofDouble, ← Single.isNaN_ofDouble x]
  cases nan : (Single.ofDouble x).isNaN with
  | true => exact iff_of_true (ofSingle_of_isNaN nan) rfl
  | false =>
    rw [ofSingle_of_number nan]
    exact iff_of_false (fun same => nomatch same) Bool.false_ne_true

end Value

open Value

/-! ## Operations -/

/-- **An operation of extended mathematics** on its operands. -/
inductive Extended where
  | exp (v : Value)
  | ln (v : Value)
  | log (base v : Value)
  | cos (v : Value)
  | sin (v : Value)
  | tan (v : Value)
  | acos (v : Value)
  | asin (v : Value)
  | atan (v : Value)
  | radians (v : Value)
  | degrees (v : Value)
  | atan2 (y x : Value)
  | max (left right : Value)
  | min (left right : Value)
  | clamp (v low high : Value)
  | lerp (v far amount : Value)
  | round (v places : Value)

namespace Extended

def result : Extended → Value
  | exp v => v.exp
  | ln v => v.ln
  | log base v => .log base v
  | cos v => v.cos
  | sin v => v.sin
  | tan v => v.tan
  | acos v => v.acos
  | asin v => v.asin
  | atan v => v.atan
  | radians v => v.radians
  | degrees v => v.degrees
  | atan2 y x => y.atan2 x
  | max left right => left.max right
  | min left right => left.min right
  | clamp v low high => v.clamp low high
  | lerp v far amount => v.lerp far amount
  | round v places => v.round places

def operands : Extended → List Value
  | exp v | ln v | cos v | sin v | tan v | acos v | asin v | atan v | radians v | degrees v => [v]
  | log a b | atan2 a b | max a b | min a b | round a b => [a, b]
  | clamp a b c | lerp a b c => [a, b, c]

/-- **The operands that decide** whether the operation fails, if one of all is failed. -/
def decisive : Extended → List Value
  | max _ right | min _ right => [right]
  | clamp v _ _ => [v]
  | other => other.operands

/-! ## Operations that choose -/

/-- **A comparison passes a NaN over**: what it chooses instead is the operand that decides. -/
theorem isNaN_choice {c : Prop} [Decidable c] {x y : Float}
    (compares : c → x.isNaN = false ∧ y.isNaN = false) :
    (if c then x else y).isNaN = y.isNaN := by
  by_cases holds : c
  · rw [if_pos holds, (compares holds).1, (compares holds).2]
  · rw [if_neg holds]

/-- A number that is moved between two bounds. -/
theorem isNaN_between (x low high : Float) :
    (if x ≤ low then low else if high ≤ x then high else x).isNaN = x.isNaN := by
  have upper : (if high ≤ x then high else x).isNaN = x.isNaN := isNaN_choice Double.number_of_le
  refine (isNaN_choice fun beyond => ?_).trans upper
  obtain ⟨number, bound⟩ := Double.number_of_le beyond
  exact ⟨bound, upper.trans number⟩

theorem max_fails_iff (a b : Value) : a.max b = failed ↔ ¬ b.IsNumber := by
  rw [Value.max, ofDouble_eq_failed_iff, isNumber_iff, Bool.not_eq_false,
    isNaN_choice fun le => (Double.number_of_le le).symm]

theorem min_fails_iff (a b : Value) : a.min b = failed ↔ ¬ b.IsNumber := by
  rw [Value.min, ofDouble_eq_failed_iff, isNumber_iff, Bool.not_eq_false,
    isNaN_choice Double.number_of_le]

theorem clamp_fails_iff (v low high : Value) : v.clamp low high = failed ↔ ¬ v.IsNumber := by
  rw [Value.clamp, ofDouble_eq_failed_iff, isNumber_iff, Bool.not_eq_false, isNaN_between]

/-! ## Operations that fail with any operand -/

theorem mapDouble_fails {f : Float → Float} (keeps : ∀ {x}, x.isNaN → (f x).isNaN) {v : Value}
    (no : ¬ v.IsNumber) : mapDouble f v = failed :=
  (ofDouble_eq_failed_iff _).mpr (keeps (isNaN_working no))

theorem ln_fails {v : Value} (no : ¬ v.IsNumber) : v.ln = failed := by
  unfold Value.ln
  split
  · rfl
  · exact mapDouble_fails (Double.isNaN_lift _) no

theorem log_fails {base v : Value} (no : ¬ base.IsNumber ∨ ¬ v.IsNumber) :
    Value.log base v = failed := by
  unfold Value.log
  split
  · rfl
  · have logarithms : (Double.ln v.working).isNaN ∨ (Double.ln base.working).isNaN :=
      no.symm.imp (fun no => Double.isNaN_lift _ (isNaN_working no))
        (fun no => Double.isNaN_lift _ (isNaN_working no))
    exact (ofDouble_eq_failed_iff _).mpr (Double.absorbs_div _ _ logarithms)

theorem atan2_fails {y x : Value} (no : ¬ y.IsNumber ∨ ¬ x.IsNumber) : y.atan2 x = failed :=
  (ofDouble_eq_failed_iff _).mpr
    (Double.absorbs_lift₂ _ _ _ (no.imp isNaN_working isNaN_working))

theorem lerp_fails {v far amount : Value}
    (no : ¬ v.IsNumber ∨ ¬ far.IsNumber ∨ ¬ amount.IsNumber) : v.lerp far amount = failed := by
  refine (ofDouble_eq_failed_iff _).mpr (Double.absorbs_add _ _ ?_)
  refine no.imp isNaN_working fun no => Double.absorbs_mul _ _ ?_
  rcases no with no | no
  · exact .inl (Double.absorbs_sub _ _ (.inl (isNaN_working no)))
  · exact .inr ((isNaN_between _ _ _).trans (isNaN_working no))

theorem round_fails {v places : Value} (no : ¬ v.IsNumber ∨ ¬ places.IsNumber) :
    v.round places = failed := by
  refine (ofDouble_eq_failed_iff _).mpr (Double.absorbs_div _ _ ?_)
  rcases no with no | no
  · have scaled := Double.absorbs_mul _ (Double.exp10 places.working) (.inl (isNaN_working no))
    exact .inl (Double.isNaN_lift _ (Double.absorbs_add _ _ (.inl scaled)))
  · exact .inr (Double.isNaN_lift _ (isNaN_working no))

/-- **What decides is no number**, and the operation fails. -/
theorem fails {x : Extended} {v : Value} (decides : v ∈ x.decisive) (no : ¬ v.IsNumber) :
    x.result = failed := by
  have two {a b : Value} (h : v ∈ [a, b]) : ¬ a.IsNumber ∨ ¬ b.IsNumber := by
    rcases List.mem_cons.mp h with rfl | rest
    · exact .inl no
    · cases List.mem_singleton.mp rest
      exact .inr no
  cases x with
  | exp | cos | sin | tan | acos | asin | atan =>
    cases List.mem_singleton.mp decides
    exact mapDouble_fails (Double.isNaN_lift _) no
  | radians | degrees =>
    cases List.mem_singleton.mp decides
    exact mapDouble_fails (fun nan => Double.absorbs_mul _ _ (.inl nan)) no
  | ln =>
    cases List.mem_singleton.mp decides
    exact ln_fails no
  | log => exact log_fails (two decides)
  | atan2 => exact atan2_fails (two decides)
  | round => exact round_fails (two decides)
  | max left =>
    cases List.mem_singleton.mp decides
    exact (max_fails_iff ..).mpr no
  | min left =>
    cases List.mem_singleton.mp decides
    exact (min_fails_iff ..).mpr no
  | clamp v =>
    cases List.mem_singleton.mp decides
    exact (clamp_fails_iff ..).mpr no
  | lerp a b c =>
    rcases List.mem_cons.mp decides with rfl | rest
    · exact lerp_fails (.inl no)
    · exact lerp_fails (.inr (two rest))

/-- **Failed inputs.**  With a failed operand, an operation fails if and only if one of the
    operands that decide is no number.  For all but maximum, minimum and clamp these are all
    operands, the failed one among them. -/
theorem fails_iff_decisive (x : Extended) (input : failed ∈ x.operands) :
    x.result = failed ↔ ∃ v ∈ x.decisive, ¬ v.IsNumber := by
  refine ⟨fun failed_ => ?_, fun ⟨v, decides, no⟩ => fails decides no⟩
  cases x with
  | max left right => exact ⟨right, .head _, (max_fails_iff ..).mp failed_⟩
  | min left right => exact ⟨right, .head _, (min_fails_iff ..).mp failed_⟩
  | clamp v => exact ⟨v, .head _, (clamp_fails_iff ..).mp failed_⟩
  | _ => exact ⟨failed, input, not_isNumber_failed⟩

/-- The logarithm of a failed value to base two. -/
theorem fails_iff_decisive_log :
    (failed ∈ (log (.int 2) failed).operands) ∧
      ((log (.int 2) failed).result = failed ↔
        ∃ v ∈ (log (.int 2) failed).decisive, ¬ v.IsNumber) :=
  ⟨by decide, fails_iff_decisive _ (by decide)⟩

/-- **A failed input may not stay failed**: on the left of a maximum or a minimum, or as a bound. -/
theorem chosen_over_failed :
    (max failed (.int 3)).result = .float ⟨0x40400000⟩ ∧
      (min failed (.int 3)).result = .float ⟨0x40400000⟩ ∧
      (clamp (.int 5) failed (.int 10)).result = .float ⟨0x40a00000⟩ := by
  decide +kernel

end Extended
end TickScript
