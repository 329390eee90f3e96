import TickScript.Text.Lower

/-! # Lowering twice

    Text in lower case stays as it is (`lower_lower`).  The mapping of the table is not applied to
    what it has made: no run maps what a run maps to (`covers_shift`).  For any two runs this shows
    at their ends, or the two lie in one stretch of code points where capital and small letters
    take turns, and then it is a matter of parity.
-/

namespace TickScript.Text

/-! ## The table -/

namespace CaseRun

/-- The least number that the run maps to. -/
def low (r : CaseRun) : Nat := ((r.first : Int) + r.shift).toNat

/-- The greatest number that the run maps to. -/
def high (r : CaseRun) : Nat := ((r.last : Int) + r.shift).toNat

/-- Whether all numbers that the run maps to have the parity of the least one. -/
def alternates (r : CaseRun) : Bool := r.stride == 2 || r.first == r.last

/-- **The run maps no number from `low` to `high`**, as far as its ends tell; or none that has the
    parity of `low`, if the others do not matter. -/
def avoids (r : CaseRun) (low high : Nat) (alternates : Bool) : Bool :=
  Nat.blt high r.first || Nat.blt r.last low ||
    r.stride == 2 && alternates && low % 2 != r.first % 2

theorem covers_iff {r : CaseRun} {n : Nat} :
    r.covers n ↔ r.first ≤ n ∧ n ≤ r.last ∧ (n - r.first) % r.stride = 0 := by
  simp only [covers, Bool.and_eq_true, decide_eq_true_eq, beq_iff_eq, and_assoc]

end CaseRun

theorem low_of_mem : ∀ r ∈ caseRuns, 0 ≤ (r.first : Int) + r.shift := by decide +kernel

theorem avoids_of_mem : (caseRuns.all fun r => caseRuns.all
    fun r' => r'.avoids r.low r.high r.alternates) = true := by decide +kernel

/-- **What a run maps to is mapped by none.** -/
theorem covers_shift {r r' : CaseRun} {n : Nat} (h : r ∈ caseRuns) (h' : r' ∈ caseRuns)
    (covered : r.covers n) : r'.covers ((n : Int) + r.shift).toNat = false := by
  obtain ⟨first, last, place⟩ := CaseRun.covers_iff.mp covered
  have positive := low_of_mem r h
  have avoids := List.all_eq_true.mp (List.all_eq_true.mp avoids_of_mem r h) r' h'
  simp only [CaseRun.avoids, CaseRun.alternates, CaseRun.low, CaseRun.high, Bool.or_eq_true,
    Bool.and_eq_true, Nat.blt_eq, beq_iff_eq, bne_iff_ne] at avoids
  rw [Bool.eq_false_iff]
  intro again
  obtain ⟨first', last', place'⟩ := CaseRun.covers_iff.mp again
  -- the image lies beside the run, or between two of the numbers that it maps
  rcases avoids with (below | above) | ⟨⟨stride', stride | single⟩, odd⟩
  · omega
  · omega
  · rw [stride] at place
    rw [stride'] at place'
    omega
  · rw [stride'] at place'
    omega

/-! ## Characters -/

/-- **A character in lower case**: one that is mapped neither by the table nor beside it. -/
def IsLower (c : Char) : Prop := (∀ r ∈ caseRuns, r.covers c.toNat = false) ∧ c ≠ 'İ'

instance (c : Char) : Decidable (IsLower c) := by
  unfold IsLower
  infer_instance

theorem lowerIn_of_isLower {c : Char} (h : IsLower c) (before after : List Char) :
    lowerIn before c after = [c] := by
  obtain ⟨unmapped, dotless⟩ := h
  -- the capital sigma is mapped by the table, too
  have noSigma : c ≠ 'Σ' := by
    rintro rfl
    revert unmapped
    decide +kernel
  have none : caseRuns.find? (·.covers c.toNat) = none := by
    rw [List.find?_eq_none]
    intro r h
    rw [unmapped r h]
    exact Bool.false_ne_true
  rw [lowerIn, if_neg noSigma, if_neg dotless, lowerChar, none]

/-- A number that is no character gives the one of number zero. -/
theorem isLower_ofNat {m : Nat} (unmapped : ∀ r ∈ caseRuns, r.covers m = false)
    (dotless : m ≠ 0x130) : IsLower (Char.ofNat m) := by
  by_cases valid : m.isValidChar
  · have number : (Char.ofNat m).toNat = m := by
      rw [Char.ofNat, dif_pos valid]
      rfl
    refine ⟨fun r h => ?_, fun dotted => ?_⟩
    · rw [number]
      exact unmapped r h
    · rw [dotted] at number
      exact dotless number.symm
  · have zero : IsLower (Char.ofNat 0) := by decide +kernel
    rwa [Char.ofNat, dif_neg valid]

/-- No run maps to the capital I with a dot. -/
theorem covers_dotted : ∀ r ∈ caseRuns, r.covers (0x130 - r.shift).toNat = false := by
  decide +kernel

theorem isLower_shift {r : CaseRun} {n : Nat} (h : r ∈ caseRuns) (covered : r.covers n) :
    IsLower (Char.ofNat ((n : Int) + r.shift).toNat) := by
  refine isLower_ofNat (fun r' h' => covers_shift h h' covered) fun dotted => ?_
  have same : n = (0x130 - r.shift).toNat := by omega
  rw [same, covers_dotted r h] at covered
  cases covered

theorem isLower_of_mem_lowerIn {before after : List Char} {c d : Char}
    (h : d ∈ lowerIn before c after) : IsLower d := by
  unfold lowerIn at h
  split at h
  -- both small sigmas
  · obtain rfl := List.mem_singleton.mp h
    split
    · decide +kernel
    · decide +kernel
  · split at h
    -- the letter and the dot that is left over it
    · rcases List.mem_cons.mp h with rfl | h
      · decide +kernel
      · obtain rfl := List.mem_singleton.mp h
        decide +kernel
    · rename_i dotless
      obtain rfl := List.mem_singleton.mp h
      unfold lowerChar
      cases found : caseRuns.find? (·.covers c.toNat) with
      | some r =>
        have covered : r.covers c.toNat := by simpa using List.find?_some found
        exact isLower_shift (List.mem_of_find?_eq_some found) covered
      | none =>
        refine ⟨fun r h => ?_, dotless⟩
        exact Bool.eq_false_iff.mpr (List.find?_eq_none.mp found r h)

/-! ## Texts -/

theorem isLower_of_mem_lowerFrom {before after : List Char} {d : Char}
    (h : d ∈ lowerFrom before after) : IsLower d := by
  induction after generalizing before with
  | nil => cases h
  | cons c rest ih => exact (List.mem_append.mp h).elim isLower_of_mem_lowerIn ih

theorem lowerFrom_of_isLower {before after : List Char} (h : ∀ c ∈ after, IsLower c) :
    lowerFrom before after = after := by
  induction after generalizing before with
  | nil => rfl
  | cons c rest ih =>
    obtain ⟨first, others⟩ := List.forall_mem_cons.mp h
    rw [lowerFrom, lowerIn_of_isLower first, ih others]
    rfl

/-- **Lowering is idempotent.** -/
theorem lower_lower (s : String) : lower (lower s) = lower s := by
  have settled : lowerFrom [] (lowerFrom [] s.toList) = lowerFrom [] s.toList :=
    lowerFrom_of_isLower fun _ => isLower_of_mem_lowerFrom
  rw [lower, lower, String.toList_ofList, settled]

end TickScript.Text
