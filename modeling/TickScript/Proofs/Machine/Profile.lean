import Mathlib.Algebra.GroupWithZero.Nat
import Mathlib.Data.Set.List
import TickScript.Machine.Profile
import TickScript.Proofs.Keyed

/-! # What a profile counts

    An enabled profile goes on counting: an opcode that is recorded has been counted from then on,
    and no record takes back another one (`count_record_eq_zero`).

    The counts are kept in order of the bytes that they are for, every one of them is positive, and
    together they are the total (`Sound`).  So the report ranks the opcodes that ran, each of them
    once (`Sound.exists_ranks`).
-/

namespace TickScript

theorem Opcode.toByte_inj {o o' : Opcode} : o.toByte = o'.toByte ↔ o = o' := by
  constructor
  · intro same
    have read := congrArg Opcode.ofByte? same
    rw [ofByte?_toByte, ofByte?_toByte] at read
    exact Option.some.inj read
  · rintro rfl
    rfl

namespace Profile

variable {b c : UInt8} {counts : List (UInt8 × Nat)} {p : Profile} {o o' : Opcode}

/-! ## One more occurrence -/

theorem lookup_bump_self : ∃ n, Keyed.lookup (bump b counts) b = some (n + 1) := by
  induction counts with
  | nil => exact ⟨0, by simp [bump, Keyed.lookup_cons]⟩
  | cons e rest ih =>
    unfold bump
    by_cases before : b < e.1
    · exact ⟨0, by rw [if_pos before, Keyed.lookup_cons, if_pos rfl]⟩
    · by_cases here : b = e.1
      · exact ⟨e.2, by rw [if_neg before, if_pos here, Keyed.lookup_cons, if_pos rfl]⟩
      · rw [if_neg before, if_neg here, Keyed.lookup_cons, if_neg (Ne.symm here)]
        exact ih

theorem lookup_bump_of_ne (ne : b ≠ c) :
    Keyed.lookup (bump b counts) c = Keyed.lookup counts c := by
  induction counts with
  | nil => rw [bump, Keyed.lookup_cons, if_neg ne]
  | cons e rest ih =>
    unfold bump
    by_cases before : b < e.1
    · rw [if_pos before, Keyed.lookup_cons, if_neg ne]
    · by_cases here : b = e.1
      · -- the entry is counted up in its place
        rw [if_neg before, if_pos here, Keyed.lookup_cons, Keyed.lookup_cons, if_neg ne,
          if_neg (here ▸ ne)]
      · rw [if_neg before, if_neg here, Keyed.lookup_cons, Keyed.lookup_cons, ih]

/-- The entries afterwards are those before, but for one that is new or counted up. -/
theorem forall_bump {Q : UInt8 × Nat → Prop} (all : ∀ e ∈ counts, Q e) (first : Q (b, 1))
    (more : ∀ n, Q (b, n) → Q (b, n + 1)) : ∀ e ∈ bump b counts, Q e := by
  induction counts with
  | nil => exact List.forall_mem_singleton.mpr first
  | cons e rest ih =>
    obtain ⟨here, later⟩ := List.forall_mem_cons.mp all
    unfold bump
    by_cases before : b < e.1
    · rw [if_pos before]
      exact List.forall_mem_cons.mpr ⟨first, all⟩
    · rw [if_neg before]
      by_cases same : b = e.1
      · rw [if_pos same]
        exact List.forall_mem_cons.mpr ⟨more e.2 (same ▸ here), later⟩
      · rw [if_neg same]
        exact List.forall_mem_cons.mpr ⟨here, ih later⟩

/-- In order of the bytes, each of which has one entry. -/
abbrev Ordered (counts : List (UInt8 × Nat)) : Prop := counts.Pairwise fun a b => a.1 < b.1

theorem ordered_bump (ordered : Ordered counts) : Ordered (bump b counts) := by
  induction counts with
  | nil => exact List.pairwise_singleton ..
  | cons e rest ih =>
    obtain ⟨above, later⟩ := List.pairwise_cons.mp ordered
    unfold bump
    by_cases before : b < e.1
    · rw [if_pos before]
      refine List.pairwise_cons.mpr ⟨List.forall_mem_cons.mpr ⟨before, fun x i => ?_⟩, ordered⟩
      exact UInt8.lt_trans before (above x i)
    · rw [if_neg before]
      by_cases same : b = e.1
      · rw [if_pos same]
        exact List.pairwise_cons.mpr ⟨fun x i => same ▸ above x i, later⟩
      · rw [if_neg same]
        have behind : e.1 < b := UInt8.lt_of_le_of_ne (UInt8.not_lt.mp before) (Ne.symm same)
        exact List.pairwise_cons.mpr ⟨forall_bump above behind fun _ _ => behind, ih later⟩

theorem sum_bump : ((bump b counts).map (·.2)).sum = (counts.map (·.2)).sum + 1 := by
  induction counts with
  | nil => rfl
  | cons e rest ih =>
    unfold bump
    by_cases before : b < e.1
    · rw [if_pos before, List.map_cons, List.sum_cons, Nat.add_comm]
    · rw [if_neg before]
      by_cases same : b = e.1
      · rw [if_pos same]
        simp only [List.map_cons, List.sum_cons]
        omega
      · rw [if_neg same]
        simp only [List.map_cons, List.sum_cons, ih]
        omega

/-- Where a byte is missing in an ordered list, it has no entry behind either. -/
theorem lookup_bump_ordered (ordered : Ordered counts) :
    Keyed.lookup (bump b counts) b = some ((Keyed.lookup counts b).getD 0 + 1) := by
  induction counts with
  | nil => simp [bump, Keyed.lookup]
  | cons e rest ih =>
    obtain ⟨above, later⟩ := List.pairwise_cons.mp ordered
    unfold bump
    by_cases before : b < e.1
    · have absent : Keyed.lookup (e :: rest) b = none := by
        refine Keyed.lookup_eq_none (List.forall_mem_cons.mpr ⟨?_, fun x i => ?_⟩)
        · exact Ne.symm (UInt8.ne_of_lt before)
        · exact Ne.symm (UInt8.ne_of_lt (UInt8.lt_trans before (above x i)))
      rw [if_pos before, absent, Keyed.lookup_cons, if_pos rfl]
      rfl
    · rw [if_neg before]
      by_cases same : b = e.1
      · rw [if_pos same, Keyed.lookup_cons, if_pos rfl, Keyed.lookup_cons, if_pos same.symm]
        rfl
      · rw [if_neg same, Keyed.lookup_cons, if_neg (Ne.symm same), ih later, Keyed.lookup_cons,
          if_neg (Ne.symm same)]

/-! ## Records -/

theorem enabled_record (p : Profile) (o : Opcode) (depth : Nat) :
    (p.record o depth).enabled = p.enabled := by
  unfold record
  split
  · rfl
  · rfl

theorem count_record_eq_lookup (enabled : p.enabled = true) (depth : Nat) :
    (p.record o depth).count o' =
      (Keyed.lookup (bump o.toByte p.counts) o'.toByte).getD 0 := by
  rw [record, if_pos enabled]
  rfl

/-- **What has not been counted** was not counted before, and is not what is counted now. -/
theorem count_record_eq_zero (enabled : p.enabled = true) (depth : Nat) :
    (p.record o depth).count o' = 0 ↔ p.count o' = 0 ∧ o ≠ o' := by
  rw [count_record_eq_lookup enabled]
  by_cases same : o = o'
  · obtain ⟨n, found⟩ : ∃ n, Keyed.lookup (bump o.toByte p.counts) o.toByte = some (n + 1) :=
      lookup_bump_self
    rw [← same, found]
    simp
  · rw [lookup_bump_of_ne fun bytes => same (Opcode.toByte_inj.mp bytes)]
    constructor
    · exact fun none => ⟨none, same⟩
    · exact fun none => none.1

/-- Failed redirects are counted apart. -/
theorem recordFailedRedirect_apart (p : Profile) :
    p.recordFailedRedirect.enabled = p.enabled ∧
      ∀ o, p.recordFailedRedirect.count o = p.count o := by
  unfold recordFailedRedirect
  split
  · exact ⟨rfl, fun _ => rfl⟩
  · exact ⟨rfl, fun _ => rfl⟩

/-- One more of the opcode that is recorded, if its counts are in order. -/
theorem count_record (enabled : p.enabled = true) (ordered : Ordered p.counts) (depth : Nat) :
    (p.record o depth).count o' = p.count o' + if o = o' then 1 else 0 := by
  rw [count_record_eq_lookup enabled]
  by_cases same : o = o'
  · rw [if_pos same, ← same, lookup_bump_ordered ordered]
    rfl
  · rw [if_neg same, lookup_bump_of_ne fun bytes => same (Opcode.toByte_inj.mp bytes)]
    rfl

/-! ## Reports -/

/-- **A profile as it comes about.** -/
structure Sound (p : Profile) : Prop where
  ordered : Ordered p.counts
  /-- What has an entry ran. -/
  ran : ∀ e ∈ p.counts, 0 < e.2 ∧ ∃ o : Opcode, o.toByte = e.1
  whole : (p.counts.map (·.2)).sum = p.total

theorem sound_reset (p : Profile) : p.reset.Sound where
  ordered := .nil
  ran := nofun
  whole := rfl

theorem Sound.record (h : p.Sound) (o : Opcode) (depth : Nat) : (p.record o depth).Sound := by
  unfold Profile.record
  split
  · exact
      { ordered := ordered_bump h.ordered
        ran := forall_bump h.ran ⟨Nat.one_pos, o, rfl⟩ fun n counted =>
          ⟨Nat.succ_pos n, counted.2⟩
        whole := sum_bump.trans (congrArg (· + 1) h.whole) }
  · exact h

theorem Sound.recordFailedRedirect (h : p.Sound) : p.recordFailedRedirect.Sound := by
  unfold Profile.recordFailedRedirect
  split
  · exact ⟨h.ordered, h.ran, h.whole⟩
  · exact h

/-- The totals at the head of a report. -/
def totals (p : Profile) : String :=
  s!"instructions: {p.total}\nmax stack depth: {p.maxDepth}\n" ++
    s!"failed redirects: {p.failedRedirects}\n"

/-- What a report says of an opcode: how often it ran, and how large a share that is. -/
def row (p : Profile) (o : Opcode) : String :=
  "  " ++ padRight 16 o.name ++ " " ++ padLeft 8 (toString (p.count o)) ++ " (" ++
    padLeft 5 (percentage (p.count o) p.total) ++ "%)\n"

theorem line_eq_row (p : Profile) (o : Opcode) : line p.total (o.toByte, p.count o) = p.row o := by
  simp only [line, row, Opcode.ofByte?_toByte, Option.map_some, Option.getD_some]

/-- **A ranking of the opcodes**: those that ran, each of them once, from the most to the least
    frequent, and equally frequent ones in order of their bytes. -/
structure Ranks (p : Profile) (ranked : List Opcode) : Prop where
  mem_iff : ∀ o, o ∈ ranked ↔ 0 < p.count o
  nodup : ranked.Nodup
  ordered : ranked.Pairwise fun o o' =>
    p.count o' < p.count o ∨ p.count o' = p.count o ∧ o.toByte < o'.toByte
  sum : (ranked.map p.count).sum = p.total
  report : p.report = p.totals ++ String.join (ranked.map p.row)

/-- A stable sort by counts keeps the order of the bytes where counts are the same. -/
theorem pairwise_mergeSort_count (ordered : Ordered counts) :
    (counts.mergeSort fun a b => b.2 ≤ a.2).Pairwise fun a b =>
      b.2 < a.2 ∨ b.2 = a.2 ∧ a.1 < b.1 := by
  have byCount : (counts.mergeSort fun a b => b.2 ≤ a.2) =
      counts.mergeSort fun a b => -(a.2 : Int) ≤ -(b.2 : Int) := by
    refine congrArg (List.mergeSort counts ·) (funext fun a => funext fun b => ?_)
    exact decide_eq_decide.mpr (by omega)
  rw [byCount]
  refine (Keyed.pairwise_mergeSort_key (fun e => -(e.2 : Int)) ordered).imp ?_
  rintro a b (less | ⟨equal, above⟩)
  · exact .inl (by omega)
  · exact .inr ⟨by omega, above⟩

/-- The entry of an opcode is its count. -/
theorem Sound.mem_counts_iff (h : p.Sound) {n : Nat} :
    (o.toByte, n) ∈ p.counts ↔ 0 < n ∧ p.count o = n := by
  have distinct : Keyed.Distinct p.counts := h.ordered.imp UInt8.ne_of_lt
  have counted : p.count o = (Keyed.lookup p.counts o.toByte).getD 0 := rfl
  constructor
  · intro entry
    rw [counted, Keyed.lookup_of_mem distinct entry]
    exact ⟨(h.ran _ entry).1, rfl⟩
  · rintro ⟨pos, rfl⟩
    rw [counted] at pos ⊢
    cases found : Keyed.lookup p.counts o.toByte with
    | none =>
      rw [found] at pos
      exact absurd pos (Nat.lt_irrefl 0)
    | some n => exact Keyed.mem_of_lookup found

/-- **The report of a sound profile ranks its opcodes.** -/
theorem Sound.exists_ranks (h : p.Sound) : ∃ ranked, p.Ranks ranked := by
  let entry (o : Opcode) : UInt8 × Nat := (o.toByte, p.count o)
  let sorted := p.counts.mergeSort fun a b => b.2 ≤ a.2
  have perm : sorted.Perm p.counts := List.mergeSort_perm ..
  have opcodes : ∀ e ∈ sorted, ∃ o, entry o = e := by
    rintro ⟨b, n⟩ member
    obtain ⟨-, o, rfl⟩ := h.ran _ (perm.mem_iff.mp member)
    exact ⟨o, congrArg (o.toByte, ·) (h.mem_counts_iff.mp (perm.mem_iff.mp member)).2⟩
  obtain ⟨ranked, same⟩ : ∃ ranked : List Opcode, ranked.map entry = sorted :=
    (Set.range_list_map entry).ge opcodes
  have descending : sorted.Pairwise fun a b => b.2 < a.2 ∨ b.2 = a.2 ∧ a.1 < b.1 :=
    pairwise_mergeSort_count h.ordered
  rw [← same, List.pairwise_map] at descending
  refine ⟨ranked, fun o => ?_, descending.imp ?_, descending, ?_, ?_⟩
  · have listed : o ∈ ranked ↔ entry o ∈ sorted := by
      rw [← same, List.mem_map]
      constructor
      · exact fun i => ⟨o, i, rfl⟩
      · rintro ⟨o', i, bytes⟩
        exact Opcode.toByte_inj.mp (congrArg Prod.fst bytes) ▸ i
    rw [listed, perm.mem_iff, h.mem_counts_iff, and_iff_left rfl]
  · rintro o _ (less | ⟨-, above⟩) rfl
    · exact Nat.lt_irrefl _ less
    · exact UInt8.lt_irrefl _ above
  · rw [← h.whole, ← (perm.map (·.2)).sum_nat, ← same, List.map_map]
    rfl
  · have lines : ranked.map p.row = sorted.map (line p.total) := by
      rw [← same, List.map_map]
      exact List.map_congr_left fun o _ => (p.line_eq_row o).symm
    rw [lines]
    rfl

end Profile
end TickScript
