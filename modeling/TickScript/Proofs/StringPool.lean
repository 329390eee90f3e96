import Mathlib.Algebra.Group.Nat.Defs
import Mathlib.Data.Finset.Card
import Mathlib.Data.List.Infix
import TickScript.StringPool

/-! # Interned strings keep their indices

    A pool only ever grows at its end, so a string that it holds stays where it is.  The index that
    interning returns is that place, whether the string was held before or not:

        intern    a  b  a  c  b
        returns   0  1  0  2  1

    A string's place is the number of different strings that were interned before it was for the
    first time (`idxOf_internAll`).  In this sense strings and indices are in bijection, and remain
    so whatever is interned later (`Interned`).
-/

namespace TickScript.StringPool

variable {p q : StringPool} {s t : String} {n : Nat}

/-! ## One string -/

/-- A string that is held stays, and a new one goes to the end. -/
theorem strings_intern (p : StringPool) (s : String) :
    (p.intern s).1.strings = if s ∈ p.strings then p.strings else p.strings ++ [s] := by
  unfold intern
  split
  case h_1 i found =>
    obtain ⟨n, place, -⟩ := (p.inverse s i).mp found
    rw [if_pos (List.mem_of_getElem? place)]
  case h_2 unindexed =>
    rw [if_neg (not_mem_of_unindexed unindexed)]
    rfl

/-- **Interning returns the string's place.** -/
theorem index_intern (p : StringPool) (s : String) :
    (p.intern s).2 = Int32.ofNat ((p.intern s).1.strings.idxOf s) := by
  unfold intern
  split
  case h_1 i found =>
    obtain ⟨n, place, rfl⟩ := (p.inverse s i).mp found
    obtain ⟨inside, rfl⟩ := List.getElem?_eq_some_iff.mp place
    rw [p.nodup.idxOf_getElem]
  case h_2 unindexed =>
    have last : (p.strings ++ [s]).idxOf s = p.strings.length := by
      rw [List.idxOf_append_of_notMem (not_mem_of_unindexed unindexed), List.idxOf_cons_self,
        Nat.add_zero]
    exact congrArg Int32.ofNat last.symm

theorem prefix_intern (p : StringPool) (s : String) : p.strings <+: (p.intern s).1.strings := by
  rw [strings_intern]
  split
  · exact List.prefix_rfl
  · exact List.prefix_append ..

theorem mem_intern_iff : t ∈ (p.intern s).1.strings ↔ t ∈ p.strings ∨ t = s := by
  rw [strings_intern]
  by_cases held : s ∈ p.strings
  · rw [if_pos held]
    constructor
    · exact .inl
    · rintro (before | rfl)
      · exact before
      · exact held
  · rw [if_neg held, List.mem_append, List.mem_singleton]

/-! ## Many strings -/

/-- Interns strings one after the other; what the calls return. -/
def internAll (p : StringPool) : List String → StringPool × List Int32
  | [] => (p, [])
  | s :: rest =>
    let (q, i) := p.intern s
    let (r, indices) := q.internAll rest
    (r, i :: indices)

theorem internAll_append (p : StringPool) (first second : List String) :
    (p.internAll (first ++ second)).1 = ((p.internAll first).1.internAll second).1 := by
  induction first generalizing p with
  | nil => rfl
  | cons s rest ih => exact ih _

/-- **Whatever is interned**, what a pool holds stays where it is. -/
theorem prefix_internAll (p : StringPool) (calls : List String) :
    p.strings <+: (p.internAll calls).1.strings := by
  induction calls generalizing p with
  | nil => exact List.prefix_rfl
  | cons s rest ih => exact (prefix_intern p s).trans (ih _)

theorem mem_internAll_iff {calls : List String} :
    t ∈ (p.internAll calls).1.strings ↔ t ∈ p.strings ∨ t ∈ calls := by
  induction calls generalizing p with
  | nil => simp [internAll]
  | cons s rest ih =>
    show t ∈ ((p.intern s).1.internAll rest).1.strings ↔ _
    rw [ih, mem_intern_iff, or_assoc, List.mem_cons]

/-- A place in a list is one in every longer list. -/
theorem idxOf_of_prefix {strings longer : List String} (h : strings <+: longer)
    (held : s ∈ strings) : longer.idxOf s = strings.idxOf s := by
  obtain ⟨rest, rfl⟩ := h
  exact List.idxOf_append_of_mem held

/-- **Each call returns a place in the last pool.** -/
theorem returned_internAll (p : StringPool) (calls : List String) :
    (p.internAll calls).2 =
      calls.map fun s => Int32.ofNat ((p.internAll calls).1.strings.idxOf s) := by
  induction calls generalizing p with
  | nil => rfl
  | cons s rest ih =>
    have held : s ∈ (p.intern s).1.strings := mem_intern_iff.mpr (.inr rfl)
    have stays := idxOf_of_prefix (prefix_internAll (p.intern s).1 rest) held
    have first : (p.intern s).2 =
        Int32.ofNat (((p.intern s).1.internAll rest).1.strings.idxOf s) := by
      rw [stays]
      exact index_intern p s
    exact congrArg₂ List.cons first (ih _)

/-! ## Places -/

/-- A pool holds as many strings as there were different ones. -/
theorem size_internAll (calls : List String) :
    (empty.internAll calls).1.size = calls.toFinset.card := by
  have same : (empty.internAll calls).1.strings.toFinset = calls.toFinset := by
    ext t
    rw [List.mem_toFinset, List.mem_toFinset, mem_internAll_iff]
    exact or_iff_right List.not_mem_nil
  rw [← same, List.toFinset_card_of_nodup (nodup _)]
  rfl

/-- The calls before a string is interned for the first time. -/
theorem split_first {calls : List String} (called : s ∈ calls) :
    ∃ before after, calls = before ++ s :: after ∧ s ∉ before ∧
      calls.takeWhile (· ≠ s) = before := by
  obtain ⟨before, after, rfl, new⟩ := List.eq_append_cons_of_mem called
  refine ⟨before, after, rfl, new, ?_⟩
  have others (t : String) (ht : t ∈ before) : decide (t ≠ s) = true :=
    decide_eq_true fun same => new (same ▸ ht)
  rw [List.takeWhile_append_of_pos others, List.takeWhile_cons_of_neg (by simp), List.append_nil]

/-- **A string's place** is the number of different strings before it. -/
theorem idxOf_internAll {calls : List String} (called : s ∈ calls) :
    (empty.internAll calls).1.strings.idxOf s = (calls.takeWhile (· ≠ s)).toFinset.card := by
  obtain ⟨before, after, rfl, new, first⟩ := split_first called
  let p := (empty.internAll before).1
  have absent : s ∉ p.strings := by
    rw [mem_internAll_iff]
    exact fun h => h.elim List.not_mem_nil new
  have added : (p.intern s).1.strings = p.strings ++ [s] := by
    rw [strings_intern, if_neg absent]
  have held : s ∈ (p.intern s).1.strings := mem_intern_iff.mpr (.inr rfl)
  calc (empty.internAll (before ++ s :: after)).1.strings.idxOf s
    _ = ((p.intern s).1.internAll after).1.strings.idxOf s := by
      rw [internAll_append]
      rfl
    _ = (p.intern s).1.strings.idxOf s := idxOf_of_prefix (prefix_internAll _ after) held
    _ = p.size := by
      rw [added, List.idxOf_append_of_notMem absent, List.idxOf_cons_self, Nat.add_zero]
      rfl
    _ = _ := by rw [first, size_internAll]

/-! ## Resolving -/

theorem get?_ofNat (small : n < 2 ^ 31) : p.get? (Int32.ofNat n) = p.strings[n]? := by
  have value : (Int32.ofNat n).toInt = n := Int32.toInt_ofNat_of_lt small
  have nonneg : 0 ≤ Int32.ofNat n := by
    rw [Int32.le_iff_toInt_le, value]
    exact Int.natCast_nonneg n
  rw [get?, if_pos nonneg, value, Int.toNat_natCast]

theorem resolve_ofNat (small : n < 2 ^ 31) (found : p.strings[n]? = some s) :
    p.resolve (Int32.ofNat n) = .ok s := by
  rw [resolve, get?_ofNat small, found]

/-- An index that is not negative is a place. -/
theorem eq_ofNat_of_nonneg {i : Int32} (nonneg : 0 ≤ i) :
    ∃ n, n < 2 ^ 31 ∧ i = Int32.ofNat n ∧ i.toInt = n := by
  have above : 0 ≤ i.toInt := Int32.le_iff_toInt_le.mp nonneg
  have below := i.toInt_lt
  refine ⟨i.toInt.toNat, by omega, ?_, (Int.toNat_of_nonneg above).symm⟩
  rw [← Int32.ofInt_eq_ofNat, Int.toNat_of_nonneg above, Int32.ofInt_toInt]

/-- **What cannot be resolved** lies outside of the pool. -/
theorem resolve_eq_error_iff (p : StringPool) (i : Int32) :
    p.resolve i = .error (.stringIndex i) ↔ i < 0 ∨ p.size ≤ i.toInt := by
  by_cases negative : i < 0
  · have outside : ¬ 0 ≤ i := Int32.not_le.mpr negative
    rw [resolve, get?, if_neg outside]
    exact iff_of_true rfl (.inl negative)
  · obtain ⟨n, small, rfl, value⟩ := eq_ofNat_of_nonneg (Int32.not_lt.mp negative)
    rw [resolve, get?_ofNat small, value, Int.ofNat_le, or_iff_right negative]
    cases found : p.strings[n]? with
    | none => exact iff_of_true rfl (List.getElem?_eq_none_iff.mp found)
    | some s =>
      have inside := (List.getElem?_eq_some_iff.mp found).1
      exact iff_of_false (fun same => nomatch same) (Nat.not_le.mpr inside)

/-! ## The theorem -/

/-- **A stable bijection** between the strings of some calls and the indices that they returned. -/
structure Interned (calls : List String) (p : StringPool) (returned : List Int32) : Prop where
  /-- A call returns the number of different strings before the first call with its own. -/
  ordered : returned.map Int32.toInt =
    calls.map fun s => ((calls.takeWhile (· ≠ s)).toFinset.card : Int)
  injective : ∀ s i t j, (s, i) ∈ calls.zip returned → (t, j) ∈ calls.zip returned →
    (i = j ↔ s = t)
  /-- Whatever is interned later, an index is resolved to its string. -/
  stable : ∀ s i, (s, i) ∈ calls.zip returned →
    ∀ later, (p.internAll later).1.resolve i = .ok s
  size : p.size = calls.toFinset.card
  /-- Every index below the size is that of a string. -/
  surjective : ∀ i : Int32, 0 ≤ i → i.toInt < p.size → ∃ s, (s, i) ∈ calls.zip returned
  missing : ∀ i, p.resolve i = .error (.stringIndex i) ↔ i < 0 ∨ p.size ≤ i.toInt

/-- What the calls return, call by call. -/
theorem mem_zip_returned {calls : List String} {i : Int32} :
    (s, i) ∈ calls.zip (p.internAll calls).2 ↔
      s ∈ calls ∧ i = Int32.ofNat ((p.internAll calls).1.strings.idxOf s) := by
  rw [returned_internAll, ← List.map_prod_left_eq_zip, List.mem_map]
  constructor
  · rintro ⟨t, called, same⟩
    cases same
    exact ⟨called, rfl⟩
  · rintro ⟨called, rfl⟩
    exact ⟨s, called, rfl⟩

/-- **Interning is a stable bijection**, as long as the indices of the different strings fit
    32 bits. -/
theorem interning_bijects (calls : List String) (few : calls.toFinset.card < 2 ^ 31) :
    Interned calls (empty.internAll calls).1 (empty.internAll calls).2 := by
  have held {s : String} (called : s ∈ calls) : s ∈ (empty.internAll calls).1.strings :=
    mem_internAll_iff.mpr (.inr called)
  have small {s : String} (called : s ∈ calls) :
      (empty.internAll calls).1.strings.idxOf s < 2 ^ 31 := by
    have inside := List.idxOf_lt_length_of_mem (held called)
    have count : (empty.internAll calls).1.strings.length = _ := size_internAll calls
    omega
  have found {s : String} (called : s ∈ calls) := List.getElem?_idxOf (held called)
  constructor
  case ordered =>
    rw [returned_internAll, List.map_map]
    apply List.map_congr_left
    intro s called
    rw [Function.comp_apply, Int32.toInt_ofNat_of_lt (small called), idxOf_internAll called]
  case injective =>
    intro s i t j first second
    obtain ⟨called, rfl⟩ := mem_zip_returned.mp first
    obtain ⟨called', rfl⟩ := mem_zip_returned.mp second
    refine ⟨?_, fun same => same ▸ rfl⟩
    intro same
    have places := congrArg Int32.toInt same
    rw [Int32.toInt_ofNat_of_lt (small called), Int32.toInt_ofNat_of_lt (small called'),
      Int.ofNat_inj] at places
    exact (List.idxOf_inj (held called)).mp places
  case stable =>
    intro s i returned later
    obtain ⟨called, rfl⟩ := mem_zip_returned.mp returned
    obtain ⟨rest, longer⟩ := prefix_internAll (empty.internAll calls).1 later
    -- the string is found in the longer pool at its place in this one
    refine resolve_ofNat (small called) ?_
    have inside := List.idxOf_lt_length_of_mem (held called)
    rw [← longer, List.getElem?_append_left inside, found called]
  case size => exact size_internAll calls
  case surjective =>
    intro i nonneg below
    obtain ⟨n, -, rfl, value⟩ := eq_ofNat_of_nonneg nonneg
    rw [value, Int.ofNat_lt] at below
    have inside : n < (empty.internAll calls).1.strings.length := below
    have string := List.getElem_mem inside
    refine ⟨_, mem_zip_returned.mpr ⟨(mem_internAll_iff.mp string).resolve_left ?_, ?_⟩⟩
    · exact List.not_mem_nil
    · rw [(nodup _).idxOf_getElem]
  case missing => exact resolve_eq_error_iff _

/-- A string that is interned again. -/
theorem interning_bijects_again :
    ["combo", "score", "combo"].toFinset.card < 2 ^ 31 ∧
      Interned ["combo", "score", "combo"] (empty.internAll ["combo", "score", "combo"]).1
        (empty.internAll ["combo", "score", "combo"]).2 ∧
      (empty.internAll ["combo", "score", "combo"]).2.map Int32.toInt = [0, 1, 0] := by
  have few : ["combo", "score", "combo"].toFinset.card < 2 ^ 31 := by decide
  have bijects := interning_bijects _ few
  exact ⟨few, bijects, bijects.ordered.trans (by decide)⟩

end TickScript.StringPool
