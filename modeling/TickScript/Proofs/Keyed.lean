/-! # Lists of things under keys

    Tables and rosters are lists of pairs, and look a key up by finding the first pair that has
    it.  If no key occurs twice, finding is membership (`lookup_eq_some_iff`).

    A list that is sorted by a number keeps the order of those that have the same one
    (`pairwise_mergeSort_key`).
-/

namespace TickScript.Keyed

variable {α β : Type} [DecidableEq α] {entries : List (α × β)} {key : α} {b : β}

/-- What stands under a key first. -/
def lookup (entries : List (α × β)) (key : α) : Option β :=
  (entries.find? fun e => e.1 == key).map (·.2)

theorem lookup_cons (e : α × β) (rest : List (α × β)) (key : α) :
    lookup (e :: rest) key = if e.1 = key then some e.2 else lookup rest key := by
  unfold lookup
  by_cases same : e.1 = key
  · simp [same]
  · simp [same]

theorem lookup_append (front back : List (α × β)) (key : α) :
    lookup (front ++ back) key = (lookup front key).or (lookup back key) := by
  unfold lookup
  rw [List.find?_append]
  cases front.find? fun e => e.1 == key with
  | none => rfl
  | some e => rfl

/-- Only the pairs that pass a test of their keys. -/
theorem lookup_filter (p : α → Bool) (entries : List (α × β)) (key : α) :
    lookup (entries.filter fun e => p e.1) key = if p key then lookup entries key else none := by
  induction entries with
  | nil => simp [lookup]
  | cons e rest ih =>
    by_cases passes : p e.1
    · rw [List.filter_cons_of_pos (by simpa using passes), lookup_cons, lookup_cons, ih]
      by_cases same : e.1 = key
      · rw [if_pos same, if_pos same, ← same, if_pos passes]
      · rw [if_neg same, if_neg same]
    · rw [List.filter_cons_of_neg (by simpa using passes), lookup_cons, ih]
      by_cases same : e.1 = key
      · rw [← same, if_neg passes, if_neg passes]
      · rw [if_neg same]

/-- A change of what stands under the keys. -/
theorem lookup_map (f : α → β → β) (entries : List (α × β)) (key : α) :
    lookup (entries.map fun e => (e.1, f e.1 e.2)) key = (lookup entries key).map (f key) := by
  induction entries with
  | nil => rfl
  | cons e rest ih =>
    rw [List.map_cons, lookup_cons, lookup_cons, ih]
    by_cases same : e.1 = key
    · rw [if_pos same, if_pos same, ← same]
      rfl
    · rw [if_neg same, if_neg same]

theorem mem_of_lookup (h : lookup entries key = some b) : (key, b) ∈ entries := by
  obtain ⟨e, found, rfl⟩ := Option.map_eq_some_iff.mp h
  have same : e.1 = key := by simpa using List.find?_some found
  rw [← same]
  exact List.mem_of_find?_eq_some found

/-- Nothing stands under a key that no pair has. -/
theorem lookup_eq_none (absent : ∀ e ∈ entries, e.1 ≠ key) : lookup entries key = none := by
  rw [lookup, Option.map_eq_none_iff, List.find?_eq_none]
  exact fun e member same => absent e member (by simpa using same)

/-! ## Distinct keys -/

/-- No key occurs twice. -/
abbrev Distinct (entries : List (α × β)) : Prop := entries.Pairwise fun a b => a.1 ≠ b.1

theorem lookup_of_mem (distinct : Distinct entries) (h : (key, b) ∈ entries) :
    lookup entries key = some b := by
  induction entries with
  | nil => cases h
  | cons e rest ih =>
    obtain ⟨head, tail⟩ := List.pairwise_cons.mp distinct
    rw [lookup_cons]
    rcases List.mem_cons.mp h with rfl | later
    · rw [if_pos rfl]
    · rw [if_neg (head _ later)]
      exact ih tail later

/-- **Finding is membership.** -/
theorem lookup_eq_some_iff (distinct : Distinct entries) :
    lookup entries key = some b ↔ (key, b) ∈ entries :=
  ⟨mem_of_lookup, lookup_of_mem distinct⟩

/-- The list may as well be read from its end. -/
theorem lookup_reverse (distinct : Distinct entries) (key : α) :
    lookup entries.reverse key = lookup entries key := by
  have backwards : Distinct entries.reverse := List.pairwise_reverse.mpr (distinct.imp Ne.symm)
  apply Option.ext
  intro b
  rw [lookup_eq_some_iff backwards, lookup_eq_some_iff distinct, List.mem_reverse]

/-! ## Sorting -/

omit [DecidableEq α] in
/-- **A stable sort**: what has the same key stays in its order. -/
theorem pairwise_mergeSort_key {items : List α} {before : α → α → Prop} (key : α → Int)
    (ordered : items.Pairwise before) :
    (items.mergeSort fun a b => key a ≤ key b).Pairwise fun a b =>
      key a < key b ∨ key a = key b ∧ before a b := by
  have trans (a b c : α) (h : decide (key a ≤ key b) = true) (h' : decide (key b ≤ key c) = true) :
      decide (key a ≤ key c) = true := by
    simp only [decide_eq_true_eq] at *
    omega
  have total (a b : α) : (decide (key a ≤ key b) || decide (key b ≤ key a)) = true := by
    simp only [Bool.or_eq_true, decide_eq_true_eq]
    omega
  induction items with
  | nil =>
    rw [List.mergeSort_nil]
    exact .nil
  | cons a rest ih =>
    obtain ⟨first, later⟩ := List.pairwise_cons.mp ordered
    -- the first one goes behind those that have a smaller key, and in front of all others
    obtain ⟨front, back, whole, others, smaller⟩ := List.mergeSort_cons trans total a rest
    have sorted := List.pairwise_mergeSort trans total (a :: rest)
    have known := ih later
    rw [others] at known
    rw [whole] at sorted ⊢
    obtain ⟨inFront, behind, across⟩ := List.pairwise_append.mp known
    refine List.pairwise_append.mpr ⟨inFront, List.pairwise_cons.mpr ⟨?_, behind⟩, ?_⟩
    · intro b member
      have least : key a ≤ key b := by
        have rest := (List.pairwise_append.mp sorted).2.1
        exact of_decide_eq_true ((List.pairwise_cons.mp rest).1 b member)
      have later : b ∈ rest := by
        have sorted := List.mem_append_right front member
        rw [← others] at sorted
        exact List.mem_mergeSort.mp sorted
      rcases Int.lt_or_eq_of_le least with less | same
      · exact .inl less
      · exact .inr ⟨same, first b later⟩
    · intro b member c member'
      rcases List.mem_cons.mp member' with rfl | further
      · have less := smaller b member
        rw [Bool.not_eq_true', decide_eq_false_iff_not] at less
        exact .inl (Int.not_le.mp less)
      · exact across b member c further

end TickScript.Keyed
