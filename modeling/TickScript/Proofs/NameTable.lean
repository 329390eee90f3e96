import TickScript.NameTable
import TickScript.Proofs.Keyed

/-! # Tables as functions of the name

    A table is decided by what it holds under each name (`ext_get?`): its entries are in order of
    name, and no name occurs twice.  Storing changes one name (`get?_insert`), and a table made
    from a list of entries holds, under each name, the last one of the list (`get?_ofList`).
-/

namespace TickScript.NameTable

open Keyed (lookup lookup_cons lookup_append)

variable {t u : NameTable} {name other : String} {x : Single}

theorem distinct (t : NameTable) : Keyed.Distinct t.entries := t.sorted.imp Std.ne_of_lt

theorem mem_entries_iff : (name, x) ∈ t.entries ↔ t.get? name = some x :=
  (Keyed.lookup_eq_some_iff t.distinct).symm

/-- **Two tables that hold the same under every name are equal.** -/
theorem ext_get? (h : ∀ name, t.get? name = u.get? name) : t = u := by
  have nodup (t : NameTable) : t.entries.Nodup := by
    refine t.distinct.imp ?_
    intro a b names same
    exact names (congrArg Prod.fst same)
  have members : ∀ e, e ∈ t.entries ↔ e ∈ u.entries := by
    intro ⟨name, x⟩
    rw [mem_entries_iff, mem_entries_iff, h name]
  have perm : t.entries.Perm u.entries :=
    (List.perm_ext_iff_of_nodup (nodup t) (nodup u)).mpr members
  -- both lists are in strict order, so no two entries can precede each other
  have entries : t.entries = u.entries := by
    refine perm.eq_of_pairwise ?_ t.sorted u.sorted
    intro a b _ _ before after
    exact absurd (String.lt_trans before after) (String.lt_irrefl a.1)
  cases t
  cases u
  congr

/-! ## Storing -/

theorem lookup_putEntry (name : String) (x : Single) (entries : List (String × Single))
    (other : String) :
    lookup (putEntry name x entries) other =
      if name = other then some x else lookup entries other := by
  induction entries with
  | nil => simp [putEntry, lookup_cons]
  | cons e rest ih =>
    unfold putEntry
    split
    · rw [lookup_cons]
    · split
      · rename_i same
        rw [lookup_cons, lookup_cons]
        by_cases here : name = other
        · simp [here]
        · have elsewhere : e.1 ≠ other := same ▸ here
          simp [here, elsewhere]
      · rename_i differs
        rw [lookup_cons, lookup_cons, ih]
        by_cases here : name = other
        · have elsewhere : e.1 ≠ other := fun same => differs (here.trans same.symm)
          simp [here, elsewhere]
        · simp [here]

@[simp] theorem get?_empty (name : String) : empty.get? name = none := rfl

theorem get?_insert (t : NameTable) (name : String) (x : Single) (other : String) :
    (t.insert name x).get? other = if name = other then some x else t.get? other :=
  lookup_putEntry name x t.entries other

/-- Storing forgets no name. -/
theorem isSome_get?_insert (h : (t.get? other).isSome) : ((t.insert name x).get? other).isSome := by
  rw [get?_insert]
  by_cases same : name = other
  · rw [if_pos same]
    rfl
  · rw [if_neg same]
    exact h

/-- **The last entry of each name remains.** -/
theorem get?_ofList (entries : List (String × Single)) (name : String) :
    (ofList entries).get? name = lookup entries.reverse name := by
  have stored (t : NameTable) :
      (entries.foldl (fun t e => t.insert e.1 e.2) t).get? name =
        (lookup entries.reverse name).or (t.get? name) := by
    induction entries generalizing t with
    | nil => rfl
    | cons e rest ih =>
      rw [List.foldl_cons, ih, get?_insert, List.reverse_cons, lookup_append, Option.or_assoc,
        lookup_cons]
      by_cases same : e.1 = name
      · rw [if_pos same, if_pos same]
        rfl
      · rw [if_neg same, if_neg same]
        rfl
  have fromEmpty := stored empty
  rwa [get?_empty, Option.or_none] at fromEmpty

end TickScript.NameTable
