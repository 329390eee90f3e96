import Std.Data.HashMap
import TickScript.Fault

/-! # Strings of a library

    Code names strings by index: map keys, names of constants, templates.  Each string is held
    once, so interning it again gives the same index.

    A pool is a list of strings and a table of their indices.  That the two are inverse to each
    other is part of the type.
-/

namespace TickScript

/-- **String pool**, in order of first interning. -/
structure StringPool where
  strings : List String
  /-- The index of each string, in 32 bits. -/
  indices : Std.HashMap String Int32
  nodup : strings.Nodup
  inverse : ∀ s i, indices[s]? = some i ↔ ∃ n, strings[n]? = some s ∧ Int32.ofNat n = i

namespace StringPool

/-- No strings. -/
def empty : StringPool where
  strings := []
  indices := ∅
  nodup := .nil
  inverse _ _ := by simp

instance : Inhabited StringPool := ⟨empty⟩

def size (p : StringPool) : Nat := p.strings.length

/-- A string without an index is new. -/
theorem not_mem_of_unindexed {p : StringPool} {s : String} (unindexed : p.indices[s]? = none) :
    s ∉ p.strings := by
  intro held
  obtain ⟨n, found⟩ := List.mem_iff_getElem?.mp held
  have index := (p.inverse s _).mpr ⟨n, found, rfl⟩
  rw [unindexed] at index
  cases index

/-- Where a string stands behind one more. -/
theorem getElem?_concat_eq_some_iff {strings : List String} {s t : String} {n : Nat} :
    (strings ++ [s])[n]? = some t ↔ strings[n]? = some t ∨ n = strings.length ∧ s = t := by
  rcases Nat.lt_trichotomy n strings.length with before | rfl | behind
  · simp [List.getElem?_append_left before, Nat.ne_of_lt before]
  · simp
  · have beyond : (strings ++ [s]).length ≤ n := by
      rw [List.length_append]
      exact behind
    simp [List.getElem?_eq_none beyond, List.getElem?_eq_none (Nat.le_of_lt behind),
      Nat.ne_of_gt behind]

/-- Adds a new string behind the others. -/
def add (p : StringPool) (s : String) (new : s ∉ p.strings) : StringPool where
  strings := p.strings ++ [s]
  indices := p.indices.insert s (Int32.ofNat p.size)
  nodup := by
    refine List.nodup_append.mpr ⟨p.nodup, List.pairwise_singleton .., ?_⟩
    intro t held u other
    rw [List.mem_singleton.mp other]
    exact fun same => new (same ▸ held)
  inverse t i := by
    rw [Std.HashMap.getElem?_insert]
    simp only [getElem?_concat_eq_some_iff, beq_iff_eq]
    by_cases same : s = t
    · subst same
      -- its index is that of the last place, as it stands at no other
      have absent (n : Nat) : p.strings[n]? ≠ some s :=
        fun found => new (List.mem_of_getElem? found)
      simp [absent, size]
    · simp [same, p.inverse]

/-- The index of a string, which is added if it is new. -/
def intern (p : StringPool) (s : String) : StringPool × Int32 :=
  match found : p.indices[s]? with
  | some i => (p, i)
  | none => (p.add s (not_mem_of_unindexed found), Int32.ofNat p.size)

/-- The pool that interning the strings in order gives. -/
def ofList (strings : List String) : StringPool :=
  strings.foldl (fun p s => (p.intern s).1) empty

/-- The string with an index. -/
def get? (p : StringPool) (index : Int32) : Option String :=
  if 0 ≤ index then p.strings[index.toInt.toNat]? else none

/-- The string that code refers to. -/
def resolve (p : StringPool) (index : Int32) : Except Fault String :=
  match p.get? index with
  | some s => .ok s
  | none => .error (.stringIndex index)

end StringPool
end TickScript
