import TickScript.Number.Single

/-! # Tables of named numbers

    A `NameTable` maps names to singles and lists its entries in the order of their names (by
    code point, which is also the order of their UTF-8 bytes).  The order is part of the type,
    so two tables with the same entries are equal.
-/

namespace TickScript

/-- Entries in strictly increasing order of name. -/
def NamesSorted (entries : List (String × Single)) : Prop :=
  entries.Pairwise fun a b => a.1 < b.1

/-- **Named numbers**, in order of name. -/
structure NameTable where
  entries : List (String × Single)
  sorted : NamesSorted entries
  deriving DecidableEq

namespace NameTable

/-- Inserts an entry, replacing the one of the same name. -/
def putEntry (name : String) (value : Single) : List (String × Single) → List (String × Single)
  | [] => [(name, value)]
  | e :: rest =>
    if name < e.1 then (name, value) :: e :: rest
    else if name = e.1 then (name, value) :: rest
    else e :: putEntry name value rest

theorem mem_putEntry {name : String} {value : Single} {entries : List (String × Single)}
    {x : String × Single} (h : x ∈ putEntry name value entries) :
    x = (name, value) ∨ x ∈ entries := by
  induction entries with
  | nil => simpa [putEntry] using h
  | cons e rest ih =>
    unfold putEntry at h
    split at h
    · simpa using h
    · split at h
      · rcases List.mem_cons.mp h with rfl | h
        · exact .inl rfl
        · exact .inr (List.mem_cons_of_mem _ h)
      · rcases List.mem_cons.mp h with rfl | h
        · exact .inr (List.mem_cons_self ..)
        · exact (ih h).imp id (List.mem_cons_of_mem _)

theorem sorted_putEntry {name : String} {value : Single} {entries : List (String × Single)}
    (h : NamesSorted entries) : NamesSorted (putEntry name value entries) := by
  induction entries with
  | nil => exact List.pairwise_singleton ..
  | cons e rest ih =>
    have head := (List.pairwise_cons.mp h).1
    have tail := (List.pairwise_cons.mp h).2
    unfold putEntry
    split
    · rename_i before
      refine List.pairwise_cons.mpr ⟨fun x hx => ?_, h⟩
      rcases List.mem_cons.mp hx with rfl | hx
      · exact before
      · exact String.lt_trans before (head x hx)
    · rename_i notBefore
      split
      · rename_i same
        exact List.pairwise_cons.mpr ⟨fun x hx => same ▸ head x hx, tail⟩
      · rename_i differs
        refine List.pairwise_cons.mpr ⟨fun x hx => ?_, ih tail⟩
        rcases mem_putEntry hx with rfl | hx
        · exact Std.lt_of_le_of_ne (String.not_lt.mp notBefore) (Ne.symm differs)
        · exact head x hx

/-- No entries. -/
def empty : NameTable := ⟨[], List.Pairwise.nil⟩

instance : Inhabited NameTable := ⟨empty⟩
instance : EmptyCollection NameTable := ⟨empty⟩

/-- The number stored under exactly this name. -/
def get? (t : NameTable) (name : String) : Option Single :=
  (t.entries.find? fun e => e.1 == name).map (·.2)

/-- Stores a number under a name. -/
def insert (t : NameTable) (name : String) (value : Single) : NameTable :=
  ⟨putEntry name value t.entries, sorted_putEntry t.sorted⟩

/-- Stores the entries one after the other. -/
def ofList (entries : List (String × Single)) : NameTable :=
  entries.foldl (fun t e => t.insert e.1 e.2) empty

def size (t : NameTable) : Nat := t.entries.length

end NameTable
end TickScript
