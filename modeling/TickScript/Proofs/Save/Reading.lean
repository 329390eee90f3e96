import TickScript.Save.Data

/-! # What a reader of save data accepts

    A reader is described by a relation between parts of the file and values: `Reads one Spelt`
    says that it gives a value exactly if the bytes ahead start with a part that spells the
    value, whatever follows, and that it then stands behind the part.  There is a rule for each
    way to build a reader:

        nothing read        the empty part
        a fault             no part
        a fixed length      every part of that length
        one after another   one part behind the other
        a test              the parts of what follows, if it is passed
        many in a row       the spellings of the values, one behind the other
-/

namespace TickScript.SaveData

variable {α β : Type}

/-- **What a reader accepts.**  It gives a value exactly if the bytes ahead start with a part
    that spells the value, and then stands behind that part. -/
def Reads (one : Reader α) (Spelt : Bytes → α → Prop) : Prop :=
  ∀ c a after, one c = .ok (a, after) ↔
    ∃ part, Spelt part a ∧ c.rest = part ++ after.rest ∧ after.offset = c.offset + part.length

namespace Reads

variable {one : Reader α} {next : α → Reader β} {P P' : Bytes → α → Prop}
  {Q : α → Bytes → β → Prop}

/-- Only what the relation holds of matters. -/
theorem congr (h : Reads one P) (same : ∀ part a, P part a ↔ P' part a) : Reads one P' := by
  intro c a after
  rw [h c a after]
  simp only [same]

/-- The empty part spells the value that is given at once. -/
theorem pure (x : α) : Reads (Pure.pure x) fun part a => part = [] ∧ a = x := by
  intro c a after
  have given : (Pure.pure x : Reader α) c = .ok (x, c) := rfl
  rw [given, Except.ok.injEq, Prod.mk.injEq]
  constructor
  · rintro ⟨rfl, rfl⟩
    exact ⟨[], ⟨rfl, rfl⟩, rfl, rfl⟩
  · rintro ⟨part, ⟨rfl, rfl⟩, rest, offset⟩
    cases c
    cases after
    simp_all

/-- A fault accepts nothing. -/
theorem throw (fault : SaveFault) : Reads (MonadExcept.throw fault : Reader α) fun _ _ => False := by
  intro c a after
  have given : (MonadExcept.throw fault : Reader α) c = .error fault := rfl
  rw [given]
  simp

theorem bind_eq_ok_iff (one : Reader α) (next : α → Reader β) (c after : Cursor) (b : β) :
    (one >>= next) c = .ok (b, after) ↔
      ∃ a mid, one c = .ok (a, mid) ∧ next a mid = .ok (b, after) := by
  have unfolded : (one >>= next) c = (one c >>= fun r => next r.1 r.2) := rfl
  rw [unfolded]
  cases one c with
  | error fault => simp [Bind.bind, Except.bind]
  | ok r =>
    constructor
    · intro h
      exact ⟨r.1, r.2, rfl, h⟩
    · rintro ⟨a, mid, same, h⟩
      cases same
      exact h

/-- One reader after the other accepts one part behind the other. -/
theorem bind (first : Reads one P) (second : ∀ a, Reads (next a) (Q a)) :
    Reads (one >>= next) fun part b => ∃ a x y, part = x ++ y ∧ P x a ∧ Q a y b := by
  intro c b after
  rw [bind_eq_ok_iff]
  constructor
  · rintro ⟨a, mid, left, right⟩
    obtain ⟨x, spellsX, restX, offsetX⟩ := (first c a mid).mp left
    obtain ⟨y, spellsY, restY, offsetY⟩ := (second a mid b after).mp right
    refine ⟨x ++ y, ⟨a, x, y, rfl, spellsX, spellsY⟩, ?_, ?_⟩
    · rw [restX, restY, List.append_assoc]
    · rw [offsetY, offsetX, List.length_append, Nat.add_assoc]
  · rintro ⟨part, ⟨a, x, y, rfl, spellsX, spellsY⟩, rest, offset⟩
    rw [List.append_assoc] at rest
    rw [List.length_append, ← Nat.add_assoc] at offset
    -- the first part fixes where the second reader starts
    let mid : Cursor := ⟨c.offset + x.length, y ++ after.rest⟩
    have left : one c = .ok (a, mid) := (first c a mid).mpr ⟨x, spellsX, rest, rfl⟩
    have right : next a mid = .ok (b, after) :=
      (second a mid b after).mpr ⟨y, spellsY, rfl, offset⟩
    exact ⟨a, mid, left, right⟩

/-- Every part of the length asked for is given as it is. -/
theorem take (n : Nat) : Reads (SaveData.take n) fun part a => part.length = n ∧ part = a := by
  intro c a after
  unfold SaveData.take
  split
  · rename_i short
    constructor
    · intro h
      cases h
    · rintro ⟨part, ⟨size, rfl⟩, rest, offset⟩
      rw [rest, List.length_append] at short
      omega
  · rename_i long
    rw [Except.ok.injEq, Prod.mk.injEq]
    constructor
    · rintro ⟨rfl, rfl⟩
      have size : (c.rest.take n).length = n := by
        rw [List.length_take]
        omega
      refine ⟨c.rest.take n, ⟨size, rfl⟩, ?_, ?_⟩
      · exact (List.take_append_drop n c.rest).symm
      · rw [size]
    · rintro ⟨part, ⟨rfl, rfl⟩, rest, offset⟩
      cases after
      simp_all

/-- A word, then what depends on it. -/
theorem takeThen {next : Bytes → Reader β} {Q : Bytes → Bytes → β → Prop} (n : Nat)
    (second : ∀ x, Reads (next x) (Q x)) :
    Reads (SaveData.take n >>= next) fun part b =>
      ∃ x y, x.length = n ∧ part = x ++ y ∧ Q x y b := by
  refine (bind (take n) second).congr ?_
  intro part b
  constructor
  · rintro ⟨_, x, y, rfl, ⟨size, rfl⟩, spelt⟩
    exact ⟨x, y, size, rfl, spelt⟩
  · rintro ⟨x, y, size, rfl, spelt⟩
    exact ⟨x, x, y, rfl, ⟨size, rfl⟩, spelt⟩

/-- Where the cursor stands is known to a reader, but decides only what its faults say. -/
theorem place {next : Cursor → Reader β} {Q : Bytes → β → Prop} (h : ∀ c, Reads (next c) Q) :
    Reads (get >>= next) Q := by
  intro c b after
  exact h c c b after

/-- A fault if the test holds. -/
theorem check {bad : Prop} [Decidable bad] (fault : SaveFault) (other : PUnit → Reader α)
    (h : Reads one P) :
    Reads (if bad then MonadExcept.throw fault >>= other else one) fun part a =>
      ¬ bad ∧ P part a := by
  by_cases holds : bad
  · rw [if_pos holds]
    have refused (c : Cursor) : (MonadExcept.throw fault >>= other) c = .error fault := rfl
    intro c a after
    rw [refused c]
    simp [holds]
  · rw [if_neg holds]
    exact h.congr (by simp [holds])

/-- A word of four bytes as a value, if reading and writing the value undo each other. -/
theorem word {read : Bytes → α} {write : α → Bytes}
    (canonical : ∀ part a, part = write a ↔ part.length = 4 ∧ read part = a) :
    Reads (read <$> SaveData.take 4) fun part a => part = write a := by
  refine (takeThen 4 fun x => pure (read x)).congr ?_
  intro part a
  rw [canonical]
  constructor
  · rintro ⟨x, y, size, rfl, rfl, rfl⟩
    rw [List.append_nil]
    exact ⟨size, rfl⟩
  · rintro ⟨size, rfl⟩
    exact ⟨part, [], size, (List.append_nil part).symm, rfl, rfl⟩

/-- Many things in a row. -/
theorem many {write : α → Bytes} {Good : α → Prop}
    (h : Reads one fun part a => Good a ∧ part = write a) (count : Nat) :
    Reads (readMany one count) fun part xs =>
      xs.length = count ∧ (∀ x ∈ xs, Good x) ∧ part = xs.flatMap write := by
  induction count with
  | zero =>
    refine (pure []).congr ?_
    intro part xs
    constructor
    · rintro ⟨rfl, rfl⟩
      simp
    · rintro ⟨none, -, rfl⟩
      simp [List.length_eq_zero_iff.mp none]
  | succ count ih =>
    refine (bind h fun first => bind ih fun rest => pure (first :: rest)).congr ?_
    intro part xs
    constructor
    · rintro ⟨first, x, y, rfl, ⟨good, rfl⟩, others, z, w, rfl, ⟨size, goods, rfl⟩, rfl, rfl⟩
      simpa [size, good] using goods
    · rintro ⟨size, goods, rfl⟩
      cases xs with
      | nil => cases size
      | cons first others =>
        have size : others.length = count := Nat.succ.inj size
        obtain ⟨good, goods⟩ := List.forall_mem_cons.mp goods
        exact ⟨first, _, _, rfl, ⟨good, rfl⟩, others, _, [], (List.append_nil _).symm,
          ⟨size, goods, rfl⟩, rfl, rfl⟩

end Reads
end TickScript.SaveData
