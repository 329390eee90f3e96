import TickScript.Proofs.Save.Format

/-! # Save files that break off

    A reader takes bytes from the front, a number of them at a time that it knows by then.  So what
    it makes of some bytes does not change when more bytes follow, with one exception: where it ran
    out of bytes, it may go on (`Steady`).

        enough bytes        the same result, with more bytes left over
        another fault       the same fault
        not enough bytes    a fault that says where, and anything when more bytes follow

    A reader that accepts all bytes of a file has none left over.  So a file without its end can
    neither be accepted nor be refused for another reason: it is truncated
    (`Spells.truncated`).
-/

namespace TickScript.SaveData

variable {α β : Type}

namespace Cursor

/-- The same place, with more bytes ahead. -/
def extend (c : Cursor) (more : Bytes) : Cursor := ⟨c.offset, c.rest ++ more⟩

/-- The offset at which the bytes end. -/
def finish (c : Cursor) : Nat := c.offset + c.rest.length

end Cursor

/-- **What becomes of a reader when more bytes follow.** -/
inductive Continues (one : Reader α) (c : Cursor) (more : Bytes) : Prop
  /-- It runs out of bytes. -/
  | short {offset : Nat} (ends : one c = .error (.truncated offset)) (within : offset ≤ c.finish)
  /-- It fails as it did. -/
  | fault {f : SaveFault} (ends : one c = .error f) (still : one (c.extend more) = .error f)
  /-- It gives what it gave, and more is left over. -/
  | ok {a : α} {d : Cursor} (ends : one c = .ok (a, d)) (finish : d.finish = c.finish)
      (still : one (c.extend more) = .ok (a, d.extend more))

/-- **A reader that sees no further than it reads.** -/
def Steady (one : Reader α) : Prop := ∀ c more, Continues one c more

namespace Steady

variable {one : Reader α}

theorem pure (x : α) : Steady (Pure.pure x : Reader α) := fun _ _ => .ok rfl rfl rfl

theorem throw (fault : SaveFault) : Steady (MonadExcept.throw fault : Reader α) :=
  fun _ _ => .fault rfl rfl

/-- One reader after the other. -/
theorem bind {next : α → Reader β} (first : Steady one) (second : ∀ a, Steady (next a)) :
    Steady (one >>= next) := by
  have opened (c : Cursor) : (one >>= next) c = (one c >>= fun r => next r.1 r.2) := rfl
  intro c more
  cases first c more with
  | short ends within => exact .short (by rw [opened, ends]; rfl) within
  | fault ends still => exact .fault (by rw [opened, ends]; rfl) (by rw [opened, still]; rfl)
  | @ok a d ends finish still =>
    -- from here on the second reader decides
    have run : (one >>= next) c = next a d := by rw [opened, ends]; rfl
    have run' : (one >>= next) (c.extend more) = next a (d.extend more) := by
      rw [opened, still]; rfl
    cases second a d more with
    | short ends within => exact .short (run.trans ends) (finish ▸ within)
    | fault ends still => exact .fault (run.trans ends) (run'.trans still)
    | ok ends finish' still => exact .ok (run.trans ends) (finish'.trans finish) (run'.trans still)

/-- Bytes from the front. -/
theorem take (n : Nat) : Steady (SaveData.take n) := by
  intro c more
  by_cases few : c.rest.length < n
  · exact .short (if_pos few) (Nat.le_add_right ..)
  · have enough : n ≤ c.rest.length := Nat.le_of_not_lt few
    have still : ¬ (c.rest ++ more).length < n := by
      rw [List.length_append]
      omega
    refine .ok (if_neg few) ?_ ((if_neg still).trans ?_)
    · simp only [Cursor.finish, List.length_drop]
      omega
    · simp only [Cursor.extend, List.take_append_of_le_length enough,
        List.drop_append_of_le_length enough]

/-- A reader may know where it stands, but not what is ahead. -/
theorem place {next : Cursor → Reader β} (blind : ∀ c more, next (c.extend more) = next c)
    (h : ∀ c, Steady (next c)) : Steady (get >>= next) := by
  intro c more
  have run' : (get >>= next) (c.extend more) = next c (c.extend more) :=
    congrFun (blind c more) (c.extend more)
  cases h c c more with
  | short ends within => exact .short ends within
  | fault ends still => exact .fault ends (run'.trans still)
  | ok ends finish still => exact .ok ends finish (run'.trans still)

/-- A fault if the test holds. -/
theorem check {bad : Prop} [Decidable bad] (fault : SaveFault) (other : PUnit → Reader α)
    (h : Steady one) : Steady (if bad then MonadExcept.throw fault >>= other else one) := by
  by_cases holds : bad
  · rw [if_pos holds]
    exact fun _ _ => .fault rfl rfl
  · rw [if_neg holds]
    exact h

/-- Many things in a row. -/
theorem many (h : Steady one) (count : Nat) : Steady (readMany one count) := by
  induction count with
  | zero => exact pure []
  | succ count ih => exact bind h fun first => bind ih fun rest => pure (first :: rest)

end Steady

/-! ## The reader of files -/

theorem steady_readName : Steady readName := by
  refine .bind (.take 4) fun length => .place (fun _ _ => rfl) fun c =>
    .bind (.take (Bytes.word length)) fun name => ?_
  cases Utf8.decode? name with
  | none => exact .throw _
  | some name => exact .bind (.take 4) fun _ => .pure _

theorem steady_readBody (kind : SaveKind) (count : Nat) : Steady (readBody kind count) := by
  have row {α : Type} (read : Bytes → α) : Steady (read <$> take 4) :=
    .bind (.take 4) fun _ => .pure _
  cases kind with
  | names => exact .bind (.many steady_readName count) fun _ => .pure _
  | ints | floats => exact .bind (.many (row _) count) fun _ => .pure _

theorem steady_reader : Steady reader := by
  refine .bind (.take 4) fun first => .check _ _ <| .bind (.take 2) fun version => .check _ _ <|
    .bind (.take 1) fun code => ?_
  dsimp only
  cases SaveKind.ofCode? (Int32.ofNat (code.headD 0).toNat) with
  | none => exact .throw _
  | some kind => exact .bind (.take 4) fun _ => steady_readBody kind _

/-! ## Files without their end -/

variable {part front back : Bytes} {d : SaveData}

/-- **A part without its end is truncated**, wherever it is cut. -/
theorem Spells.truncated (spells : Spells part d) (cut : part = front ++ back) (lost : back ≠ []) :
    ∃ offset, offset ≤ front.length ∧ ofBytes front = .error (.truncated offset) := by
  have whole : reader ⟨0, front ++ back⟩ = .ok (d, ⟨0 + part.length, []⟩) :=
    (reads_reader _ d _).mpr ⟨part, spells, by rw [← cut, List.append_nil], rfl⟩
  cases steady_reader ⟨0, front⟩ back with
  | @short offset ends within =>
    refine ⟨offset, by simpa [Cursor.finish] using within, ?_⟩
    show (·.1) <$> reader ⟨0, front⟩ = _
    rw [ends]
    rfl
  | fault ends still => cases still.symm.trans whole
  | ok ends finish still =>
    -- what is left over in front of the end would still be left over behind it
    have left := (Prod.mk.inj (Except.ok.inj (still.symm.trans whole))).2
    exact absurd (List.append_eq_nil_iff.mp (congrArg Cursor.rest left)).2 lost

/-- **Truncated save files are always detected.**  Whatever is written, each beginning of the file
    that is not all of it is refused as truncated, at a place in what is there; it is never refused
    for another reason, nor read as fewer data. -/
theorem cut_files_are_truncated (fits : Fits d) (begins : front <+: d.toBytes)
    (lost : front ≠ d.toBytes) :
    ∃ offset, offset ≤ front.length ∧ ofBytes front = .error (.truncated offset) := by
  obtain ⟨back, whole⟩ := begins
  refine (spells_toBytes fits).truncated whole.symm ?_
  rintro rfl
  exact lost ((List.append_nil front).symm.trans whole)

/-- A file that breaks off inside a character. -/
theorem cut_files_are_truncated_in_name :
    let d := names (.ofList [("é", ⟨0x7fc00001⟩)])
    let front := d.toBytes.take 16
    Fits d ∧ front <+: d.toBytes ∧ front ≠ d.toBytes ∧
      ∃ offset, offset ≤ front.length ∧ ofBytes front = .error (.truncated offset) := by
  intro d front
  have fits : Fits d := by
    refine ⟨by decide, fun table same => ?_⟩
    obtain rfl := SaveData.names.inj same
    decide
  have begins : front <+: d.toBytes := List.take_prefix 16 d.toBytes
  have lost : front ≠ d.toBytes := by decide
  exact ⟨fits, begins, lost, cut_files_are_truncated fits begins lost⟩

/-- The fault says where the name begins. -/
example : ofBytes ((names (.ofList [("é", ⟨0x7fc00001⟩)])).toBytes.take 16) =
    .error (.truncated 15) := rfl

end TickScript.SaveData
