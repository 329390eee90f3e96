import TickScript.Proofs.Save.Format

/-! # Damaged save files

    A file is of use to whoever asks for a kind of store if it starts with data of that kind.  It
    is not if its first bytes are wrong, if it breaks off inside the data, if it holds another
    kind, or if it cannot be read for any other reason (`damaged_iff`).

    That a file which breaks off holds nothing else is not obvious: the beginning of one part might
    spell other data.  The format excludes that (`Spells.not_extended`), since what is read does not
    depend on what follows.
-/

namespace TickScript.SaveData

variable {part rest more b : Bytes} {d d' : SaveData} {kind : SaveKind}

/-- **No part that spells data is the beginning of another one.** -/
theorem Spells.not_extended (h : Spells part d) (h' : Spells (part ++ more) d') : more = [] := by
  -- the reader accepts both parts at the start of the longer one, but it stops at one place
  let c : Cursor := ⟨0, part ++ more⟩
  have first : reader c = .ok (d, ⟨0 + part.length, more⟩) :=
    (reads_reader c d _).mpr ⟨part, h, rfl, rfl⟩
  have second : reader c = .ok (d', ⟨0 + (part ++ more).length, []⟩) :=
    (reads_reader c d' _).mpr ⟨part ++ more, h', (List.append_nil _).symm, rfl⟩
  have ends := (Prod.mk.inj (Except.ok.inj (first.symm.trans second))).2
  exact congrArg Cursor.rest ends

/-- **A damaged file**, for whoever asks for a kind of store. -/
inductive Damaged (kind : SaveKind) (b : Bytes) : Prop
  /-- It does not start with the four bytes of save files. -/
  | magic (wrong : b.take 4 ≠ SaveData.magic)
  /-- The version is not the one there is. -/
  | version (wrong : (b.drop 4).take 2 ≠ Bytes.ofWord 2 saveVersion)
  /-- The code names no kind, or another one than is asked for. -/
  | code (wrong : (b.drop 6).head? ≠ some kind.code)
  /-- It breaks off inside the data. -/
  | truncated {d : SaveData} {more : Bytes} (spells : Spells (b ++ more) d) (cut : more ≠ [])
  /-- Nothing can be read, or something of another kind. -/
  | unread (other : ∀ d, ofBytes b = .ok d → d.kind ≠ kind)

theorem Damaged.kind_ne (damaged : Damaged kind b) (read : ofBytes b = .ok d) : d.kind ≠ kind := by
  rintro rfl
  obtain ⟨part, rest, spells, rfl⟩ := ofBytes_eq_ok_iff.mp read
  cases damaged with
  | unread other => exact other d read rfl
  | truncated spells' cut =>
    rw [List.append_assoc] at spells'
    exact cut (List.append_eq_nil_iff.mp (spells.not_extended spells')).2
  | magic wrong =>
    obtain ⟨count, entries, -, -, rfl⟩ := spells
    exact wrong rfl
  | version wrong =>
    obtain ⟨count, entries, -, -, rfl⟩ := spells
    exact wrong rfl
  | code wrong =>
    obtain ⟨count, entries, -, -, rfl⟩ := spells
    exact wrong rfl

/-- **A file is damaged exactly if nothing of the kind is read from it.** -/
theorem damaged_iff : Damaged kind b ↔ ∀ d, ofBytes b = .ok d → d.kind ≠ kind :=
  ⟨fun damaged _ read => damaged.kind_ne read, .unread⟩

end TickScript.SaveData
