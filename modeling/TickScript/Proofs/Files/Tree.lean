import TickScript.Files.Tree
import TickScript.Proofs.Keyed

/-! # What is written can be read

    A file that was written is read back as it was (`read_of_write`).  Reading follows the same
    names as writing did.  On its way it passes directories only, and the location that was
    written to is none, so the new node is not in the way.
-/

namespace TickScript.FileTree

variable {t t' : FileTree} {place other start : Location} {node : FileNode} {names : List String}
  {working : Location} {text : String} {content : Bytes}

/-! ## One node -/

theorem node?_eq (below : place ≠ []) : t.node? place = Keyed.lookup t.nodes place := by
  cases place with
  | nil => exact absurd rfl below
  | cons name rest =>
    -- locations are compared in two ways, which agree
    have same : (fun e : Location × FileNode => e.1 == name :: rest) =
        fun e => decide (e.1 = name :: rest) := by
      funext e
      rw [Bool.eq_iff_iff]
      simp
    unfold node? Keyed.lookup
    rw [same]
    rfl

/-- Below the root, the node that was put is there. -/
theorem node?_put_self (below : place ≠ []) : (t.put place node).node? place = some node := by
  rw [node?_eq below, put, Keyed.lookup_cons, if_pos rfl]

/-- Elsewhere nothing has changed. -/
theorem node?_put_of_ne (ne : other ≠ place) : (t.put place node).node? other = t.node? other := by
  by_cases root : other = []
  · rw [root]
    rfl
  · rw [node?_eq root, node?_eq root, put, Keyed.lookup_cons, if_neg (Ne.symm ne)]
    have others := Keyed.lookup_filter (fun x => x != place) t.nodes other
    rw [if_pos (by simpa using ne)] at others
    exact others

/-! ## Following names -/

/-- What passes a check is what there is without it. -/
theorem check_eq_ok_iff {α : Type} {c : Prop} [Decidable c] {f : FileFault}
    {x : Except FileFault α} {a : α} :
    (if c then .error f else x) = .ok a ↔ ¬ c ∧ x = .ok a := by
  by_cases fails : c
  · simp [fails]
  · simp [fails]

theorem checkDirectory_eq_ok_iff :
    t.checkDirectory place = .ok () ↔ t.node? place = some .directory := by
  unfold checkDirectory
  cases t.node? place with
  | none => simp
  | some node => cases node <;> simp

/-- **A new node that takes no directory's place is not in the way.** -/
theorem follow_put (free : t.node? place ≠ some .directory)
    (followed : t.follow start names = .ok other) :
    (t.put place node).follow start names = .ok other := by
  -- on the names: each is followed from a directory, which is not where the node was put
  induction names generalizing start with
  | nil => exact followed
  | cons name rest ih =>
    have checked : t.checkDirectory start = .ok () := by
      cases result : t.checkDirectory start with
      | ok _ => rfl
      | error f =>
        rw [follow, result] at followed
        cases followed
    have directory := checkDirectory_eq_ok_iff.mp checked
    have apart : start ≠ place := by
      rintro rfl
      exact free directory
    have checked' : (t.put place node).checkDirectory start = .ok () := by
      rw [checkDirectory_eq_ok_iff, node?_put_of_ne apart]
      exact directory
    rw [follow, checked] at followed
    rw [follow, checked']
    simp only [bind, Except.bind] at followed ⊢
    by_cases up : name = ".."
    · rw [if_pos up] at followed ⊢
      exact ih followed
    · rw [if_neg up] at followed ⊢
      obtain ⟨short, further⟩ := check_eq_ok_iff.mp followed
      exact check_eq_ok_iff.mpr ⟨short, ih further⟩

theorem locate_put (free : t.node? place ≠ some .directory)
    (located : t.locate working text = .ok other) :
    (t.put place node).locate working text = .ok other := by
  unfold locate at located ⊢
  simp only [check_eq_ok_iff] at located ⊢
  obtain ⟨zero, empty, long, followed⟩ := located
  exact ⟨zero, empty, long, follow_put free followed⟩

/-! ## Files -/

/-- **All that an overwrite can do.** -/
theorem of_overwrite (written : t.overwrite working text content = .ok t') :
    ∃ place, t.locate working text = .ok place ∧ t.node? place ≠ some .directory ∧
      (Path.parse text).directory = false ∧ t' = t.put place (.file content) := by
  unfold overwrite at written
  cases located : t.locate working text with
  | error f =>
    rw [located] at written
    cases written
  | ok place =>
    rw [located] at written
    simp only [bind, Except.bind] at written
    -- a directory is not overwritten, and beside that only a trailing separator is in the way
    have checked : t.node? place ≠ some .directory ∧
        ∃ f : FileFault, (if (Path.parse text).directory then .error f
          else .ok (t.put place (.file content))) = Except.ok t' := by
      cases found : t.node? place with
      | none =>
        simp only [found] at written
        exact ⟨nofun, _, written⟩
      | some node =>
        simp only [found] at written
        cases node with
        | directory => cases written
        | file old => exact ⟨nofun, _, written⟩
    obtain ⟨free, f, result⟩ := checked
    obtain ⟨file, put⟩ := check_eq_ok_iff.mp result
    cases put
    exact ⟨place, rfl, free, Bool.eq_false_iff.mpr file, rfl⟩

theorem read_of_overwrite (written : t.overwrite working text content = .ok t') :
    t'.read working text = .ok content := by
  obtain ⟨place, located, free, file, rfl⟩ := of_overwrite written
  have below : place ≠ [] := by
    rintro rfl
    exact free rfl
  unfold read
  rw [locate_put free located]
  simp only [bind, Except.bind, node?_put_self below, file]
  rfl

/-- **What was written is read.** -/
theorem read_of_write (written : t.write working text content = (t', .ok ())) :
    t'.read working text = .ok content := by
  unfold write at written
  dsimp only at written
  split at written
  case isTrue => cases written
  case isFalse =>
    split at written
    case isTrue => cases written
    case isFalse =>
      -- directories were made first, and the file was written in the tree with them
      split at written
      case h_1 => cases written
      case h_2 made _ =>
        split at written
        case h_1 => cases written
        case h_2 overwritten =>
          cases written
          exact read_of_overwrite overwritten

end TickScript.FileTree
