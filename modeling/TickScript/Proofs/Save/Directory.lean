import TickScript.Proofs.Files.Path
import TickScript.Save.Directory

/-! # Save files stay below their directory

    A path is accepted by its text alone: it is not empty, does not begin at the root, and has no
    `..` between its separators (`stays_iff`).  Names like `...` and `a..` are ordinary.  What is
    accepted leads from the directory further down at every component (`resolve_stays_below`).
-/

namespace TickScript.SaveDirectory

open TickScript.Path (components lexical)

variable {dir path full : String}

/-- **Which paths are accepted.** -/
theorem stays_iff : stays path = true ↔
    path ≠ "" ∧ path.toList.head? ≠ some '/' ∧ ".." ∉ Path.split path.toList := by
  have relative : (!(Path.parse path).absolute) = true ↔ path.toList.head? ≠ some '/' := by
    simp [Path.parse]
  have inside : (!(Path.parse path).names.contains "..") = true ↔
      ".." ∉ Path.split path.toList := by
    -- `..` is one of the components that count
    rw [Path.names_parse, components, Bool.not_eq_true', ← Bool.not_eq_true, List.contains_iff_mem,
      List.mem_filter]
    simp [Path.significant]
  unfold stays
  rw [Bool.and_eq_true, Bool.and_eq_true, relative, inside, decide_eq_true_eq, and_assoc]

theorem resolve_eq_ok_iff :
    resolve dir path = .ok full ↔ stays path = true ∧ Path.join dir path = full := by
  unfold resolve
  by_cases accepted : stays path = true
  · simp [accepted]
  · simp [accepted]

/-- **Save paths never leave their directory, and nothing harmless is refused.**  A path is
    resolved exactly if its text is not empty, does not begin with a separator and has no `..`
    among its components; any other is rejected by name.  The result has the components of the
    directory, then those of the path, and so it leads from where the directory leads further down
    with each component, without a step up. -/
theorem resolve_stays_below (dir path : String) :
    ((∃ full, resolve dir path = .ok full) ↔
      path ≠ "" ∧ path.toList.head? ≠ some '/' ∧ ".." ∉ Path.split path.toList) ∧
    (∀ f, resolve dir path = .error f → f = .pathRejected path) ∧
    ∀ full, resolve dir path = .ok full →
      components full = components dir ++ components path ∧
      (Path.parse full).absolute = (Path.parse dir).absolute ∧
      ∀ front, front <+: components path →
        lexical (Path.parse dir).absolute (components dir ++ front) =
          front.reverse ++ lexical (Path.parse dir).absolute (components dir) := by
  refine ⟨?_, fun f rejected => ?_, fun full resolved => ?_⟩
  · rw [← stays_iff]
    constructor
    · rintro ⟨full, resolved⟩
      exact (resolve_eq_ok_iff.mp resolved).1
    · exact fun accepted => ⟨_, resolve_eq_ok_iff.mpr ⟨accepted, rfl⟩⟩
  · unfold resolve at rejected
    split at rejected
    · cases rejected
    · cases rejected
      rfl
  · obtain ⟨accepted, rfl⟩ := resolve_eq_ok_iff.mp resolved
    obtain ⟨-, relative, inside⟩ := stays_iff.mp accepted
    refine ⟨Path.components_join dir path, Path.absolute_join (by simp [Path.parse, relative]), ?_⟩
    intro front begins
    refine Path.lexical_append fun up => inside ?_
    exact (List.mem_filter.mp (begins.subset up)).1

/-- Doubled and trailing separators, single dots and names of dots are harmless, also below a
    directory that is itself reached by a step up. -/
theorem resolve_stays_below_dots :
    let path := "./a..//.../b/./"
    (∃ full, resolve "/x/../saves/" path = .ok full ∧
      components full = ["x", "..", "saves", "a..", "...", "b"]) ∧
    lexical true (components "/x/../saves/" ++ ["a..", "..."]) = ["...", "a..", "saves"] ∧
    ¬ ∃ full, resolve "/x/../saves/" "a/../b" = .ok full := by
  intro path
  obtain ⟨accepts, -, below⟩ := resolve_stays_below "/x/../saves/" path
  obtain ⟨refuses, -⟩ := resolve_stays_below "/x/../saves/" "a/../b"
  obtain ⟨full, resolved⟩ := accepts.mpr (by decide)
  obtain ⟨whole, -, leads⟩ := below full resolved
  refine ⟨⟨full, resolved, whole.trans (by decide)⟩, ?_, fun accepted => ?_⟩
  · exact leads ["a..", "..."] (by decide)
  · exact absurd (refuses.mp accepted).2.2 (by decide)

end TickScript.SaveDirectory
