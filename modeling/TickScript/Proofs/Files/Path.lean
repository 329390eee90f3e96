import TickScript.Files.Path

/-! # Paths below a directory

    A path that is joined to a directory has the components of both (`components_join`), whatever
    separators the two texts end and begin with.

    `lexical` resolves components by themselves, without a tree: `..` takes back the one in front
    of it.  Components without `..` only lead further down (`lexical_append`).
-/

namespace TickScript.Path

variable {names front : List String} {absolute : Bool}

/-! ## Components -/

/-- **The components of a text** that count. -/
def components (text : String) : List String := (split text.toList).filter significant

theorem names_parse (text : String) : (parse text).names = components text := rfl

/-- A separator ends one component and begins another. -/
theorem split_append (before behind : List Char) :
    split (before ++ '/' :: behind) = split before ++ split behind := by
  simp only [split, List.splitOn_eq_splitOnP]
  rw [List.splitOnP_append_cons before behind (by simp), List.map_append]

/-- A text that ends in a separator has the components in front of it. -/
theorem components_of_getLast? {text : String} (ends : text.toList.getLast? = some '/') :
    ∃ before, text.toList = before ++ ['/'] ∧
      components text = (split before).filter significant := by
  obtain ⟨before, whole⟩ := List.getLast?_eq_some_iff.mp ends
  refine ⟨before, whole, ?_⟩
  rw [components, whole, split_append, List.filter_append]
  exact List.append_nil _

/-- **Joining appends components.** -/
theorem components_join (dir path : String) :
    components (join dir path) = components dir ++ components path := by
  unfold join
  by_cases empty : dir = ""
  · rw [if_pos empty, empty]
    rfl
  · rw [if_neg empty]
    by_cases ends : dir.toList.getLast? = some '/'
    · -- the separator that is there is used
      obtain ⟨before, whole, same⟩ := components_of_getLast? ends
      have text : (dir ++ path).toList = before ++ '/' :: path.toList := by
        rw [String.toList_append, whole, List.append_assoc, List.singleton_append]
      rw [if_pos ends, same, components, text, split_append, List.filter_append]
      rfl
    · have text : (dir ++ "/" ++ path).toList = dir.toList ++ '/' :: path.toList := by
        simp
      rw [if_neg ends, components, text, split_append, List.filter_append]
      rfl

/-- A relative path does not decide where the joined one starts. -/
theorem absolute_join {dir path : String} (relative : (parse path).absolute = false) :
    (parse (join dir path)).absolute = (parse dir).absolute := by
  unfold join
  by_cases empty : dir = ""
  · rw [if_pos empty, relative, empty]
    rfl
  · have filled : dir.toList ≠ [] := fun none => empty (String.toList_eq_nil_iff.mp none)
    have first (more : List Char) : (dir.toList ++ more).head? = dir.toList.head? := by
      rw [List.head?_append, Option.or_of_isSome (List.isSome_head?.mpr filled)]
    rw [if_neg empty]
    split
    · rw [parse, parse, String.toList_append, first]
    · rw [parse, parse, String.toList_append, String.toList_append, List.append_assoc, first]

/-! ## Resolving components -/

/-- One component further, with the components so far innermost first.  Above the root there is
    nothing; above the start of a relative path there is, and the way there is kept. -/
def enter (absolute : Bool) (inside : List String) (name : String) : List String :=
  if name = ".." then
    match inside with
    | [] => if absolute then [] else [".."]
    | ".." :: outside => ".." :: ".." :: outside
    | _ :: outside => outside
  else name :: inside

/-- **Where components lead by themselves**, innermost first. -/
def lexical (absolute : Bool) (names : List String) : List String :=
  names.foldl (enter absolute) []

theorem enter_of_ne {name : String} (down : name ≠ "..") (inside : List String) :
    enter absolute inside name = name :: inside := if_neg down

/-- **Components without `..` lead further down**, one by one. -/
theorem lexical_append (stays : ".." ∉ front) :
    lexical absolute (names ++ front) = front.reverse ++ lexical absolute names := by
  unfold lexical
  rw [List.foldl_append]
  generalize names.foldl (enter absolute) [] = inside
  induction front generalizing inside with
  | nil => rfl
  | cons name rest ih =>
    obtain ⟨here, later⟩ := List.ne_and_not_mem_of_not_mem_cons stays
    rw [List.foldl_cons, ih later, enter_of_ne (Ne.symm here), List.reverse_cons,
      List.append_assoc, List.singleton_append]

end TickScript.Path
