import TickScript.Text.Template

/-! # Templates in parts

    A template is read from left to right with one character of lookahead.  So it can be cut
    anywhere but behind a percent sign or a backslash, which may form a piece with the character
    that follows.  A text that ends otherwise is closed, and its pieces are the same whatever
    follows it (`pieces_append`).

    Every slot takes one parameter, or none if none is left.  So a closed text shows what it
    shows alone, and what follows it shows the parameters that its slots have left
    (`expands_in_parts`).
-/

namespace TickScript.Template

/-! ## Pieces -/

/-- A slot is a percent sign and its letter. -/
theorem pair?_slot {kind : SlotKind} {letter : Char} (known : SlotKind.ofChar? letter = some kind) :
    pair? '%' letter = some (.slot kind letter) := by
  have other : letter ≠ '%' := by
    rintro rfl
    cases known
  simp [pair?, other, known]

/-- Only two characters begin a pair. -/
theorem pair?_eq_none {c d : Char} (percent : c ≠ '%') (backslash : c ≠ '\\') :
    pair? c d = none := by
  simp [pair?, percent, backslash]

theorem pieces_pair {c d : Char} {p : Piece} (pair : pair? c d = some p) (rest : List Char) :
    pieces (c :: d :: rest) = p :: pieces rest := by
  simp only [pieces, pair]

/-- A character that forms no pair is a piece of its own. -/
theorem pieces_alone {c : Char} {rest : List Char} (alone : ∀ d ∈ rest.head?, pair? c d = none) :
    pieces (c :: rest) = .char c :: pieces rest := by
  cases rest with
  | nil => rfl
  | cons d rest =>
    have alone : pair? c d = none := alone d rfl
    simp only [pieces, alone]

/-! ## Slots -/

/-- Whether the piece takes a parameter. -/
def Piece.isSlot : Piece → Bool
  | char _ => false
  | slot _ _ => true

/-- **How many slots a text has.**  Pairs that stand for a character are passed over. -/
def slotCount : List Char → Nat
  | '\\' :: 'n' :: rest | '\\' :: 't' :: rest | '%' :: '%' :: rest => slotCount rest
  | '%' :: d :: rest =>
    if d ∈ ['d', 'i', 'f', 'v'] then slotCount rest + 1 else slotCount (d :: rest)
  | _ :: rest => slotCount rest
  | [] => 0

theorem exists_ofChar? {c : Char} (letter : c ∈ ['d', 'i', 'f', 'v']) :
    ∃ kind, SlotKind.ofChar? c = some kind := by
  simp only [List.mem_cons, List.not_mem_nil, or_false] at letter
  rcases letter with rfl | rfl | rfl | rfl <;> exact ⟨_, rfl⟩

theorem ofChar?_eq_none {c : Char} (other : c ∉ ['d', 'i', 'f', 'v']) :
    SlotKind.ofChar? c = none := by
  simp only [List.mem_cons, List.not_mem_nil, or_false, not_or] at other
  simp [SlotKind.ofChar?, other]

/-- The slots are the pieces that take a parameter. -/
theorem slotCount_eq (text : List Char) : slotCount text = (pieces text).countP Piece.isSlot := by
  fun_induction slotCount text with
  | case1 rest ih => exact ih
  | case2 rest ih => exact ih
  | case3 rest ih => exact ih
  | case4 d rest other letter ih =>
    obtain ⟨kind, known⟩ := exists_ofChar? letter
    rw [pieces_pair (pair?_slot known), List.countP_cons_of_pos rfl, ih]
  -- a percent sign that begins nothing leaves what follows it to the next piece
  | case5 d rest other noLetter ih =>
    have other : d ≠ '%' := other
    have alone : pair? '%' d = none := by
      simp [pair?, other, ofChar?_eq_none noLetter]
    rw [pieces_alone (by simpa using alone), List.countP_cons_of_neg Bool.false_ne_true, ih]
  | case6 c rest noBreak noTab noPercent noSlot ih =>
    have alone : ∀ d ∈ rest.head?, pair? c d = none := by
      intro d first
      obtain ⟨rest, rfl⟩ := List.head?_eq_some_iff.mp first
      have percent : c ≠ '%' := fun same => noSlot d rest same rfl
      by_cases backslash : c = '\\'
      · have noBreak : d ≠ 'n' := fun same => noBreak rest backslash (same ▸ rfl)
        have noTab : d ≠ 't' := fun same => noTab rest backslash (same ▸ rfl)
        simp [pair?, backslash, noBreak, noTab]
      · exact pair?_eq_none percent backslash
    rw [pieces_alone alone, List.countP_cons_of_neg Bool.false_ne_true, ih]
  | case7 => rfl

/-! ## Cuts -/

/-- **Closed**: the last character forms no pair with what may follow. -/
def Closed (text : List Char) : Prop := ∀ c ∈ text.getLast?, c ≠ '%' ∧ c ≠ '\\'

instance (text : List Char) : Decidable (Closed text) := Option.decidableForallMem _

/-- **The pieces of a closed text are the same whatever follows it.** -/
theorem pieces_append {a : List Char} (closed : Closed a) (b : List Char) :
    pieces (a ++ b) = pieces a ++ pieces b := by
  fun_induction pieces a with
  | case1 => rfl
  | case2 c =>
    obtain ⟨percent, backslash⟩ := closed c rfl
    exact pieces_alone fun _ _ => pair?_eq_none percent backslash
  -- what is behind a pair ends as the whole text does, or is empty
  | case3 c d rest p pair ih =>
    have closed : Closed rest := by
      cases rest with
      | nil => exact nofun
      | cons e rest => exact closed
    rw [List.cons_append, List.cons_append, pieces_pair pair, ih closed]
    rfl
  | case4 c d rest alone ih =>
    rw [List.cons_append, pieces_alone (by simpa using alone), ih closed]
    rfl

theorem slotCount_append {a : List Char} (closed : Closed a) (b : List Char) :
    slotCount (a ++ b) = slotCount a + slotCount b := by
  rw [slotCount_eq, slotCount_eq, slotCount_eq, pieces_append closed, List.countP_append]

/-! ## Filling -/

/-- **Each slot takes one parameter**, as long as there are any. -/
theorem fill_append (p q : List Piece) (params : List Value) :
    fill (p ++ q) params = fill p params ++ fill q (params.drop (p.countP Piece.isSlot)) := by
  induction p generalizing params with
  | nil => exact (String.empty_append).symm
  | cons first rest ih =>
    cases first with
    | char c =>
      rw [List.countP_cons_of_neg Bool.false_ne_true]
      simp only [List.cons_append, fill, ih, String.append_assoc]
    | slot kind letter =>
      rw [List.countP_cons_of_pos rfl]
      cases params with
      | nil => simp only [List.cons_append, fill, ih, List.drop_nil, String.append_assoc]
      | cons v params =>
        simp only [List.cons_append, fill, ih, List.drop_succ_cons, String.append_assoc]

/-- Characters that begin no pair are shown as they are. -/
theorem fill_verbatim {text : List Char} (plain : ∀ c ∈ text, c ≠ '%' ∧ c ≠ '\\')
    (params : List Value) : fill (pieces text) params = String.ofList text := by
  induction text with
  | nil => rfl
  | cons c rest ih =>
    obtain ⟨⟨percent, backslash⟩, others⟩ := List.forall_mem_cons.mp plain
    rw [pieces_alone fun _ _ => pair?_eq_none percent backslash, fill, ih others,
      ← String.toList_inj]
    simp

/-- What a slot shows that stands behind `n` others. -/
def shown (kind : SlotKind) (letter : Char) (params : List Value) (n : Nat) : String :=
  (params[n]?.map kind.text).getD ("%" ++ String.singleton letter)

/-- **A slot shows the first parameter**, or is copied if there is none. -/
theorem fill_slot (kind : SlotKind) (letter : Char) (rest : List Piece) (params : List Value) :
    fill (.slot kind letter :: rest) params =
      shown kind letter params 0 ++ fill rest (params.drop 1) := by
  cases params <;> rfl

/-- **Templates expand in parts.**  What follows a closed template shows the parameters that its
    slots have left.  So the slot behind `n` others shows parameter `n`, and is copied if there is
    none; and text that begins no pair is copied. -/
theorem expands_in_parts :
    (∀ (a b : String) (params : List Value), Closed a.toList →
      fillTemplate (a ++ b) params =
        fillTemplate a params ++ fillTemplate b (params.drop (slotCount a.toList))) ∧
    (∀ (a b : String) (letter : Char) (kind : SlotKind) (params : List Value), Closed a.toList →
      SlotKind.ofChar? letter = some kind →
      fillTemplate (a ++ ("%" ++ String.singleton letter ++ b)) params =
        fillTemplate a params ++ (shown kind letter params (slotCount a.toList) ++
          fillTemplate b (params.drop (slotCount a.toList + 1)))) ∧
    ∀ (text : String) (params : List Value), (∀ c ∈ text.toList, c ≠ '%' ∧ c ≠ '\\') →
      fillTemplate text params = text := by
  have parts (a b : String) (params : List Value) (closed : Closed a.toList) :
      fillTemplate (a ++ b) params =
        fillTemplate a params ++ fillTemplate b (params.drop (slotCount a.toList)) := by
    unfold fillTemplate
    rw [String.toList_append, pieces_append closed, fill_append, slotCount_eq]
  refine ⟨parts, fun a b letter kind params closed known => ?_, fun text params plain => ?_⟩
  · have slot : ("%" ++ String.singleton letter ++ b).toList = '%' :: letter :: b.toList := by simp
    rw [parts a _ params closed]
    unfold fillTemplate
    rw [slot, pieces_pair (pair?_slot known), fill_slot, List.drop_drop]
    simp only [shown, List.getElem?_drop, Nat.add_zero]
  · exact (fill_verbatim plain params).trans String.ofList_toList

/-- Percent signs in a row, and a cut behind a slot: the last of three slots finds nothing. -/
theorem expands_in_parts_cut :
    let a := "%%d%%%i: %v"
    let params := [Value.int 3, .float .one]
    Closed a.toList ∧ slotCount a.toList = 2 ∧
    fillTemplate (a ++ "\\t%f") params = fillTemplate a params ++ fillTemplate "\\t%f" [] ∧
    SlotKind.ofChar? 'd' = some .integer ∧
    fillTemplate (a ++ "%d!") params = fillTemplate a params ++ ("%d" ++ fillTemplate "!" []) ∧
    (∀ c ∈ "life".toList, c ≠ '%' ∧ c ≠ '\\') ∧ fillTemplate "life" params = "life" ∧
    fillTemplate (a ++ "\\t%f") params = "%d%3: 1\t%f" := by
  intro a params
  obtain ⟨parts, slots, plain⟩ := expands_in_parts
  have closed : Closed a.toList := by decide +kernel
  have count : slotCount a.toList = 2 := by decide +kernel
  have known : SlotKind.ofChar? 'd' = some .integer := rfl
  have copied : ∀ c ∈ "life".toList, c ≠ '%' ∧ c ≠ '\\' := by
    have checked : "life".toList.all (fun c => c != '%' && c != '\\') = true := by decide +kernel
    simpa only [List.all_eq_true, Bool.and_eq_true, bne_iff_ne] using checked
  refine ⟨closed, count, ?_, known, ?_, copied, plain _ _ copied, by decide +kernel⟩
  · have cut := parts a "\\t%f" params closed
    rwa [count] at cut
  · have third := slots a "!" 'd' .integer params closed known
    rwa [count] at third

end TickScript.Template
