import TickScript.Proofs.Arguments.Records
import TickScript.Proofs.Bytecode.Truncated

/-! # Levels of a listing

    The lines of one expression, without those of the nested runs below them, are a level of a
    listing.  `levelFrom` lists them, each with the expression that is listed below it; the whole
    listing is its levels, put into each other (`entriesFrom_eq_level`).

    A line reports malformed bytes if its byte is no opcode, if it is a page operation that there
    is not, or if its operand is cut short.  Such a line swallows what is left of its expression,
    and so is the last one of its level.  The lines of pages do not: the listing goes on behind
    the two bytes of the operation, whatever they report (`malformed_lines_end_levels`).
-/

namespace TickScript

/-- **A line of a level**: its entry, and the expression that is listed below it. -/
structure LevelLine where
  entry : ListingEntry
  body : Option Expression
  deriving DecidableEq

/-- **A text that reports malformed bytes.** -/
inductive Reports : String → Prop where
  /-- A byte that is no opcode. -/
  | opcode (b : UInt8) : Reports ("<invalid opcode: " ++ byteText b ++ ">")
  /-- A byte that selects no operation of a page. -/
  | operation (p : Page) (b : UInt8) :
      Reports ((Opcode.page p).name ++ ".<invalid " ++ byteText b ++ ">")
  /-- An operand that is cut short. -/
  | operand (o : Opcode) : Reports (ListingLine.truncated o.name)

/-- Every report has the bracket that other texts are without. -/
theorem Reports.not_bare {text : String} (reports : Reports text) : ¬ Bare text := by
  cases reports with
  | opcode b =>
    simp only [Bare.append]
    intro bare
    exact absurd bare.1.1 (by decide)
  | operation p b =>
    simp only [Bare.append]
    intro bare
    exact absurd bare.1.1.2 (by decide)
  | operand o =>
    simp only [ListingLine.truncated, Bare.append]
    intro bare
    exact absurd bare.2 (by decide)

/-! ## Single lines -/

namespace ListingLine

variable {b : UInt8} {offset : Nat} {rest body : Bytes}

/-- The line of an opcode whose operand is there is without the bracket, unless it is about a page
    operation that there is not. -/
theorem bare_ofOpcode {o : Opcode} (has : o.hasOperand rest = true)
    (known : ∀ p byte behind, o = .page p → rest = byte :: behind → pageOp? p byte ≠ none) :
    Bare (ofOpcode o offset rest).text := by
  by_cases page : o.operand = .page
  · obtain ⟨p, rfl⟩ := Opcode.exists_page page
    cases rest with
    | nil => cases has
    | cons byte behind =>
      cases found : pageOp? p byte with
      | none => exact absurd found (known p byte behind rfl rfl)
      | some op =>
        rw [Opcode.hasOperand, found] at has
        have shows : Shows (Opcode.page p).name (op.2.fits behind)
            (paged (Opcode.page p).name p (byte :: behind)).text := shows_paged found
        have fits : op.2.fits behind = true := has
        rw [fits] at shows
        exact shows.bare (Bare.opcode _)
  · rw [Opcode.hasOperand_of_fixed page] at has
    have shows : Shows o.name (o.operand.fits rest) (single o.name o.operand offset rest).text :=
      shows_single page
    rw [has] at shows
    rw [ofOpcode_eq_single page]
    exact shows.bare (Bare.opcode o)

/-- An operand that is cut short swallows what is left, unless it is that of a page. -/
theorem drop_size_of_cut {o : Opcode} (page : o.operand ≠ .page)
    (cut : o.hasOperand rest = false) : rest.drop (ofOpcode o offset rest).size = [] := by
  rw [Opcode.hasOperand_of_fixed page] at cut
  rw [ofOpcode_eq_single page]
  by_cases nested : o.operand = .nested
  · rw [nested] at cut ⊢
    cases read : Expression.nestedAt rest 0 with
    | ok found =>
      rw [Operand.fits, read] at cut
      exact absurd cut (Expression.isOk_ok_ne_false found)
    | error f =>
      simp only [single, read]
      exact List.drop_length
  · rw [Operand.fits_of_fixed nested, decide_eq_false_iff_not] at cut
    rw [(single_of_fixed nested page).1]
    exact List.drop_eq_nil_of_le (by omega)

/-- **A report swallows what is left**, unless it is about a page. -/
theorem drop_size_of_reports (reports : Reports (ofByte b offset rest).text)
    (page : ∀ p, Opcode.ofByte? b ≠ some (.page p)) :
    rest.drop (ofByte b offset rest).size = [] := by
  unfold ofByte at reports ⊢
  cases known : Opcode.ofByte? b with
  | none => exact List.drop_length
  | some o =>
    rw [known] at reports page
    have fixed (p : Page) : o ≠ .page p := fun same => page p (congrArg some same)
    -- with its operand the opcode shows no report, without it nothing is left behind the line
    cases cut : o.hasOperand rest with
    | true =>
      have bare : Bare (ofOpcode o offset rest).text :=
        bare_ofOpcode cut fun p _ _ same => absurd same (fixed p)
      exact absurd bare reports.not_bare
    | false =>
      refine drop_size_of_cut ?_ cut
      intro operand
      obtain ⟨p, same⟩ := Opcode.exists_page operand
      exact fixed p same

/-- **A report about a page** swallows the byte of its operation. -/
theorem size_paged_of_reports {name : String} {p : Page} {byte : UInt8} (named : Bare name)
    (reports : Reports (paged name p (byte :: rest)).text) :
    (paged name p (byte :: rest)).size = 1 := by
  cases known : pageOp? p byte with
  | none => simp only [paged, known]
  | some op =>
    -- a known operation is reported only if its index is cut short, and then not passed over
    have shows : Shows name (op.2.fits rest) (paged name p (byte :: rest)).text :=
      shows_paged known
    cases fits : op.2.fits rest with
    | true =>
      rw [fits] at shows
      exact absurd (shows.bare named) reports.not_bare
    | false =>
      obtain ⟨opName, operand⟩ := op
      rcases pageOp?_operand known with rfl | rfl
      · rw [Operand.fits_none] at fits
        cases fits
      · have missing : (Expression.int32At rest 0).isOk = false := by
          rw [Expression.isOk_int32At, Nat.zero_add]
          exact fits
        cases read : Expression.int32At rest 0 with
        | ok i =>
          rw [read] at missing
          exact absurd missing (Expression.isOk_ok_ne_false i)
        | error f => simp only [paged, known, read]

/-- **A line with an expression below it** is about a nested run, and passes over its operand. -/
theorem nestedAt_of_body (runs : (ofByte b offset rest).body = some body) :
    Expression.nestedAt rest 0 = .ok (body, (ofByte b offset rest).size) := by
  -- of the classes of operands, only the nested ones have an expression below
  cases known : Opcode.ofByte? b with
  | none =>
    rw [ofByte, known] at runs
    cases runs
  | some o =>
    rw [ofByte, known] at runs ⊢
    dsimp only at runs ⊢
    by_cases nested : o.operand = .nested
    · have page : o.operand ≠ .page := by
        rw [nested]
        decide
      rw [ofOpcode_eq_single page, nested] at runs ⊢
      cases read : Expression.nestedAt rest 0 with
      | error f =>
        simp only [single, read] at runs
        cases runs
      | ok found =>
        obtain ⟨e, next⟩ := found
        simp only [single, read, Option.some.injEq] at runs ⊢
        rw [runs]
    · by_cases page : o.operand = .page
      · obtain ⟨p, rfl⟩ := Opcode.exists_page page
        rw [ofOpcode, body_paged] at runs
        cases runs
      · rw [ofOpcode_eq_single page, (single_of_fixed nested page).2] at runs
        cases runs

/-- The expression of a nested run stands among the bytes that its line passes over. -/
theorem length_body_le_size (runs : (ofByte b offset rest).body = some body) :
    body.length ≤ (ofByte b offset rest).size ∧ (ofByte b offset rest).size ≤ rest.length := by
  obtain ⟨behind, -, whole, size⟩ := ArgRecord.nestedAt_eq_ok_iff.mp (nestedAt_of_body runs)
  have inside := congrArg List.length whole
  rw [List.length_append, ArgRecord.length_expressionBytes] at inside
  omega

end ListingLine

/-! ## Levels -/

namespace Expression

/-- **The lines of one level**, from an offset on, given the bytes there. -/
def levelFrom (depth offset : Nat) : Bytes → List LevelLine
  | [] => []
  | b :: rest =>
    let line := ListingLine.ofByte b (offset + 1) rest
    ⟨⟨depth, offset, Opcode.ofByte? b, line.text⟩, line.body⟩ ::
      levelFrom depth (offset + 1 + line.size) (rest.drop line.size)
  termination_by code => code.length
  decreasing_by simp only [List.length_cons, List.length_drop]; omega

/-- **The expressions that are listed** in the listing of an expression, and how deep: itself, and
    those below the lines of their levels. -/
inductive Lists (code : Expression) : Nat → Expression → Prop where
  | top : Lists code 0 code
  | nested {depth : Nat} {outer body : Expression} {l : LevelLine} (listed : Lists code depth outer)
      (member : l ∈ levelFrom depth 0 outer) (runs : l.body = some body) :
      Lists code (depth + 1) body

variable {depth offset : Nat} {code : Expression} {l : LevelLine} {before after : List LevelLine}

/-- **A listing is its level**, with the listings of the nested expressions put in. -/
theorem entriesFrom_eq_level (depth offset : Nat) (code : Bytes) :
    entriesFrom depth offset code =
      (levelFrom depth offset code).flatMap fun l => l.entry :: innerEntries depth l.body := by
  induction offset, code using levelFrom.induct with
  | case1 offset =>
    rw [entriesFrom, levelFrom]
    rfl
  | case2 offset b rest line ih =>
    rw [entriesFrom_cons, levelFrom, List.flatMap_cons]
    dsimp only
    rw [ih, List.cons_append]

/-- **There are no more lines than bytes**, at all levels together. -/
theorem length_entriesFrom_le (depth offset : Nat) (code : Bytes) :
    (entriesFrom depth offset code).length ≤ code.length := by
  -- along the listing: a nested expression lies among the bytes that its line passes over
  induction depth, offset, code using entriesFrom.induct with
  | case1 depth offset =>
    rw [entriesFrom]
    exact Nat.le_refl _
  | case2 depth offset b rest line inner others =>
    rw [entriesFrom_cons]
    show (_ :: (innerEntries depth line.body ++
      entriesFrom depth (offset + 1 + line.size) (rest.drop line.size))).length ≤ _
    rw [List.length_drop] at others
    rw [List.length_cons, List.length_append, List.length_cons]
    cases runs : line.body with
    | none =>
      rw [innerEntries, Option.elim_none, List.length_nil]
      omega
    | some body =>
      have below := inner body runs
      have passed : body.length ≤ line.size ∧ line.size ≤ rest.length :=
        ListingLine.length_body_le_size runs
      rw [innerEntries, Option.elim_some]
      omega

theorem le_offset_of_mem (member : l ∈ levelFrom depth offset code) :
    offset ≤ l.entry.offset := by
  induction offset, code using levelFrom.induct with
  | case1 offset =>
    rw [levelFrom] at member
    cases member
  | case2 offset b rest line ih =>
    rw [levelFrom] at member
    rcases List.mem_cons.mp member with rfl | later
    · exact Nat.le_refl offset
    · have behind := ih later
      omega

/-- **On one level, offsets increase.** -/
theorem offsets_increase (depth offset : Nat) (code : Bytes) :
    (levelFrom depth offset code).Pairwise fun l l' => l.entry.offset < l'.entry.offset := by
  induction offset, code using levelFrom.induct with
  | case1 offset =>
    rw [levelFrom]
    exact List.Pairwise.nil
  | case2 offset b rest line ih =>
    rw [levelFrom]
    refine List.pairwise_cons.mpr ⟨?_, ih⟩
    intro l later
    have behind := le_offset_of_mem later
    show offset < l.entry.offset
    omega

/-- **A level at one of its lines**: what follows is the level of the bytes behind it. -/
theorem exists_of_split (split : levelFrom depth offset code = before ++ l :: after) :
    ∃ skipped b rest, code = skipped ++ b :: rest ∧
      let start := offset + skipped.length
      let line := ListingLine.ofByte b (start + 1) rest
      l = ⟨⟨depth, start, Opcode.ofByte? b, line.text⟩, line.body⟩ ∧
        after = levelFrom depth (start + 1 + line.size) (rest.drop line.size) := by
  -- on the lines before it: each passes over some bytes of the code
  induction before generalizing offset code with
  | nil =>
    cases code with
    | nil =>
      rw [levelFrom] at split
      cases split
    | cons b rest =>
      rw [levelFrom] at split
      obtain ⟨rfl, rfl⟩ := List.cons.inj split
      exact ⟨[], b, rest, rfl, rfl, rfl⟩
  | cons first before ih =>
    cases code with
    | nil =>
      rw [levelFrom] at split
      cases split
    | cons b rest =>
      rw [levelFrom] at split
      obtain ⟨skipped, b', rest', behind, found⟩ := ih (List.cons.inj split).2
      generalize (ListingLine.ofByte b (offset + 1) rest).size = size at behind found
      have inside : size ≤ rest.length := by
        have some := congrArg List.length behind
        rw [List.length_drop, List.length_append, List.length_cons] at some
        omega
      have ahead : offset + (b :: (rest.take size ++ skipped)).length =
          offset + 1 + size + skipped.length := by
        rw [List.length_cons, List.length_append, List.length_take, Nat.min_eq_left inside]
        omega
      refine ⟨b :: (rest.take size ++ skipped), b', rest', ?_, ?_⟩
      · rw [List.cons_append, List.append_assoc, ← behind, List.take_append_drop]
      · rw [ahead]
        exact found

/-- **What follows a report**: nothing, unless it is about a page.  Behind a page, the listing goes
    on behind the byte of the operation. -/
theorem after_of_reports (split : levelFrom depth 0 code = before ++ l :: after)
    (reports : Reports l.entry.text) :
    ((∀ p, l.entry.opcode ≠ some (.page p)) → after = []) ∧
      ∀ p, l.entry.opcode = some (.page p) →
        after = levelFrom depth (l.entry.offset + 2) (code.drop (l.entry.offset + 2)) := by
  obtain ⟨skipped, b, rest, rfl, rfl, rfl⟩ := exists_of_split split
  rw [Nat.zero_add] at reports ⊢
  constructor
  · intro page
    rw [ListingLine.drop_size_of_reports reports page, levelFrom]
  · intro p known
    have known : Opcode.ofByte? b = some (.page p) := known
    have behind : (skipped ++ b :: rest).drop (skipped.length + 2) = rest.drop 1 := by
      rw [List.drop_append]
      simp
    rw [behind]
    simp only [ListingLine.ofByte, known] at reports ⊢
    cases rest with
    | nil => rw [List.drop_nil, List.drop_nil, levelFrom, levelFrom]
    | cons byte rest =>
      have size : (ListingLine.ofOpcode (.page p) (skipped.length + 1) (byte :: rest)).size = 1 :=
        ListingLine.size_paged_of_reports (Bare.opcode (.page p)) reports
      rw [size]

/-! ## All levels -/

/-- A line of a level has its depth, and lists a shorter expression. -/
theorem shorter_of_mem (member : l ∈ levelFrom depth offset code) :
    l.entry.depth = depth ∧ ∀ body, l.body = some body → body.length < code.length := by
  obtain ⟨before, after, split⟩ := List.append_of_mem member
  obtain ⟨skipped, b, rest, rfl, rfl, -⟩ := exists_of_split split
  refine ⟨rfl, ?_⟩
  intro body runs
  obtain ⟨within, inside⟩ := ListingLine.length_body_le_size runs
  rw [List.length_append, List.length_cons]
  omega

/-- **Every line is on a level** of an expression that is listed. -/
theorem exists_level {body : Expression} {e : ListingEntry} (listed : code.Lists depth body)
    (member : e ∈ entriesFrom depth 0 body) :
    ∃ outer, code.Lists e.depth outer ∧ ∃ l ∈ levelFrom e.depth 0 outer, l.entry = e := by
  -- on the length of the expression: what is listed below it is shorter
  induction size : body.length using Nat.strongRecOn generalizing depth body with
  | ind n ih =>
    rw [entriesFrom_eq_level] at member
    obtain ⟨l, line, found⟩ := List.mem_flatMap.mp member
    obtain ⟨same, shorter⟩ := shorter_of_mem line
    rcases List.mem_cons.mp found with rfl | inner
    · rw [same]
      exact ⟨body, listed, l, line, rfl⟩
    · cases runs : l.body with
      | none =>
        rw [runs] at inner
        cases inner
      | some below =>
        rw [runs] at inner
        have less := shorter below runs
        rw [size] at less
        exact ih below.length less (.nested listed line runs) inner rfl

/-- **Malformed lines end their level, unless they are about pages.**

    A listing has no more lines than its expression has bytes, and each of them is on the level of
    an expression that is listed.

    On every level offsets increase.  A line that reports a byte that is no opcode or an operand
    that is cut short is the last of its level, unless its opcode is a page.  Behind a page, the
    bytes from the second one on are listed as if nothing had been reported. -/
theorem malformed_lines_end_levels (code : Expression) :
    (code.listing = String.join (code.entries.map (·.line)) ∧
      code.entries.length ≤ code.length ∧
      ∀ e ∈ code.entries, ∃ body, code.Lists e.depth body ∧
        ∃ l ∈ levelFrom e.depth 0 body, l.entry = e) ∧
    ∀ depth body, code.Lists depth body →
      (levelFrom depth 0 body).Pairwise (fun l l' => l.entry.offset < l'.entry.offset) ∧
      ∀ before l after, levelFrom depth 0 body = before ++ l :: after → Reports l.entry.text →
        ((∀ p, l.entry.opcode ≠ some (.page p)) → after = []) ∧
        ∀ p, l.entry.opcode = some (.page p) →
          after = levelFrom depth (l.entry.offset + 2) (body.drop (l.entry.offset + 2)) := by
  refine ⟨⟨code.listing_eq_join, length_entriesFrom_le 0 0 code, ?_⟩, ?_⟩
  · intro e member
    exact exists_level .top member
  · intro depth body _
    refine ⟨offsets_increase depth 0 body, ?_⟩
    intro before l after split reports
    exact after_of_reports split reports

/-- A nested run that ends with a jump without its operand: on its level, whatever reports is the
    last line. -/
theorem malformed_lines_end_levels_nested :
    let jump := int 1 ++ op (.jumpShort .ifZero)
    let code := run jump ++ op .dup
    code.Lists 1 jump ∧
      (levelFrom 1 0 jump).map (·.entry.text) = ["Int8 1", "JumpIfZero8 <truncated>"] ∧
      Reports "JumpIfZero8 <truncated>" ∧
      ∀ before l after, levelFrom 1 0 jump = before ++ l :: after → Reports l.entry.text →
        after = [] := by
  intro jump code
  have outer : levelFrom 0 0 code =
      [⟨⟨0, 0, some .run, "Run 3"⟩, some jump⟩, ⟨⟨0, 8, some .dup, "Dup"⟩, none⟩] := by decide +kernel
  have inner : levelFrom 1 0 jump = [⟨⟨1, 0, some (.literal .int8), "Int8 1"⟩, none⟩,
      ⟨⟨1, 2, some (.jumpShort .ifZero), "JumpIfZero8 <truncated>"⟩, none⟩] := by decide +kernel
  have listed : code.Lists 1 jump := .nested .top (outer ▸ List.mem_cons_self) rfl
  refine ⟨listed, by rw [inner]; rfl, .operand (.jumpShort .ifZero), ?_⟩
  intro before l after split reports
  obtain ⟨-, ends⟩ := (malformed_lines_end_levels code).2 1 jump listed
  refine (ends before l after split reports).1 ?_
  -- neither of the two lines is about a page
  have member : l ∈ levelFrom 1 0 jump := by
    rw [split]
    exact List.mem_append_right _ List.mem_cons_self
  rw [inner] at member
  intro p
  rcases List.mem_cons.mp member with rfl | member
  · exact nofun
  · rw [List.mem_singleton.mp member]
    exact nofun

/-- A page operation whose operand is cut short, and one that there is not, do not end the listing:
    the bytes behind them are listed as an instruction. -/
theorem malformed_lines_end_levels_pages :
    let cut : Expression := [0xf1, 0x08, 0x01, 0x02]
    let unknown : Expression := [0xf1, 0xff, 0x01, 0x02]
    cut.listing = "0000  StorePage <truncated>\n0002  Int8 2\n" ∧
      unknown.listing = "0000  StorePage.<invalid 0xff>\n0002  Int8 2\n" ∧
      ¬ ∀ code depth body, Lists code depth body → ∀ before l after,
        levelFrom depth 0 body = before ++ l :: after → Reports l.entry.text → after = [] := by
  intro cut unknown
  refine ⟨by decide +kernel, by decide +kernel, ?_⟩
  intro claim
  have level : levelFrom 0 0 cut = [⟨⟨0, 0, some (.page .stores), "StorePage <truncated>"⟩, none⟩,
      ⟨⟨0, 2, some (.literal .int8), "Int8 2"⟩, none⟩] := by decide +kernel
  exact absurd (claim cut 0 cut .top [] _ _ level (.operand (.page .stores))) nofun

end Expression
end TickScript
