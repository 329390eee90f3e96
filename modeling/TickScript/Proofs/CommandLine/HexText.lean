import TickScript.CommandLine.HexText

/-! # What hexadecimal text spells

    Digits spell bytes if their values are the halves of the bytes in order.  A text is plain
    if it spells bytes in this sense, without its white space and without one mark of the base in
    front.

    Every plain text is read as the bytes it spells.  Two other kinds of text are read as well:
    those with several marks, and those where a plus stands for the first digit of a pair.  What
    is read is what is left when all marks are dropped and a zero is put for each such plus
    (`parse_eq_ok_iff`), and texts of these two kinds are the only ones that are read without being
    plain (`plain_or_lax`).
-/

namespace TickScript.HexText

/-! ## Digits -/

/-- The halves of a byte, the high one first. -/
def halves (b : UInt8) : List Nat := [b.toNat / 16, b.toNat % 16]

/-- **Digits spell bytes**: their values are the halves of the bytes. -/
def Spells (digits : List Char) (bytes : Bytes) : Prop :=
  digits.map Bytes.hexValue? = (bytes.flatMap halves).map some

instance (digits : List Char) (bytes : Bytes) : Decidable (Spells digits bytes) :=
  inferInstanceAs (Decidable (_ = _))

theorem isSome_hexValue?_iff {c : Char} : (Bytes.hexValue? c).isSome ↔
    ('0' ≤ c ∧ c ≤ '9') ∨ ('a' ≤ c ∧ c ≤ 'f') ∨ ('A' ≤ c ∧ c ≤ 'F') := by
  fun_cases Bytes.hexValue? c with
  | case1 decimal => exact ⟨fun _ => .inl decimal, fun _ => rfl⟩
  | case2 _ lower => exact ⟨fun _ => .inr (.inl lower), fun _ => rfl⟩
  | case3 _ _ upper => exact ⟨fun _ => .inr (.inr upper), fun _ => rfl⟩
  | case4 notDecimal notLower notUpper =>
    exact ⟨nofun, fun digit => absurd digit (by simp only [*, or_self, not_false_eq_true])⟩

/-- A digit is a number below sixteen, and a character of one byte. -/
theorem bounds_of_hexValue? {c : Char} {n : Nat} (known : Bytes.hexValue? c = some n) :
    n < 16 ∧ c.utf8Size = 1 := by
  have order (low high : Char) : low ≤ c ∧ c ≤ high ↔ low.toNat ≤ c.toNat ∧ c.toNat ≤ high.toNat :=
    Iff.rfl
  have small (most : c.toNat ≤ 127) : c.utf8Size = 1 := if_pos most
  simp only [Bytes.hexValue?, order] at known
  split at known
  case isTrue decimal =>
    cases known
    have most : c.toNat ≤ 57 := decimal.2
    have zero : '0'.toNat = 48 := rfl
    exact ⟨by omega, small (by omega)⟩
  case isFalse =>
    split at known
    case isTrue lower =>
      cases known
      have most : c.toNat ≤ 102 := lower.2
      have ten : 'a'.toNat = 97 := rfl
      exact ⟨by omega, small (by omega)⟩
    case isFalse =>
      split at known
      case isTrue upper =>
        cases known
        have most : c.toNat ≤ 70 := upper.2
        have ten : 'A'.toNat = 65 := rfl
        exact ⟨by omega, small (by omega)⟩
      case isFalse => cases known

theorem spells_nil_iff {bytes : Bytes} : Spells [] bytes ↔ bytes = [] := by
  cases bytes with
  | nil => simp [Spells]
  | cons b bytes => simp [Spells, halves]

theorem not_spells_singleton {c : Char} {bytes : Bytes} : ¬ Spells [c] bytes := by
  cases bytes with
  | nil => simp [Spells]
  | cons b bytes => simp [Spells, halves]

/-- Two digits are one byte. -/
theorem spells_pair_iff {c d : Char} {rest : List Char} {bytes : Bytes} :
    Spells (c :: d :: rest) bytes ↔ ∃ b others, bytes = b :: others ∧
      Bytes.hexValue? c = some (b.toNat / 16) ∧ Bytes.hexValue? d = some (b.toNat % 16) ∧
      Spells rest others := by
  cases bytes with
  | nil => simp [Spells]
  | cons b bytes =>
    simp only [Spells, halves, List.map_cons, List.flatMap_cons, List.cons_append, List.nil_append,
      List.cons.injEq]
    constructor
    · rintro ⟨high, low, others⟩
      exact ⟨b, bytes, ⟨rfl, rfl⟩, high, low, others⟩
    · rintro ⟨_, _, ⟨rfl, rfl⟩, high, low, others⟩
      exact ⟨high, low, others⟩

/-- What spells bytes consists of digits. -/
theorem Spells.isSome {digits : List Char} {bytes : Bytes} (spells : Spells digits bytes) :
    ∀ c ∈ digits, (Bytes.hexValue? c).isSome := by
  intro c member
  have value : Bytes.hexValue? c ∈ (bytes.flatMap halves).map some :=
    spells ▸ List.mem_map_of_mem member
  obtain ⟨n, -, same⟩ := List.mem_map.mp value
  rw [← same]
  rfl

/-- A byte has one spelling in lower case. -/
theorem spells_toHex (bytes : Bytes) : Spells (Bytes.toHex bytes).toList bytes := by
  have value : ∀ n < 16, Bytes.hexValue? (Bytes.hexDigit n) = some n := by decide
  rw [Bytes.toHex, String.toList_ofList]
  induction bytes with
  | nil => rfl
  | cons b bytes ih =>
    have byte : b.toNat < 256 := b.toNat_lt
    exact spells_pair_iff.mpr ⟨b, bytes, rfl, value _ (by omega), value _ (by omega), ih⟩

/-! ## Pairs -/

/-- The first digit of a pair: a plus is a zero. -/
def sixteens (c : Char) : Char := if c = '+' then '0' else c

/-- A zero in place of each plus that stands for the first digit of a pair. -/
def unsigned : List Char → List Char
  | c :: d :: rest => sixteens c :: d :: unsigned rest
  | text => text

theorem pair?_eq (c d : Char) : pair? c d =
    (Bytes.hexValue? (sixteens c)).bind fun high =>
      (Bytes.hexValue? d).map fun low => UInt8.ofNat (high * 16 + low) := by
  have zero : Bytes.hexValue? '0' = some 0 := rfl
  by_cases plus : c = '+'
  · subst plus
    cases low : Bytes.hexValue? d with
    | none => simp [pair?, low]
    | some l => simp [pair?, low, sixteens, zero]
  · cases high : Bytes.hexValue? c with
    | none => simp [pair?, sixteens, plus, high]
    | some h => cases low : Bytes.hexValue? d <;> simp [pair?, sixteens, plus, high, low]

theorem pair?_eq_some_iff {c d : Char} {b : UInt8} :
    pair? c d = some b ↔ Bytes.hexValue? (sixteens c) = some (b.toNat / 16) ∧
      Bytes.hexValue? d = some (b.toNat % 16) := by
  rw [pair?_eq]
  cases high : Bytes.hexValue? (sixteens c) with
  | none => simp
  | some h =>
    cases low : Bytes.hexValue? d with
    | none => simp
    | some l =>
      have small := (bounds_of_hexValue? high).1
      have small' := (bounds_of_hexValue? low).1
      have byte : b.toNat < 256 := b.toNat_lt
      simp only [Option.bind_some, Option.map_some, Option.some.injEq, ← UInt8.toNat_inj,
        UInt8.toNat_ofNat']
      omega

/-- Only characters of one byte can stand in a pair. -/
theorem utf8Size_of_pair? {c d : Char} {b : UInt8} (pair : pair? c d = some b) :
    c.utf8Size = 1 ∧ d.utf8Size = 1 := by
  obtain ⟨high, low⟩ := pair?_eq_some_iff.mp pair
  refine ⟨?_, (bounds_of_hexValue? low).2⟩
  by_cases plus : c = '+'
  · rw [plus]
    rfl
  · rw [sixteens, if_neg plus] at high
    exact (bounds_of_hexValue? high).2

/-- What begins a text that spells bytes is a pair. -/
theorem exists_pair? {c : Char} {rest : List Char} {bytes : Bytes}
    (spells : Spells (unsigned (c :: rest)) bytes) :
    ∃ d others b, rest = d :: others ∧ pair? c d = some b := by
  cases rest with
  | nil => exact absurd spells not_spells_singleton
  | cons d others =>
    obtain ⟨b, _, -, high, low, -⟩ := spells_pair_iff.mp spells
    exact ⟨d, others, b, rfl, pair?_eq_some_iff.mpr ⟨high, low⟩⟩

theorem spells_unsigned_pair_iff {c d : Char} {b : UInt8} {rest : List Char} {bytes : Bytes}
    (pair : pair? c d = some b) :
    Spells (unsigned (c :: d :: rest)) bytes ↔
      ∃ others, bytes = b :: others ∧ Spells (unsigned rest) others := by
  refine Iff.trans spells_pair_iff ⟨?_, ?_⟩
  · rintro ⟨b', others, rfl, high, low, spells⟩
    have same : some b' = some b := by rw [← pair, pair?_eq_some_iff.mpr ⟨high, low⟩]
    cases same
    exact ⟨others, rfl, spells⟩
  · rintro ⟨others, rfl, spells⟩
    obtain ⟨high, low⟩ := pair?_eq_some_iff.mp pair
    exact ⟨b, others, rfl, high, low, spells⟩

/-- **Pairs of digits are read as the bytes that they spell**, where a plus is a zero. -/
theorem pairs_eq_ok_iff (index : Nat) {text : List Char} {bytes : Bytes} :
    pairs index text = .ok bytes ↔ Spells (unsigned text) bytes := by
  fun_induction pairs index text generalizing bytes with
  | case1 index => exact Iff.trans (by simp [eq_comm]) spells_nil_iff.symm
  | case2 index c one => exact ⟨nofun, fun spells => absurd spells not_spells_singleton⟩
  | case3 index c one d rest one' b pair ih =>
    -- the first byte is that of the pair, whatever becomes of the rest
    rw [spells_unsigned_pair_iff pair]
    cases read : pairs (index + 1) rest with
    | error e =>
      have none (others : Bytes) : ¬ Spells (unsigned rest) others := by
        rw [← ih, read]
        nofun
      exact ⟨nofun, fun ⟨others, _, spells⟩ => absurd spells (none others)⟩
    | ok others =>
      have spells (others' : Bytes) : others = others' ↔ Spells (unsigned rest) others' := by
        rw [← ih, read, Except.ok.injEq]
      simp only [← spells]
      constructor
      · rintro ⟨⟩
        exact ⟨others, rfl, rfl⟩
      · rintro ⟨_, rfl, rfl⟩
        rfl
  -- from here on reading fails: no pair begins the text, and so it spells nothing
  | case4 index c one d rest one' wrong =>
    refine ⟨nofun, fun spells => ?_⟩
    obtain ⟨_, _, b, ⟨rfl, rfl⟩, pair⟩ := exists_pair? spells
    cases wrong.symm.trans pair
  | case5 index c one d rest wide =>
    refine ⟨nofun, fun spells => ?_⟩
    obtain ⟨_, _, b, ⟨rfl, rfl⟩, pair⟩ := exists_pair? spells
    exact absurd (utf8Size_of_pair? pair).2 wide
  | case6 index c rest wide | case7 index c rest wide =>
    refine ⟨nofun, fun spells => ?_⟩
    obtain ⟨_, _, b, -, pair⟩ := exists_pair? spells
    exact absurd (utf8Size_of_pair? pair).1 wide

/-- Pairs of digits have an even number of bytes. -/
theorem utf8ByteSize_of_pairs {index : Nat} {text : List Char} {bytes : Bytes}
    (read : pairs index text = .ok bytes) : (String.ofList text).utf8ByteSize % 2 = 0 := by
  fun_induction pairs index text generalizing bytes with
  | case1 index => rfl
  | case3 index c one d rest one' b pair ih =>
    cases read' : pairs (index + 1) rest with
    | error e =>
      rw [read'] at read
      cases read
    | ok others =>
      have even := ih read'
      simp only [String.ofList_cons, String.utf8ByteSize_append, String.utf8ByteSize_singleton]
      omega
  | _ => cases read

/-- **What is read**: the bytes spelled by the characters that count, where a plus is a zero. -/
theorem parse_eq_ok_iff {text : String} {bytes : Bytes} :
    parse text = .ok bytes ↔ Spells (unsigned (digits text)) bytes := by
  rw [← pairs_eq_ok_iff 0, parse]
  refine ⟨fun read => ?_, fun read => ?_⟩
  · split at read
    case isTrue => exact read
    case isFalse => cases read
  · rw [if_pos (utf8ByteSize_of_pairs read), read]

/-! ## Marks -/

/-- The rest of a text behind one mark of the base; the text itself if it begins with none. -/
def dropMark : List Char → List Char
  | '0' :: 'x' :: rest => rest
  | text => text

/-- **The characters of a text**, without white space and without one mark of the base in front. -/
def plainDigits (text : String) : List Char :=
  (dropMark (Text.trimBlank text.toList)).filter fun c => !Text.isBlank c

/-- A text that does not begin with a mark keeps all its characters. -/
theorem dropMark_of_not_isPrefix {cs : List Char} (bare : ¬ ['0', 'x'] <+: cs) :
    dropMark cs = cs := by
  fun_cases dropMark cs with
  | case1 rest => exact absurd ⟨rest, rfl⟩ bare
  | case2 => rfl

theorem dropMarks_of_not_isPrefix {cs : List Char} (bare : ¬ ['0', 'x'] <+: cs) :
    dropMarks cs = cs := by
  fun_cases dropMarks cs with
  | case1 rest => exact absurd ⟨rest, rfl⟩ bare
  | case2 => rfl

theorem not_isPrefix_dropMarks (cs : List Char) : ¬ ['0', 'x'] <+: dropMarks cs := by
  fun_induction dropMarks cs with
  | case1 rest ih => exact ih
  | case2 cs bare =>
    rintro ⟨rest, rfl⟩
    exact bare rest rfl

/-- To drop one mark is enough, if there are no two of them. -/
theorem dropMarks_eq_dropMark {cs : List Char} (single : ¬ ['0', 'x', '0', 'x'] <+: cs) :
    dropMarks cs = dropMark cs := by
  fun_cases dropMark cs with
  | case1 rest =>
    have bare : ¬ ['0', 'x'] <+: rest := by
      rintro ⟨others, rfl⟩
      exact single ⟨others, rfl⟩
    exact dropMarks_of_not_isPrefix bare
  | case2 _ unmarked =>
    have bare : ¬ ['0', 'x'] <+: cs := by
      rintro ⟨rest, rfl⟩
      exact unmarked rest rfl
    exact dropMarks_of_not_isPrefix bare

/-- **All marks in front are dropped**, and nothing else. -/
theorem dropMarks_eq_iff {cs rest : List Char} :
    dropMarks cs = rest ↔
      (∃ n, cs = (List.replicate n ['0', 'x']).flatten ++ rest) ∧ ¬ ['0', 'x'] <+: rest := by
  constructor
  · rintro rfl
    refine ⟨?_, not_isPrefix_dropMarks cs⟩
    fun_induction dropMarks cs with
    | case1 rest ih =>
      obtain ⟨n, same⟩ := ih
      exact ⟨n + 1, congrArg ('0' :: 'x' :: ·) same⟩
    | case2 cs => exact ⟨0, rfl⟩
  · rintro ⟨⟨n, rfl⟩, bare⟩
    induction n with
    | zero => exact dropMarks_of_not_isPrefix bare
    | succ n ih => exact ih

/-! ## White space -/

theorem filter_dropWhile_isBlank (cs : List Char) :
    (cs.dropWhile Text.isBlank).filter (fun c => !Text.isBlank c) =
      cs.filter fun c => !Text.isBlank c := by
  induction cs with
  | nil => rfl
  | cons c cs ih => cases blank : Text.isBlank c <;> simp [blank, ih]

/-- White space at the ends makes no difference where all of it is left out. -/
theorem filter_trimBlank (cs : List Char) :
    (Text.trimBlank cs).filter (fun c => !Text.isBlank c) = cs.filter fun c => !Text.isBlank c := by
  rw [Text.trimBlank, List.filter_reverse, filter_dropWhile_isBlank, List.filter_reverse,
    List.reverse_reverse, filter_dropWhile_isBlank]

/-! ## Plain texts -/

/-- **A plain text of these bytes.** -/
def Plain (text : String) (bytes : Bytes) : Prop := Spells (plainDigits text) bytes

instance (text : String) (bytes : Bytes) : Decidable (Plain text bytes) :=
  inferInstanceAs (Decidable (Spells _ _))

/-- **A text that is read with indulgence**: it begins with two marks, or has a plus where a pair
    begins. -/
def Lax (text : String) : Prop :=
  ['0', 'x', '0', 'x'] <+: Text.trimBlank text.toList ∨
    ∃ n, (plainDigits text)[2 * n]? = some '+'

theorem unsigned_eq_self {cs : List Char} (noPlus : ∀ n, cs[2 * n]? ≠ some '+') :
    unsigned cs = cs := by
  fun_induction unsigned cs with
  | case1 c d rest ih =>
    have first : c ≠ '+' := fun plus => noPlus 0 (congrArg some plus)
    rw [sixteens, if_neg first, ih fun n => noPlus (n + 1)]
  | case2 => rfl

/-- What is read of a text that asks for no indulgence is the text. -/
theorem unsigned_digits {text : String} (strict : ¬ Lax text) :
    unsigned (digits text) = plainDigits text := by
  obtain ⟨single, noPlus⟩ := not_or.mp strict
  have same : digits text = plainDigits text := by
    rw [digits, dropMarks_eq_dropMark single, plainDigits]
  rw [same]
  exact unsigned_eq_self fun n plus => noPlus ⟨n, plus⟩

/-- A plain text asks for no indulgence. -/
theorem Plain.not_lax {text : String} {bytes : Bytes} (plain : Plain text bytes) :
    ¬ Lax text := by
  rintro (⟨rest, doubled⟩ | ⟨n, plus⟩)
  · -- One of the two marks is left, and `x` is no digit.
    have digit : (Bytes.hexValue? 'x').isSome := by
      refine plain.isSome 'x' ?_
      rw [plainDigits, ← doubled]
      exact List.mem_filter.mpr ⟨List.mem_cons_of_mem _ List.mem_cons_self, rfl⟩
    cases digit
  · have digit : (Bytes.hexValue? '+').isSome := plain.isSome '+' (List.mem_of_getElem? plus)
    cases digit

/-- **The plain texts are those that are read without indulgence.** -/
theorem plain_iff {text : String} {bytes : Bytes} :
    Plain text bytes ↔ parse text = .ok bytes ∧ ¬ Lax text := by
  rw [parse_eq_ok_iff]
  refine ⟨fun plain => ?_, fun ⟨read, strict⟩ => ?_⟩
  · refine ⟨?_, plain.not_lax⟩
    rw [unsigned_digits plain.not_lax]
    exact plain
  · rwa [unsigned_digits strict] at read

/-- Pairs of digits spell something. -/
theorem exists_spells : ∀ {cs : List Char}, cs.length % 2 = 0 →
    (∀ c ∈ cs, (Bytes.hexValue? c).isSome) → ∃ bytes, Spells cs bytes
  | [], _, _ => ⟨[], rfl⟩
  | [_], even, _ => by cases even
  | c :: d :: rest, even, known => by
    have even' : rest.length % 2 = 0 := by
      simp only [List.length_cons] at even
      omega
    obtain ⟨others, spells⟩ := exists_spells even' fun c member =>
      known c (List.mem_cons_of_mem _ (List.mem_cons_of_mem _ member))
    obtain ⟨h, high⟩ := Option.isSome_iff_exists.mp (known c List.mem_cons_self)
    obtain ⟨l, low⟩ :=
      Option.isSome_iff_exists.mp (known d (List.mem_cons_of_mem _ List.mem_cons_self))
    have small := (bounds_of_hexValue? high).1
    have small' := (bounds_of_hexValue? low).1
    have byte : (UInt8.ofNat (h * 16 + l)).toNat = h * 16 + l :=
      UInt8.toNat_ofNat_of_lt' (by simp [UInt8.size]; omega)
    refine ⟨UInt8.ofNat (h * 16 + l) :: others, spells_pair_iff.mpr ⟨_, _, rfl, ?_, ?_, spells⟩⟩
    · rw [high, byte]
      congr 1
      omega
    · rw [low, byte]
      congr 1
      omega

theorem length_halves (bytes : Bytes) : (bytes.flatMap halves).length = 2 * bytes.length := by
  induction bytes with
  | nil => rfl
  | cons b bytes ih =>
    simp only [List.flatMap_cons, List.length_append, ih, halves, List.length_cons, List.length_nil]
    omega

/-- **Which characters spell bytes**: an even number of digits. -/
theorem exists_spells_iff {cs : List Char} :
    (∃ bytes, Spells cs bytes) ↔
      cs.length % 2 = 0 ∧ ∀ c ∈ cs, (Bytes.hexValue? c).isSome := by
  refine ⟨fun ⟨bytes, spells⟩ => ⟨?_, spells.isSome⟩, fun ⟨even, known⟩ => exists_spells even known⟩
  have length : cs.length = 2 * bytes.length := by
    have same := congrArg List.length spells
    rwa [List.length_map, List.length_map, length_halves] at same
  omega

/-- White space may stand anywhere in the spelling of bytes. -/
theorem plain_of_filter_eq {text : String} {bytes : Bytes}
    (spelling : text.toList.filter (fun c => !Text.isBlank c) = (Bytes.toHex bytes).toList) :
    Plain text bytes := by
  have bare : ¬ ['0', 'x'] <+: Text.trimBlank text.toList := by
    rintro ⟨rest, marked⟩
    have digit : (Bytes.hexValue? 'x').isSome := by
      refine (spells_toHex bytes).isSome 'x' ?_
      rw [← spelling, ← filter_trimBlank, ← marked]
      exact List.mem_filter.mpr ⟨List.mem_cons_of_mem _ List.mem_cons_self, rfl⟩
    cases digit
  rw [Plain, plainDigits, dropMark_of_not_isPrefix bare, filter_trimBlank, spelling]
  exact spells_toHex bytes

/-- **Plain or with indulgence.**  A text is a plain text of bytes exactly if it is read as these
    bytes and asks for no indulgence; what asks for it is read as if all marks were dropped and
    each plus in front of a pair were a zero.  Plain texts consist of an even number of digits,
    and all bytes have one, in which white space may stand anywhere. -/
theorem plain_or_lax (text : String) :
    (∀ bytes, Plain text bytes ↔ parse text = .ok bytes ∧ ¬ Lax text) ∧
    (∀ bytes, parse text = .ok bytes ↔
      ∃ n rest, Text.trimBlank text.toList = (List.replicate n ['0', 'x']).flatten ++ rest ∧
        ¬ ['0', 'x'] <+: rest ∧
        Spells (unsigned (rest.filter fun c => !Text.isBlank c)) bytes) ∧
    ((∃ bytes, Plain text bytes) ↔
      (plainDigits text).length % 2 = 0 ∧ ∀ c ∈ plainDigits text,
        ('0' ≤ c ∧ c ≤ '9') ∨ ('a' ≤ c ∧ c ≤ 'f') ∨ ('A' ≤ c ∧ c ≤ 'F')) ∧
    ∀ bytes, text.toList.filter (fun c => !Text.isBlank c) = (Bytes.toHex bytes).toList →
      parse text = .ok bytes := by
  refine ⟨fun bytes => plain_iff, fun bytes => ?_, ?_,
    fun bytes spelling => (plain_iff.mp (plain_of_filter_eq spelling)).1⟩
  case refine_2 =>
    simp only [← isSome_hexValue?_iff]
    exact exists_spells_iff
  rw [parse_eq_ok_iff]
  constructor
  · intro spells
    obtain ⟨⟨n, marks⟩, bare⟩ := dropMarks_eq_iff.mp rfl
    exact ⟨n, dropMarks _, marks, bare, spells⟩
  · rintro ⟨n, rest, marks, bare, spells⟩
    rwa [digits, dropMarks_eq_iff.mpr ⟨⟨n, marks⟩, bare⟩]

/-- A mark, digits of either case and white space. -/
theorem plain_or_lax_marked :
    parse "0x0a FF 10" = .ok [0x0a, 0xff, 0x10] ∧ parse " 0a\tff 10\n" = .ok [0x0a, 0xff, 0x10] :=
  ⟨((plain_or_lax "0x0a FF 10").1 [0x0a, 0xff, 0x10]).mp (by decide +kernel) |>.1,
    (plain_or_lax " 0a\tff 10\n").2.2.2 [0x0a, 0xff, 0x10] (by decide +kernel)⟩

/-- A plus in front of a digit, and two marks: both are read, and neither is plain. -/
theorem lax_texts_read :
    (parse "01+5" = .ok [1, 5] ∧ ∀ bytes, ¬ Plain "01+5" bytes) ∧
      parse "0x0x0105" = .ok [1, 5] ∧ ∀ bytes, ¬ Plain "0x0x0105" bytes := by
  have plus : Lax "01+5" := .inr ⟨1, by decide +kernel⟩
  have doubled : Lax "0x0x0105" := .inl (by decide +kernel)
  exact ⟨⟨parse_eq_ok_iff.mpr (by decide +kernel), fun bytes plain => plain.not_lax plus⟩,
    parse_eq_ok_iff.mpr (by decide +kernel), fun bytes plain => plain.not_lax doubled⟩

end TickScript.HexText
