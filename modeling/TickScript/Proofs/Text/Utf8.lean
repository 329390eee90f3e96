import TickScript.Text.Utf8

/-! # Strict reading accepts exactly the encodings

    The decoder moves from octet to octet, the encoder from character to character.  Between the
    two stands the table of well-formed sequences, with one row for each length:

        00..7f
        c2..df  80..bf
        e0..ef  80..bf  80..bf          (a0..bf after e0, 80..9f after ed)
        f0..f4  80..bf  80..bf  80..bf  (90..bf after f0, 80..8f after f4)

    * Each row is what the encoder writes for the character it spells (`Sequence.encode`), and
      the encoder writes nothing else (`sequence_encode`).
    * The decoder takes a row for its character (`Sequence.pieces`), and input in which it finds
      nothing bad starts with a row (`exists_sequence`).
-/

namespace TickScript.Utf8

/-! ## The table -/

/-- An octet that goes on with a character. -/
def Trails (b : UInt8) : Prop := 0x80 ≤ b.toNat ∧ b.toNat < 0xc0

/-- **What may follow the first octet.**  Four first octets narrow the range, so that no
    character is spelt at greater length than it needs, none is a surrogate, and none lies
    beyond the last code point. -/
structure Follows (a b : UInt8) : Prop where
  trails : Trails b
  afterE0 : a.toNat = 0xe0 → 0xa0 ≤ b.toNat
  afterEd : a.toNat = 0xed → b.toNat < 0xa0
  afterF0 : a.toNat = 0xf0 → 0x90 ≤ b.toNat
  afterF4 : a.toNat = 0xf4 → b.toNat < 0x90

/-- **Well-formed sequences**, with the code points they spell. -/
inductive Sequence : Bytes → Nat → Prop where
  | one (a : UInt8) : a.toNat < 0x80 → Sequence [a] a.toNat
  | two (a b : UInt8) : 0xc2 ≤ a.toNat → a.toNat < 0xe0 → Follows a b →
      Sequence [a, b] ((a.toNat - 0xc0) * 64 + b.toNat % 64)
  | three (a b c : UInt8) : 0xe0 ≤ a.toNat → a.toNat < 0xf0 → Follows a b → Trails c →
      Sequence [a, b, c] (((a.toNat - 0xe0) * 64 + b.toNat % 64) * 64 + c.toNat % 64)
  | four (a b c d : UInt8) : 0xf0 ≤ a.toNat → a.toNat < 0xf5 → Follows a b → Trails c →
      Trails d →
      Sequence [a, b, c, d]
        ((((a.toNat - 0xf0) * 64 + b.toNat % 64) * 64 + c.toNat % 64) * 64 + d.toNat % 64)

variable {a b : UInt8} {bytes rest : Bytes} {n : Nat} {p : Pending} {cs : List Char}

theorem Sequence.ne_nil (h : Sequence bytes n) : bytes ≠ [] := by
  cases h with
  | _ => simp

/-! ## The encoder -/

/-- What a sequence spells is a character. -/
theorem Sequence.isValidChar (h : Sequence bytes n) : n.isValidChar := by
  unfold Nat.isValidChar
  cases h with
  | one a small => omega
  | two a b low high second => omega
  | three a b c low high second third =>
    have trails := second.trails
    have surrogate := second.afterEd
    simp only [Trails] at *
    omega
  | four a b c d low high second third fourth =>
    have trails := second.trails
    have short := second.afterF0
    have last := second.afterF4
    simp only [Trails] at *
    omega

theorem Sequence.toNat_ofNat (h : Sequence bytes n) : (Char.ofNat n).val.toNat = n := by
  rw [Char.ofNat, dif_pos h.isValidChar]
  rfl

theorem ofNat_of_eq (h : n = b.toNat) : UInt8.ofNat n = b := by
  rw [h]
  exact UInt8.ofNat_toNat

/-- **A row of the table is what the encoder writes for the character it spells.** -/
theorem Sequence.encode (h : Sequence bytes n) :
    String.utf8EncodeChar (Char.ofNat n) = bytes := by
  have value := h.toNat_ofNat
  unfold String.utf8EncodeChar
  rw [value]
  cases h with
  | one a small =>
    rw [if_pos (by omega), UInt8.ofNat_toNat]
  | two a b low high second =>
    have trails := second.trails
    simp only [Trails] at trails
    rw [if_neg (by omega), if_pos (by omega)]
    rw [ofNat_of_eq (b := a) (by omega), ofNat_of_eq (b := b) (by omega)]
  | three a b c low high second third =>
    have trails := second.trails
    have short := second.afterE0
    simp only [Trails] at trails third
    rw [if_neg (by omega), if_neg (by omega), if_pos (by omega)]
    rw [ofNat_of_eq (b := a) (by omega), ofNat_of_eq (b := b) (by omega),
      ofNat_of_eq (b := c) (by omega)]
  | four a b c d low high second third fourth =>
    have trails := second.trails
    have short := second.afterF0
    simp only [Trails] at trails third fourth
    rw [if_neg (by omega), if_neg (by omega), if_neg (by omega)]
    rw [ofNat_of_eq (b := a) (by omega), ofNat_of_eq (b := b) (by omega),
      ofNat_of_eq (b := c) (by omega), ofNat_of_eq (b := d) (by omega)]

theorem toNat_ofNat_of_lt (h : n < 256) : (UInt8.ofNat n).toNat = n := by
  rw [UInt8.toNat_ofNat']
  exact Nat.mod_eq_of_lt h

/-- **The encoder writes rows of the table.** -/
theorem sequence_encode (c : Char) : Sequence (String.utf8EncodeChar c) c.val.toNat := by
  have valid : c.val.toNat.isValidChar := c.valid
  unfold String.utf8EncodeChar
  generalize c.val.toNat = n at valid
  unfold Nat.isValidChar at valid
  -- every octet but the first is written in the same way
  have trailing (m : Nat) : (UInt8.ofNat (m % 64 + 0x80)).toNat = m % 64 + 0x80 :=
    toNat_ofNat_of_lt (by omega)
  have trails (m : Nat) : Trails (UInt8.ofNat (m % 64 + 0x80)) := by
    rw [Trails, trailing]
    omega
  by_cases one : n ≤ 0x7f
  · have first : (UInt8.ofNat n).toNat = n := toNat_ofNat_of_lt (by omega)
    simp only [if_pos one]
    have row := Sequence.one (UInt8.ofNat n) (by omega)
    rwa [first] at row
  by_cases two : n ≤ 0x7ff
  · have first : (UInt8.ofNat (n / 64 % 32 + 0xc0)).toNat = n / 64 % 32 + 0xc0 :=
      toNat_ofNat_of_lt (by omega)
    simp only [if_neg one, if_pos two]
    have row := Sequence.two (.ofNat (n / 64 % 32 + 0xc0)) (.ofNat (n % 64 + 0x80))
      (by omega) (by omega) ⟨trails n, by omega, by omega, by omega, by omega⟩
    have spelt : (n / 64 % 32 + 0xc0 - 0xc0) * 64 + (n % 64 + 0x80) % 64 = n := by omega
    rwa [first, trailing, spelt] at row
  by_cases three : n ≤ 0xffff
  · have first : (UInt8.ofNat (n / 4096 % 16 + 0xe0)).toNat = n / 4096 % 16 + 0xe0 :=
      toNat_ofNat_of_lt (by omega)
    have second := trailing (n / 64)
    simp only [if_neg one, if_neg two, if_pos three]
    have row := Sequence.three (.ofNat (n / 4096 % 16 + 0xe0)) (.ofNat (n / 64 % 64 + 0x80))
      (.ofNat (n % 64 + 0x80)) (by omega) (by omega)
      ⟨trails (n / 64), by omega, by omega, by omega, by omega⟩ (trails n)
    have spelt : ((n / 4096 % 16 + 0xe0 - 0xe0) * 64 + (n / 64 % 64 + 0x80) % 64) * 64 +
        (n % 64 + 0x80) % 64 = n := by omega
    rwa [first, trailing, trailing, spelt] at row
  · have first : (UInt8.ofNat (n / 262144 % 8 + 0xf0)).toNat = n / 262144 % 8 + 0xf0 :=
      toNat_ofNat_of_lt (by omega)
    have second := trailing (n / 4096)
    simp only [if_neg one, if_neg two, if_neg three]
    have row := Sequence.four (.ofNat (n / 262144 % 8 + 0xf0)) (.ofNat (n / 4096 % 64 + 0x80))
      (.ofNat (n / 64 % 64 + 0x80)) (.ofNat (n % 64 + 0x80)) (by omega) (by omega)
      ⟨trails (n / 4096), by omega, by omega, by omega, by omega⟩ (trails (n / 64)) (trails n)
    have spelt : (((n / 262144 % 8 + 0xf0 - 0xf0) * 64 + (n / 4096 % 64 + 0x80) % 64) * 64 +
        (n / 64 % 64 + 0x80) % 64) * 64 + (n % 64 + 0x80) % 64 = n := by omega
    rwa [first, trailing, trailing, trailing, spelt] at row

/-! ## The decoder -/

/-- The octet lies in the range of the pending character. -/
abbrev Pending.Fits (p : Pending) (b : UInt8) : Prop := p.low ≤ b ∧ b ≤ p.high

/-- **A character that its first octet opened.** -/
structure Opens (a : UInt8) (p : Pending) : Prop where
  start_eq : start a = ([], some p)
  fits_iff : ∀ b, p.Fits b ↔ Follows a b
  two : a.toNat < 0xe0 → p.bits = a.toNat - 0xc0 ∧ p.owed = 0
  three : 0xe0 ≤ a.toNat → a.toNat < 0xf0 → p.bits = a.toNat - 0xe0 ∧ p.owed = 1
  four : 0xf0 ≤ a.toNat → p.bits = a.toNat - 0xf0 ∧ p.owed = 2

theorem fits_iff_follows (p : Pending) (range : ∀ n, p.low.toNat ≤ n ∧ n ≤ p.high.toNat ↔
      0x80 ≤ n ∧ n < 0xc0 ∧ (a.toNat = 0xe0 → 0xa0 ≤ n) ∧ (a.toNat = 0xed → n < 0xa0) ∧
        (a.toNat = 0xf0 → 0x90 ≤ n) ∧ (a.toNat = 0xf4 → n < 0x90)) (b : UInt8) :
    p.Fits b ↔ Follows a b := by
  rw [Pending.Fits, UInt8.le_iff_toNat_le, UInt8.le_iff_toNat_le, range]
  constructor
  · intro ⟨low, high, e0, ed, f0, f4⟩
    exact ⟨⟨low, high⟩, e0, ed, f0, f4⟩
  · intro follows
    exact ⟨follows.trails.1, follows.trails.2, follows.afterE0, follows.afterEd, follows.afterF0,
      follows.afterF4⟩

/-- The first octets `c2..f4` open a character. -/
theorem exists_opens (low : 0xc2 ≤ a.toNat) (high : a.toNat < 0xf5) : ∃ p, Opens a p := by
  have opens (p : Pending) (started : start a = ([], some p)) (range) (two) (three) (four) :
      ∃ p, Opens a p := ⟨p, started, fits_iff_follows p range, two, three, four⟩
  unfold start at opens
  have notAscii : ¬ a.toNat < 0x80 := by omega
  have notBad : ¬ a.toNat < 0xc2 := by omega
  simp only [if_neg notAscii, if_neg notBad] at opens
  -- one case for each range of first octets that `start` tells apart
  split at opens
  · refine opens _ rfl ?_ ?_ ?_ ?_ <;> simp <;> omega
  split at opens
  · refine opens _ rfl ?_ ?_ ?_ ?_ <;> simp <;> omega
  split at opens
  · refine opens _ rfl ?_ ?_ ?_ ?_ <;> simp <;> omega
  split at opens
  · refine opens _ rfl ?_ ?_ ?_ ?_ <;> simp <;> omega
  split at opens
  · refine opens _ rfl ?_ ?_ ?_ ?_ <;> simp <;> omega
  split at opens
  · refine opens _ rfl ?_ ?_ ?_ ?_ <;> simp <;> omega
  split at opens
  · refine opens _ rfl ?_ ?_ ?_ ?_ <;> simp <;> omega
  · omega

theorem pieces_start (a : UInt8) (rest : Bytes) :
    pieces none (a :: rest) = (start a).1 ++ pieces (start a).2 rest := by
  rw [pieces]
  rfl

theorem pieces_opens (opens : Opens a p) (rest : Bytes) :
    pieces none (a :: rest) = pieces (some p) rest := by
  rw [pieces_start, opens.start_eq]
  rfl

theorem pieces_one (small : a.toNat < 0x80) (rest : Bytes) :
    pieces none (a :: rest) = .char (Char.ofNat a.toNat) :: pieces none rest := by
  rw [pieces_start, start, if_pos small]
  rfl

/-- The octet that completes a character. -/
theorem pieces_last (owed : p.owed = 0) (fits : p.Fits b) (rest : Bytes) :
    pieces (some p) (b :: rest) =
      .char (Char.ofNat (p.bits * 64 + b.toNat % 64)) :: pieces none rest := by
  rw [pieces, step]
  simp only [if_pos fits, owed]
  rfl

/-- An octet that leaves a character open. -/
theorem pieces_more (owed : p.owed = n + 1) (fits : p.Fits b) (rest : Bytes) :
    pieces (some p) (b :: rest) =
      pieces (some ⟨p.bits * 64 + b.toNat % 64, n, 0x80, 0xbf⟩) rest := by
  rw [pieces, step]
  simp only [if_pos fits, owed]
  rfl

/-- After the second octet any one that trails may come. -/
theorem fits_iff_trails (bits owed : Nat) (b : UInt8) :
    Pending.Fits ⟨bits, owed, 0x80, 0xbf⟩ b ↔ Trails b := by
  rw [Pending.Fits, UInt8.le_iff_toNat_le, UInt8.le_iff_toNat_le, Trails]
  simp
  omega

/-- **The decoder takes a row of the table for its character.** -/
theorem Sequence.pieces (h : Sequence bytes n) (rest : Bytes) :
    pieces none (bytes ++ rest) = .char (Char.ofNat n) :: pieces none rest := by
  cases h with
  | one a small => exact pieces_one small rest
  | two a b low high second =>
    obtain ⟨p, opens⟩ := exists_opens low (by omega)
    obtain ⟨bits, owed⟩ := opens.two high
    show Utf8.pieces none (a :: b :: rest) = _
    rw [pieces_opens opens, pieces_last owed ((opens.fits_iff b).mpr second), bits]
  | three a b c low high second third =>
    obtain ⟨p, opens⟩ := exists_opens (a := a) (by omega) (by omega)
    obtain ⟨bits, owed⟩ := opens.three low high
    show Utf8.pieces none (a :: b :: c :: rest) = _
    rw [pieces_opens opens, pieces_more owed ((opens.fits_iff b).mpr second),
      pieces_last rfl ((fits_iff_trails ..).mpr third), bits]
  | four a b c d low high second third fourth =>
    obtain ⟨p, opens⟩ := exists_opens (a := a) (by omega) (by omega)
    obtain ⟨bits, owed⟩ := opens.four low
    show Utf8.pieces none (a :: b :: c :: d :: rest) = _
    rw [pieces_opens opens, pieces_more owed ((opens.fits_iff b).mpr second),
      pieces_more rfl ((fits_iff_trails ..).mpr third),
      pieces_last rfl ((fits_iff_trails ..).mpr fourth), bits]

/-- A character under way is not bad only if an octet in its range comes. -/
theorem exists_fits (h : characters? (pieces (some p) bytes) = some cs) :
    ∃ b rest, bytes = b :: rest ∧ p.Fits b := by
  cases bytes with
  | nil => simp [Utf8.pieces, characters?] at h
  | cons b rest =>
    by_cases fits : p.Fits b
    · exact ⟨b, rest, rfl, fits⟩
    · rw [Utf8.pieces, step] at h
      simp [if_neg fits, characters?] at h

/-- No character begins with an octet of `80..c1` or `f5..ff`. -/
theorem start_bad (notAscii : ¬ a.toNat < 0x80) (bad : a.toNat < 0xc2 ∨ 0xf5 ≤ a.toNat) :
    start a = ([.bad], none) := by
  unfold start
  simp only [if_neg notAscii]
  rcases bad with low | high
  · rw [if_pos low]
  · rw [if_neg (by omega), if_neg (by omega), if_neg (by omega), if_neg (by omega),
      if_neg (by omega), if_neg (by omega), if_neg (by omega), if_neg (by omega)]

/-- **Input in which nothing is bad starts with a row of the table.** -/
theorem exists_sequence (h : characters? (pieces none (a :: rest)) = some cs) :
    ∃ bytes back n, a :: rest = bytes ++ back ∧ Sequence bytes n := by
  by_cases ascii : a.toNat < 0x80
  · exact ⟨[a], rest, _, rfl, .one a ascii⟩
  by_cases bad : a.toNat < 0xc2 ∨ 0xf5 ≤ a.toNat
  · rw [pieces_start, start_bad ascii bad] at h
    cases h
  obtain ⟨p, opens⟩ := exists_opens (a := a) (by omega) (by omega)
  rw [pieces_opens opens] at h
  -- each octet that is owed must be there and fit
  obtain ⟨b, rest, rfl, fits⟩ := exists_fits h
  have second := (opens.fits_iff b).mp fits
  by_cases two : a.toNat < 0xe0
  · exact ⟨[a, b], rest, _, rfl, .two a b (by omega) two second⟩
  by_cases three : a.toNat < 0xf0
  · rw [pieces_more (opens.three (by omega) three).2 fits] at h
    obtain ⟨c, rest, rfl, fits⟩ := exists_fits h
    have third := (fits_iff_trails ..).mp fits
    exact ⟨[a, b, c], rest, _, rfl, .three a b c (by omega) three second third⟩
  · rw [pieces_more (opens.four (by omega)).2 fits] at h
    obtain ⟨c, rest, rfl, fits⟩ := exists_fits h
    have third := (fits_iff_trails ..).mp fits
    rw [pieces_more rfl fits] at h
    obtain ⟨d, rest, rfl, fits⟩ := exists_fits h
    have fourth := (fits_iff_trails ..).mp fits
    exact ⟨[a, b, c, d], rest, _, rfl, .four a b c d (by omega) (by omega) second third fourth⟩

/-! ## Whole texts -/

/-- The encoding is that of the standard library. -/
theorem encode_eq_toUTF8 (s : String) : encode s = s.toUTF8.data.toList := by
  have bytes : (String.ofList s.toList).toByteArray = s.toList.utf8Encode := by simp
  rw [String.ofList_toList] at bytes
  show _ = s.toByteArray.data.toList
  rw [bytes, encode, List.utf8Encode, List.toList_data_toByteArray]

theorem characters?_pieces (cs : List Char) :
    characters? (pieces none (cs.flatMap String.utf8EncodeChar)) = some cs := by
  induction cs with
  | nil => rfl
  | cons c cs ih =>
    rw [List.flatMap_cons, (sequence_encode c).pieces, characters?, ih]
    simp

theorem eq_encode_of_characters? {bytes : Bytes} {cs : List Char}
    (h : characters? (pieces none bytes) = some cs) :
    bytes = cs.flatMap String.utf8EncodeChar := by
  match bytes with
  | [] =>
    cases h
    rfl
  | a :: rest =>
    -- one row is taken off the front, and what is behind it is shorter
    obtain ⟨first, back, n, split, sequence⟩ := exists_sequence h
    rw [split, sequence.pieces, characters?] at h
    obtain ⟨later, read, rfl⟩ := Option.map_eq_some_iff.mp h
    have shorter : back.length < (a :: rest).length := by
      have some := List.length_pos_iff.mpr sequence.ne_nil
      rw [split, List.length_append]
      omega
    rw [split, List.flatMap_cons, sequence.encode, ← eq_encode_of_characters? read]
  termination_by bytes.length
  decreasing_by exact shorter

/-- **Strict reading accepts exactly the encodings.** -/
theorem decode?_eq_some_iff {s : String} : decode? bytes = some s ↔ bytes = encode s := by
  unfold decode? encode
  constructor
  · intro h
    obtain ⟨cs, read, rfl⟩ := Option.map_eq_some_iff.mp h
    rw [String.toList_ofList]
    exact eq_encode_of_characters? read
  · intro h
    rw [h, characters?_pieces, Option.map_some, String.ofList_toList]

end TickScript.Utf8
