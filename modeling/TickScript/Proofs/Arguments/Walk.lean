import TickScript.Proofs.Arguments.Records

/-! # Visits of argument blocks

    A visitor may keep a state, decline or fault.  `Passes visit s rs s'` says that it accepts
    the records `rs` one after the other, starting from `s` and ending in `s'`; a visit is
    described by such runs and by the bytes that follow them.

    * Records that were written are handed over in order, all of them, and nothing else.
    * A visit that is accepted throughout meets the records of the block and ends well exactly if
      nothing is left over; else the block is malformed behind them.
    * A visit that is declined has met the records up to the one declined, and has not looked
      further.
-/

namespace TickScript.ArgBlock

variable {σ : Type} {visit : ArgRecord → EStateM Fault σ Bool} {s s' s'' : σ} {rest : Bytes}
  {r : ArgRecord} {rs records : List ArgRecord}

/-! ## Runs of a visitor -/

/-- **The visitor accepts the records one after the other**, and what it makes of its state. -/
inductive Passes (visit : ArgRecord → EStateM Fault σ Bool) : σ → List ArgRecord → σ → Prop where
  | nil (s : σ) : Passes visit s [] s
  | cons {s mid s' : σ} {r : ArgRecord} {rs : List ArgRecord} :
      visit r s = .ok true mid → Passes visit mid rs s' → Passes visit s (r :: rs) s'

/-- **A visitor that accepts every record.** -/
def Accepts (visit : ArgRecord → EStateM Fault σ Bool) (next : σ → ArgRecord → σ) : Prop :=
  ∀ s r, visit r s = .ok true (next s r)

theorem Accepts.passes {next : σ → ArgRecord → σ} (accepts : Accepts visit next) (s : σ)
    (rs : List ArgRecord) : Passes visit s rs (rs.foldl next s) := by
  induction rs generalizing s with
  | nil => exact .nil s
  | cons r rs ih => exact .cons (accepts s r) (ih (next s r))

theorem visitRecords_cons (visit : ArgRecord → EStateM Fault σ Bool) (r : ArgRecord)
    (rs : List ArgRecord) (s : σ) :
    visitRecords visit (r :: rs) s =
      match visit r s with
      | .ok true mid => visitRecords visit rs mid
      | .ok false mid => .ok false mid
      | .error fault mid => .error fault mid := by
  rw [visitRecords]
  simp only [bind, EStateM.bind]
  cases visit r s with
  | error fault mid => rfl
  | ok goOn mid => cases goOn <;> rfl

theorem visitRecords_append (passes : Passes visit s rs s') (later : List ArgRecord) :
    visitRecords visit (rs ++ later) s = visitRecords visit later s' := by
  induction passes with
  | nil s => rfl
  | cons accepted _ ih =>
    rw [List.cons_append, visitRecords_cons, accepted]
    exact ih

/-- A visit of some records and of those behind them, in any monad. -/
theorem visitRecords_append_eq {m : Type → Type} [Monad m] [LawfulMonad m]
    (visit : ArgRecord → m Bool) (rs later : List ArgRecord) :
    visitRecords visit (rs ++ later) =
      visitRecords visit rs >>= fun goOn =>
        if goOn then visitRecords visit later else pure false := by
  let next (goOn : Bool) : m Bool := if goOn then visitRecords visit later else pure false
  induction rs with
  | nil => exact (pure_bind true next).symm
  | cons r rs ih =>
    rw [List.cons_append, visitRecords, visitRecords, ih, bind_assoc]
    refine congrArg (visit r >>= ·) (funext fun goOn => ?_)
    cases goOn with
    | true => rfl
    | false => exact (pure_bind false next).symm

/-- Records are declined at the first one that the visitor does not accept. -/
theorem visitRecords_eq_false_iff :
    visitRecords visit records s = .ok false s'' ↔
      ∃ rs r later s', records = rs ++ r :: later ∧ Passes visit s rs s' ∧
        visit r s' = .ok false s'' := by
  constructor
  · intro h
    induction records generalizing s with
    | nil => cases h
    | cons r later ih =>
      rw [visitRecords_cons] at h
      cases met : visit r s with
      | error fault mid =>
        rw [met] at h
        cases h
      | ok goOn mid =>
        rw [met] at h
        cases goOn with
        | false =>
          cases h
          exact ⟨[], r, later, s, rfl, .nil s, met⟩
        | true =>
          obtain ⟨rs, declined, behind, s', rfl, passes, declines⟩ := ih h
          exact ⟨r :: rs, declined, behind, s', rfl, .cons met passes, declines⟩
  · rintro ⟨rs, r, later, s', rfl, passes, declines⟩
    rw [visitRecords_append passes, visitRecords_cons, declines]

/-! ## Visits of a block -/

theorem walk_eq (b : ArgBlock) (visit : ArgRecord → EStateM Fault σ Bool) (s : σ) :
    walk b visit s =
      match visitRecords visit (read b).records s with
      | .ok true s' =>
        match (read b).malformedAt with
        | some offset => .error (.malformedArgs offset) s'
        | none => .ok true s'
      | .ok false s' => .ok false s'
      | .error fault s' => .error fault s' := by
  rw [walk]
  simp only [bind, EStateM.bind]
  cases visitRecords visit (read b).records s with
  | error fault s' => rfl
  | ok goOn s' =>
    cases goOn with
    | false => rfl
    | true => cases (read b).malformedAt <;> rfl

/-- A visit that accepts all whole records of a block. -/
theorem walk_of_passes (encodable : ∀ r ∈ rs, r.Encodable)
    (ends : rest = [] ∨ rest ≠ [] ∧ ArgRecord.ofBytes? rest = none)
    (passes : Passes visit s rs s') :
    walk (ofRecords rs ++ rest) visit s =
      if rest = [] then .ok true s'
      else .error (.malformedArgs (ofRecords rs).length) s' := by
  have visited : visitRecords visit rs s = .ok true s' := by
    have run := visitRecords_append passes []
    rwa [List.append_nil] at run
  rw [walk_eq, read_append encodable ends]
  simp only [visited]
  by_cases none : rest = []
  · simp only [if_pos none]
  · simp only [if_neg none]

theorem walk_eq_false_iff {b : ArgBlock} :
    walk b visit s = .ok false s'' ↔
      visitRecords visit (read b).records s = .ok false s'' := by
  rw [walk_eq]
  cases visitRecords visit (read b).records s with
  | error fault s' => simp
  | ok goOn s' =>
    cases goOn with
    | false => rfl
    | true =>
      cases (read b).malformedAt with
      | none => simp
      | some offset => simp

/-- **A visit is declined exactly if the visitor accepts some records at the start of the block
    and declines the next**; nothing is asked of the bytes behind that one. -/
theorem walk_declined_iff {b : ArgBlock} :
    walk b visit s = .ok false s'' ↔
      ∃ rs r rest s', (∀ x ∈ rs ++ [r], x.Encodable) ∧ b = ofRecords (rs ++ [r]) ++ rest ∧
        Passes visit s rs s' ∧ visit r s' = .ok false s'' := by
  rw [walk_eq_false_iff, visitRecords_eq_false_iff]
  constructor
  · rintro ⟨rs, r, later, s', records, passes, declines⟩
    -- the block is its whole records, and the declined one is among them
    obtain ⟨all, rest, rfl, encodable, ends⟩ := exists_records b
    rw [read_append encodable ends] at records
    have split : all = (rs ++ [r]) ++ later := by
      simpa using records
    refine ⟨rs, r, ofRecords later ++ rest, s', ?_, ?_, passes, declines⟩
    · intro x member
      exact encodable x (split ▸ List.mem_append_left later member)
    · rw [split, ofRecords_append, List.append_assoc]
  · rintro ⟨rs, r, rest, s', encodable, rfl, passes, declines⟩
    have records := congrArg Reading.records (readFrom_append 0 encodable rest)
    rw [List.append_assoc] at records
    exact ⟨rs, r, _, s', records, passes, declines⟩

/-- **Blocks are walked as they were written, and only written blocks are walked to the end.**

    * The records of a block that was pushed together are handed over in order.
    * Every block is some records pushed together and a rest.  They are the records that are
      handed over, and the block is malformed behind them if there is a rest.
    * A walk is declined exactly if the visitor accepts some records and declines the one behind
      them; the bytes that follow may be any. -/
theorem walk_canonical :
    (∀ rs : List ArgRecord, (∀ r ∈ rs, r.Encodable) →
      ∀ (σ : Type) (visit : ArgRecord → EStateM Fault σ Bool) (next : σ → ArgRecord → σ) (s : σ),
        Accepts visit next →
          walk (rs.foldl push []) visit s = .ok true (rs.foldl next s)) ∧
    (∀ b : ArgBlock, ∃ (rs : List ArgRecord) (rest : Bytes), b = rs.foldl push [] ++ rest ∧
      ∀ (σ : Type) (visit : ArgRecord → EStateM Fault σ Bool) (next : σ → ArgRecord → σ) (s : σ),
        Accepts visit next →
          walk b visit s =
            if rest = [] then .ok true (rs.foldl next s)
            else .error (.malformedArgs (rs.foldl push []).length) (rs.foldl next s)) ∧
    (∀ (b : ArgBlock) (σ : Type) (visit : ArgRecord → EStateM Fault σ Bool) (s s'' : σ),
      walk b visit s = .ok false s'' ↔
        ∃ rs r rest s', (∀ x ∈ rs ++ [r], x.Encodable) ∧
          b = (rs ++ [r]).foldl push [] ++ rest ∧
          Passes visit s rs s' ∧ visit r s' = .ok false s'') := by
  have pushed (rs : List ArgRecord) : rs.foldl push [] = ofRecords rs := by
    rw [foldl_push, List.nil_append]
  refine ⟨?written, ?any, ?declined⟩
  case written =>
    intro rs encodable σ visit next s accepts
    have run := walk_of_passes encodable (.inl rfl) (accepts.passes s rs)
    rwa [List.append_nil, if_pos rfl, ← pushed] at run
  case any =>
    intro b
    obtain ⟨rs, rest, split, encodable, ends⟩ := exists_records b
    refine ⟨rs, rest, ?_, ?_⟩
    · rw [pushed, split]
    · intro σ visit next s accepts
      rw [split, pushed]
      exact walk_of_passes encodable ends (accepts.passes s rs)
  case declined =>
    intro b σ visit s s''
    simp only [pushed]
    exact walk_declined_iff

/-- A visitor that keeps what it is given. -/
def collect (r : ArgRecord) : EStateM Fault (List ArgRecord) Bool := fun s => .ok true (s ++ [r])

/-- A visitor that counts, and declines one tag. -/
def countUntil (tag : UInt8) (r : ArgRecord) : EStateM Fault Nat Bool :=
  fun n => .ok (r.tag != tag) (n + 1)

/-- Two records, one of them empty, are handed over; the second is declined, and what follows it
    is no record. -/
theorem walk_canonical_two :
    (∀ r ∈ ([⟨7, [[0x2a, 1], []]⟩, ⟨9, []⟩] : List ArgRecord), r.Encodable) ∧
      Accepts collect (fun s r => s ++ [r]) ∧
      walk ([⟨7, [[0x2a, 1], []]⟩, ⟨9, []⟩].foldl push []) collect [] =
        .ok true [⟨7, [[0x2a, 1], []]⟩, ⟨9, []⟩] ∧
      walk ([⟨7, [[0x2a, 1], []]⟩, ⟨9, []⟩].foldl push [] ++ [0xff]) (countUntil 9) 0 =
        .ok false 2 := by
  have encodable : ∀ r ∈ ([⟨7, [[0x2a, 1], []]⟩, ⟨9, []⟩] : List ArgRecord), r.Encodable := by
    intro r member
    have either : r = ⟨7, [[0x2a, 1], []]⟩ ∨ r = ⟨9, []⟩ := by simpa using member
    rcases either with rfl | rfl
    · exact ⟨by decide, by decide⟩
    · exact ⟨by decide, by decide⟩
  have accepts : Accepts collect (fun s r => s ++ [r]) := fun s r => rfl
  have first : Passes (countUntil 9) 0 [⟨7, [[0x2a, 1], []]⟩] 1 := .cons rfl (.nil 1)
  refine ⟨encodable, accepts, ?_, ?_⟩
  · exact walk_canonical.1 _ encodable _ collect _ [] accepts
  · exact (walk_canonical.2.2 _ _ (countUntil 9) 0 2).mpr
      ⟨_, ⟨9, []⟩, [0xff], 1, encodable, rfl, first, rfl⟩

end TickScript.ArgBlock
