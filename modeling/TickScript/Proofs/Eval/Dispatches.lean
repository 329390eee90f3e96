import TickScript.Proofs.Eval.Lines
import TickScript.Roster.Lifecycle

/-! # Runs follow listings

    `dispatchesFrom` lists what a run dispatches, in order: each instruction with the depth of the
    nested run it is in, and whether it leapt.  The instructions of a nested run come between the
    one that runs it and the one behind that, as in a listing.

    A run that never leaps dispatches what is listed, in order, up to the instruction that faults,
    or to the end if none does (`runs_follow_listings`).
-/

namespace TickScript

/-- **A dispatched instruction.** -/
structure Dispatched where
  /-- How many nested runs are around it. -/
  depth : Nat
  /-- Where it stands in its expression. -/
  offset : Nat
  opcode : Opcode
  /-- Whether it leapt, and without a fault. -/
  leapt : Bool

/-- Which instruction was dispatched, as listings say it. -/
def Dispatched.position (d : Dispatched) : Nat × Nat × Option Opcode :=
  (d.depth, d.offset, some d.opcode)

/-- **One list tracks another** if it is the beginning of it, and all of it once the run is
    over. -/
def Tracks {α : Type} (done listed : List α) (finished : Prop) : Prop :=
  done <+: listed ∧ (finished → done = listed)

namespace Tracks

variable {α : Type} {a : α} {done next listed others : List α} {finished ends : Prop}

theorem nil (stops : ¬ finished) : Tracks [] listed finished :=
  ⟨List.nil_prefix, fun h => absurd h stops⟩

theorem cons (h : Tracks done listed finished) : Tracks (a :: done) (a :: listed) finished :=
  ⟨List.cons_prefix_cons.mpr ⟨rfl, h.1⟩, fun o => congrArg (a :: ·) (h.2 o)⟩

/-- A part that stops early is all that there is. -/
theorem left (h : Tracks done listed ends) (stops : ¬ finished) :
    Tracks done (listed ++ others) finished :=
  ⟨h.1.trans (List.prefix_append ..), fun o => absurd o stops⟩

/-- What follows a part that is over. -/
theorem append (h : Tracks done listed ends) (ended : ends) (h' : Tracks next others finished) :
    Tracks (done ++ next) (listed ++ others) finished := by
  obtain rfl := h.2 ended
  exact ⟨(List.prefix_append_right_inj done).mpr h'.1, fun o => congrArg (done ++ ·) (h'.2 o)⟩

end Tracks

namespace Eval

/-- **What a run dispatches**, in order. -/
def dispatchesFrom (ctx : EvalContext) (depth : Nat) (origin : EntityId) :
    (budget : Nat) → (code : Expression) → (offset : Nat) → (current : EntityId) → Bench →
      List Dispatched
  | 0, _, _, _, _ => []
  | budget + 1, code, offset, current, b =>
    match code[offset]? with
    | none => []
    | some byte =>
      match Opcode.ofByte? byte with
      | none => []
      | some o =>
        match dispatch ctx code offset current origin byte b with
        | .error _ _ => [⟨depth, offset, o, false⟩]
        | .ok (.goto next following) t =>
          ⟨depth, offset, o, o.leaps current b⟩ ::
            dispatchesFrom ctx depth origin budget code next following t
        | .ok (.call body entity next following) t =>
          ⟨depth, offset, o, o.leaps current b⟩ ::
            (dispatchesFrom ctx (depth + 1) entity budget body 0 entity t ++
              match runFrom ctx entity budget body 0 entity t with
              | .ok _ u => dispatchesFrom ctx depth origin budget code next following u
              | .error _ _ => [])

/-- What the run of an expression for an entity dispatches. -/
def dispatches (ctx : EvalContext) (budget : Nat) (code : Expression) (entity : EntityId)
    (b : Bench) : List Dispatched :=
  dispatchesFrom ctx 0 entity budget code 0 entity b

/-- What a run dispatches behind an instruction: nested runs come first. -/
def dispatchesAfter (ctx : EvalContext) (depth : Nat) (origin : EntityId) (budget : Nat)
    (code : Expression) : Continuation → Bench → List Dispatched
  | .goto next following, t => dispatchesFrom ctx depth origin budget code next following t
  | .call body entity next following, t =>
    dispatchesFrom ctx (depth + 1) entity budget body 0 entity t ++
      match runFrom ctx entity budget body 0 entity t with
      | .ok _ u => dispatchesFrom ctx depth origin budget code next following u
      | .error _ _ => []

variable {ctx : EvalContext} {code : Expression} {offset : Nat} {current origin : EntityId}
  {b t : Bench} {byte : UInt8} {o : Opcode} {c : Continuation}

/-- **A dispatched instruction that does not leap goes on behind its line.** -/
theorem dispatch_follows (known : Opcode.ofByte? byte = some o)
    (run : dispatch ctx code offset current origin byte b = .ok c t)
    (stays : o.leaps current b = false) :
    c.Follows (offset + 1) (ListingLine.ofByte byte (offset + 1) (code.drop (offset + 1))) := by
  have executed : instruction ctx code (offset + 1) current origin o (b.counted o) = .ok c t :=
    (dispatch_of_known known b).symm.trans run
  have line : ListingLine.ofByte byte (offset + 1) (code.drop (offset + 1)) =
      ListingLine.ofOpcode o (offset + 1) (code.drop (offset + 1)) := by
    rw [ListingLine.ofByte, known]
  rw [line]
  -- counting an instruction does not change what decides whether it leaps
  exact instruction_follows.ok executed stays

/-- A run whose next byte is there dispatches it and goes on from there. -/
theorem runFrom_of_found (budget : Nat) (found : code[offset]? = some byte) :
    runFrom ctx origin (budget + 1) code offset current b =
      (dispatch ctx code offset current origin byte >>= proceed ctx origin budget code) b := by
  simp only [runFrom, found]
  rfl

theorem dispatchesFrom_of_ok (budget depth : Nat) (found : code[offset]? = some byte)
    (known : Opcode.ofByte? byte = some o)
    (run : dispatch ctx code offset current origin byte b = .ok c t) :
    dispatchesFrom ctx depth origin (budget + 1) code offset current b =
      ⟨depth, offset, o, o.leaps current b⟩ ::
        dispatchesAfter ctx depth origin budget code c t := by
  cases c <;> simp only [dispatchesFrom, dispatchesAfter, found, known, run]

/-- The listing of what is left, if its first instruction goes on behind its line. -/
theorem entriesFrom_of_follows (depth : Nat) (found : code[offset]? = some byte)
    (follows : c.Follows (offset + 1)
      (ListingLine.ofByte byte (offset + 1) (code.drop (offset + 1)))) :
    ∃ text, Expression.entriesFrom depth offset (code.drop offset) =
      ⟨depth, offset, Opcode.ofByte? byte, text⟩ ::
        (Expression.innerEntries depth c.body? ++
          Expression.entriesFrom depth c.offset (code.drop c.offset)) := by
  rw [Expression.drop_of_getElem? found, Expression.entriesFrom_cons, follows.1, follows.2]
  dsimp only
  rw [List.drop_drop]
  exact ⟨_, rfl⟩

/-- Nothing is listed behind the end. -/
theorem tracks_end {depth : Nat} {finished : Prop} (behind : code.length ≤ offset) :
    Tracks [] ((Expression.entriesFrom depth offset (code.drop offset)).map (·.position)) finished := by
  rw [List.drop_eq_nil_of_le behind, Expression.entriesFrom]
  exact ⟨List.nil_prefix, fun _ => rfl⟩

/-- A fault is not an end. -/
theorem not_over_of_fault {f : Fault} {t : Bench} :
    ¬ ∃ u, (.error f t : EStateM.Result Fault Bench Unit) = .ok () u := nofun

/-- **Runs with a budget track listings**: from wherever such a run starts, if it never leaps it
    tracks the listing of what is left of its expression. -/
def RunsTrack (ctx : EvalContext) (budget : Nat) : Prop :=
  ∀ depth code offset origin current b,
    (∀ d ∈ dispatchesFrom ctx depth origin budget code offset current b, d.leapt = false) →
    Tracks ((dispatchesFrom ctx depth origin budget code offset current b).map (·.position))
      ((Expression.entriesFrom depth offset (code.drop offset)).map (·.position))
      (∃ t, runFrom ctx origin budget code offset current b = .ok () t)

variable {budget depth : Nat}

/-- What is dispatched behind an instruction: first the nested expression, if there is one. -/
theorem tracks_after (shorter : RunsTrack ctx budget)
    (stays : ∀ d ∈ dispatchesAfter ctx depth origin budget code c t, d.leapt = false) :
    Tracks ((dispatchesAfter ctx depth origin budget code c t).map (·.position))
      ((Expression.innerEntries depth c.body? ++
        Expression.entriesFrom depth c.offset (code.drop c.offset)).map (·.position))
      (∃ u, proceed ctx origin budget code c t = .ok () u) := by
  cases c with
  | goto next following => exact shorter depth code next origin following t stays
  | call body entity next following =>
    rw [dispatchesAfter, List.map_append, List.map_append]
    have inner := shorter (depth + 1) body 0 entity entity t fun d i =>
      stays d (List.mem_append_left _ i)
    cases nested : runFrom ctx entity budget body 0 entity t with
    | error f u =>
      -- the nested run faults, and so does the run around it: nothing else is dispatched
      have fault : proceed ctx origin budget code (.call body entity next following) t =
          .error f u := bind_of_error nested
      rw [nested] at inner
      simp only [fault, List.map_nil, List.append_nil]
      exact inner.left not_over_of_fault
    | ok _ u =>
      have after : proceed ctx origin budget code (.call body entity next following) t =
          runFrom ctx origin budget code next following u := bind_of_ok nested
      rw [dispatchesAfter, nested] at stays
      rw [nested] at inner
      rw [after]
      exact inner.append ⟨u, rfl⟩ (shorter depth code next origin following u fun d i =>
        stays d (List.mem_append_right _ i))

theorem tracks_step (shorter : RunsTrack ctx budget) : RunsTrack ctx (budget + 1) := by
  intro depth code offset origin current b stays
  cases found : code[offset]? with
  | none =>
    simp only [dispatchesFrom, found]
    exact tracks_end (List.getElem?_eq_none_iff.mp found)
  | some byte =>
    simp only [runFrom_of_found budget found]
    cases known : Opcode.ofByte? byte with
    | none =>
      have fault : dispatch ctx code offset current origin byte b =
          .error (.unknownOpcode byte offset) b := by
        rw [dispatch, known]
        rfl
      simp only [dispatchesFrom, found, known, bind_of_error fault]
      exact .nil not_over_of_fault
    | some o =>
      cases run : dispatch ctx code offset current origin byte b with
      | error f t =>
        simp only [dispatchesFrom, found, known, run, bind_of_error run]
        rw [Expression.drop_of_getElem? found, Expression.entriesFrom_cons, known]
        exact .cons (.nil not_over_of_fault)
      | ok c t =>
        have dispatched := dispatchesFrom_of_ok budget depth found known run
        rw [dispatched] at stays ⊢
        have unmoved := stays _ List.mem_cons_self
        obtain ⟨text, listed⟩ := entriesFrom_of_follows depth found
          (dispatch_follows known run unmoved)
        rw [listed, known, bind_of_ok run]
        exact .cons (tracks_after shorter fun d i => stays d (List.mem_cons_of_mem _ i))

/-- **A run that never leaps tracks the listing** of what is left of its expression. -/
theorem runsTrack (ctx : EvalContext) (budget : Nat) : RunsTrack ctx budget := by
  -- on the budget: nested runs and what follows an instruction have less of it
  induction budget with
  | zero =>
    intro depth code offset origin current b _
    by_cases inside : offset < code.length
    · refine .nil ?_
      rintro ⟨t, run⟩
      rw [runFrom, if_pos inside] at run
      cases run
    · exact tracks_end (Nat.le_of_not_lt inside)
  | succ budget ih => exact tracks_step ih

/-- **Runs follow listings.**  A listing is its entries written out, and each begins with the name
    of its opcode.

    A dispatched instruction that neither faults nor leaps goes on at the offset to which the
    listing gets by its line, and first runs what the line shows as its nested expression.  So
    listed from there, the code has that instruction, then what is run, then what is left where
    the run goes on.

    A run that never leaps dispatches a beginning of what is listed, depth, offset and opcode
    alike, and all of it if it reaches the end. -/
theorem runs_follow_listings (ctx : EvalContext) (code : Expression) :
    (code.listing = String.join (code.entries.map (·.line)) ∧
      ∀ e ∈ code.entries, ∀ o, e.opcode = some o → ∃ text, e.text = o.name ++ text) ∧
    (∀ offset byte o current origin b c t,
      code[offset]? = some byte → Opcode.ofByte? byte = some o →
      dispatch ctx code offset current origin byte b = .ok c t → o.leaps current b = false →
      c.Follows (offset + 1) (ListingLine.ofByte byte (offset + 1) (code.drop (offset + 1))) ∧
      ∀ depth, ∃ text, Expression.entriesFrom depth offset (code.drop offset) =
        ⟨depth, offset, some o, text⟩ ::
          (Expression.innerEntries depth c.body? ++
            Expression.entriesFrom depth c.offset (code.drop c.offset))) ∧
    ∀ budget entity b, (∀ d ∈ dispatches ctx budget code entity b, d.leapt = false) →
      let dispatched := (dispatches ctx budget code entity b).map (·.position)
      let listed := code.entries.map (·.position)
      dispatched <+: listed ∧ ∀ t, run ctx budget code entity b = .ok () t → dispatched = listed := by
  refine ⟨⟨code.listing_eq_join, fun e i o named => Expression.entriesFrom_starts i named⟩, ?_, ?_⟩
  · intro offset byte o current origin b c t found known ran stays
    have follows := dispatch_follows known ran stays
    refine ⟨follows, fun depth => ?_⟩
    rw [← known]
    exact entriesFrom_of_follows depth found follows
  · intro budget entity b stays
    have tracks := runsTrack ctx budget 0 code 0 entity entity b stays
    exact ⟨tracks.1, fun t ran => tracks.2 ⟨t, ran⟩⟩

/-- A redirect that finds somebody, its nested run, and a jump that is not taken: what the run
    dispatches is the listing. -/
theorem runs_follow_listings_redirected :
    let ctx : EvalContext := ⟨.empty, .empty, .current⟩
    let b : Bench := ⟨[], .off, ((Roster.ofSeed 0).addPlayer 1 "").1⟩
    let code := Expression.int 1 ++ Expression.redirect (.redirect .player) (Expression.int 7) ++
      Expression.op (.jumpShort .ifZero) ++ [0]
    (∀ d ∈ dispatches ctx 5 code 0 b, d.leapt = false) ∧
    code.entries.map (·.position) =
      [(0, 0, some (.literal .int8)), (0, 2, some (.redirect .player)), (0, 7, some .run),
        (1, 0, some (.literal .int8)), (0, 14, some (.jumpShort .ifZero))] := by
  intro ctx b code
  have stays : ∀ d ∈ dispatches ctx 5 code 0 b, d.leapt = false := by decide +kernel
  have ends : Ends (run ctx 5 code 0) b (fun _ _ => True) fun _ _ => False := by decide +kernel
  obtain ⟨_, t, ran, -⟩ := ends.exists_ok
  obtain ⟨-, -, follow⟩ := runs_follow_listings ctx code
  refine ⟨stays, ((follow 5 0 b stays).2 t ran).symm.trans ?_⟩
  decide +kernel

end Eval
end TickScript
