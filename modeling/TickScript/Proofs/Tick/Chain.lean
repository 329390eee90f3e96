import TickScript.Proofs.Tick.Accounts
import TickScript.Proofs.Tick.Entries

/-! # Chains of state changes are bounded

    A turn is a loop: enter the state that is asked for, run the program, and do so again if the
    program stopped because it asked for another state.  The loop counts the states that it
    entered and stops when there are as many as the settings allow:

        look      enter the pending state, if there is one, and count it
        pass      run the program of the present state
                    no state asked for       the turn is done
                    entity gone              the turn is destroyed
                    limit reached            the turn is limited, the request waits
                    otherwise                look again

    `Chain` is that loop, with a counter that only grows and no bound on how often it goes round;
    a turn, as it is defined, counts down instead.  Both agree (`chain_of_runPasses`,
    `Chain.unique`), so the loop ends.  What bounds it is that a pass only leads to another look
    if a request waits, so that every round but the first enters a state.
-/

namespace TickScript

/-- **What a turn does**, one thing after the other. -/
inductive TurnEvent where
  | entered (q : StateRequest)
  | passed
  /-- The limit was reached, and the request waits. -/
  | deferred (q : StateRequest)
  deriving DecidableEq

namespace TurnEvent

/-- Whether a state was entered. -/
def isEntry : TurnEvent → Bool
  | entered _ => true
  | _ => false

/-- How many states were entered. -/
def entries (events : List TurnEvent) : Nat := events.countP isEntry

/-- How often a program was run. -/
def passes (events : List TurnEvent) : Nat := events.count passed

theorem entries_entered (q : StateRequest) (events : List TurnEvent) :
    entries (entered q :: events) = entries events + 1 := List.countP_cons_of_pos rfl

theorem entries_passed (events : List TurnEvent) : entries (passed :: events) = entries events :=
  List.countP_cons_of_neg Bool.false_ne_true

theorem passes_entered (q : StateRequest) (events : List TurnEvent) :
    passes (entered q :: events) = passes events :=
  List.count_cons_of_ne (TurnEvent.noConfusion)

theorem passes_passed (events : List TurnEvent) : passes (passed :: events) = passes events + 1 :=
  List.count_cons_self

end TurnEvent

open TurnEvent (entries passes)

/-- The request of an entity that waits. -/
def Scene.pending? (s : Scene) (id : EntityId) : Option StateRequest :=
  (s.roster.get? id).bind (·.pending)

theorem Scene.pending?_of_get? {s : Scene} {id : EntityId} {e : Entity}
    (present : s.roster.get? id = some e) : s.pending? id = e.pending := by
  rw [pending?, present, Option.bind_some]

namespace Engine

/-! ## The loop of a turn -/

/-- Where the loop stands. -/
inductive Stage where
  | look
  | pass

/-- **The loop of a turn**, from a stage and a count of states that were entered: what happens
    from there on, and how it ends. -/
inductive Chain (g : Engine) (id : EntityId) : Stage → (changes : Nat) → Scene → List TurnEvent →
    EStateM.Result Fault Scene TurnEnd → Prop where
  | missing {c : Nat} {s : Scene} (gone : s.roster.get? id = none) :
      Chain g id .look c s [] (.error (.missingEntity id) s)
  | quiet {c : Nat} {s : Scene} {e : Entity} {events : List TurnEvent}
      {r : EStateM.Result Fault Scene TurnEnd} (present : s.roster.get? id = some e)
      (quiet : e.pending = none) (rest : Chain g id .pass c s events r) :
      Chain g id .look c s events r
  | enter {c : Nat} {s t : Scene} {e : Entity} {q : StateRequest} {events : List TurnEvent}
      {r : EStateM.Result Fault Scene TurnEnd} (present : s.roster.get? id = some e)
      (asked : e.pending = some q) (entered : g.enter id q s = .ok () t)
      (rest : Chain g id .pass (c + 1) t events r) :
      Chain g id .look c s (.entered q :: events) r
  | entryFault {c : Nat} {s t : Scene} {e : Entity} {q : StateRequest} {f : Fault}
      (present : s.roster.get? id = some e) (asked : e.pending = some q)
      (fault : g.enter id q s = .error f t) : Chain g id .look c s [.entered q] (.error f t)
  | passFault {c : Nat} {s t : Scene} {f : Fault} (fault : g.runPass id s = .error f t) :
      Chain g id .pass c s [.passed] (.error f t)
  | settled {c : Nat} {s t : Scene} (run : g.runPass id s = .ok .settled t) :
      Chain g id .pass c s [.passed] (.ok .done t)
  | destroyed {c : Nat} {s t : Scene} (run : g.runPass id s = .ok .destroyed t) :
      Chain g id .pass c s [.passed] (.ok .destroyed t)
  | limited {c : Nat} {s t : Scene} {q : StateRequest} (run : g.runPass id s = .ok (.asked q) t)
      (limit : g.settings.maxStateChanges.toNat ≤ c) :
      Chain g id .pass c s [.passed, .deferred q] (.ok .limited t)
  | again {c : Nat} {s t : Scene} {q : StateRequest} {events : List TurnEvent}
      {r : EStateM.Result Fault Scene TurnEnd} (run : g.runPass id s = .ok (.asked q) t)
      (below : c < g.settings.maxStateChanges.toNat) (rest : Chain g id .look c t events r) :
      Chain g id .pass c s (.passed :: events) r

variable {g : Engine} {id : EntityId} {stage : Stage} {c : Nat} {s t : Scene} {e : Entity}
  {q : StateRequest} {events events' : List TurnEvent} {r r' : EStateM.Result Fault Scene TurnEnd}

namespace Chain

/-- **The loop goes one way only**, since the scene decides which. -/
theorem unique (h : Chain g id stage c s events r) (h' : Chain g id stage c s events' r') :
    events' = events ∧ r' = r := by
  -- both stand at the same scene, and each scene lets the loop go on in one way
  induction h generalizing events' r' <;> cases h' <;> grind

/-- What a look comes to if a request waits. -/
theorem starts_with_entry (h : Chain g id .look c s events r) (waits : s.pending? id = some q) :
    ∃ rest, events = .entered q :: rest := by
  obtain ⟨e, present, asked⟩ := Option.bind_eq_some_iff.mp waits
  cases h with
  | missing gone =>
    rw [gone] at present
    cases present
  | quiet present' quiet =>
    obtain rfl := Option.some.inj (present.symm.trans present')
    rw [quiet] at asked
    cases asked
  | enter present' asked' =>
    obtain rfl := Option.some.inj (present.symm.trans present')
    obtain rfl := Option.some.inj (asked.symm.trans asked')
    exact ⟨_, rfl⟩
  | entryFault present' asked' =>
    obtain rfl := Option.some.inj (present.symm.trans present')
    obtain rfl := Option.some.inj (asked.symm.trans asked')
    exact ⟨_, rfl⟩

/-! ## Bounds -/

/-- Every look but the first finds a request, so passes are few if entries are. -/
theorem passes_le (h : Chain g id stage c s events r) :
    passes events ≤ entries events + 1 ∧
    (stage = .look → (s.pending? id).isSome → passes events ≤ entries events) := by
  induction h with
  | missing gone => exact ⟨Nat.zero_le _, fun _ _ => Nat.zero_le _⟩
  | @quiet c s e events r present quiet rest ih =>
    refine ⟨ih.1, fun _ waits => ?_⟩
    rw [Scene.pending?_of_get? present, quiet] at waits
    cases waits
  | enter present asked entered rest ih =>
    rw [TurnEvent.passes_entered, TurnEvent.entries_entered]
    exact ⟨Nat.le_succ_of_le ih.1, fun _ _ => ih.1⟩
  | entryFault present asked fault =>
    exact ⟨Nat.zero_le _, fun _ _ => Nat.zero_le _⟩
  | passFault fault => exact ⟨Nat.le_refl _, nofun⟩
  | settled run => exact ⟨Nat.le_refl _, nofun⟩
  | destroyed run => exact ⟨Nat.le_refl _, nofun⟩
  | limited run limit => exact ⟨Nat.le_refl _, nofun⟩
  | @again c s t q events r run below rest ih =>
    -- a pass that leads to another look leaves a request for it
    rw [TurnEvent.passes_passed, TurnEvent.entries_passed]
    obtain ⟨e, present, asked⟩ := runPass_tells run
    have waits : (t.pending? id).isSome := by
      rw [Scene.pending?_of_get? present, asked]
      rfl
    exact ⟨Nat.succ_le_succ (ih.2 rfl waits), nofun⟩

/-- **The limit is kept.** -/
theorem entries_le (h : Chain g id stage c s events r) (below : stage = .look →
      c < g.settings.maxStateChanges.toNat) (most : c ≤ g.settings.maxStateChanges.toNat) :
    c + entries events ≤ g.settings.maxStateChanges.toNat := by
  induction h with
  | missing gone => exact most
  | quiet present quiet rest ih => exact ih nofun most
  | enter present asked entered rest ih =>
    have counted := ih nofun (below rfl)
    rw [TurnEvent.entries_entered]
    omega
  | entryFault present asked fault => exact below rfl
  | passFault fault => exact most
  | settled run => exact most
  | destroyed run => exact most
  | limited run limit => exact most
  | again run under rest ih => exact ih (fun _ => under) most

/-! ## What a chain leaves -/

/-- A loop that ends at the limit leaves the request that it did not apply. -/
theorem waits_of_limited (h : Chain g id stage c s events r) (ended : r = .ok .limited t) :
    ∃ q, .deferred q ∈ events ∧ t.pending? id = some q := by
  induction h with
  | missing gone => cases ended
  | quiet present quiet rest ih => exact ih ended
  | enter present asked entered rest ih =>
    obtain ⟨q, i, waits⟩ := ih ended
    exact ⟨q, List.mem_cons_of_mem _ i, waits⟩
  | entryFault present asked fault => cases ended
  | passFault fault => cases ended
  | settled run => cases ended
  | destroyed run => cases ended
  | @limited c s u q run limit =>
    cases ended
    obtain ⟨e, present, asked⟩ := runPass_tells run
    exact ⟨q, List.mem_cons_of_mem _ List.mem_cons_self,
      (Scene.pending?_of_get? present).trans asked⟩
  | again run below rest ih =>
    obtain ⟨q, i, waits⟩ := ih ended
    exact ⟨q, List.mem_cons_of_mem _ i, waits⟩

/-- No other loop defers a request. -/
theorem limited_of_deferred (h : Chain g id stage c s events r) (deferred : .deferred q ∈ events) :
    ∃ t, r = .ok .limited t := by
  induction h with
  | missing gone => cases deferred
  | quiet present quiet rest ih => exact ih deferred
  | enter present asked entered rest ih =>
    exact ih (List.mem_of_ne_of_mem TurnEvent.noConfusion deferred)
  | entryFault present asked fault => cases List.mem_singleton.mp deferred
  | passFault fault => cases List.mem_singleton.mp deferred
  | settled run => cases List.mem_singleton.mp deferred
  | destroyed run => cases List.mem_singleton.mp deferred
  | limited run limit => exact ⟨_, rfl⟩
  | again run below rest ih =>
    exact ih (List.mem_of_ne_of_mem TurnEvent.noConfusion deferred)

/-- A pass keeps the state of the entity. -/
theorem stateKept_of_runPass {e' : Entity} {ending : PassEnd}
    (run : g.runPass id s = .ok ending t) (present : s.roster.get? id = some e)
    (present' : t.roster.get? id = some e') : e.StateKept e' :=
  have became : s.roster.Becomes (fun _ => True) t.roster := (Footprint.free_deeds.runPass.ok run).becomes
  became.states id e e' trivial present present'

/-- The time in a state is zero when it was just entered. -/
theorem time_of_enter (present : s.roster.get? id = some e) (entered : g.enter id q s = .ok () t) :
    ∃ e', t.roster.get? id = some e' ∧ e'.state.time = 0 := by
  obtain ⟨-, -, program, -⟩ := enter_leaves present entered
  obtain ⟨e', present', -⟩ := Option.map_eq_some_iff.mp program
  refine ⟨e', present', ?_⟩
  -- what follows on the request being applied keeps the state
  rw [enter_eq, bind_of_ok (update_of_get? _ present)] at entered
  have became : (s.modify id (applyRequest q)).roster.Becomes (fun _ => True) t.roster :=
    ((Footprint.free_deeds.arrive q).ok entered).becomes
  have applied : (s.modify id (applyRequest q)).roster.get? id = some (applyRequest q e) :=
    get?_modify_of_get? _ present
  exact (became.states id _ e' trivial applied present').time_eq

/-- **The time in a state** starts anew with each entry and stands still otherwise. -/
theorem time_eq (h : Chain g id stage c s events r) (present : s.roster.get? id = some e)
    {ending : TurnEnd} (ended : r = .ok ending t) (stays : ending ≠ .destroyed) :
    ∃ e', t.roster.get? id = some e' ∧
      e'.state.time = if entries events = 0 then e.state.time else 0 := by
  induction h generalizing e with
  | missing gone => cases ended
  | quiet _ _ rest ih => exact ih present ended
  | @enter c s u e₀ q events r _ _ entered rest ih =>
    -- the time starts anew here, and may do so again in what follows
    obtain ⟨e', present', fresh⟩ := time_of_enter present entered
    obtain ⟨e'', present'', time⟩ := ih present' ended
    refine ⟨e'', present'', ?_⟩
    rw [TurnEvent.entries_entered, if_neg (Nat.succ_ne_zero _), time, fresh, ite_self]
  | entryFault _ _ fault => cases ended
  | passFault fault => cases ended
  | settled run =>
    cases ended
    obtain ⟨e', present'⟩ := Roster.isLive_iff.mp (runPass_tells run)
    exact ⟨e', present', (stateKept_of_runPass run present present').time_eq⟩
  | destroyed run =>
    cases ended
    exact absurd rfl stays
  | limited run limit =>
    cases ended
    obtain ⟨e', present', -⟩ := runPass_tells run
    exact ⟨e', present', (stateKept_of_runPass run present present').time_eq⟩
  | again run below rest ih =>
    obtain ⟨e', present', -⟩ := runPass_tells run
    obtain ⟨e'', present'', time⟩ := ih present' ended
    rw [(stateKept_of_runPass run present present').time_eq] at time
    exact ⟨e'', present'', time⟩

end Chain

/-! ## A turn is its chain -/

theorem runPasses_of_settled (run : g.runPass id s = .ok .settled t) (left : Nat) :
    g.runPasses id left s = .ok .done t := by
  cases left with
  | zero => exact bind_of_ok run
  | succ left => exact bind_of_ok run

theorem runPasses_of_destroyed (run : g.runPass id s = .ok .destroyed t) (left : Nat) :
    g.runPasses id left s = .ok .destroyed t := by
  cases left with
  | zero => exact bind_of_ok run
  | succ left => exact bind_of_ok run

/-- Passes that do not go on after the first one. -/
theorem chain_of_first {left : Nat} (goesOn : ∀ q t, g.runPass id s = .ok (.asked q) t →
      ∃ events, Chain g id .pass c s events (g.runPasses id left s)) :
    ∃ events, Chain g id .pass c s events (g.runPasses id left s) := by
  cases run : g.runPass id s with
  | error f t =>
    rw [runPasses_of_error run]
    exact ⟨_, .passFault run⟩
  | ok ending t =>
    cases ending with
    | settled =>
      rw [runPasses_of_settled run]
      exact ⟨_, .settled run⟩
    | destroyed =>
      rw [runPasses_of_destroyed run]
      exact ⟨_, .destroyed run⟩
    | asked q => exact goesOn q t run

/-- **The passes of a turn are what the loop comes to**, with as many entries left as are missing
    to the limit. -/
theorem chain_of_runPasses (left : Nat) (s : Scene)
    (count : c + left = g.settings.maxStateChanges.toNat) :
    ∃ events, Chain g id .pass c s events (g.runPasses id left s) := by
  -- on the entries that are left, which is what the definition counts down
  induction left generalizing c s with
  | zero =>
    refine chain_of_first fun q t run => ?_
    have stops : g.runPasses id 0 s = .ok .limited t := bind_of_ok run
    rw [stops]
    exact ⟨_, .limited run (Nat.le_of_eq count.symm)⟩
  | succ left ih =>
    refine chain_of_first fun q t run => ?_
    have below : c < g.settings.maxStateChanges.toNat := by omega
    obtain ⟨e, present, asked⟩ := runPass_tells run
    have goesOn : g.runPasses id (left + 1) s =
        (g.enter id q >>= fun _ => g.runPasses id left) t := bind_of_ok run
    rw [goesOn]
    cases entered : g.enter id q t with
    | error f u =>
      rw [bind_of_error entered]
      exact ⟨_, .again run below (.entryFault present asked entered)⟩
    | ok _ u =>
      rw [bind_of_ok entered]
      obtain ⟨events, rest⟩ := ih (c := c + 1) u (by omega)
      exact ⟨_, .again run below (.enter present asked entered rest)⟩

theorem get?_awake (present : s.roster.get? id = some e) :
    (awake id s).roster.get? id = some { e with posFreeze := false } :=
  get?_modify_of_get? _ present

/-- What a turn makes of the end of its loop. -/
def concluded (id : EntityId) : EStateM.Result Fault Scene TurnEnd →
    EStateM.Result Fault Scene TurnEnd
  | .ok ending t => conclude id ending t
  | .error f t => .error f t

theorem bind_conclude {x : Act TurnEnd} : (x >>= conclude id) s = concluded id (x s) := by
  cases run : x s with
  | ok ending t => exact bind_of_ok run
  | error f t => exact bind_of_error run

/-- **A turn is its loop**, and what follows on it, if the limit is not zero. -/
theorem chain_of_turn (limit : 1 ≤ g.settings.maxStateChanges.toNat)
    (present : s.roster.get? id = some e) :
    ∃ events r, Chain g id .look 0 (awake id s) events r ∧ g.turn id s = concluded id r := by
  have awoken := get?_awake present
  cases asked : e.pending with
  | none =>
    have turned : g.turn id s =
        (g.runPasses id g.settings.maxStateChanges.toNat >>= conclude id) (awake id s) := by
      refine (bind_of_ok (update_of_get? _ present)).trans ?_
      refine (bind_of_ok (entity_of_get? awoken)).trans ?_
      dsimp only
      rw [asked]
      rfl
    rw [turned, bind_conclude]
    have passes (left : Nat) (all : 0 + left = g.settings.maxStateChanges.toNat) :
        ∃ events, Chain g id .pass 0 (awake id s) events (g.runPasses id left (awake id s)) :=
      chain_of_runPasses left (awake id s) all
    obtain ⟨events, rest⟩ := passes _ (Nat.zero_add _)
    exact ⟨events, _, .quiet awoken asked rest, rfl⟩
  | some q =>
    have turned : g.turn id s = (g.enter id q >>= fun _ =>
        g.runPasses id (g.settings.maxStateChanges.toNat - 1) >>= conclude id) (awake id s) := by
      refine (bind_of_ok (update_of_get? _ present)).trans ?_
      refine (bind_of_ok (entity_of_get? awoken)).trans ?_
      dsimp only
      rw [asked]
      rfl
    rw [turned]
    cases entered : g.enter id q (awake id s) with
    | error f u => exact ⟨_, _, .entryFault awoken asked entered, bind_of_error entered⟩
    | ok _ u =>
      have passes (left : Nat) (all : 1 + left = g.settings.maxStateChanges.toNat) :
          ∃ events, Chain g id .pass 1 u events (g.runPasses id left u) :=
        chain_of_runPasses left u all
      obtain ⟨events, rest⟩ := passes (g.settings.maxStateChanges.toNat - 1) (by omega)
      exact ⟨_, _, .enter awoken asked entered rest, (bind_of_ok entered).trans bind_conclude⟩

/-! ## The end of a turn -/

theorem followBinding_of_live (present : s.roster.get? id = some e) :
    ∃ u e', followBinding id s = .ok () u ∧ u.roster.get? id = some e' ∧
      e'.pending = e.pending ∧ e'.state = e.state := by
  unfold followBinding
  rw [bind_of_ok (entity_of_get? present)]
  cases e.binding with
  | none => exact ⟨s, e, rfl, present, rfl, rfl⟩
  | some b =>
    dsimp only
    rw [bind_of_ok (roster_run s)]
    cases s.roster.get? b.anchor with
    | none => exact ⟨_, _, update_of_get? _ present, get?_modify_of_get? _ present, rfl, rfl⟩
    | some anchor =>
      exact ⟨_, _, update_of_get? _ present, get?_modify_of_get? _ present, rfl, rfl⟩

/-- **The end of a turn never faults**; it keeps the request that waits, and time passes. -/
theorem conclude_of_live {ending : TurnEnd} (present : s.roster.get? id = some e)
    (stays : ending ≠ .destroyed) :
    ∃ u e', conclude id ending s = .ok ending u ∧ u.roster.get? id = some e' ∧
      e'.pending = e.pending ∧ e'.state.time = e.state.time + 1 := by
  obtain ⟨u, e', followed, present', pending, state⟩ := followBinding_of_live present
  let later (e : Entity) : Entity := { e with state := { e.state with time := e.state.time + 1 } }
  refine ⟨u.modify id later, later e', ?_, get?_modify_of_get? later present', pending,
    congrArg (fun state => state.time + 1) state⟩
  unfold conclude
  rw [if_neg stays]
  exact (bind_of_ok followed).trans (bind_of_ok (update_of_get? _ present'))

end Engine
end TickScript
