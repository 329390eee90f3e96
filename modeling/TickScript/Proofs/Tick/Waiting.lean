import TickScript.Proofs.Settings.Layers
import TickScript.Proofs.Tick.Chain

/-! # The last request of a chain is never lost

    A turn that reaches the limit leaves a request, and nothing but another request takes its
    place: turns of others keep it waiting or replace it (`waits_through`), and the next turn of
    the entity begins with entering the state that is asked for then.

    With the bounds of a chain this is what there is to say of turns and state changes
    (`BoundedTurn`, `LimitInTick`).
-/

namespace TickScript

open TurnEvent (entries passes)

namespace Engine

variable {g : Engine} {id : EntityId} {s t : Scene} {e : Entity} {q : StateRequest}

/-! ## Scenes between turns -/

/-- **The scene after the turn of an entity**, which no report has a part in. -/
def stepScene (g : Engine) (s : Scene) (id : EntityId) : Scene := (g.step (⟨0, [], [], []⟩, s) id).2

theorem step_scene (report : TickReport) (s : Scene) (id : EntityId) :
    (g.step (report, s) id).2 = g.stepScene s id := by
  unfold stepScene step
  dsimp only
  split
  · cases g.turn id s <;> rfl
  · rfl

theorem steps_scene (ids : List EntityId) (report : TickReport) (s : Scene) :
    (ids.foldl g.step (report, s)).2 = ids.foldl g.stepScene s := by
  induction ids generalizing report s with
  | nil => rfl
  | cons id rest ih =>
    rw [List.foldl_cons, List.foldl_cons, ← step_scene report s id]
    exact ih _ _

theorem tick_scene (g : Engine) (s : Scene) :
    (g.tick s).2 = { s.roster.runOrder.foldl g.stepScene s with
      roster := (s.roster.runOrder.foldl g.stepScene s).roster.advance } := by
  unfold tick
  dsimp only
  rw [steps_scene]

theorem stepScene_of_turn {ending : TurnEnd} (run : g.turn id s = .ok ending t) :
    g.stepScene s id = t :=
  congrArg (·.2) (step_of_turn run _)

theorem stepScenes_becomes (g : Engine) (ids : List EntityId) (s : Scene) :
    s.roster.Becomes (· ∉ ids) (ids.foldl g.stepScene s).roster := by
  rw [← steps_scene ids ⟨0, [], [], []⟩ s]
  exact steps_becomes g ids _ s

/-! ## Requests that wait -/

/-- **Nobody replaces the request** that waits for an entity: the turns of some others leave it as
    it is. -/
def Undisturbed (g : Engine) (id : EntityId) : List EntityId → Scene → Prop
  | [], _ => True
  | other :: rest, s =>
    (g.stepScene s other).pending? id = s.pending? id ∧
      g.Undisturbed id rest (g.stepScene s other)

/-- **A request is never lost**: as long as its entity is there, one waits, the same one if
    nobody replaced it. -/
theorem waits_through {ids : List EntityId} (others : id ∉ ids) (waits : s.pending? id = some q)
    (live : (ids.foldl g.stepScene s).roster.isLive id) :
    ∃ q', (ids.foldl g.stepScene s).pending? id = some q' ∧
      (g.Undisturbed id ids s → q' = q) := by
  induction ids generalizing s q with
  | nil => exact ⟨q, waits, fun _ => rfl⟩
  | cons other rest ih =>
    rw [List.foldl_cons] at live ⊢
    obtain ⟨e, present, asked⟩ := Option.bind_eq_some_iff.mp waits
    -- the turn of another keeps a request in its place, whichever it then is
    have turn : s.roster.Becomes (· ≠ other) (g.stepScene s other).roster :=
      step_scene ⟨0, [], [], []⟩ s other ▸ step_becomes g ⟨0, [], [], []⟩ s other
    obtain ⟨e', present'⟩ :=
      turn.present_between (stepScenes_becomes g rest (g.stepScene s other)) present live
    have kept := turn.states id e e' (List.ne_of_not_mem_cons others) present present'
    have still : e'.pending.isSome := kept.pending (by rw [asked]; rfl)
    obtain ⟨q₁, asked'⟩ := Option.isSome_iff_exists.mp still
    have waits' : (g.stepScene s other).pending? id = some q₁ :=
      (Scene.pending?_of_get? present').trans asked'
    obtain ⟨q', waits'', same⟩ := ih (List.not_mem_of_not_mem_cons others) waits' live
    refine ⟨q', waits'', fun undisturbed => ?_⟩
    have unchanged : some q₁ = some q := (waits'.symm.trans undisturbed.1).trans waits
    exact (same undisturbed.2).trans (Option.some.inj unchanged)

/-! ## Reports -/

/-- An entity has one turn in a tick. -/
theorem not_mem_of_order {before after : List EntityId}
    (order : s.roster.runOrder = before ++ id :: after) : id ∉ before ∧ id ∉ after := by
  have nodup : (before ++ id :: after).Nodup :=
    order ▸ List.Pairwise.imp Nat.ne_of_lt s.roster.sorted
  exact ⟨fun i => List.disjoint_of_nodup_append nodup i List.mem_cons_self,
    (List.nodup_cons.mp (List.Nodup.of_append_right nodup)).1⟩

theorem mem_step_of_ne {other : EntityId} (ne : id ≠ other) (report : TickReport) (s : Scene) :
    (id ∈ (g.step (report, s) other).1.ran ↔ id ∈ report.ran) ∧
    (id ∈ (g.step (report, s) other).1.limited ↔ id ∈ report.limited) := by
  rcases step_cases g report s other with ⟨-, step⟩ | ⟨ending, t, -, step⟩ | ⟨f, t, -, step⟩
  · rw [step]
    exact ⟨Iff.rfl, Iff.rfl⟩
  · rw [step]
    cases ending <;> simp [TickReport.add, ne]
  · rw [step]
    exact ⟨Iff.rfl, Iff.rfl⟩

theorem mem_steps_of_not_mem {ids : List EntityId} (others : id ∉ ids) (report : TickReport)
    (s : Scene) :
    (id ∈ (ids.foldl g.step (report, s)).1.ran ↔ id ∈ report.ran) ∧
    (id ∈ (ids.foldl g.step (report, s)).1.limited ↔ id ∈ report.limited) := by
  induction ids generalizing report s with
  | nil => exact ⟨Iff.rfl, Iff.rfl⟩
  | cons other rest ih =>
    rw [List.foldl_cons]
    have first := mem_step_of_ne (g := g) (List.ne_of_not_mem_cons others) report s
    have later := ih (List.not_mem_of_not_mem_cons others) (g.step (report, s) other).1
      (g.step (report, s) other).2
    exact ⟨later.1.trans first.1, later.2.trans first.2⟩

/-- **What the report of a tick says of one entity** is decided by its turn. -/
theorem mem_tick_of_turn {before after : List EntityId} {ending : TurnEnd}
    (order : s.roster.runOrder = before ++ id :: after)
    (run : g.turn id (before.foldl g.stepScene s) = .ok ending t) :
    (id ∈ (g.tick s).1.ran ↔ ending ≠ .destroyed) ∧
    (id ∈ (g.tick s).1.limited ↔ ending = .limited) := by
  obtain ⟨out, out'⟩ := not_mem_of_order order
  let blank : TickReport := ⟨s.roster.gameTime, [], [], []⟩
  let start := before.foldl g.step (blank, s)
  have scene : start.2 = before.foldl g.stepScene s := steps_scene before blank s
  have earlier := mem_steps_of_not_mem (g := g) out blank s
  have later := mem_steps_of_not_mem (g := g) out' (g.step start id).1 (g.step start id).2
  have report : (g.tick s).1 = (after.foldl g.step (g.step start id)).1 := by
    show (s.roster.runOrder.foldl g.step (blank, s)).1 = _
    rw [order, List.foldl_append, List.foldl_cons]
  have own : (g.step start id).1 = TickReport.add start.1 id ending :=
    congrArg (·.1) (step_of_turn (scene ▸ run) start.1)
  have fresh : id ∉ start.1.ran := fun i => List.not_mem_nil (earlier.1.mp i)
  have fresh' : id ∉ start.1.limited := fun i => List.not_mem_nil (earlier.2.mp i)
  rw [report]
  refine ⟨later.1.trans ?_, later.2.trans ?_⟩
  · rw [own]
    cases ending <;> simp [TickReport.add, fresh]
  · rw [own]
    cases ending <;> simp [TickReport.add, fresh']

/-! ## Turns and state changes -/

/-- **A turn within its bounds**: what the loop of a turn does, and what it leaves. -/
structure BoundedTurn (g : Engine) (id : EntityId) (s : Scene) (e : Entity)
    (events : List TurnEvent) (r : EStateM.Result Fault Scene TurnEnd) : Prop where
  loop : Chain g id .look 0 (awake id s) events r
  /-- The loop goes one way, which ends. -/
  unique : ∀ events' r', Chain g id .look 0 (awake id s) events' r' → events' = events ∧ r' = r
  turn : g.turn id s = concluded id r
  entries : entries events ≤ g.settings.maxStateChanges.toNat
  passes : passes events ≤ g.settings.maxStateChanges.toNat + 1
  /-- A loop that ends at the limit leaves the request that it did not apply. -/
  limited : ∀ t, r = .ok .limited t →
    ∃ q u, .deferred q ∈ events ∧ g.turn id s = .ok .limited u ∧ u.pending? id = some q
  done : ∀ t, r = .ok .done t →
    (∀ q, .deferred q ∉ events) ∧ ∃ u, g.turn id s = .ok .done u
  time : ∀ ending u, g.turn id s = .ok ending u → ending ≠ .destroyed →
    ∃ e', u.roster.get? id = some e' ∧
      e'.state.time = if TurnEvent.entries events = 0 then e.state.time + 1 else 1

/-- **The limit in a tick**, in which an entity has its turn after some others and before the
    rest. -/
structure LimitInTick (g : Engine) (id : EntityId) (before after : List EntityId) (s : Scene) :
    Prop where
  limited : ∀ u, g.turn id (before.foldl g.stepScene s) = .ok .limited u →
    id ∈ (g.tick s).1.ran ∧ id ∈ (g.tick s).1.limited
  others : ∀ ending u, g.turn id (before.foldl g.stepScene s) = .ok ending u →
    ending ≠ .limited → id ∉ (g.tick s).1.limited
  /-- The next turn begins with entering the state that was asked for, unless somebody replaced
      the request. -/
  next : ∀ u q before' after', g.turn id (before.foldl g.stepScene s) = .ok .limited u →
    u.pending? id = some q → (g.tick s).2.roster.runOrder = before' ++ id :: after' →
    let start := before'.foldl g.stepScene (g.tick s).2
    start.roster.isLive id →
    ∃ q', (∀ events r, Chain g id .look 0 (awake id start) events r →
        ∃ rest, events = .entered q' :: rest) ∧
      (g.Undisturbed id after u → g.Undisturbed id before' (g.tick s).2 → q' = q)

theorem pending?_awake (s : Scene) (id : EntityId) : (awake id s).pending? id = s.pending? id := by
  cases present : s.roster.get? id with
  | none =>
    have gone : (awake id s).roster.get? id = none := by
      show (s.roster.modify id _).get? id = none
      rw [Roster.get?_modify, if_pos rfl, present]
      rfl
    rw [Scene.pending?, Scene.pending?, gone, present]
  | some e =>
    exact (Scene.pending?_of_get? (get?_awake present)).trans (Scene.pending?_of_get? present).symm

/-- **Every turn stays within its bounds** if the limit is not zero. -/
theorem boundedTurn_of_limit (limit : 1 ≤ g.settings.maxStateChanges.toNat)
    (present : s.roster.get? id = some e) : ∃ events r, BoundedTurn g id s e events r := by
  obtain ⟨events, r, loop, turn⟩ := chain_of_turn limit present
  have entered := loop.entries_le (fun _ => limit) (Nat.zero_le _)
  rw [Nat.zero_add] at entered
  -- a loop that ends without a fault, with the entity still there, is followed by an end of the
  -- turn that does not fault either
  have ends {ending : TurnEnd} {t : Scene} (ended : r = .ok ending t) (stays : ending ≠ .destroyed) :
      ∃ u e', g.turn id s = .ok ending u ∧ u.roster.get? id = some e' ∧
        u.pending? id = t.pending? id ∧
        e'.state.time = (if entries events = 0 then e.state.time else 0) + 1 := by
    obtain ⟨e₁, present₁, time₁⟩ := loop.time_eq (get?_awake present) ended stays
    obtain ⟨u, e₂, run, present₂, pending, time₂⟩ := conclude_of_live present₁ stays
    refine ⟨u, e₂, ?_, present₂, ?_, by rw [time₂, time₁]⟩
    · rw [turn, ended]
      exact run
    · rw [Scene.pending?_of_get? present₁, Scene.pending?_of_get? present₂, pending]
  refine ⟨events, r, loop, fun events' r' other => loop.unique other, turn, entered,
    Nat.le_trans loop.passes_le.1 (Nat.succ_le_succ entered), ?limited, ?done, ?time⟩
  case limited =>
    intro t ended
    obtain ⟨q, deferred, waits⟩ := loop.waits_of_limited ended
    obtain ⟨u, e', run, -, pending, -⟩ := ends ended (by decide)
    exact ⟨q, u, deferred, run, pending.trans waits⟩
  case done =>
    intro t ended
    refine ⟨fun q deferred => ?_, ?_⟩
    · obtain ⟨t', limited⟩ := loop.limited_of_deferred deferred
      cases ended.symm.trans limited
    · obtain ⟨u, e', run, -⟩ := ends ended (by decide)
      exact ⟨u, run⟩
  case time =>
    intro ending u run stays
    cases ended : r with
    | error f t =>
      rw [turn, ended] at run
      cases run
    | ok ending' t =>
      have stays' : ending' ≠ .destroyed := by
        rintro rfl
        rw [turn, ended] at run
        cases run
        exact stays rfl
      obtain ⟨u', e', run', present', -, time⟩ := ends ended stays'
      cases run.symm.trans run'
      refine ⟨e', present', time.trans ?_⟩
      split
      · rfl
      · exact Int32.zero_add 1

theorem limitInTick_of_order {before after : List EntityId}
    (order : s.roster.runOrder = before ++ id :: after) : LimitInTick g id before after s where
  limited u run := by
    have said := mem_tick_of_turn order run
    exact ⟨said.1.mpr nofun, said.2.mpr rfl⟩
  others ending u run other := (mem_tick_of_turn order run).2.not.mpr other
  next := by
    intro u q before' after' run waits order' start live
    let ended := after.foldl g.stepScene u
    have tick : (g.tick s).2 = { ended with roster := ended.roster.advance } := by
      rw [tick_scene, order, List.foldl_append, List.foldl_cons, stepScene_of_turn run]
    -- first the rest of this tick, then the turns before the next one
    obtain ⟨e, present, -⟩ := Option.bind_eq_some_iff.mp waits
    have later := stepScenes_becomes g before' (g.tick s).2
    have old : id < (g.tick s).2.roster.nextHandle := by
      rw [tick]
      exact Nat.lt_of_lt_of_le (Roster.lt_nextHandle present)
        (stepScenes_becomes g after u).nextHandle
    obtain ⟨e', present'⟩ := later.present_before old live
    have live' : ended.roster.isLive id := by
      rw [tick] at present'
      exact Roster.isLive_iff.mpr ⟨e', present'⟩
    obtain ⟨q₁, waits₁, same₁⟩ := waits_through (not_mem_of_order order).2 waits live'
    have waits₁ : (g.tick s).2.pending? id = some q₁ := by
      rw [tick]
      exact waits₁
    obtain ⟨q₂, waits₂, same₂⟩ := waits_through (not_mem_of_order order').1 waits₁ live
    refine ⟨q₂, fun events r loop => loop.starts_with_entry ((pending?_awake start id).trans waits₂),
      fun undisturbed undisturbed' => (same₂ undisturbed').trans (same₁ undisturbed)⟩

theorem maxStateChanges_of_validate (valid : g.settings.validate = .ok ()) :
    1 ≤ g.settings.maxStateChanges.toNat :=
  (Settings.limits_of_validate valid).1

/-- **State changes are bounded, and the last request is never lost.**  Under settings that are
    valid, the loop of every turn ends, having entered at most as many states as the settings
    allow and run at most one program more.  If it ends at that limit, the request that it did not
    apply waits and is what the next turn begins with, unless somebody replaced it. -/
theorem turns_bound_chains (g : Engine) (valid : g.settings.validate = .ok ()) :
    1 ≤ g.settings.maxStateChanges.toNat ∧
    (∀ id s e, s.roster.get? id = some e → ∃ events r, BoundedTurn g id s e events r) ∧
    ∀ id before after s, s.roster.runOrder = before ++ id :: after →
      LimitInTick g id before after s :=
  have limit := maxStateChanges_of_validate valid
  ⟨limit, fun _ _ _ present => boundedTurn_of_limit limit present,
    fun _ _ _ _ order => limitInTick_of_order order⟩

/-- An engine with one program, which asks for its own state again, and with two changes a turn. -/
def restless : Engine :=
  let again := ArgBlock.ofRecords [⟨Effect.StateTag.value, [Expression.int 5]⟩]
  let p : StateProgram :=
    ⟨5, none, none, none, .ofRecords [], .plain [.effect (.changeState .present) again], 0, 0, 0⟩
  let settings : Settings := ⟨some ⟨some 2, none, none⟩, none, none, none⟩
  (Engine.ofSettings settings).addLibrary 1 ((Library.empty .empty 1).insert p)

/-- Its turns reach the limit, and its request waits from tick to tick. -/
theorem turns_bound_chains_restless :
    restless.settings.validate = .ok () ∧
    (∃ e events r, asking.roster.get? 0 = some e ∧ BoundedTurn restless 0 asking e events r) ∧
    LimitInTick restless 0 [] [] asking ∧
    (restless.tick asking).1.ran = [0] ∧ (restless.tick asking).1.limited = [0] ∧
    (restless.tick asking).2.pending? 0 = some (.plain 5) := by
  have valid : restless.settings.validate = .ok () := by decide +kernel
  obtain ⟨-, turns, ticks⟩ := turns_bound_chains restless valid
  obtain ⟨events, r, bounded⟩ := turns 0 asking _ rfl
  refine ⟨valid, ⟨_, events, r, rfl, bounded⟩, ticks 0 [] [] asking rfl, ?_, ?_, ?_⟩
  · decide +kernel
  · decide +kernel
  · decide +kernel

end Engine
end TickScript
