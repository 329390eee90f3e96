import TickScript.Proofs.Tick.Turn

/-! # The report accounts for every entity

    A tick gives turns to the entities that were live at its start, in run order, and passes over
    those that are gone when their turn comes.  While it does so, entities destroy themselves and
    each other, spawn others, fault, or reach the limit of state changes.  The report keeps the
    books through all of that:

        completed          ran
        limited            ran, limited
        faulted            aborted
        destroyed in it    nothing
        gone before it     nothing

    `Tallied` is the state of the books after some of the turns.  Its last clause is the one that
    needs an argument, because who is in no list must stay gone through all turns that follow.
-/

namespace TickScript

/-- The entities whose turns were cut short. -/
def TickReport.abortedIds (report : TickReport) : List EntityId := report.aborted.map (·.id)

/-- **The books after the turns of some entities.** -/
structure TickReport.Tallied (report : TickReport) (ids : List EntityId) (r : Roster) : Prop where
  ran : report.ran.Sublist ids
  aborted : report.abortedIds.Sublist ids
  limited : report.limited.Sublist report.ran
  disjoint : ∀ id ∈ report.ran, id ∉ report.abortedIds
  below : ∀ id ∈ ids, id < r.nextHandle
  gone : ∀ id ∈ ids, id ∉ report.ran → id ∉ report.abortedIds → r.get? id = none

namespace TickReport.Tallied

variable {report : TickReport} {ids : List EntityId} {r r' : Roster} {id : EntityId}
  {kept : EntityId → Prop}

theorem nil (time : Int32) (r : Roster) : Tallied ⟨time, [], [], []⟩ [] r where
  ran := .slnil
  aborted := .slnil
  limited := .slnil
  disjoint := nofun
  below := nofun
  gone := nofun

theorem sublist_concat {items : List EntityId} (h : items.Sublist ids) :
    items.Sublist (ids ++ [id]) :=
  h.trans (List.sublist_append_left ids [id])

theorem mem_concat {other : EntityId} (h : other ∈ ids ++ [id]) : other ∈ ids ∨ other = id := by
  rw [List.mem_append, List.mem_singleton] at h
  exact h

section

variable (h : report.Tallied ids r) (turn : r.Becomes kept r') (below : id < r.nextHandle)

include h turn below

theorem below_concat : ∀ other ∈ ids ++ [id], other < r'.nextHandle := by
  intro other i
  have old : other < r.nextHandle := by
    rcases mem_concat i with earlier | rfl
    · exact h.below other earlier
    · exact below
  exact Nat.lt_of_lt_of_le old turn.nextHandle

/-- A turn that leaves no trace in the report, because its entity is gone. -/
theorem skip (missing : r'.get? id = none) : report.Tallied (ids ++ [id]) r' where
  ran := sublist_concat h.ran
  aborted := sublist_concat h.aborted
  limited := h.limited
  disjoint := h.disjoint
  below := h.below_concat turn below
  gone other i out out' := by
    -- who was gone before stays gone, because its handle is old
    rcases mem_concat i with earlier | rfl
    · exact turn.gone other (h.below other earlier) (h.gone other earlier out out')
    · exact missing

/-- A turn that was completed, limited or not. -/
theorem run (new : id ∉ ids) {limited : List EntityId}
    (chained : limited.Sublist (report.ran ++ [id])) :
    Tallied { report with ran := report.ran ++ [id], limited := limited } (ids ++ [id]) r' where
  ran := h.ran.append (.refl [id])
  aborted := sublist_concat h.aborted
  limited := chained
  disjoint other i := by
    rcases mem_concat i with earlier | rfl
    · exact h.disjoint other earlier
    · exact fun aborted => new (h.aborted.subset aborted)
  below := h.below_concat turn below
  gone other i out out' := by
    rw [List.mem_append, List.mem_singleton, not_or] at out
    rcases mem_concat i with earlier | same
    · exact turn.gone other (h.below other earlier) (h.gone other earlier out.1 out')
    · exact absurd same out.2

/-- A turn that was cut short. -/
theorem abort (new : id ∉ ids) {a : Abort} (same : a.id = id) :
    Tallied { report with aborted := report.aborted ++ [a] } (ids ++ [id]) r' := by
  have aborted : abortedIds { report with aborted := report.aborted ++ [a] } =
      report.abortedIds ++ [id] := by
    rw [abortedIds, List.map_append, ← same]
    rfl
  refine ⟨sublist_concat h.ran, ?_, h.limited, ?_, h.below_concat turn below, ?_⟩
  · rw [aborted]
    exact h.aborted.append (.refl [id])
  · rw [aborted]
    intro other i i'
    rcases mem_concat i' with earlier | rfl
    · exact h.disjoint other i earlier
    · exact new (h.ran.subset i)
  · rw [aborted]
    intro other i out out'
    rw [List.mem_append, List.mem_singleton, not_or] at out'
    rcases mem_concat i with earlier | same
    · exact turn.gone other (h.below other earlier) (h.gone other earlier out out'.1)
    · exact absurd same out'.2

end

end TickReport.Tallied

open TickReport (Tallied)

namespace Engine

variable {g : Engine} {s t : Scene} {id : EntityId} {report : TickReport}

theorem abort_id (r : Roster) (id : EntityId) (f : Fault) : (abort r id f).id = id := by
  unfold abort
  split
  · rfl
  · rfl

/-! ## One turn -/

/-- **All that a step can be**: a turn that was passed over, one that ended, or one that was cut
    short. -/
theorem step_cases (g : Engine) (report : TickReport) (s : Scene) (id : EntityId) :
    (s.roster.get? id = none ∧ g.step (report, s) id = (report, s)) ∨
    (∃ ending t, g.turn id s = .ok ending t ∧
      g.step (report, s) id = (TickReport.add report id ending, t)) ∨
    ∃ f t, g.turn id s = .error f t ∧ g.step (report, s) id =
      ({ report with aborted := report.aborted ++ [abort t.roster id f] },
        { t with machine := t.machine.reset }) := by
  unfold step
  dsimp only
  split
  case isTrue live =>
    right
    cases run : g.turn id s with
    | ok ending t => exact .inl ⟨ending, t, rfl, rfl⟩
    | error f t => exact .inr ⟨f, t, rfl, rfl⟩
  case isFalse missing => exact .inl ⟨Option.not_isSome_iff_eq_none.mp missing, rfl⟩

/-- A turn that ends is one of somebody who is there. -/
theorem step_of_turn {ending : TurnEnd} (run : g.turn id s = .ok ending t) (report : TickReport) :
    g.step (report, s) id = (TickReport.add report id ending, t) := by
  obtain ⟨e, present, -⟩ := exists_of_update_bind run
  have live : s.roster.isLive id := Roster.isLive_iff.mpr ⟨e, present⟩
  simp only [step, live, run, if_true]

/-- **A step keeps the states of all others**, and whoever is gone stays gone. -/
theorem step_becomes (g : Engine) (report : TickReport) (s : Scene) (id : EntityId) :
    s.roster.Becomes (· ≠ id) (g.step (report, s) id).2.roster := by
  have keeps : (Footprint.becoming (· ≠ id)).Keeps (g.turn id) := keeps_turn
  rcases step_cases g report s id with ⟨-, step⟩ | ⟨ending, t, run, step⟩ | ⟨f, t, run, step⟩
  · rw [step]
    exact .refl s.roster
  · rw [step]
    exact keeps.ok run
  · -- the machine is reset, the roster stays as the turn left it
    rw [step]
    show s.roster.Becomes (· ≠ id) t.roster
    exact keeps.error run

theorem step_time (g : Engine) (report : TickReport) (s : Scene) (id : EntityId) :
    (g.step (report, s) id).1.time = report.time := by
  rcases step_cases g report s id with ⟨-, step⟩ | ⟨ending, t, -, step⟩ | ⟨f, t, -, step⟩
  · rw [step]
  · rw [step]
    cases ending <;> rfl
  · rw [step]

/-- **Every turn is entered into the books**, whatever becomes of it. -/
theorem tallied_step {ids : List EntityId} (h : report.Tallied ids s.roster) (new : id ∉ ids)
    (below : id < s.roster.nextHandle) :
    (g.step (report, s) id).1.Tallied (ids ++ [id]) (g.step (report, s) id).2.roster := by
  have turn := step_becomes g report s id
  rcases step_cases g report s id with ⟨missing, step⟩ | ⟨ending, t, run, step⟩ | ⟨f, t, -, step⟩
  · rw [step] at turn ⊢
    exact h.skip turn below missing
  · rw [step] at turn ⊢
    cases ending with
    | done => exact h.run turn below new (Tallied.sublist_concat h.limited)
    | limited => exact h.run turn below new (h.limited.append (.refl [id]))
    | destroyed => exact h.skip turn below (gone_of_turn_destroyed run)
  · rw [step] at turn ⊢
    exact h.abort turn below new (abort_id t.roster id f)

/-! ## All turns -/

theorem steps_becomes (g : Engine) (ids : List EntityId) (report : TickReport) (s : Scene) :
    s.roster.Becomes (· ∉ ids) (ids.foldl g.step (report, s)).2.roster := by
  induction ids generalizing report s with
  | nil => exact .refl s.roster
  | cons id rest ih =>
    rw [List.foldl_cons]
    have first : s.roster.Becomes (· ∉ id :: rest) (g.step (report, s) id).2.roster :=
      (step_becomes g report s id).mono fun other out => List.ne_of_not_mem_cons out
    have others := (ih (g.step (report, s) id).1 (g.step (report, s) id).2).mono
      fun other (out : other ∉ id :: rest) => List.not_mem_of_not_mem_cons out
    exact first.trans others

theorem steps_time (g : Engine) (ids : List EntityId) (report : TickReport) (s : Scene) :
    (ids.foldl g.step (report, s)).1.time = report.time := by
  induction ids generalizing report s with
  | nil => rfl
  | cons id rest ih =>
    rw [List.foldl_cons]
    exact (ih _ _).trans (step_time g report s id)

theorem tallied_steps {ids todo : List EntityId} (h : report.Tallied ids s.roster)
    (nodup : (ids ++ todo).Nodup) (below : ∀ id ∈ todo, id < s.roster.nextHandle) :
    (todo.foldl g.step (report, s)).1.Tallied (ids ++ todo)
      (todo.foldl g.step (report, s)).2.roster := by
  -- on the entities that are still to come; handles only count up on the way
  induction todo generalizing ids report s with
  | nil =>
    rw [List.append_nil]
    exact h
  | cons id rest ih =>
    have shifted : ids ++ id :: rest = (ids ++ [id]) ++ rest := List.append_cons ids id rest
    have new : id ∉ ids := fun i =>
      (List.disjoint_of_nodup_append nodup) i List.mem_cons_self
    rw [List.foldl_cons, shifted]
    rw [shifted] at nodup
    refine ih (tallied_step h new (below id List.mem_cons_self)) nodup fun other i => ?_
    exact Nat.lt_of_lt_of_le (below other (List.mem_cons_of_mem id i))
      (step_becomes g report s id).nextHandle

/-! ## Ticks -/

/-- **What a report says of a tick**, given the rosters before and after it. -/
structure AccountsFor (report : TickReport) (start final : Roster) : Prop where
  /-- In run order, and only entities that were live at the start. -/
  ran : report.ran.Sublist start.runOrder
  aborted : report.abortedIds.Sublist start.runOrder
  limited : report.limited.Sublist report.ran
  once : report.ran.Nodup ∧ report.abortedIds.Nodup
  disjoint : ∀ id ∈ report.ran, id ∉ report.abortedIds
  live : ∀ id ∈ start.runOrder, final.isLive id →
    (id ∈ report.ran ∧ id ∉ report.abortedIds) ∨ (id ∉ report.ran ∧ id ∈ report.abortedIds)
  destroyed : ∀ id ∈ start.runOrder, id ∉ report.ran → id ∉ report.abortedIds → ¬ final.isLive id
  /-- In particular those that were spawned in the tick. -/
  others : ∀ id, ¬ start.isLive id →
    id ∉ report.ran ∧ id ∉ report.abortedIds ∧ id ∉ report.limited
  time : report.time = start.gameTime
  gameTime : final.gameTime = start.gameTime + 1

/-- **The report accounts for every entity**, whatever the libraries do. -/
theorem tick_accounts (g : Engine) (s : Scene) :
    AccountsFor (g.tick s).1 s.roster (g.tick s).2.roster := by
  let blank : TickReport := ⟨s.roster.gameTime, [], [], []⟩
  let ended := s.roster.runOrder.foldl g.step (blank, s)
  have nodup : s.roster.runOrder.Nodup := List.Pairwise.imp Nat.ne_of_lt s.roster.sorted
  have books : ended.1.Tallied s.roster.runOrder ended.2.roster :=
    tallied_steps (.nil s.roster.gameTime s.roster) nodup s.roster.bounded
  have gone (id : EntityId) (i : id ∈ s.roster.runOrder) (out : id ∉ ended.1.ran)
      (out' : id ∉ ended.1.abortedIds) : ¬ ended.2.roster.isLive id := by
    rw [Roster.isLive, books.gone id i out out']
    exact Bool.false_ne_true
  refine ⟨books.ran, books.aborted, books.limited,
    ⟨nodup.sublist books.ran, nodup.sublist books.aborted⟩, books.disjoint, ?live, gone, ?others,
    steps_time g _ _ _, ?gameTime⟩
  case live =>
    intro id i live
    have stays : ended.2.roster.isLive id := live
    by_cases ran : id ∈ ended.1.ran
    · exact .inl ⟨ran, books.disjoint id ran⟩
    · by_cases aborted : id ∈ ended.1.abortedIds
      · exact .inr ⟨ran, aborted⟩
      · exact absurd stays (gone id i ran aborted)
  case others =>
    intro id missing
    have out : id ∉ s.roster.runOrder := fun i => missing (Roster.isLive_iff_mem_runOrder.mpr i)
    exact ⟨fun i => out (books.ran.subset i), fun i => out (books.aborted.subset i),
      fun i => out (books.ran.subset (books.limited.subset i))⟩
  case gameTime =>
    have stands : ended.2.roster.gameTime = s.roster.gameTime :=
      (steps_becomes g s.roster.runOrder blank s).gameTime
    exact congrArg (· + 1) stands

end Engine
end TickScript
