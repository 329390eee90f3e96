import TickScript.Proofs.Program.Agreement
import TickScript.Proofs.Tick.Turn

/-! # Turns see the roster and the files

    Between turns the machine is at rest, so of what earlier turns did to it only the bound library
    and the profile are left.  No turn sees either of them: programs and entry steps run under the
    library that is bound right before, and nothing reads the profile.  What a turn comes to is
    decided by the roster, the files and the settings, and by nothing else that ran before.
-/

namespace TickScript
namespace Engine

open Scene (Common Like)
open Act (blind_entity blind_roster blind_update)

variable {g : Engine} {c : Common} {id : EntityId} {s s' : Scene} {α : Type} {action : Act α}

/-! ## Parts of a turn -/

/-- **What follows the choice of a library** sees that one, whichever was bound before. -/
theorem blind_bindLibrary (l : Library)
    (rest : Blind (Like { c with library := True }) action) :
    Blind (Like c) (bindLibrary l >>= fun _ => action) := by
  intro s s' like
  have bound : Like { c with library := True }
      { s with machine := s.machine.bind l.strings l.powOrder }
      { s' with machine := s'.machine.bind l.strings l.powOrder } :=
    { like with library := fun _ => ⟨rfl, rfl⟩ }
  have ended := rest _ _ bound
  exact ended.mono fun left => { left with library := fun _ => left.library trivial }

/-- **What runs with the entity's own counters** sees those, and they return to the entity. -/
theorem blind_withOwnMemory (inner : Blind (Like { c with memory := True }) action) :
    Blind (Like c) (withOwnMemory id action) := by
  let returned (t : Scene) : Scene := t.modify id fun e => { e with memory := t.memory }
  refine (blind_entity id).bind fun e => (blind_update id _).bind fun _ =>
    Act.blind_withMemory e.memory ?_
  intro s s' like
  have kept {t t' : Scene} (left : Like { c with memory := True } t t') :
      Like { c with memory := True } (returned t) (returned t') := by
    refine left.withRoster ?_
    rw [left.roster, left.memory trivial]
  have ended := (inner s s' like).onEnd kept
  -- the counters return to the entity however the action ends
  dsimp only
  generalize action s = x at ended ⊢
  generalize action s' = x' at ended ⊢
  cases x with
  | ok a t => cases x' <;> exact ended
  | error f t => cases x' <;> exact ended

/-- **A pass** sees neither the library that is bound nor the counters of anyone else. -/
theorem blind_runPass : Blind (Like c) (g.runPass id) := by
  refine (blind_entity id).bind fun e => ?_
  cases g.program? e.state.owner e.state.number with
  | none => exact .pure _
  | some library =>
    refine blind_bindLibrary library.1 ?_
    refine (blind_withOwnMemory (library.2.blind_run id trivial trivial)).bind fun stopped => ?_
    refine blind_roster.bind fun r => ?_
    cases r.get? id with
    | none => exact .pure _
    | some e =>
      dsimp only
      split
      · exact .pure _
      · exact .pure _

/-- Nor does the entry into a state. -/
theorem blind_enter (q : StateRequest) : Blind (Like c) (g.enter id q) := by
  refine (blind_update id _).bind fun _ => (blind_entity id).bind fun e => ?_
  cases g.program? e.state.owner q.number with
  | some library =>
    refine blind_bindLibrary library.1 ?_
    exact (library.2.blind_enter id trivial).bind fun _ => blind_update id _
  | none => exact (blind_update id _).bind fun _ => blind_update id _

theorem blind_runPasses (left : Nat) : Blind (Like c) (g.runPasses id left) := by
  -- on the entries that are left: a pass ends alike, and so does what it asks for
  induction left with
  | zero =>
    refine blind_runPass.bind fun ending => ?_
    cases ending with
    | settled => exact .pure _
    | destroyed => exact .pure _
    | asked q => exact .pure _
  | succ left ih =>
    refine blind_runPass.bind fun ending => ?_
    cases ending with
    | settled => exact .pure _
    | destroyed => exact .pure _
    | asked q => exact (blind_enter q).bind fun _ => ih

theorem blind_followBinding : Blind (Like c) (followBinding id) := by
  refine (blind_entity id).bind fun e => ?_
  cases e.binding with
  | none => exact .pure _
  | some b =>
    refine blind_roster.bind fun r => ?_
    cases r.get? b.anchor with
    | none => exact blind_update id _
    | some anchor => exact blind_update id _

/-- **A turn** sees neither the library that is bound nor the counters of anyone else. -/
theorem blind_turn : Blind (Like c) (g.turn id) := by
  have concluded (ending : TurnEnd) : Blind (Like c) (conclude id ending) :=
    .ite (.pure _) (blind_followBinding.bind fun _ => (blind_update id _).bind fun _ => .pure _)
  have rest (left : Nat) : Blind (Like c) (do
      let ending ← g.runPasses id left
      conclude id ending) := (blind_runPasses left).bind concluded
  refine (blind_update id _).bind fun _ => (blind_entity id).bind fun e => ?_
  dsimp only
  cases e.pending with
  | none => exact rest _
  | some q => exact (blind_enter q).bind fun _ => rest _

/-! ## Ticks -/

/-- **A step** adds the same to the report, and leaves scenes that are alike. -/
theorem step_like (report : TickReport) (id : EntityId) (like : Like c s s') :
    (g.step (report, s') id).1 = (g.step (report, s) id).1 ∧
    Like c (g.step (report, s) id).2 (g.step (report, s') id).2 := by
  have ended : Alike (Like c) (g.turn id s) (g.turn id s') := blind_turn s s' like
  unfold step
  dsimp only
  rw [like.roster]
  by_cases live : s.roster.isLive id
  · rw [if_pos live, if_pos live]
    revert ended
    generalize g.turn id s = r
    generalize g.turn id s' = r'
    intro ended
    cases ended with
    | ok ending left => exact ⟨rfl, left⟩
    | error f left =>
      -- the fault is reported with what the roster says of the entity, and the machines reset
      refine ⟨?_, { left with stack := rfl, windows := rfl, signal := rfl }⟩
      dsimp only
      rw [left.roster]
  · rw [if_neg live, if_neg live]
    exact ⟨rfl, like⟩

theorem steps_like (ids : List EntityId) (report : TickReport) (like : Like c s s') :
    (ids.foldl g.step (report, s')).1 = (ids.foldl g.step (report, s)).1 ∧
    Like c (ids.foldl g.step (report, s)).2 (ids.foldl g.step (report, s')).2 := by
  induction ids generalizing report s s' with
  | nil => exact ⟨rfl, like⟩
  | cons id others ih =>
    obtain ⟨same, left⟩ := step_like (g := g) report id like
    have rest := ih (g.step (report, s) id).1 left
    rw [List.foldl_cons, List.foldl_cons]
    have step' : g.step (report, s') id =
        ((g.step (report, s) id).1, (g.step (report, s') id).2) := Prod.ext same rfl
    rw [step']
    exact rest

theorem tick_like (like : Like c s s') :
    (g.tick s').1 = (g.tick s).1 ∧ Like c (g.tick s).2 (g.tick s').2 := by
  have steps := steps_like (g := g) s.roster.runOrder ⟨s.roster.gameTime, [], [], []⟩ like
  unfold tick
  dsimp only
  rw [like.roster]
  exact ⟨steps.1, steps.2.withRoster (congrArg Roster.advance steps.2.roster)⟩

/-! ## Outcomes -/

/-- **The outcome of a turn**: how it ended, and the roster and the files that it left. -/
def outcome (g : Engine) (id : EntityId) (s : Scene) :
    Except Fault TurnEnd × Roster × FileTree :=
  match g.turn id s with
  | .ok ending t => (.ok ending, t.roster, t.files)
  | .error f t => (.error f, t.roster, t.files)

theorem outcome_like (like : Like c s s') : g.outcome id s' = g.outcome id s := by
  have ended : Alike (Like c) (g.turn id s) (g.turn id s') := blind_turn s s' like
  unfold outcome
  revert ended
  generalize g.turn id s = r
  generalize g.turn id s' = r'
  intro ended
  cases ended with
  | ok ending left =>
    dsimp only
    rw [left.roster, left.files]
  | error f left =>
    dsimp only
    rw [left.roster, left.files]

/-- At rest and under the same settings, two scenes with the same roster and the same files are
    alike. -/
theorem like_of_atRest (rest : s.machine.AtRest) (rest' : s'.machine.AtRest)
    (settings : s'.machine.settings = s.machine.settings) (roster : s'.roster = s.roster)
    (files : s'.files = s.files) : Like ⟨False, False, s.console, s'.console⟩ s s' where
  stack := rest'.stack.trans rest.stack.symm
  windows := rest'.windows.trans rest.windows.symm
  signal := rest'.signal.trans rest.signal.symm
  settings := settings
  library := False.elim
  roster := roster
  files := files
  memory := False.elim
  printed := ⟨[], (List.append_nil _).symm, (List.append_nil _).symm⟩

/-- No turn changes the settings of the machine. -/
theorem allowsTurns_settings (id : EntityId) :
    (Footprint.fixing fun s : Scene => s.machine.settings).AllowsTurns id where
  aside same _ := same
  deed _ _ _ := rfl
  request _ _ := rfl
  age _ := rfl

/-- **Turns see the roster, the files and the settings, and nothing else** that ran before.  Take
    two machines at rest under the same settings, whatever libraries they are bound to and whatever
    their profiles counted.

    From the same roster and the same files, a tick has the same report on both, leaves the same
    roster and the same files, and prints the same.

    Within ticks, after any turns of any entities on either machine: if rosters and files are the
    same then, the next turn of an entity has the same outcome on both, and adds the same to a
    report. -/
theorem turns_see_roster_and_files (g : Engine) {s s' : Scene} (rest : s.machine.AtRest)
    (rest' : s'.machine.AtRest) (settings : s'.machine.settings = s.machine.settings) :
    (s'.roster = s.roster → s'.files = s.files →
      (g.tick s').1 = (g.tick s).1 ∧ (g.tick s').2.roster = (g.tick s).2.roster ∧
      (g.tick s').2.files = (g.tick s).2.files ∧
      ∃ lines, (g.tick s).2.console = s.console ++ lines ∧
        (g.tick s').2.console = s'.console ++ lines) ∧
    ∀ (earlier earlier' : List EntityId) (report report' : TickReport),
      let t := (earlier.foldl g.step (report, s)).2
      let t' := (earlier'.foldl g.step (report', s')).2
      t'.roster = t.roster → t'.files = t.files → ∀ id,
        g.outcome id t' = g.outcome id t ∧
        ∀ sofar, (g.step (sofar, t') id).1 = (g.step (sofar, t) id).1 := by
  refine ⟨fun roster files => ?_, fun earlier earlier' report report' => ?_⟩
  · have like := like_of_atRest rest rest' settings roster files
    obtain ⟨reports, left⟩ := tick_like (g := g) like
    exact ⟨reports, left.roster, left.files, left.printed⟩
  · intro t t' roster files id
    -- whoever had turns before, the machines are at rest again, and their settings are as before
    have resting : t.machine.AtRest := atRest_steps earlier report rest
    have resting' : t'.machine.AtRest := atRest_steps earlier' report' rest'
    have kept : t.machine.settings = s.machine.settings :=
      Footprint.allows_steps allowsTurns_settings earlier report s
    have kept' : t'.machine.settings = s'.machine.settings :=
      Footprint.allows_steps allowsTurns_settings earlier' report' s'
    have same : t'.machine.settings = t.machine.settings := by rw [kept, kept', settings]
    have like := like_of_atRest resting resting' same roster files
    exact ⟨outcome_like like, fun sofar => (step_like sofar id like).1⟩

/-- An engine whose player raises three to the sixth power and keeps the result. -/
def raising : Engine :=
  let power := Expression.int 3 ++ Expression.int 6 ++ Expression.op (.binary .pow)
  let keep := Expression.int 0 ++ power ++ Expression.store (.set .ints)
  let p : StateProgram := ⟨0, none, none, none, .ofRecords [], .plain [.evaluate keep], 0, 0, 0⟩
  (Engine.ofSettings .empty).addLibrary 1 ((Library.empty .empty 1).insert p)

/-- A scene whose machine is bound to another library, with powers in the other order. -/
def elsewhere : Scene :=
  { Scene.lone with
    machine := { Scene.lone.machine with
      strings := .ofList ["elsewhere"], powOrder := .legacy, profile := .on } }

/-- The power is the one of the player's own library on both. -/
theorem turns_see_roster_and_files_raising :
    Scene.lone.machine.AtRest ∧ elsewhere.machine.AtRest ∧
    elsewhere.machine.settings = Scene.lone.machine.settings ∧
    (raising.tick elsewhere).1 = (raising.tick Scene.lone).1 ∧
    (raising.tick elsewhere).2.roster = (raising.tick Scene.lone).2.roster ∧
    (raising.tick Scene.lone).1.ran = [0] ∧
    ((raising.tick Scene.lone).2.roster.get? 0).map (fun e => e.vars.ints[0]) = some 729 ∧
    raising.outcome 0 elsewhere = raising.outcome 0 Scene.lone := by
  have rest : Scene.lone.machine.AtRest := ⟨rfl, rfl, rfl⟩
  have rest' : elsewhere.machine.AtRest := ⟨rfl, rfl, rfl⟩
  obtain ⟨ticks, turns⟩ := turns_see_roster_and_files raising rest rest' rfl
  obtain ⟨reports, rosters, -, -⟩ := ticks rfl rfl
  have none : TickReport := ⟨0, [], [], []⟩
  have next := turns [] [] none none rfl rfl 0
  exact ⟨rest, rest', rfl, reports, rosters, by decide +kernel, by decide +kernel, next.1⟩

end Engine
end TickScript
