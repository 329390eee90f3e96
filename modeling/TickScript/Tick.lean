import TickScript.Program.State

/-! # Ticks

    In a tick every entity that was live at its start has a turn, in run order.  A turn applies
    the pending state change, runs the program of the present state, and follows the changes that
    the program asks for, up to a limit; then a bound entity follows its anchor.  A fault ends
    the turn of the entity that raised it and no other.
-/

namespace TickScript

/-- **Engine**: settings and the libraries of the players. -/
structure Engine where
  settings : Settings
  /-- One library for each player that has one. -/
  libraries : List (Nat × Library)

/-- **A turn that a fault cut short.** -/
structure Abort where
  id : EntityId
  state : Int32
  owner : Nat
  fault : Fault
  deriving DecidableEq

/-- **What happened in a tick.** -/
structure TickReport where
  /-- The game time at which the tick ran. -/
  time : Int32
  /-- The entities whose turn was completed. -/
  ran : List EntityId
  aborted : List Abort
  /-- Those that reached the limit of state changes; their last request waits. -/
  limited : List EntityId
  deriving DecidableEq

/-- How a turn ended. -/
inductive TurnEnd where
  | done
  | limited
  | destroyed
  deriving DecidableEq

/-- How one run of a program ended. -/
inductive PassEnd where
  /-- No change was asked for. -/
  | settled
  | destroyed
  /-- The program was stopped by a request. -/
  | asked (q : StateRequest)
  deriving DecidableEq

namespace Engine

/-- Without libraries. -/
def ofSettings (s : Settings) : Engine := ⟨s, []⟩

/-- Installs the library of a player, its power order chosen by the settings. -/
def addLibrary (g : Engine) (playerNo : Nat) (l : Library) : Engine :=
  { g with libraries :=
      (playerNo, l.configure g.settings) :: g.libraries.filter fun e => e.1 != playerNo }

/-- The library of a player. -/
def library? (g : Engine) (playerNo : Nat) : Option Library :=
  (g.libraries.find? fun e => e.1 == playerNo).map (·.2)

/-- The program of a state, with the library that holds it. -/
def program? (g : Engine) (owner : Nat) (number : Int32) : Option (Library × StateProgram) := do
  let l ← g.library? owner
  let p ← l.get? number
  return (l, p)

/-! ## Turns -/

/-- Binds the machine to a library. -/
def bindLibrary (l : Library) : Act Unit := do
  Act.setMachine ((← Act.machine).bind l.strings l.powOrder)

/-- The entity in the requested state, before anything of the state was run. -/
def applyRequest (q : StateRequest) (e : Entity) : Entity :=
  { e with
    pending := none
    state := { e.state with
      number := q.number
      previous := e.state.number
      time := 0
      owner := q.owner.getD e.state.owner } }

/-- **Enters the requested state.** -/
def enter (g : Engine) (id : EntityId) (q : StateRequest) : Act Unit := do
  Act.update id (applyRequest q)
  match g.program? (← Act.entity id).state.owner q.number with
  | some (l, p) =>
    bindLibrary l
    p.enter id
  | none => Act.update id fun e => { e with memory := .empty }
  Act.update id fun e =>
    let e := match q.anim with
      | some anim => e.setAnim anim 1
      | none => e
    match q.ctrl with
    | some ctrl => { e with ctrl := ctrl }
    | none => e

/-- Runs an action with the entity's own counters, which return to it however the action ends,
    if it is still live. -/
def withOwnMemory (id : EntityId) (action : Act α) : Act α := do
  let memory := (← Act.entity id).memory
  Act.update id fun e => { e with memory := .empty }
  Act.withMemory memory fun s =>
    let returned (s : Scene) : Scene :=
      { s with roster := s.roster.modify id fun e => { e with memory := s.memory } }
    match action s with
    | .ok a s => .ok a (returned s)
    | .error f s => .error f (returned s)

/-- **Runs the program of the present state**, if it has one. -/
def runPass (g : Engine) (id : EntityId) : Act PassEnd := do
  let e ← Act.entity id
  match g.program? e.state.owner e.state.number with
  | none => return .settled
  | some (l, p) =>
    bindLibrary l
    let stopped ← withOwnMemory id (p.run id)
    match (← Act.roster).get? id with
    | none => return .destroyed
    | some e =>
      match stopped, e.pending with
      | true, some q => return .asked q
      | _, _ => return .settled

/-- **Runs programs until none asks for a change.**  `left` more states may be entered. -/
def runPasses (g : Engine) (id : EntityId) : (left : Nat) → Act TurnEnd
  | 0 => do
    match ← g.runPass id with
    | .settled => return .done
    | .destroyed => return .destroyed
    | .asked _ => return .limited
  | left + 1 => do
    match ← g.runPass id with
    | .settled => return .done
    | .destroyed => return .destroyed
    | .asked q =>
      g.enter id q
      runPasses g id left

/-- The binding after a turn. -/
def Binding.countDown (b : Binding) : Option Binding :=
  if b.time = -1 then some b
  else if 1 < b.time then some { b with time := b.time - 1 }
  else none

/-- An entity moved onto its anchor. -/
def follow (b : Binding) (anchor e : Entity) : Entity :=
  { e with
    pos := { e.pos with
      x := anchor.pos.x + b.offset.x * anchor.facing
      y := anchor.pos.y + b.offset.y }
    facing := match b.facing with
      | some f => anchor.facing * f
      | none => e.facing
    binding := Binding.countDown b }

/-- **Moves a bound entity onto its anchor**; a binding whose anchor is gone is dropped. -/
def followBinding (id : EntityId) : Act Unit := do
  match (← Act.entity id).binding with
  | none => pure ()
  | some b =>
    match (← Act.roster).get? b.anchor with
    | none => Act.update id fun e => { e with binding := none }
    | some anchor => Act.update id (follow b anchor)

/-- **The turn of an entity.** -/
def turn (g : Engine) (id : EntityId) : Act TurnEnd := do
  Act.update id fun e => { e with posFreeze := false }
  let limit := g.settings.maxStateChanges.toNat
  let left ← match (← Act.entity id).pending with
    | some q => do
      g.enter id q
      pure (limit - 1)
    | none => pure limit
  let ending ← g.runPasses id left
  if ending = .destroyed then return .destroyed
  followBinding id
  Act.update id fun e => { e with state := { e.state with time := e.state.time + 1 } }
  return ending

/-! ## Ticks -/

/-- The report with the outcome of one more turn. -/
def TickReport.add (report : TickReport) (id : EntityId) : TurnEnd → TickReport
  | .done => { report with ran := report.ran ++ [id] }
  | .limited => { report with ran := report.ran ++ [id], limited := report.limited ++ [id] }
  | .destroyed => report

/-- What is reported of a turn that faulted. -/
def abort (r : Roster) (id : EntityId) (f : Fault) : Abort :=
  match r.get? id with
  | some e => ⟨id, e.state.number, e.state.owner, f⟩
  | none => ⟨id, 0, 0, f⟩

/-- Gives an entity its turn, unless it is gone. -/
def step (g : Engine) (s : TickReport × Scene) (id : EntityId) : TickReport × Scene :=
  let (report, scene) := s
  if scene.roster.isLive id then
    match g.turn id scene with
    | .ok ending scene => (TickReport.add report id ending, scene)
    | .error f scene =>
      ({ report with aborted := report.aborted ++ [abort scene.roster id f] },
        { scene with machine := scene.machine.reset })
  else (report, scene)

/-- **One tick.** -/
def tick (g : Engine) (scene : Scene) : TickReport × Scene :=
  let report : TickReport := ⟨scene.roster.gameTime, [], [], []⟩
  let (report, scene) := scene.roster.runOrder.foldl g.step (report, scene)
  (report, { scene with roster := scene.roster.advance })

end Engine
end TickScript
