import TickScript.Scene
import TickScript.Bytecode.Emit

/-! # Whom an effect applies to

    An effect visits the records of its argument block in order.  Its expressions are evaluated
    for the *origin*, the entity that runs it; its changes apply to the *target*, which a redirect
    record moves to another entity.  A redirect to nobody ends the visit.

    Effects on targets of the attacker work on a selection instead: an id record narrows it, a
    redirect moves the attacker and selects all of its targets.
-/

namespace TickScript

/-- The tag of a redirect record, which every effect with redirects shares. -/
@[match_pattern] def redirectTag : UInt8 := 0xff

/-- **Origin and target of an effect.** -/
structure Target where
  origin : EntityId
  id : EntityId
  /-- Factor from the origin's coordinates to the target's. -/
  ratio : Single
  deriving DecidableEq

/-- The entity itself, as long as there is no redirect. -/
def Target.start (id : EntityId) : Target := ⟨id, id, .one⟩

/-- **State of a visit**: the target, and what the records so far have asked for. -/
structure Visit (σ : Type) where
  target : Target
  plan : σ

/-- An action of a visit. -/
abbrev Visiting (σ : Type) := StateT (Visit σ) Act

namespace Visiting

variable {σ : Type}

/-! ## Arguments -/

/-- Evaluates an expression for the origin. -/
def evaluate (code : Expression) : Visiting σ Value := do
  Act.evaluate code (← get).target.origin

/-- The value of argument `n`, which must be there. -/
def argument (r : ArgRecord) (n : Nat) : Visiting σ Value := do
  evaluate (← Act.ofExcept (r.expression n))

/-- The value of argument `n`, if it is there. -/
def argument? (r : ArgRecord) (n : Nat) : Visiting σ (Option Value) := do
  match r.expressions[n]? with
  | some code => return some (← evaluate code)
  | none => return none

def int (r : ArgRecord) : Visiting σ Int32 := return (← argument r 0).toInt32

def single (r : ArgRecord) : Visiting σ Single := return (← argument r 0).toSingle

def bool (r : ArgRecord) : Visiting σ Bool := return (← argument r 0).toBool

/-- One number or two. -/
def pair (r : ArgRecord) : Visiting σ (Single × Option Single) := do
  let x ← single r
  let y ← argument? r 1
  return (x, y.map Value.toSingle)

/-- The text of the first argument, which is no code. -/
def text (r : ArgRecord) : Visiting σ String := do
  return Expression.toText (← Act.ofExcept (r.expression 0))

/-! ## Plan and target -/

def target : Visiting σ Target := return (← get).target

def plan : Visiting σ σ := return (← get).plan

/-- Changes the plan. -/
def revise (f : σ → σ) : Visiting σ Unit := modify fun v => { v with plan := f v.plan }

/-- The target entity, which must be live. -/
def targetEntity : Visiting σ Entity := do Act.entity (← target).id

/-- Changes the target entity. -/
def updateTarget (f : Entity → Entity) : Visiting σ Unit := do Act.update (← target).id f

/-- **Follows a redirect record**; whether there is an entity with that script id. -/
def redirect (r : ArgRecord) : Visiting σ Bool := do
  let scriptId ← int r
  match (← Act.roster).withScriptId scriptId with
  | none => return false
  | some id =>
    let t ← target
    let origin ← Act.entity t.origin
    let chosen ← Act.entity id
    modify fun v =>
      { v with target := { t with id := id, ratio := origin.localScale / chosen.localScale } }
    return true

end Visiting

/-! ## Visits -/

/-- **Visits the records of a block** with a handler for redirect records and one for all
    others; how the visit ended, and whether no record stopped it. -/
def visitBlock {σ : Type} (origin : EntityId) (args : ArgBlock) (plan : σ)
    (redirect visit : ArgRecord → Visiting σ Bool) : Act (Bool × Visit σ) :=
  StateT.run
    (ArgBlock.walk args fun r => if r.tag = redirectTag then redirect r else visit r)
    ⟨Target.start origin, plan⟩

/-- **Effect that acts record by record** on its target. -/
def eachRecord (origin : EntityId) (args : ArgBlock) (visit : ArgRecord → Visiting Unit Unit) :
    Act Unit := do
  let _ ← visitBlock origin args () Visiting.redirect fun r => do
    visit r
    return true

/-- **Effect that acts once**, after a visit that nothing stopped. -/
def afterVisit {σ : Type} (origin : EntityId) (args : ArgBlock) (plan : σ)
    (visit : ArgRecord → Visiting σ Unit) (act : Target → σ → Act Unit) : Act Unit := do
  let (finished, v) ← visitBlock origin args plan Visiting.redirect fun r => do
    visit r
    return true
  if finished then act v.target v.plan

/-! ## Targets of the attacker -/

/-- **State of a visit to an attacker's targets.** -/
structure Selection (σ : Type) where
  /-- The selected targets. -/
  ids : List EntityId
  plan : σ

namespace Selection

variable {σ : Type}

/-- Follows a redirect of the attacker and selects all its targets; stops if there are none. -/
def redirect (r : ArgRecord) : Visiting (Selection σ) Bool := do
  if ← Visiting.redirect r then
    let ids := (← Act.roster).targetsWith (← Visiting.target).id (-1)
    Visiting.revise fun s => { s with ids := ids }
    return !ids.isEmpty
  else return false

/-- Narrows the selection to a script id; stops if nothing was selected. -/
def narrow (r : ArgRecord) : Visiting (Selection σ) Bool := do
  if (← Visiting.plan).ids.isEmpty then return false
  else
    let scriptId ← Visiting.int r
    let ids := (← Act.roster).targetsWith (← Visiting.target).id scriptId
    Visiting.revise fun s => { s with ids := ids }
    return true

/-- Acts on the selected targets; stops if nothing was selected. -/
def each (act : List EntityId → Visiting (Selection σ) Unit) : Visiting (Selection σ) Bool := do
  let ids := (← Visiting.plan).ids
  if ids.isEmpty then return false
  else
    act ids
    return true

end Selection

/-- **Visits a block that acts on the origin's targets.** -/
def visitTargets {σ : Type} (origin : EntityId) (args : ArgBlock) (plan : σ)
    (visit : ArgRecord → Visiting (Selection σ) Bool) : Act (Bool × Visit (Selection σ)) := do
  let ids := (← Act.roster).targetsWith origin (-1)
  visitBlock origin args ⟨ids, plan⟩ Selection.redirect visit

end TickScript
