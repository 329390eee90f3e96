import TickScript.Roster.Basic
import TickScript.Bytecode.Opcode

/-! # Who is whom

    Roles relate an entity to others of the roster: its parent and root, its helpers, targets,
    teammates and opponents.  A role that nobody fills, or an index beyond the last, gives
    nothing.  Lists of candidates are in order of handles unless said otherwise.
-/

namespace TickScript

/-- Entities under their handles. -/
abbrev Entries := List (EntityId × Entity)

namespace Roster

/-- Place `n` of a list, counted from zero. -/
def nth? (items : List α) (n : Int32) : Option α :=
  if 0 ≤ n then items[n.toInt.toNat]? else none

/-- The entities that are no helpers. -/
def roots (r : Roster) : Entries := r.entries.filter fun e => !e.2.isHelper

/-- The root of an entity, which is itself unless it is a helper. -/
def rootOf (r : Roster) (id : EntityId) : Option EntityId := do
  let e ← r.get? id
  if e.isHelper then e.root.filter r.isLive else some id

/-- The helpers of the entity's player. -/
def helpersOf (r : Roster) (id : EntityId) : Entries :=
  match r.get? id with
  | some e => r.entries.filter fun x => x.2.isHelper && x.2.playerNo == e.playerNo
  | none => []

/-- The helpers that a helper id selects; an id that is not positive selects all. -/
def helpersWith (r : Roster) (id : EntityId) (helperId : Int32) : Entries :=
  (r.helpersOf id).filter fun x => helperId ≤ 0 || x.2.helperId == helperId

/-- The living roots of other sides. -/
def opponents (r : Roster) (id : EntityId) : Entries :=
  match r.get? id with
  | some e => r.roots.filter fun x => x.2.teamSide != e.teamSide && x.2.alive
  | none => []

/-- The distance of an entity from a place on the horizontal axis. -/
def distanceFrom (x : Single) (e : EntityId × Entity) : Single := (e.2.pos.x - x).abs

/-- The opponents from the nearest to the farthest; equally near ones in order of handles. -/
def opponentsByDistance (r : Roster) (id : EntityId) : Entries :=
  match r.get? id with
  | some e => (r.opponents id).mergeSort fun a b =>
      (distanceFrom e.pos.x a).orderKey ≤ (distanceFrom e.pos.x b).orderKey
  | none => []

/-- The other roots of the side of the entity's root. -/
def teammates (r : Roster) (id : EntityId) : Entries :=
  match r.rootOf id with
  | none => []
  | some root =>
    match r.get? root with
    | some e => r.roots.filter fun x => x.1 != root && x.2.teamSide == e.teamSide
    | none => []

/-- The live targets that a script id selects; a negative one selects all. -/
def targetsWith (r : Roster) (id : EntityId) (scriptId : Int32) : List EntityId :=
  match r.get? id with
  | some e => e.targets.filter fun t => (r.get? t).any fun x => Entity.selects scriptId x.id
  | none => []

/-! ## Single roles -/

/-- The root of a player. -/
def player (r : Roster) (n : Int32) : Option EntityId :=
  (r.roots.find? fun x => Int32.ofNat x.2.playerNo == n).map (·.1)

/-- The entity with a script id. -/
def withScriptId (r : Roster) (scriptId : Int32) : Option EntityId :=
  (r.entries.find? fun x => x.2.id == scriptId).map (·.1)

def parent (r : Roster) (id : EntityId) : Option EntityId := do
  (← r.get? id).parent.filter r.isLive

/-- The root of a helper; other entities have none. -/
def root (r : Roster) (id : EntityId) : Option EntityId := do
  if (← r.get? id).isHelper then r.rootOf id else none

def helper (r : Roster) (id : EntityId) (helperId : Int32) : Option EntityId :=
  (r.helpersWith id helperId).head?.map (·.1)

def helperIndex (r : Roster) (id : EntityId) (n : Int32) : Option EntityId :=
  (nth? (r.helpersOf id) n).map (·.1)

def target (r : Roster) (id : EntityId) (scriptId : Int32) : Option EntityId :=
  (r.targetsWith id scriptId).head?

def partner (r : Roster) (id : EntityId) (n : Int32) : Option EntityId :=
  (nth? (r.teammates id) n).map (·.1)

def enemy (r : Roster) (id : EntityId) (n : Int32) : Option EntityId :=
  (nth? (r.opponents id) n).map (·.1)

def enemyNear (r : Roster) (id : EntityId) (n : Int32) : Option EntityId :=
  (nth? (r.opponentsByDistance id) n).map (·.1)

def nearestEnemy (r : Roster) (id : EntityId) : Option EntityId := r.enemyNear id 0

/-- The root of the player whose library runs the entity's state. -/
def stateOwner (r : Roster) (id : EntityId) : Option EntityId := do
  r.player (Int32.ofNat (← r.get? id).state.owner)

/-- **The entity in a role.**  Roles without a selector ignore it. -/
def resolve (r : Roster) (id : EntityId) (selector : Int32) : Role → Option EntityId
  | .player => r.player selector
  | .parent => r.parent id
  | .root => r.root id
  | .helper => r.helper id selector
  | .target => r.target id selector
  | .partner => r.partner id selector
  | .enemy => r.enemy id selector
  | .enemyNear => r.enemyNear id selector
  | .scriptId => r.withScriptId selector
  | .runIndex => nth? r.runOrder selector
  | .helperIndex => r.helperIndex id selector
  | .nearestEnemy => r.nearestEnemy id
  | .stateOwner => r.stateOwner id

/-! ## Counts -/

def numHelpers (r : Roster) (id : EntityId) (helperId : Int32) : Nat :=
  (r.helpersWith id helperId).length

def numEnemies (r : Roster) (id : EntityId) : Nat := (r.opponents id).length

/-- The teammates that are alive. -/
def numPartners (r : Roster) (id : EntityId) : Nat :=
  ((r.teammates id).filter fun x => x.2.alive).length

def numTargets (r : Roster) (id : EntityId) (scriptId : Int32) : Nat :=
  (r.targetsWith id scriptId).length

end Roster
end TickScript
