import TickScript.Roster.Roles

/-! # Creating and destroying entities

    Roots are added per player.  Helpers are spawned by an entity, of whom they inherit side,
    place and definition, and a player has a limited number of them.  Destroying an entity either
    orphans its children or takes everything it spawned along.
-/

namespace TickScript.Roster

/-- **Adds the root of a player.**  Odd players stand on the first side and face right, even
    ones on the second and face left. -/
def addPlayer (r : Roster) (playerNo : Nat) (name : String) : Roster × EntityId :=
  let e := Entity.fresh r.nextScriptId playerNo name
  let e :=
    if playerNo % 2 = 1 then { e with teamSide := 1 }
    else { e with teamSide := 2, facing := .negOne }
  (r.insert e, r.nextHandle)

/-- How many helpers a player may have at a time. -/
def helperLimit : Nat := 56

/-- A new helper of an entity. -/
def newHelper (r : Roster) (parentId : EntityId) (parent : Entity) (root : EntityId)
    (name : String) : Entity :=
  let e := Entity.fresh r.nextScriptId parent.playerNo name
  { e with
    isHelper := true
    parent := some parentId
    root := some root
    teamSide := parent.teamSide
    localScale := parent.localScale
    facing := parent.facing
    pos := parent.pos
    constants := parent.constants
    state := { e.state with owner := parent.state.owner } }

/-- **Spawns a helper.**  None if the parent is not live, its player has all the helpers it may
    have, or the parent is a helper without a root. -/
def spawnHelper (r : Roster) (parentId : EntityId) (name : String) :
    Option (Roster × EntityId) := do
  let parent ← r.get? parentId
  if helperLimit ≤ (r.helpersOf parentId).length then none
  else
    let root ← if parent.isHelper then parent.root else some parentId
    some (r.insert (r.newHelper parentId parent root name), r.nextHandle)

/-! ## Destruction -/

/-- The entities whose parent is the given one. -/
def children (r : Roster) (id : EntityId) : List EntityId :=
  handles (r.entries.filter fun e => e.2.parent == some id)

/-- The descendants of the entities of a list, visiting at most `fuel` entities. -/
def descendantsFrom (r : Roster) : (fuel : Nat) → List EntityId → List EntityId
  | 0, _ => []
  | _, [] => []
  | fuel + 1, id :: rest =>
    let found := r.children id
    found ++ r.descendantsFrom fuel (found ++ rest)

/-- **Everything an entity spawned**, and what that spawned, and so on.  As parents are older
    than their children, every entity is visited once at most. -/
def descendants (r : Roster) (id : EntityId) : List EntityId :=
  r.descendantsFrom (r.size + 1) [id]

/-- Removes an entity and its descendants. -/
def destroyAll (r : Roster) (id : EntityId) : Roster :=
  let gone := r.descendants id
  r.keep fun x => x != id && !gone.contains x

/-- Removes an entity; its children have no parent any more. -/
def destroyOne (r : Roster) (id : EntityId) : Roster :=
  (r.mapEntities fun _ e => if e.parent = some id then { e with parent := none } else e).keep
    (· != id)

/-- **Destroys an entity**; whether it was live. -/
def destroy (r : Roster) (id : EntityId) (recursive : Bool) : Roster × Bool :=
  (if recursive then r.destroyAll id else r.destroyOne id, r.isLive id)

end TickScript.Roster
