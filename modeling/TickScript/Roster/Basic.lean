import TickScript.Entity.Basic
import TickScript.Roster.Random

/-! # The roster of live entities

    A roster holds the live entities in order of their handles, the clock, the state of the
    round and the random generator.  Handles and script ids count upwards, so the order of
    handles is the order of creation; it is also the order in which entities run.  That handles
    are ordered and below the next one is part of the type.
-/

namespace TickScript

/-- The handles of a list of entities. -/
def handles (entries : List (EntityId × Entity)) : List EntityId := entries.map (·.1)

/-- **Roster of live entities.** -/
structure Roster where
  entries : List (EntityId × Entity)
  nextHandle : EntityId
  nextScriptId : Int32
  gameTime : Int32
  roundState : Int32
  rng : Rng
  sorted : (handles entries).Pairwise (· < ·)
  bounded : ∀ id ∈ handles entries, id < nextHandle

namespace Roster

/-- The first script id that is given out. -/
def firstScriptId : Int32 := 56

/-- The state of a round that is being played. -/
def playing : Int32 := 2

/-- **An empty roster.** -/
def ofSeed (seed : UInt64) : Roster where
  entries := []
  nextHandle := 0
  nextScriptId := firstScriptId
  gameTime := 0
  roundState := playing
  rng := Rng.ofSeed seed
  sorted := List.Pairwise.nil
  bounded := by simp [handles]

instance : Inhabited Roster := ⟨ofSeed 0⟩

/-! ## Looking up -/

/-- The live entity with a handle. -/
def get? (r : Roster) (id : EntityId) : Option Entity :=
  (r.entries.find? fun e => e.1 == id).map (·.2)

def isLive (r : Roster) (id : EntityId) : Bool := (r.get? id).isSome

/-- The entity that must be live. -/
def get (r : Roster) (id : EntityId) : Except Fault Entity :=
  match r.get? id with
  | some e => .ok e
  | none => .error (.missingEntity id)

/-- The handles in the order in which entities run. -/
def runOrder (r : Roster) : List EntityId := handles r.entries

def size (r : Roster) : Nat := r.entries.length

/-! ## Changing entities -/

theorem handles_map (entries : List (EntityId × Entity)) (f : EntityId → Entity → Entity) :
    handles (entries.map fun e => (e.1, f e.1 e.2)) = handles entries := by
  simp [handles, List.map_map, Function.comp_def]

/-- Changes every entity. -/
def mapEntities (r : Roster) (f : EntityId → Entity → Entity) : Roster where
  entries := r.entries.map fun e => (e.1, f e.1 e.2)
  nextHandle := r.nextHandle
  nextScriptId := r.nextScriptId
  gameTime := r.gameTime
  roundState := r.roundState
  rng := r.rng
  sorted := by rw [handles_map]; exact r.sorted
  bounded := by rw [handles_map]; exact r.bounded

/-- Changes the entity with a handle, if it is live. -/
def modify (r : Roster) (id : EntityId) (f : Entity → Entity) : Roster :=
  r.mapEntities fun i e => if i = id then f e else e

/-! ## Adding and removing -/

/-- **Adds an entity** under the next handle. -/
def insert (r : Roster) (e : Entity) : Roster where
  entries := r.entries ++ [(r.nextHandle, e)]
  nextHandle := r.nextHandle + 1
  nextScriptId := r.nextScriptId + 1
  gameTime := r.gameTime
  roundState := r.roundState
  rng := r.rng
  sorted := by
    rw [handles, List.map_append]
    refine List.pairwise_append.mpr ⟨r.sorted, by simp, fun a ha b hb => ?_⟩
    have : b = r.nextHandle := by simpa using hb
    exact this ▸ r.bounded a ha
  bounded := by
    intro id hid
    rw [handles, List.map_append] at hid
    rcases List.mem_append.mp hid with h | h
    · exact Nat.lt_succ_of_lt (r.bounded id h)
    · have : id = r.nextHandle := by simpa using h
      exact this ▸ Nat.lt_succ_self _

/-- **Removes the entities** with handles that are not kept. -/
def keep (r : Roster) (kept : EntityId → Bool) : Roster where
  entries := r.entries.filter fun e => kept e.1
  nextHandle := r.nextHandle
  nextScriptId := r.nextScriptId
  gameTime := r.gameTime
  roundState := r.roundState
  rng := r.rng
  sorted := r.sorted.sublist (List.filter_sublist.map _)
  bounded := fun id hid => r.bounded id ((List.filter_sublist.map _).subset hid)

/-! ## Clock and chance -/

/-- One tick has passed. -/
def advance (r : Roster) : Roster := { r with gameTime := r.gameTime + 1 }

/-- A random integer between two bounds in either order. -/
def random (r : Roster) (a b : Int32) : Int32 × Roster :=
  let (n, rng) := r.rng.between a b
  (n, { r with rng := rng })

end Roster
end TickScript
