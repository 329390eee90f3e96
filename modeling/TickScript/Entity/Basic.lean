import TickScript.NameTable
import TickScript.Fault

/-! # Entities

    An entity is one actor: the root of a player, or a helper spawned by another entity.  This
    file holds what an entity consists of, and what a new one looks like.
-/

namespace TickScript

/-! ## Classes of state -/

/-- Posture of the body. -/
inductive StateType where
  | standing
  | crouching
  | air
  | lying
  deriving DecidableEq, Inhabited

/-- The posture with a code. -/
def StateType.ofCode? (code : UInt8) : Option StateType :=
  if code = 1 then some .standing
  else if code = 2 then some .crouching
  else if code = 4 then some .air
  else if code = 8 then some .lying
  else none

def StateType.code : StateType → Nat
  | .standing => 1
  | .crouching => 2
  | .air => 4
  | .lying => 8

/-- Offensive intent. -/
inductive MoveType where
  | idle
  | attack
  | beingHit
  deriving DecidableEq, Inhabited

/-- The intent with a code. -/
def MoveType.ofCode? (code : UInt8) : Option MoveType :=
  if code = 1 then some .idle
  else if code = 2 then some .attack
  else if code = 4 then some .beingHit
  else none

def MoveType.code : MoveType → Nat
  | .idle => 1
  | .attack => 2
  | .beingHit => 4

/-- The physics that apply between ticks. -/
inductive Physics where
  | standing
  | crouching
  | air
  | none
  deriving DecidableEq, Inhabited

/-- The physics with a code. -/
def Physics.ofCode? (code : UInt8) : Option Physics :=
  if code = 1 then some .standing
  else if code = 2 then some .crouching
  else if code = 4 then some .air
  else if code = 8 then some .none
  else Option.none

def Physics.code : Physics → Nat
  | .standing => 1
  | .crouching => 2
  | .air => 4
  | .none => 8

/-! ## Parts of an entity -/

/-- **A pair of numbers in the plane.** -/
structure Plane where
  x : Single
  y : Single
  deriving DecidableEq, Inhabited

/-- The origin. -/
def Plane.zero : Plane := ⟨.zero, .zero⟩

/-- Ones, the neutral scale. -/
def Plane.ones : Plane := ⟨.one, .one⟩

/-- **A triple of numbers**: in the plane, and in depth. -/
structure Space where
  x : Single
  y : Single
  z : Single
  deriving DecidableEq, Inhabited

/-- The origin. -/
def Space.zero : Space := ⟨.zero, .zero, .zero⟩

/-- **The running state.** -/
structure StateStatus where
  number : Int32
  previous : Int32
  /-- Ticks since the state was entered. -/
  time : Int32
  stateType : StateType
  moveType : MoveType
  previousMoveType : MoveType
  physics : Physics
  /-- The player whose library holds the state. -/
  owner : Nat
  deriving DecidableEq, Inhabited

/-- **A state change that waits to be applied.** -/
structure StateRequest where
  number : Int32
  anim : Option Int32
  ctrl : Option Bool
  /-- The library to take the state from; none keeps the present owner. -/
  owner : Option Nat
  deriving DecidableEq

/-- A request for a state that changes nothing else. -/
def StateRequest.plain (number : Int32) : StateRequest := ⟨number, none, none, none⟩

/-- **A visual effect** that an entity owns. -/
structure Explod where
  id : Int32
  anim : Int32
  pos : Plane
  facing : Single
  scale : Plane
  /-- Ticks until removal; `-1` is never. -/
  removeTime : Int32
  /-- Ticks for which it follows its owner. -/
  bindTime : Int32
  deriving DecidableEq

/-- An effect nobody configured. -/
def Explod.fresh : Explod := ⟨-1, 0, .zero, .one, .ones, -2, 0⟩

/-- **A projectile** that an entity owns.  Horizontal components are relative to its facing. -/
structure Projectile where
  id : Int32
  anim : Int32
  hitAnim : Int32
  removeAnim : Int32
  cancelAnim : Int32
  pos : Plane
  facing : Single
  velocity : Plane
  velocityMul : Plane
  removeVelocity : Plane
  accel : Plane
  scale : Plane
  angle : Single
  /-- Ticks until removal; `-1` is never. -/
  removeTime : Int32
  missTime : Int32
  hits : Int32
  priority : Int32
  spritePriority : Int32
  deriving DecidableEq

/-- A projectile nobody configured. -/
def Projectile.fresh : Projectile where
  id := 0
  anim := 0
  hitAnim := -1
  removeAnim := -1
  cancelAnim := -1
  pos := .zero
  facing := .one
  velocity := .zero
  velocityMul := .ones
  removeVelocity := .zero
  accel := .zero
  scale := .ones
  angle := .zero
  removeTime := -1
  missTime := 0
  hits := 1
  priority := 1
  spritePriority := 3

/-- **A lock onto another entity's position**, applied after each turn. -/
structure Binding where
  anchor : EntityId
  /-- Turns left; `-1` is for ever. -/
  time : Int32
  /-- The first component runs along the anchor's facing. -/
  offset : Plane
  /-- Facing relative to the anchor's; none keeps the present one. -/
  facing : Option Single
  deriving DecidableEq

/-- **Constants of an entity's definition.** -/
structure EntityConstants where
  life : Int32
  power : Int32
  attack : Int32
  defence : Int32
  xScale : Single
  yScale : Single
  yAccel : Single
  walkForward : Single
  walkBack : Single
  jump : Single
  /-- Further constants by lowercase name. -/
  named : NameTable
  deriving DecidableEq

/-- The constants of an entity without a definition. -/
def EntityConstants.standard : EntityConstants where
  life := 1000
  power := 3000
  attack := 100
  defence := 100
  xScale := .one
  yScale := .one
  yAccel := ⟨0x3ee147ae⟩
  walkForward := ⟨0x4019999a⟩
  walkBack := ⟨0xc00ccccd⟩
  jump := ⟨0xc1066666⟩
  named := .empty

/-- **Counters of the blocks of a program**, by slot. -/
structure BlockMemory where
  persistence : List Int32
  toggles : List Bool
  deriving DecidableEq, Inhabited

namespace BlockMemory

/-- No counters yet. -/
def empty : BlockMemory := ⟨[], []⟩

/-- Zeroed counters and toggles. -/
def sized (persistence toggles : Nat) : BlockMemory :=
  ⟨List.replicate persistence 0, List.replicate toggles false⟩

/-- Slots up to and including the given one; new ones hold the default. -/
def grow (slot : Nat) (fresh : α) (table : List α) : List α :=
  table ++ List.replicate (slot + 1 - table.length) fresh

/-- The counter of a slot. -/
def counter (m : BlockMemory) (slot : Nat) : Int32 := m.persistence[slot]?.getD 0

/-- Writes a counter; the table grows as needed. -/
def setCounter (m : BlockMemory) (slot : Nat) (count : Int32) : BlockMemory :=
  { m with persistence := (grow slot 0 m.persistence).set slot count }

/-- Flips a toggle; the table grows as needed. -/
def flipToggle (m : BlockMemory) (slot : Nat) : BlockMemory × Bool :=
  let flipped := !(m.toggles[slot]?.getD false)
  ({ m with toggles := (grow slot false m.toggles).set slot flipped }, flipped)

end BlockMemory

/-! ## Entities -/

/-- **The variables of an entity.** -/
structure Variables where
  ints : Vector Int32 60
  systemInts : Vector Int32 5
  singles : Vector Single 40
  systemSingles : Vector Single 5
  deriving DecidableEq

/-- All zero. -/
def Variables.zero : Variables :=
  ⟨.replicate 60 0, .replicate 5 0, .replicate 40 .zero, .replicate 5 .zero⟩

/-- **Entity.** -/
structure Entity where
  /-- The id that scripts see. -/
  id : Int32
  playerNo : Nat
  name : String
  isHelper : Bool
  /-- The id that the spawning script gave. -/
  helperId : Int32
  parent : Option EntityId
  root : Option EntityId
  teamSide : Int32
  /-- Size of a coordinate unit. -/
  localScale : Single
  pos : Space
  vel : Space
  facing : Single
  angle : Single
  life : Int32
  lifeMax : Int32
  power : Int32
  powerMax : Int32
  attackMul : Single
  /-- Multiplier of the defence against damage. -/
  defenceMul : Single
  /-- Whether the multiplier waits for hits. -/
  defenceMulOnHit : Bool
  ctrl : Bool
  state : StateStatus
  anim : Int32
  animElem : Int32
  spritePriority : Int32
  /-- Ticks for which blocks are held. -/
  hitPauseTime : Int32
  hitCount : Int32
  uniqueHitCount : Int32
  moveHit : Bool
  moveContact : Bool
  juggle : Int32
  vars : Variables
  /-- Named numbers of the entity's scripts. -/
  names : NameTable
  targets : List EntityId
  explods : List Explod
  projectiles : List Projectile
  clipboard : List String
  constants : EntityConstants
  binding : Option Binding
  /-- Whether the position is held for the present tick. -/
  posFreeze : Bool
  pending : Option StateRequest
  memory : BlockMemory
  deriving DecidableEq

/-- **A new entity** of a player. -/
def Entity.fresh (id : Int32) (playerNo : Nat) (name : String) : Entity where
  id := id
  playerNo := playerNo
  name := name
  isHelper := false
  helperId := 0
  parent := none
  root := none
  teamSide := 1
  localScale := .one
  pos := .zero
  vel := .zero
  facing := .one
  angle := .zero
  life := EntityConstants.standard.life
  lifeMax := EntityConstants.standard.life
  power := 0
  powerMax := EntityConstants.standard.power
  attackMul := .one
  defenceMul := .one
  defenceMulOnHit := false
  ctrl := true
  state := ⟨0, 0, 0, .standing, .idle, .idle, .standing, playerNo⟩
  anim := 0
  animElem := 1
  spritePriority := 0
  hitPauseTime := 0
  hitCount := 0
  uniqueHitCount := 0
  moveHit := false
  moveContact := false
  juggle := 0
  vars := .zero
  names := .empty
  targets := []
  explods := []
  projectiles := []
  clipboard := []
  constants := .standard
  binding := none
  posFreeze := false
  pending := none
  memory := .empty

namespace Entity

/-! ## Vitals, hits and animation -/

def alive (e : Entity) : Bool := 0 < e.life

/-- Whether the hit pause holds its blocks. -/
def isPaused (e : Entity) : Bool := 0 < e.hitPauseTime

/-- A number moved into `0 ..= most`. -/
def limited (most n : Int32) : Int32 := if n < 0 then 0 else if most < n then most else n

def setLife (e : Entity) (life : Int32) : Entity := { e with life := limited e.lifeMax life }

def setPower (e : Entity) (power : Int32) : Entity :=
  { e with power := limited e.powerMax power }

/-- The sum, or the nearest bound of the type. -/
def saturatingAdd (a b : Int32) : Int32 := Int32.ofIntClamp (a.toInt + b.toInt)

def addPower (e : Entity) (amount : Int32) : Entity := e.setPower (saturatingAdd e.power amount)

/-- The old intent becomes the previous one. -/
def setMoveType (e : Entity) (m : MoveType) : Entity :=
  { e with state := { e.state with moveType := m, previousMoveType := e.state.moveType } }

/-- Elements count from one. -/
def setAnim (e : Entity) (anim elem : Int32) : Entity :=
  { e with anim := anim, animElem := if elem < 1 then 1 else elem }

/-- Adds to both hit counters. -/
def addHits (e : Entity) (n : Int32) : Entity :=
  { e with hitCount := saturatingAdd e.hitCount n,
           uniqueHitCount := saturatingAdd e.uniqueHitCount n }

def clearMoveHit (e : Entity) : Entity := { e with moveHit := false, moveContact := false }

/-- **Defence applied to damage**: at least one, and multiplied unless that waits for hits. -/
def effectiveDefence (e : Entity) : Single :=
  let defence := Single.ofInt32 (if e.constants.defence < 1 then 1 else e.constants.defence)
  if e.defenceMulOnHit then defence else defence * e.defenceMul

/-! ## Owned effects -/

/-- Whether a selector means an id; a negative one means every id. -/
def selects (selector id : Int32) : Bool := selector < 0 || id == selector

def explodCount (e : Entity) (selector : Int32) : Nat :=
  (e.explods.filter fun x => selects selector x.id).length

/-- Removes the effects that the selector means. -/
def removeExplods (e : Entity) (selector : Int32) : Entity :=
  { e with explods := e.explods.filter fun x => !selects selector x.id }

/-- Changes the effects that the selector means. -/
def mapExplods (e : Entity) (selector : Int32) (f : Explod → Explod) : Entity :=
  { e with explods := e.explods.map fun x => if selects selector x.id then f x else x }

def projectileCount (e : Entity) (selector : Int32) : Nat :=
  (e.projectiles.filter fun p => selects selector p.id).length

end Entity
end TickScript
