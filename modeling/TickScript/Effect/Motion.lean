import TickScript.Effect.Transition

/-! # Position, velocity, rotation and binding

    Horizontal velocity is relative to facing.  Lengths are converted into the target's
    coordinates after a redirect; multipliers are not.
-/

namespace TickScript.Effect

/-! ## Vectors -/

/-- An axis of space. -/
inductive SpaceAxis where
  | x
  | y
  | z
  deriving DecidableEq

/-- What a vector effect does to one axis. -/
inductive VectorOp where
  | posSet
  | posAdd
  | velSet
  | velAdd
  | velMul
  deriving DecidableEq

/-- Changes one component. -/
def modifyAxis (axis : SpaceAxis) (f : Single → Single) (v : Space) : Space :=
  match axis with
  | .x => { v with x := f v.x }
  | .y => { v with y := f v.y }
  | .z => { v with z := f v.z }

namespace VectorOp

/-- The effect on one axis.  Moving along the first axis goes along facing. -/
def apply (op : VectorOp) (axis : SpaceAxis) (v : Single) (e : Entity) : Entity :=
  match op with
  | posSet => { e with pos := modifyAxis axis (fun _ => v) e.pos }
  | posAdd =>
    let step := if axis = .x then v * e.facing else v
    { e with pos := modifyAxis axis (· + step) e.pos }
  | velSet => { e with vel := modifyAxis axis (fun _ => v) e.vel }
  | velAdd => { e with vel := modifyAxis axis (· + v) e.vel }
  | velMul => { e with vel := modifyAxis axis (· * v) e.vel }

/-- Whether the argument is a length. -/
def scales : VectorOp → Bool
  | velMul => false
  | _ => true

end VectorOp

/-- The axis that a tag of a vector effect names. -/
def vectorAxis? (tag : UInt8) : Option SpaceAxis :=
  if tag = 0 then some .x else if tag = 1 then some .y else if tag = 2 then some .z else none

/-- **Sets, adds to or multiplies** position or velocity, axis by axis. -/
def vector (op : VectorOp) (origin : EntityId) (args : ArgBlock) : Act Unit :=
  eachRecord origin args fun r => do
    match vectorAxis? r.tag with
    | none => pure ()
    | some axis =>
      let v ← Visiting.single r
      let t ← Visiting.target
      Visiting.updateTarget (op.apply axis (if op.scales then v * t.ratio else v))

/-- The axis that a tag of a velocity effect on targets names; tag zero narrows them. -/
def targetAxis? (tag : UInt8) : Option SpaceAxis :=
  if tag = 1 then some .x else if tag = 2 then some .y else none

/-- **Sets or adds to the velocity of the targets.** -/
def targetVelocity (op : VectorOp) (origin : EntityId) (args : ArgBlock) : Act Unit := do
  let _ ← visitTargets origin args () fun r => do
    match r.tag with
    | TargetTag.id => Selection.narrow r
    | tag =>
      match targetAxis? tag with
      | none => return true
      | some axis => Selection.each fun ids => do
          let v ← Visiting.single r
          let t ← Visiting.target
          ids.forM fun id => Act.update id (op.apply axis (v * t.ratio))

/-- **Lets the entity fall**, once for each record. -/
def gravity (origin : EntityId) (args : ArgBlock) : Act Unit :=
  eachRecord origin args fun r => do
    match r.tag with
    | valueTag => Visiting.updateTarget fun e =>
        { e with vel := { e.vel with y := e.vel.y + e.constants.yAccel } }
    | _ => pure ()

/-- **Holds the position** for the present tick. -/
def posFreeze (origin : EntityId) (args : ArgBlock) : Act Unit :=
  eachRecord origin args fun r => do
    match r.tag with
    | valueTag =>
      if ← Visiting.bool r then Visiting.updateTarget fun e => { e with posFreeze := true }
    | _ => pure ()

/-! ## Rotation -/

/-- What a rotation does to the angle. -/
inductive AngleOp where
  | set
  | add
  | mul
  deriving DecidableEq

/-- The new angle. -/
def AngleOp.apply (op : AngleOp) (angle v : Single) : Single :=
  match op with
  | .set => v
  | .add => angle + v
  | .mul => angle * v

/-- **Rotates**, in degrees.  A missing value counts as zero. -/
def rotate (op : AngleOp) (origin : EntityId) (args : ArgBlock) : Act Unit :=
  afterVisit origin args Single.zero
    (fun r => do
      match r.tag with
      | valueTag =>
        let v ← Visiting.single r
        Visiting.revise fun _ => v
      | _ => pure ())
    fun t v => Act.update t.id fun e => { e with angle := op.apply e.angle v }

/-! ## Binding -/

namespace BindTag

@[match_pattern] def time : UInt8 := 0
@[match_pattern] def facing : UInt8 := 1
@[match_pattern] def pos : UInt8 := 2

end BindTag

/-- Whom a binding locks onto. -/
inductive Anchor where
  | parent
  | root
  deriving DecidableEq

/-- The anchor of an entity. -/
def Anchor.resolve (r : Roster) (id : EntityId) : Anchor → Option EntityId
  | .parent => r.parent id
  | .root => r.root id

/-- **What a binding asks for.** -/
structure BindPlan where
  time : Int32
  facing : Option Single
  offset : Plane

/-- A pair of lengths in the target's coordinates; a missing second one stays as it was. -/
def lengthPair {σ : Type} (r : ArgRecord) (old : Plane) : Visiting σ Plane := do
  let (x, y) ← Visiting.pair r
  let t ← Visiting.target
  return ⟨x * t.ratio, (y.map (· * t.ratio)).getD old.y⟩

/-- One record of a binding. -/
def bindRecord (r : ArgRecord) : Visiting BindPlan Unit := do
  match r.tag with
  | BindTag.time =>
    let n ← Visiting.int r
    Visiting.revise fun p => { p with time := n }
  | BindTag.facing =>
    let n ← Visiting.int r
    if n ≠ 0 then Visiting.revise fun p => { p with facing := some (Single.ofInt32 (signum n)) }
  | BindTag.pos =>
    let offset ← lengthPair r (← Visiting.plan).offset
    Visiting.revise fun p => { p with offset := offset }
  | _ => pure ()

/-- **Binds the target to a relative** for a number of turns, one by default; zero releases it.
    Without that relative nothing happens. -/
def bind (anchor : Anchor) (origin : EntityId) (args : ArgBlock) : Act Unit :=
  afterVisit origin args (⟨1, none, .zero⟩ : BindPlan) bindRecord fun t p => do
    match anchor.resolve (← Act.roster) t.id with
    | none => pure ()
    | some other => Act.update t.id fun e =>
        { e with binding := if p.time ≠ 0 then some ⟨other, p.time, p.offset, p.facing⟩ else none }

end TickScript.Effect
