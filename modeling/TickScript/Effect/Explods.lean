import TickScript.Effect.Motion

/-! # Visual effects

    Explods are records that an entity owns.  They are added, changed and removed by id, where a
    negative id means all of them.
-/

namespace TickScript.Effect

namespace ExplodTag

@[match_pattern] def anim : UInt8 := 0
@[match_pattern] def id : UInt8 := 1
@[match_pattern] def pos : UInt8 := 2
@[match_pattern] def facing : UInt8 := 3
@[match_pattern] def removeTime : UInt8 := 4
@[match_pattern] def scale : UInt8 := 5
@[match_pattern] def bindTime : UInt8 := 6

end ExplodTag

/-- **What a new explod asks for.** -/
structure ExplodPlan where
  explod : Explod
  /-- Relative to the owner's facing. -/
  facing : Int32

/-- A facing relative to another one: against it if the number is negative. -/
def relativeFacing (n : Int32) (facing : Single) : Single := if n < 0 then -facing else facing

/-- One or two scales; a missing second one equals the first. -/
def scalePair {σ : Type} (r : ArgRecord) : Visiting σ Plane := do
  let (x, y) ← Visiting.pair r
  return ⟨x, y.getD x⟩

/-- Changes the explod of a plan. -/
def reviseExplod (f : Explod → Explod) : Visiting ExplodPlan Unit :=
  Visiting.revise fun p => { p with explod := f p.explod }

/-- One record of a new explod. -/
def explodRecord (r : ArgRecord) : Visiting ExplodPlan Unit := do
  match r.tag with
  | ExplodTag.anim =>
    let n ← Visiting.int r
    reviseExplod fun x => { x with anim := n }
  | ExplodTag.id =>
    let n ← Visiting.int r
    reviseExplod fun x => { x with id := n }
  | ExplodTag.pos =>
    let pos ← lengthPair r (← Visiting.plan).explod.pos
    reviseExplod fun x => { x with pos := pos }
  | ExplodTag.facing =>
    let n ← Visiting.int r
    Visiting.revise fun p => { p with facing := n }
  | ExplodTag.removeTime =>
    let n ← Visiting.int r
    reviseExplod fun x => { x with removeTime := n }
  | ExplodTag.scale =>
    let scale ← scalePair r
    reviseExplod fun x => { x with scale := scale }
  | ExplodTag.bindTime =>
    let n ← Visiting.int r
    reviseExplod fun x => { x with bindTime := n }
  | _ => pure ()

/-- **Adds an explod** to the target. -/
def explod (origin : EntityId) (args : ArgBlock) : Act Unit :=
  afterVisit origin args (⟨.fresh, 1⟩ : ExplodPlan) explodRecord fun t p =>
    Act.update t.id fun e =>
      { e with explods :=
          e.explods ++ [{ p.explod with facing := relativeFacing p.facing e.facing }] }

/-! ## Changing explods -/

/-- Changes the selected explods of the target. -/
def updateExplods (f : Entity → Explod → Explod) : Visiting Int32 Unit := do
  let id ← Visiting.plan
  Visiting.updateTarget fun e => e.mapExplods id (f e)

/-- One record that changes the selected explods. -/
def modifyRecord (r : ArgRecord) : Visiting Int32 Unit := do
  match r.tag with
  | ExplodTag.anim =>
    let n ← Visiting.int r
    updateExplods fun _ x => { x with anim := n }
  | ExplodTag.pos =>
    let (x, y) ← Visiting.pair r
    let t ← Visiting.target
    updateExplods fun _ e =>
      { e with pos := ⟨x * t.ratio, (y.map (· * t.ratio)).getD e.pos.y⟩ }
  | ExplodTag.facing =>
    let n ← Visiting.int r
    updateExplods fun owner x => { x with facing := relativeFacing n owner.facing }
  | ExplodTag.scale =>
    let scale ← scalePair r
    updateExplods fun _ x => { x with scale := scale }
  | ExplodTag.removeTime =>
    let n ← Visiting.int r
    updateExplods fun _ x => { x with removeTime := n }
  | ExplodTag.bindTime =>
    let n ← Visiting.int r
    updateExplods fun _ x => { x with bindTime := n }
  | _ => pure ()

/-- **Changes the explods with an id.**  The visit ends at the first record that finds none. -/
def modifyExplod (origin : EntityId) (args : ArgBlock) : Act Unit := do
  let _ ← visitBlock origin args (-1 : Int32) Visiting.redirect fun r => do
    match r.tag with
    | ExplodTag.id =>
      let n ← Visiting.int r
      Visiting.revise fun _ => n
      return true
    | _ =>
      let e ← Visiting.targetEntity
      if e.explodCount (← Visiting.plan) = 0 then return false
      else
        modifyRecord r
        return true

namespace ExplodTimeTag

@[match_pattern] def id : UInt8 := 0
@[match_pattern] def time : UInt8 := 1

end ExplodTimeTag

/-- Which explods follow their owner, and for how long. -/
structure ExplodTimePlan where
  id : Int32
  time : Int32

/-- **Sets how long explods follow their owner.** -/
def explodBindTime (origin : EntityId) (args : ArgBlock) : Act Unit :=
  afterVisit origin args (⟨-1, 0⟩ : ExplodTimePlan)
    (fun r => do
      match r.tag with
      | ExplodTimeTag.id =>
        let n ← Visiting.int r
        Visiting.revise fun p => { p with id := n }
      | ExplodTimeTag.time =>
        let n ← Visiting.int r
        Visiting.revise fun p => { p with time := n }
      | _ => pure ())
    fun t p => Act.update t.id fun e => e.mapExplods p.id fun x => { x with bindTime := p.time }

/-- **Removes explods**, all of them unless a record says which. -/
def removeExplod (origin : EntityId) (args : ArgBlock) : Act Unit :=
  afterVisit origin args (-1 : Int32)
    (fun r => do
      match r.tag with
      | valueTag =>
        let n ← Visiting.int r
        Visiting.revise fun _ => n
      | _ => pure ())
    fun t id => Act.update t.id fun e => e.removeExplods id

end TickScript.Effect
