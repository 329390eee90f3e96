import TickScript.Effect.Transition

/-! # Variables and named numbers
-/

namespace TickScript.Effect

/-- **Runs store expressions for the target**, not for the origin. -/
def varSet (origin : EntityId) (args : ArgBlock) : Act Unit :=
  eachRecord origin args fun r => do
    match r.tag with
    | valueTag =>
      let code ← Act.ofExcept (r.expression 0)
      let t ← Visiting.target
      let _ ← Act.evaluate code t.id
    | _ => pure ()

namespace RangeTag

@[match_pattern] def first : UInt8 := 0
@[match_pattern] def last : UInt8 := 1
@[match_pattern] def value : UInt8 := 2
@[match_pattern] def floatValue : UInt8 := 3

end RangeTag

/-- The range that is filled. -/
structure RangePlan where
  first : Int32
  last : Int32

/-- Whether the range lies inside an array. -/
def RangePlan.fits (p : RangePlan) (size : Int32) : Bool := 0 ≤ p.first && p.last < size

/-- The places of a range, both ends included. -/
def RangePlan.places (p : RangePlan) : List Int32 :=
  (List.range (p.last.toInt + 1 - p.first.toInt).toNat).map fun (i : Nat) =>
    Int32.ofInt (p.first.toInt + i)

/-- Fills a range of an array. -/
def fillRange (p : RangePlan) (bank : VariableBank) (v : Value) (e : Entity) : Entity :=
  p.places.foldl (fun e i => (e.updateVariable .set bank i v).1) e

/-- **Fills a range of variables**, with the bounds of the last records before.  A range that
    reaches outside the array is ignored. -/
def varRangeSet (origin : EntityId) (args : ArgBlock) : Act Unit := do
  let _ ← visitBlock origin args (⟨0, 0⟩ : RangePlan) Visiting.redirect fun r => do
    match r.tag with
    | RangeTag.first =>
      let n ← Visiting.int r
      Visiting.revise fun p => { p with first := n }
    | RangeTag.last =>
      let n ← Visiting.int r
      Visiting.revise fun p => { p with last := n }
    | RangeTag.value =>
      let n ← Visiting.int r
      let p ← Visiting.plan
      if p.fits 60 then
        Visiting.updateTarget (fillRange p .ints (.ofInt32 n))
    | RangeTag.floatValue =>
      let v ← Visiting.single r
      let p ← Visiting.plan
      if p.fits 40 then
        Visiting.updateTarget (fillRange p .singles (.float v))
    | _ => pure ()
    return true

namespace RandomTag

@[match_pattern] def index : UInt8 := 0
@[match_pattern] def range : UInt8 := 1

end RandomTag

/-- **What a random variable asks for.** -/
structure RandomPlan where
  index : Int32
  low : Int32
  high : Int32

/-- **Stores a random integer.**  The range is an upper bound or both bounds, `0` and `1000` by
    default. -/
def varRandom (origin : EntityId) (args : ArgBlock) : Act Unit :=
  afterVisit origin args (⟨0, 0, 1000⟩ : RandomPlan)
    (fun r => do
      match r.tag with
      | RandomTag.index =>
        let n ← Visiting.int r
        Visiting.revise fun p => { p with index := n }
      | RandomTag.range =>
        let a ← Visiting.int r
        match ← Visiting.argument? r 1 with
        | some b => Visiting.revise fun p => { p with low := a, high := b.toInt32 }
        | none => Visiting.revise fun p => { p with low := 0, high := a }
      | _ => pure ())
    fun t p => do
      let n ← Act.random p.low p.high
      Act.update t.id fun e => (e.updateVariable .set .ints p.index (.ofInt32 n)).1

namespace NameTag

/-- The name, as text. -/
@[match_pattern] def name : UInt8 := 0
@[match_pattern] def value : UInt8 := 1
/-- One adds, anything else sets. -/
@[match_pattern] def mode : UInt8 := 2

end NameTag

/-- **What an update of a named number asks for.** -/
structure NamePlan where
  name : String
  value : Single
  mode : UpdateMode

/-- **Updates a named number**; an empty name changes nothing. -/
def mapSet (origin : EntityId) (args : ArgBlock) : Act Unit :=
  afterVisit origin args (⟨"", .zero, .set⟩ : NamePlan)
    (fun r => do
      match r.tag with
      | NameTag.name =>
        let s ← Visiting.text r
        Visiting.revise fun p => { p with name := s }
      | NameTag.value =>
        let v ← Visiting.single r
        Visiting.revise fun p => { p with value := v }
      | NameTag.mode =>
        let n ← Visiting.int r
        Visiting.revise fun p => { p with mode := if n = 1 then .add else .set }
      | _ => pure ())
    fun t p =>
      if p.name = "" then pure ()
      else Act.update t.id fun e => (e.updateNamed p.mode p.name p.value).1

end TickScript.Effect
