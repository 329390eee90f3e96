import TickScript.Eval.Instruction
import TickScript.Proofs.Action
import TickScript.Proofs.Bytecode.Reading
import TickScript.Proofs.Roster.Lookup

/-! # Expression trees

    A tree is an expression before it is assembled.  It has two readings: `Tree.bytes` assembles
    it, and `Tree.value` evaluates it directly, by recursion on the tree and without code, stack
    or offsets.  That both agree is the subject of the next module.

    Evaluating a tree may change variables of entities, but never who is live
    (`Tree.keeps_runOrder`), and it gives a value as soon as the tree reads only slots that the
    current window has (`Tree.exists_value`).
-/

namespace TickScript

/-! ## Literals -/

namespace Value

/-- Whether there is a literal that pushes the value: no NaN, unset or failed value has one. -/
def HasLiteral : Value → Prop
  | .int _ | .bool _ => True
  | .float s => s.isNaN = false
  | .unset | .failed => False

/-- What the literal pushes: truth values are written as numbers. -/
def ofLiteral : Value → Value
  | .bool b => .int (if b then 1 else 0)
  | v => v

end Value

/-- The store operation of a mode. -/
def UpdateMode.storeOp : UpdateMode → VariableBank → StoreOp
  | .set => .set
  | .add => .add

/-! ## Trees -/

/-- **Expression tree.** -/
inductive Tree where
  | literal (v : Value) (has : v.HasLiteral)
  /-- A slot of the current window. -/
  | slot (n : UInt8)
  | entityVar (bank : VariableBank) (index : Tree)
  | unary (op : UnaryOp) (argument : Tree)
  | binary (op : BinaryOp) (left right : Tree)
  /-- Evaluates both alternatives and chooses one of their values. -/
  | ifElse (condition yes no : Tree)
  /-- Updates a variable; its value is the number written. -/
  | update (mode : UpdateMode) (bank : VariableBank) (index value : Tree)
  | run (body : Tree)
  | runUnredirected (body : Tree)
  /-- A body for the entity in a role.  The selector is there for the roles that take one. -/
  | redirect (role : Role) (selector body : Tree)
  /-- Evaluates one of two arms: `jumped` if the jump is taken on the condition, `passed` if it
      is not. -/
  | branch (test : JumpTest) (conditional : test ≠ .always) (condition passed jumped : Tree)

/-- **Two arms behind a condition.**  Both jumps are emitted open and closed when the code they
    lead to is reached. -/
def Expression.arms (test : JumpTest) (condition passed jumped : Expression) : Expression :=
  let (code, toJumped) := openJump (.jumpLong test) condition
  let (code, toEnd) := openJump (.jumpLong .always) (code ++ passed)
  let code := closeJump code toJumped
  closeJump (code ++ jumped) toEnd

/-- The first jump leads behind the second one, and the second one behind the last arm. -/
theorem Expression.arms_eq (test : JumpTest) (condition passed jumped : Expression) :
    arms test condition passed jumped =
      condition ++ (op (.jumpLong test) ++ Bytes.ofInt32 (.ofNat (passed.length + 5))) ++
        passed ++ (op (.jumpLong .always) ++ Bytes.ofInt32 (.ofNat jumped.length)) ++ jumped := by
  let opened := openJump (.jumpLong test) condition
  let closed := condition ++ op (.jumpLong test) ++
    Bytes.ofInt32 (.ofNat (passed.length + 5)) ++ passed
  have first : closeJump (openJump (.jumpLong .always) (opened.1 ++ passed)).1 opened.2 =
      (openJump (.jumpLong .always) closed).1 := by
    have split : (openJump (.jumpLong .always) (opened.1 ++ passed)).1 =
        opened.1 ++ (passed ++ op (.jumpLong .always) ++ Bytes.ofInt32 0) := by
      simp [openJump]
    rw [split, closeJump_openJump]
    simp [openJump, closed]
  have second : (openJump (.jumpLong .always) (opened.1 ++ passed)).2 =
      (openJump (.jumpLong .always) closed).2 := by
    simp [openJump, opened, closed]
  have whole : arms test condition passed jumped =
      closeJump ((openJump (.jumpLong .always) closed).1 ++ jumped)
        (openJump (.jumpLong .always) closed).2 := by
    rw [← first, ← second]
    rfl
  rw [whole, closeJump_openJump]
  simp [closed]

namespace Tree

/-- **The assembled tree.** -/
def bytes : Tree → Expression
  | literal v _ => (Expression.literal? v).getD []
  | slot n => Expression.op .windowSlot ++ [n]
  | entityVar bank index => index.bytes ++ Expression.op (.entityVar bank)
  | unary op x => x.bytes ++ Expression.op (.unary op)
  | binary op x y => x.bytes ++ y.bytes ++ Expression.op (.binary op)
  | ifElse c x y => c.bytes ++ x.bytes ++ y.bytes ++ Expression.op .ifElse
  | update mode bank index x => index.bytes ++ x.bytes ++ Expression.store (mode.storeOp bank)
  | run body => Expression.run body.bytes
  | runUnredirected body => Expression.runUnredirected body.bytes
  | redirect role selector body =>
    (if role.takesSelector then selector.bytes else []) ++
      Expression.redirect (.redirect role) body.bytes
  | branch test _ c passed jumped => Expression.arms test c.bytes passed.bytes jumped.bytes

/-! ## Direct evaluation -/

/-- A result that may be a fault. -/
def ofExcept : Except Fault α → EStateM Fault Roster α
  | .ok a => pure a
  | .error f => throw f

/-- The entity that must be live. -/
def entity (id : EntityId) : EStateM Fault Roster Entity := do ofExcept ((← get).get id)

/-- An evaluation for the entity in a role; its value is `failed` if there is none. -/
def onRole (role : Role) (selector : Value) (id : EntityId)
    (body : EntityId → EStateM Fault Roster Value) : EStateM Fault Roster Value := do
  match (← get).resolve id selector.toInt32 role with
  | some target => body target
  | none => return .failed

/-- **The value of a tree** for an entity; what it writes goes into the roster. -/
def value (ctx : EvalContext) : Tree → EntityId → EStateM Fault Roster Value
  | literal v _, _ => return v.ofLiteral
  | slot n, _ => ofExcept (ctx.windows.get n.toNat)
  | entityVar bank index, id => do
    let i ← index.value ctx id
    let e ← entity id
    return e.vars.read bank i.toInt32
  | unary op x, id => do
    let a ← x.value ctx id
    return op.apply a
  | binary op x y, id => do
    let a ← x.value ctx id
    let b ← y.value ctx id
    return op.apply ctx.powOrder a b
  | ifElse c x y, id => do
    let chosen ← c.value ctx id
    let a ← x.value ctx id
    let b ← y.value ctx id
    return if chosen.toBool then a else b
  | update mode bank index x, id => do
    let i ← index.value ctx id
    let v ← x.value ctx id
    let e ← entity id
    let r := e.updateVariable mode bank i.toInt32 v
    modify fun roster => roster.modify id fun _ => r.1
    return r.2
  | run body, id => body.value ctx id
  | runUnredirected body, id => body.value ctx id
  | redirect role selector body, id => do
    let s ← (if role.takesSelector then selector.value ctx id else pure .unset)
    onRole role s id (body.value ctx)
  | branch test _ c passed jumped, id => do
    let condition ← c.value ctx id
    if test.holds condition.toBool then jumped.value ctx id else passed.value ctx id

section

variable {role : Role} {selector : Value} {id target : EntityId} {r : Roster}
  {body : EntityId → EStateM Fault Roster Value}

theorem onRole_some (found : r.resolve id selector.toInt32 role = some target) :
    onRole role selector id body r = body target r := by
  have seen : (get : EStateM Fault Roster Roster) r = .ok r r := rfl
  refine (bind_of_ok seen).trans ?_
  rw [found]

theorem onRole_none (nobody : r.resolve id selector.toInt32 role = none) :
    onRole role selector id body r = .ok .failed r := by
  have seen : (get : EStateM Fault Roster Roster) r = .ok r r := rfl
  refine (bind_of_ok seen).trans ?_
  rw [nobody]
  rfl

end

/-! ## Who is live -/

theorem keeps_entity (F : Footprint Roster) (id : EntityId) : F.Keeps (entity id) := by
  refine Footprint.Keeps.bind Footprint.Keeps.get fun r => ?_
  cases r.get id with
  | ok e => exact Footprint.Keeps.pure e
  | error f => exact Footprint.Keeps.throw f

theorem keeps_onRole (F : Footprint Roster) {role : Role} (selector : Value) (id : EntityId)
    {body : EntityId → EStateM Fault Roster Value} (h : ∀ target, F.Keeps (body target)) :
    F.Keeps (onRole role selector id body) := by
  refine Footprint.Keeps.bind Footprint.Keeps.get fun r => ?_
  cases r.resolve id selector.toInt32 role with
  | some target => exact h target
  | none => exact Footprint.Keeps.pure _

/-- **Evaluating a tree leaves the same entities live.** -/
theorem keeps_runOrder (ctx : EvalContext) (t : Tree) (id : EntityId) :
    (Footprint.fixing Roster.runOrder).Keeps (t.value ctx id) := by
  induction t generalizing id with
  | literal v has => exact .pure _
  | slot n =>
    simp only [value]
    cases ctx.windows.get n.toNat with
    | ok v => exact .pure v
    | error f => exact .throw f
  | entityVar bank index ih => exact (ih id).bind fun _ => (keeps_entity _ id).bind fun _ => .pure _
  | unary op x ih => exact (ih id).bind fun _ => .pure _
  | binary op x y ihx ihy => exact (ihx id).bind fun _ => (ihy id).bind fun _ => .pure _
  | ifElse c x y ihc ihx ihy =>
    exact (ihc id).bind fun _ => (ihx id).bind fun _ => (ihy id).bind fun _ => .pure _
  | update mode bank index x ihi ihx =>
    refine (ihi id).bind fun _ => (ihx id).bind fun _ => (keeps_entity _ id).bind fun e => ?_
    exact (Footprint.Keeps.modify fun r => Roster.runOrder_modify _).bind fun _ => .pure _
  | run body ih => exact ih id
  | runUnredirected body ih => exact ih id
  | redirect role selector body ihs ihb =>
    exact (Footprint.Keeps.ite (ihs id) (.pure _)).bind fun s => keeps_onRole _ s id ihb
  | branch test conditional c passed jumped ihc ihp ihj =>
    exact (ihc id).bind fun _ => .ite (ihj id) (ihp id)

theorem isLive_of_value {ctx : EvalContext} {t : Tree} {id other : EntityId} {r r' : Roster}
    {v : Value} (run : t.value ctx id r = .ok v r') (live : r.isLive other) : r'.isLive other := by
  have same : r'.runOrder = r.runOrder := (keeps_runOrder ctx t id).ok run
  rw [Roster.isLive_iff_mem_runOrder] at live ⊢
  rwa [same]

/-! ## Trees that have a value -/

/-- Whether all slots that the tree reads are slots of the current window. -/
def InWindow (w : Windows) : Tree → Prop
  | literal .. => True
  | slot n => n.toNat < w.current.length
  | entityVar _ index => index.InWindow w
  | unary _ x => x.InWindow w
  | binary _ x y => x.InWindow w ∧ y.InWindow w
  | ifElse c x y => c.InWindow w ∧ x.InWindow w ∧ y.InWindow w
  | update _ _ index x => index.InWindow w ∧ x.InWindow w
  | run body => body.InWindow w
  | runUnredirected body => body.InWindow w
  | redirect role selector body =>
    (role.takesSelector → selector.InWindow w) ∧ body.InWindow w
  | branch _ _ c passed jumped => c.InWindow w ∧ passed.InWindow w ∧ jumped.InWindow w

theorem entity_of_get? {r : Roster} {id : EntityId} {e : Entity} (present : r.get? id = some e) :
    entity id r = .ok e r := by
  have found : ofExcept (r.get id) r = .ok e r := by
    rw [Roster.get_of_get? present]
    rfl
  exact found

/-- **A tree whose slots are there has a value** for every live entity. -/
theorem exists_value {ctx : EvalContext} {t : Tree} {id : EntityId} {r : Roster}
    (slots : t.InWindow ctx.windows) (live : r.isLive id) : ∃ v r', t.value ctx id r = .ok v r' := by
  induction t generalizing id r with
  | literal v has => exact ⟨_, _, rfl⟩
  | slot n =>
    refine ⟨ctx.windows.current[n.toNat], r, ?_⟩
    simp only [value, Windows.get, List.getElem?_eq_getElem slots]
    rfl
  | entityVar bank index ih =>
    obtain ⟨i, r₁, first⟩ := ih slots live
    obtain ⟨e, present⟩ := Roster.isLive_iff.mp (isLive_of_value first live)
    exact ⟨_, _, (bind_of_ok first).trans (bind_of_ok (entity_of_get? present))⟩
  | unary op x ih =>
    obtain ⟨a, r₁, first⟩ := ih slots live
    exact ⟨_, _, bind_of_ok first⟩
  | binary op x y ihx ihy =>
    obtain ⟨a, r₁, first⟩ := ihx slots.1 live
    obtain ⟨b, r₂, second⟩ := ihy slots.2 (isLive_of_value first live)
    exact ⟨_, _, (bind_of_ok first).trans (bind_of_ok second)⟩
  | ifElse c x y ihc ihx ihy =>
    obtain ⟨a, r₁, first⟩ := ihc slots.1 live
    have live₁ := isLive_of_value first live
    obtain ⟨b, r₂, second⟩ := ihx slots.2.1 live₁
    obtain ⟨d, r₃, third⟩ := ihy slots.2.2 (isLive_of_value second live₁)
    exact ⟨_, _, (bind_of_ok first).trans ((bind_of_ok second).trans (bind_of_ok third))⟩
  | update mode bank index x ihi ihx =>
    obtain ⟨i, r₁, first⟩ := ihi slots.1 live
    have live₁ := isLive_of_value first live
    obtain ⟨v, r₂, second⟩ := ihx slots.2 live₁
    obtain ⟨e, present⟩ := Roster.isLive_iff.mp (isLive_of_value second live₁)
    have look := entity_of_get? present
    exact ⟨_, _, (bind_of_ok first).trans ((bind_of_ok second).trans (bind_of_ok look))⟩
  | run body ih => exact ih slots live
  | runUnredirected body ih => exact ih slots live
  | redirect role selector body ihs ihb =>
    have selected : ∃ s r₁, (if role.takesSelector then selector.value ctx id
        else pure .unset) r = .ok s r₁ := by
      split
      case isTrue takes => exact ihs (slots.1 takes) live
      case isFalse => exact ⟨.unset, r, rfl⟩
    obtain ⟨s, r₁, first⟩ := selected
    cases answer : r₁.resolve id s.toInt32 role with
    | none => exact ⟨.failed, r₁, (bind_of_ok first).trans (onRole_none answer)⟩
    | some target =>
      obtain ⟨v, r₂, second⟩ := ihb slots.2 (Roster.isLive_of_resolve answer)
      exact ⟨v, r₂, (bind_of_ok first).trans ((onRole_some answer).trans second)⟩
  | branch test conditional c passed jumped ihc ihp ihj =>
    obtain ⟨a, r₁, first⟩ := ihc slots.1 live
    have live₁ := isLive_of_value first live
    have second : ∃ v r', (if test.holds a.toBool then jumped.value ctx id
        else passed.value ctx id) r₁ = .ok v r' := by
      split
      · exact ihj slots.2.2 live₁
      · exact ihp slots.2.1 live₁
    obtain ⟨v, r₂, second⟩ := second
    exact ⟨v, r₂, (bind_of_ok first).trans second⟩

end Tree
end TickScript
