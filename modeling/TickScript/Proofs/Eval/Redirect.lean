import TickScript.Proofs.Eval.Footprint
import TickScript.Proofs.Eval.Plain
import TickScript.Roster.Lifecycle

/-! # Redirects

    A redirect pops its selector and looks for the entity in the role.  If there is one, it is
    the current entity of the next instruction only; if there is none, the read is skipped and a
    `failed` value stands in for its result.

    The read is a nested run, which then has the entity found as its origin, or one plain
    instruction, which keeps the origin.  `runFrom_redirect` says what becomes of either, for
    every read, whatever follows it, and whatever the nested run does.
-/

namespace TickScript

open Expression (Holds)

/-- The stack on which a role is resolved: the selector is there if the role takes one. -/
def Role.operands (role : Role) (selector : Value) (rest : Stack) : Stack :=
  if role.takesSelector then selector :: rest else rest

/-- The selector of a role, if the stack has what the role takes. -/
def Role.selector? (role : Role) (stack : Stack) : Option Int32 :=
  if role.takesSelector then stack.head?.map Value.toInt32 else some 0

namespace Bench

/-- The bench after a redirect has popped its selector. -/
def redirected (b : Bench) (role : Role) (rest : Stack) : Bench :=
  { b.counted (.redirect role) with stack := rest }

/-- The bench after a redirect that found nobody. -/
def unanswered (b : Bench) (role : Role) (rest : Stack) : Bench :=
  { b.redirected role rest with
    stack := .failed :: rest
    profile := (b.redirected role rest).profile.recordFailedRedirect }

end Bench

namespace Eval

variable {ctx : EvalContext} {code : Expression} {offset : Nat} {current origin target : EntityId}
  {role : Role} {selector : Value} {rest : Stack} {profile : Profile} {r : Roster}

/-! ## What a redirect needs -/

section

variable {b : Bench}

theorem ends_pop {done : Value → Bench → Prop}
    (ok : ∀ v rest, b.stack = v :: rest → done v { b with stack := rest }) :
    Ends pop b done fun _ _ => True := by
  obtain ⟨stack, profile, roster⟩ := b
  cases stack with
  | nil => trivial
  | cons v rest => exact ok v rest rfl

/-- Where the selector is there, a redirect depends on nothing else of the stack. -/
theorem exists_operands {stack : Stack} {s : Int32}
    (selected : role.selector? stack = some s) :
    ∃ selector rest, stack = role.operands selector rest ∧
      ∀ id (r : Roster), r.resolve id selector.toInt32 role = r.resolve id s role := by
  unfold Role.selector? at selected
  cases takes : role.takesSelector with
  | true =>
    rw [takes, if_pos rfl] at selected
    obtain ⟨v, first, rfl⟩ := Option.map_eq_some_iff.mp selected
    obtain ⟨rest, rfl⟩ := List.head?_eq_some_iff.mp first
    exact ⟨v, rest, by rw [Role.operands, takes]; rfl, fun _ _ => rfl⟩
  | false =>
    refine ⟨.int 0, stack, by rw [Role.operands, takes]; rfl, fun id r => ?_⟩
    exact Roster.resolve_of_takesSelector takes _ _

theorem live_of_entity {id : EntityId} :
    Ends (entity id) b (fun _ _ => b.roster.isLive id = true) fun _ _ => True := by
  cases present : b.roster.get? id with
  | some e => exact Ends.of_ok fun _ _ _ => Roster.isLive_iff.mpr ⟨e, present⟩
  | none =>
    rw [Ends, entity_of_none present]
    trivial

/-- A redirect faults unless its entity is live and its selector is there. -/
theorem ready_of_redirect :
    Ends (redirect code offset current origin role) b
      (fun _ _ => b.roster.isLive current = true ∧ ∃ s, role.selector? b.stack = some s)
      fun _ _ => True := by
  unfold redirect
  extract_lets look
  have looks {t : Bench} (selector : Int32) (same : t.roster = b.roster)
      (selected : role.selector? b.stack = some selector) :
      Ends (look selector) t
        (fun _ _ => b.roster.isLive current = true ∧ ∃ s, role.selector? b.stack = some s)
        fun _ _ => True := by
    refine Ends.bind (live_of_entity.mono (fun _ _ live => ?_) fun _ _ _ => trivial)
    exact Ends.of_ok fun _ _ _ => ⟨same ▸ live, selector, selected⟩
  cases takes : role.takesSelector with
  | false => exact looks 0 rfl (by rw [Role.selector?, takes]; rfl)
  | true =>
    refine Ends.bind (Ends.bind (ends_pop fun v rest top => ?_))
    exact looks v.toInt32 rfl (by rw [Role.selector?, takes, top]; rfl)

end

/-! ## The redirect itself -/

/-- The selector is popped before anything else. -/
theorem redirect_eq (live : r.isLive current) :
    instruction ctx code offset current origin (.redirect role)
        ⟨role.operands selector rest, profile, r⟩ =
      (match r.resolve current selector.toInt32 role with
        | some id => pure (.goto (offset + 4) id)
        | none => do
          recordFailedRedirect
          push .failed
          return .goto (← ofExcept (code.longTargetAt offset)) origin : Eval Continuation)
        ⟨rest, profile, r⟩ := by
  obtain ⟨e, present⟩ := Roster.isLive_iff.mp live
  have look : entity current ⟨rest, profile, r⟩ = .ok e ⟨rest, profile, r⟩ :=
    entity_of_get? present
  simp only [instruction, redirect]
  cases takes : role.takesSelector with
  | true =>
    have popped : pop ⟨role.operands selector rest, profile, r⟩ =
        .ok selector ⟨rest, profile, r⟩ := by
      simp only [Role.operands, takes]
      rfl
    have selected : (do return (← pop).toInt32 : Eval Int32)
        ⟨role.operands selector rest, profile, r⟩ = .ok selector.toInt32 ⟨rest, profile, r⟩ :=
      bind_of_ok popped
    rw [if_pos rfl, bind_of_ok selected, bind_of_ok look]
    rfl
  | false =>
    -- the zero that stands in for a selector may be replaced by any number
    have ignored : r.resolve current 0 role = r.resolve current selector.toInt32 role :=
      Roster.resolve_of_takesSelector takes 0 selector.toInt32
    rw [if_neg (by simp), ← ignored]
    simp only [Role.operands, takes, pure_bind]
    rw [if_neg (by simp), bind_of_ok look]
    rfl

/-- Someone is found: the next instruction is for them. -/
theorem redirect_some (live : r.isLive current)
    (found : r.resolve current selector.toInt32 role = some target) :
    instruction ctx code offset current origin (.redirect role)
        ⟨role.operands selector rest, profile, r⟩ =
      .ok (.goto (offset + 4) target) ⟨rest, profile, r⟩ := by
  rw [redirect_eq live, found]
  rfl

/-- Nobody is found: `failed` is pushed and the read is skipped. -/
theorem redirect_none {distance : Nat} (live : r.isLive current)
    (nobody : r.resolve current selector.toInt32 role = none)
    (held : Holds code offset (Bytes.ofInt32 (.ofNat distance))) (small : distance < 0x80000000) :
    instruction ctx code offset current origin (.redirect role)
        ⟨role.operands selector rest, profile, r⟩ =
      .ok (.goto (offset + 4 + distance) origin)
        ⟨.failed :: rest, profile.recordFailedRedirect, r⟩ := by
  rw [redirect_eq live, nobody]
  simp only [held.longTargetAt small]
  rfl

/-- A nested run starts with the current entity as its origin. -/
theorem instruction_run {body : Expression} (held : Holds code offset (body.lengthBytes ++ body))
    (small : body.length < 0x80000000) (b : Bench) :
    instruction ctx code offset current origin .run b =
      .ok (.call body current (offset + 4 + body.length) origin) b := by
  simp only [instruction, held.nestedAt small]
  rfl

/-- Such a run goes back to the origin. -/
theorem instruction_runUnredirected {body : Expression}
    (held : Holds code offset (body.lengthBytes ++ body)) (small : body.length < 0x80000000)
    (b : Bench) :
    instruction ctx code offset current origin .runUnredirected b =
      .ok (.call body origin (offset + 4 + body.length) current) b := by
  simp only [instruction, held.nestedAt small]
  rfl

/-! ## A redirect and its read -/

section

variable {read : Expression}

/-- One instruction gets to the read, with the entity found bound to it. -/
theorem runFrom_redirect_some (budget : Nat) (live : r.isLive current)
    (held : Holds code offset (Expression.redirectInline (.redirect role) read))
    (found : r.resolve current selector.toInt32 role = some target) :
    runFrom ctx origin (budget + 1) code offset current
        ⟨role.operands selector rest, profile, r⟩ =
      runFrom ctx origin budget code (offset + 5) target
        (Bench.redirected ⟨role.operands selector rest, profile, r⟩ role rest) := by
  have opcode : Holds code offset ((Opcode.redirect role).toByte :: (read.lengthBytes ++ read)) :=
    held
  rw [runFrom_instruction budget opcode]
  exact bind_of_ok (redirect_some live found)

/-- One instruction skips the read if nobody is found. -/
theorem runFrom_redirect_none (budget : Nat) (live : r.isLive current)
    (held : Holds code offset (Expression.redirectInline (.redirect role) read))
    (small : read.length < 0x80000000)
    (nobody : r.resolve current selector.toInt32 role = none) :
    runFrom ctx origin (budget + 1) code offset current
        ⟨role.operands selector rest, profile, r⟩ =
      runFrom ctx origin budget code
        (offset + (Expression.redirectInline (.redirect role) read).length) origin
        (Bench.unanswered ⟨role.operands selector rest, profile, r⟩ role rest) := by
  have opcode : Holds code offset ((Opcode.redirect role).toByte :: (read.lengthBytes ++ read)) :=
    held
  have stop : offset + (Expression.redirectInline (.redirect role) read).length =
      offset + 1 + 4 + read.length := by
    rw [Expression.length_redirectInline]
    omega
  rw [runFrom_instruction budget opcode, stop]
  exact bind_of_ok (redirect_none live nobody opcode.tail.left small)

end

/-- The opcode of the nested run in a redirected block. -/
theorem Holds_run {body : Expression}
    (held : Holds code offset (Expression.redirect (.redirect role) body)) :
    Holds code (offset + 5) (Opcode.run.toByte :: (body.lengthBytes ++ body)) :=
  held.tail.right

/-- **Redirects.**  Whatever stands around it, a redirect pops its selector, and then

    * a nested run, if there is an entity in the role, starts with that entity as current entity
      and as origin, on the stack that is left;
    * a plain read, if there is one, is executed with that entity as current entity and the
      origin as it was;
    * either is skipped, if there is none, and `failed` is pushed;
    * in all cases the run continues behind the read, with the origin as the current entity.

    So if the nested run leaves one value more than it found, the continuation finds the same
    number of values whether or not the redirect found somebody. -/
theorem runFrom_redirect (ctx : EvalContext) (id : EntityId) (role : Role)
    (before after : Expression) (selector : Value) (rest : Stack) (profile : Profile) (r : Roster)
    (live : r.isLive id) :
    let b : Bench := ⟨role.operands selector rest, profile, r⟩
    (∀ body : Expression, body.length < 0x80000000 - 5 →
      let code := before ++ Expression.redirect (.redirect role) body ++ after
      let stop := before.length + (Expression.redirect (.redirect role) body).length
      (∀ target budget, r.resolve id selector.toInt32 role = some target →
        runFrom ctx id (budget + 2) code before.length id b =
          (do run ctx budget body target; runFrom ctx id budget code stop id)
            ((b.redirected role rest).counted .run)) ∧
      (∀ budget, r.resolve id selector.toInt32 role = none →
        runFrom ctx id (budget + 1) code before.length id b =
          runFrom ctx id budget code stop id (b.unanswered role rest)) ∧
      (∀ budget,
        (∀ target, r.resolve id selector.toInt32 role = some target →
          ∃ b', run ctx budget body target ((b.redirected role rest).counted .run) = .ok () b' ∧
            b'.stack.length = rest.length + 1) →
        ∃ steps b', runFrom ctx id (budget + steps) code before.length id b =
            runFrom ctx id budget code stop id b' ∧
          b'.stack.length = rest.length + 1)) ∧
    (∀ (o : Opcode) (operands : Bytes), o.isPlain → operands.length = o.operandSize operands →
      let read := o.toByte :: operands
      let code := before ++ Expression.redirectInline (.redirect role) read ++ after
      let stop := before.length + (Expression.redirectInline (.redirect role) read).length
      (∀ target budget, r.resolve id selector.toInt32 role = some target →
        runFrom ctx id (budget + 2) code before.length id b =
          (do
            let _ ← dispatch ctx code (before.length + 5) target id o.toByte
            runFrom ctx id budget code stop id) (b.redirected role rest)) ∧
      (∀ budget, r.resolve id selector.toInt32 role = none →
        runFrom ctx id (budget + 1) code before.length id b =
          runFrom ctx id budget code stop id (b.unanswered role rest))) := by
  intro b
  constructor
  · intro body small code stop
    have held : Holds code before.length (Expression.redirect (.redirect role) body) :=
      Holds.intro ..
    have size : (Expression.run body).length = body.length + 5 := Expression.length_run body
    have behind : before.length + 5 + 1 + 4 + body.length = stop := by
      simp only [stop, Expression.length_redirect]
      omega
    have found (target : EntityId) (budget : Nat)
        (someone : r.resolve id selector.toInt32 role = some target) :
        runFrom ctx id (budget + 2) code before.length id b =
          (do run ctx budget body target; runFrom ctx id budget code stop id)
            ((b.redirected role rest).counted .run) := by
      rw [runFrom_redirect_some (budget + 1) live held someone,
        runFrom_instruction budget (Holds_run held),
        bind_of_ok (instruction_run (Holds_run held).tail (by omega) _), behind]
      rfl
    have nobody (budget : Nat) (none : r.resolve id selector.toInt32 role = none) :
        runFrom ctx id (budget + 1) code before.length id b =
          runFrom ctx id budget code stop id (b.unanswered role rest) :=
      runFrom_redirect_none budget live held (by omega) none
    -- either way one value is there in place of the selector
    refine ⟨found, nobody, fun budget nets => ?_⟩
    cases answer : r.resolve id selector.toInt32 role with
    | none => exact ⟨1, b.unanswered role rest, nobody budget answer, rfl⟩
    | some target =>
      obtain ⟨b', ran, depth⟩ := nets target answer
      exact ⟨2, b', (found target budget answer).trans (bind_of_ok ran), depth⟩
  · intro o operands plain whole read code stop
    have held : Holds code before.length (Expression.redirectInline (.redirect role) read) :=
      Holds.intro ..
    have short : operands.length ≤ 9 := whole ▸ o.operandSize_le operands
    have opcode : Holds code (before.length + 5) read := held.tail.right
    have behind : before.length + 5 + 1 + operands.length = stop := by
      simp only [stop, read, Expression.length_redirectInline, List.length_cons]
      omega
    refine ⟨fun target budget someone => ?_, fun budget none => ?_⟩
    · rw [runFrom_redirect_some (budget + 1) live held someone,
        runFrom_plain budget opcode plain whole, behind]
    · refine runFrom_redirect_none budget live held ?_ none
      simp only [read, List.length_cons]
      omega

/-- In a roster of one player, a redirect to player one runs its body and one to player two does
    not; either leaves one value. -/
theorem runFrom_redirect_player :
    let ctx : EvalContext := ⟨.empty, .empty, .current⟩
    let r := ((Roster.ofSeed 0).addPlayer 1 "").1
    let code := [] ++ Expression.redirect (.redirect .player) (Expression.int 7) ++ []
    r.isLive 0 ∧
      runFrom ctx 0 3 code 0 0 ⟨[.int 1], .off, r⟩ = .ok () ⟨[.int 7], .off, r⟩ ∧
      runFrom ctx 0 2 code 0 0 ⟨[.int 2], .off, r⟩ = .ok () ⟨[.failed], .off, r⟩ := by
  intro ctx r code
  have live : r.isLive 0 := by decide
  have someone : r.resolve 0 (Value.int 1).toInt32 .player = some 0 := by decide
  have nobody : r.resolve 0 (Value.int 2).toInt32 .player = none := by decide
  have one := runFrom_redirect ctx 0 .player [] [] (.int 1) [] .off r live
  have two := runFrom_redirect ctx 0 .player [] [] (.int 2) [] .off r live
  refine ⟨live, ?_, ?_⟩
  · exact ((one.1 (Expression.int 7) (by decide)).1 0 1 someone).trans rfl
  · exact ((two.1 (Expression.int 7) (by decide)).2.1 1 nobody).trans rfl

end Eval
end TickScript
