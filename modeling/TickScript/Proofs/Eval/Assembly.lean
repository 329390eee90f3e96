import TickScript.Proofs.Eval.Literals
import TickScript.Proofs.Eval.Redirect
import TickScript.Proofs.Eval.Tree

/-! # Assembled trees run as they evaluate

    The code of a tree, wherever it is embedded and on whatever stack it starts, gets to its own
    end with one value more: the value of the tree.  `Delivers` is this relation between a run
    and a result of direct evaluation; it is composed the way evaluation is (`Delivers.bind`), so
    `delivers_bytes` has one case for each form of tree, and an offset calculation in it.

    A tree that reads a slot the window does not have faults, and then its code faults likewise.
-/

namespace TickScript

open Expression (Holds)

namespace Eval

variable {ctx : EvalContext} {origin id target : EntityId} {code body : Expression}
  {offset mid stop n n' : Nat} {b : Bench} {p q : Point} {below rest : Stack} {profile : Profile}
  {r : Roster} {v : Value}

/-! ## Delivering a result -/

/-- **A run delivers a result** if it may spend `n` instructions: it gets to an offset with the
    value on top of the values below, or it faults, and leaves the roster of the result. -/
def Delivers (ctx : EvalContext) (origin : EntityId) (code : Expression) (n : Nat) (p : Point)
    (stop : Nat) (below : Stack) : EStateM.Result Fault Roster Value → Prop
  | .ok v r =>
    ∃ profile, Arrives ctx origin code n p ⟨stop, origin, ⟨v :: below, profile, r⟩⟩
  | .error f r => ∃ stack profile, Faults ctx origin code n p f ⟨stack, profile, r⟩

namespace Delivers

variable {x : EStateM Fault Roster Value} {result : EStateM.Result Fault Roster Value}

theorem mono (h : Delivers ctx origin code n p stop below result) (more : n ≤ n') :
    Delivers ctx origin code n' p stop below result := by
  cases result with
  | ok v r => exact h.imp fun _ arrives => arrives.mono more
  | error f r => exact h.imp fun _ faults => faults.imp fun _ faults => faults.mono more

/-- What a run delivers from a point on, it delivers from every point that gets there. -/
theorem after (h : Arrives ctx origin code n p q)
    (h' : Delivers ctx origin code n' q stop below result) :
    Delivers ctx origin code (n + n') p stop below result := by
  cases result with
  | ok v r => exact h'.imp fun _ arrives => h.trans arrives
  | error f r => exact h'.imp fun _ faults => faults.imp fun _ faults => h.faults faults

/-- One instruction that replaces what it takes from the stack by a value. -/
theorem instruction {o : Opcode} {part : Bytes} {current : EntityId}
    (held : Holds code offset (o.toByte :: part))
    (run : Eval.instruction ctx code (offset + 1) current origin o (b.counted o) =
      .ok (.goto stop origin) ⟨v :: below, (b.counted o).profile, r⟩) :
    Delivers ctx origin code 1 ⟨offset, current, b⟩ stop below (.ok v r) :=
  ⟨(b.counted o).profile, Arrives.instruction held run⟩

/-- **Delivering in sequence**: what is delivered first is found on top of the stack by what
    comes next. -/
theorem bind {f : Value → EStateM Fault Roster Value} {under : Stack}
    (h : Delivers ctx origin code n p mid under (x r))
    (next : ∀ v r' profile, x r = .ok v r' →
      Delivers ctx origin code n' ⟨mid, origin, ⟨v :: under, profile, r'⟩⟩ stop below (f v r')) :
    Delivers ctx origin code (n + n') p stop below ((x >>= f) r) := by
  cases run : x r with
  | ok v r' =>
    rw [run] at h
    obtain ⟨profile, arrives⟩ := h
    rw [bind_of_ok run]
    exact after arrives (next v r' profile run)
  | error e r' =>
    rw [run] at h
    obtain ⟨stack, profile, faults⟩ := h
    rw [bind_of_error run]
    exact ⟨stack, profile, faults.mono (by omega)⟩

/-- A run that goes on to another offset with the value it delivered. -/
theorem land (h : Delivers ctx origin code n p mid below (x r))
    (next : ∀ b, ∃ profile, Arrives ctx origin code n' ⟨mid, origin, b⟩
      ⟨stop, origin, ⟨b.stack, profile, b.roster⟩⟩) :
    Delivers ctx origin code (n + n') p stop below (x r) := by
  have sequence := h.bind (f := Pure.pure) fun v r' profile _ => next ⟨v :: below, profile, r'⟩
  rwa [bind_pure] at sequence

/-- A nested run delivers what its body delivers. -/
theorem nested {o : Opcode} {part : Bytes} {entity current : EntityId} {b b' : Bench}
    (held : Holds code offset (o.toByte :: part))
    (call : Eval.instruction ctx code (offset + 1) current origin o (b.counted o) =
      .ok (.call body entity stop origin) b')
    (inner : Delivers ctx entity body n ⟨0, entity, b'⟩ body.length below result) :
    Delivers ctx origin code (n + 1) ⟨offset, current, b⟩ stop below result := by
  cases result with
  | ok v r => exact inner.imp fun _ arrives => arrives.nested held call
  | error f r => exact inner.imp fun _ faults => faults.imp fun _ faults => faults.nested held call

end Delivers

/-! ## Literals -/

/-- A value that has a literal is pushed by it. -/
theorem pushed?_of_hasLiteral (has : v.HasLiteral) : v.pushed? = some v.ofLiteral := by
  cases v with
  | int i => rfl
  | bool t => rfl
  | float s => exact congrArg some (if_neg (by simpa [Value.HasLiteral] using has))
  | unset => cases has
  | failed => cases has

theorem delivers_literal {has : v.HasLiteral}
    (held : Holds code offset (Tree.literal v has).bytes) :
    Delivers ctx origin code (Tree.literal v has).bytes.length ⟨offset, id, b⟩
      (offset + (Tree.literal v has).bytes.length) b.stack (.ok v.ofLiteral b.roster) := by
  have pushed := pushed?_of_hasLiteral has
  obtain ⟨form, operand, written, -⟩ := exists_operand pushed
  have bytes : (Tree.literal v has).bytes = (Opcode.literal form).toByte :: operand :=
    congrArg (·.getD []) written
  rw [bytes] at held ⊢
  obtain ⟨profile, arrives⟩ : ∃ profile, Arrives ctx origin code 1 ⟨offset, id, b⟩ _ :=
    arrives_literal pushed written held b
  refine Delivers.mono (n := 1) ⟨profile, arrives⟩ ?_
  rw [List.length_cons]
  omega

/-! ## Jumps -/

/-- A jump on a condition pops it, whether it is taken or not. -/
theorem arrives_conditional {test : JumpTest} {distance : Nat} {c : Value}
    (conditional : test ≠ .always)
    (held : Holds code offset (Expression.op (.jumpLong test) ++ Bytes.ofInt32 (.ofNat distance)))
    (small : distance < 0x80000000) :
    ∃ profile', Arrives ctx origin code 1 ⟨offset, id, ⟨c :: below, profile, r⟩⟩
      ⟨if test.holds c.toBool then offset + 5 + distance else offset + 5, origin,
        ⟨below, profile', r⟩⟩ := by
  refine ⟨(Bench.counted ⟨c :: below, profile, r⟩ (.jumpLong test)).profile,
    Arrives.instruction held ?_⟩
  have target := held.right.longTargetAt small
  have taken : jumpTaken test (Bench.counted ⟨c :: below, profile, r⟩ (.jumpLong test)) =
      .ok (test.holds c.toBool)
        ⟨below, (Bench.counted ⟨c :: below, profile, r⟩ (.jumpLong test)).profile, r⟩ := by
    cases test with
    | always => exact absurd rfl conditional
    | ifZero => rfl
    | ifNonZero => rfl
  rw [Expression.length_op] at target
  simp only [instruction]
  rw [bind_of_ok taken]
  by_cases jumps : test.holds c.toBool
  · rw [if_pos jumps, if_pos jumps, target]
    rfl
  · rw [if_neg jumps, if_neg jumps]
    rfl

theorem arrives_always {distance : Nat}
    (held : Holds code offset
      (Expression.op (.jumpLong .always) ++ Bytes.ofInt32 (.ofNat distance)))
    (small : distance < 0x80000000) (b : Bench) :
    ∃ profile, Arrives ctx origin code 1 ⟨offset, id, b⟩
      ⟨offset + 5 + distance, origin, ⟨b.stack, profile, b.roster⟩⟩ := by
  refine ⟨(b.counted (.jumpLong .always)).profile, Arrives.instruction held ?_⟩
  have target := held.right.longTargetAt small
  rw [Expression.length_op] at target
  simp only [instruction, jumpTaken, pure_bind, target]
  rfl

/-! ## Writing a variable -/

theorem instruction_store {mode : UpdateMode} {bank : VariableBank} {index : Value} {e : Entity}
    (held : Holds code offset [(mode.storeOp bank).toByte]) (present : r.get? id = some e) :
    let written := e.updateVariable mode bank index.toInt32 v
    instruction ctx code offset id origin (.page .stores) ⟨v :: index :: below, profile, r⟩ =
      .ok (.goto (offset + 1) origin)
        ⟨written.2 :: below, profile, r.modify id fun _ => written.1⟩ := by
  intro written
  have store : storeVariable id mode bank v ⟨index :: below, profile, r⟩ =
      .ok () ⟨written.2 :: below, profile, r.modify id fun _ => written.1⟩ :=
    (bind_of_ok (entity_of_get? present)).trans rfl
  have operation : storeOp ctx code offset id ⟨v :: index :: below, profile, r⟩ =
      .ok (offset + 1) ⟨written.2 :: below, profile, r.modify id fun _ => written.1⟩ := by
    simp only [storeOp, held.uint8At]
    refine (bind_of_ok (a := (mode.storeOp bank).toByte)
      (t := (⟨v :: index :: below, profile, r⟩ : Bench)) rfl).trans ?_
    rw [StoreOp.ofByte?_toByte]
    cases mode with
    | set => exact bind_of_ok store
    | add => exact bind_of_ok store
  exact (bind_of_ok operation).trans rfl

/-! ## Nested runs and redirects -/

/-- A nested run that stays with its entity delivers what its body delivers. -/
theorem delivers_nested {o : Opcode} {result : EStateM.Result Fault Roster Value}
    (held : Holds code offset (o.toByte :: (body.lengthBytes ++ body)))
    (call : instruction ctx code (offset + 1) id id o (b.counted o) =
      .ok (.call body id (offset + 1 + 4 + body.length) id) (b.counted o))
    (inner : Delivers ctx id body body.length ⟨0, id, b.counted o⟩ (0 + body.length) b.stack result) :
    Delivers ctx id code (body.length + 5) ⟨offset, id, b⟩ (offset + (body.length + 5)) b.stack
      result := by
  have stop : offset + 1 + 4 + body.length = offset + (body.length + 5) := by omega
  rw [stop] at call
  rw [Nat.zero_add] at inner
  exact (Delivers.nested held call inner).mono (by omega)

/-- A redirect delivers what its body delivers for the entity found, and `failed` if there is
    none. -/
theorem delivers_redirect {role : Role} {selector : Value} {x : EntityId → EStateM Fault Roster Value}
    (held : Holds code offset (Expression.redirect (.redirect role) body))
    (small : body.length + 5 < 0x80000000) (live : r.isLive id)
    (inner : ∀ target b, b.roster.isLive target →
      Delivers ctx target body body.length ⟨0, target, b⟩ body.length b.stack (x target b.roster)) :
    Delivers ctx id code (body.length + 10) ⟨offset, id, ⟨role.operands selector rest, profile, r⟩⟩
      (offset + (body.length + 10)) rest (Tree.onRole role selector id x r) := by
  have size : (Expression.run body).length = body.length + 5 := Expression.length_run body
  have opcode : Holds code offset ((Opcode.redirect role).toByte ::
      ((Expression.run body).lengthBytes ++ Expression.run body)) := held
  cases answer : r.resolve id selector.toInt32 role with
  | none =>
    rw [Tree.onRole_none answer]
    have skip : instruction ctx code (offset + 1) id id (.redirect role)
        (Bench.counted ⟨role.operands selector rest, profile, r⟩ (.redirect role)) =
        .ok (.goto (offset + 1 + 4 + (Expression.run body).length) id)
          (Bench.unanswered ⟨role.operands selector rest, profile, r⟩ role rest) :=
      redirect_none live answer opcode.tail.left (by omega)
    have stop : offset + 1 + 4 + (Expression.run body).length = offset + (body.length + 10) := by
      omega
    rw [stop] at skip
    exact Delivers.mono (n := 1) ⟨_, Arrives.instruction opcode skip⟩ (by omega)
  | some target =>
    rw [Tree.onRole_some answer]
    let found := Bench.redirected ⟨role.operands selector rest, profile, r⟩ role rest
    have bound : Arrives ctx id code 1 ⟨offset, id, ⟨role.operands selector rest, profile, r⟩⟩
        ⟨offset + 5, target, found⟩ :=
      Arrives.instruction opcode (redirect_some live answer)
    have call : instruction ctx code (offset + 5 + 1) target id .run (found.counted .run) =
        .ok (.call body target (offset + 5 + 1 + 4 + body.length) id) (found.counted .run) :=
      instruction_run (Holds_run held).tail (by omega) _
    have stop : offset + 5 + 1 + 4 + body.length = offset + (body.length + 10) := by omega
    rw [stop] at call
    have ran := Delivers.nested (Holds_run held) call
      (inner target (found.counted .run) (Roster.isLive_of_resolve answer))
    exact (Delivers.after bound ran).mono (by omega)

/-! ## All trees -/

/-- **The code of a tree delivers its value**, wherever it is embedded and on whatever stack.
    No instruction of it is shorter than a byte, so its length is a budget. -/
theorem delivers_bytes (ctx : EvalContext) (t : Tree) (held : Holds code offset t.bytes)
    (small : t.bytes.length < 0x80000000) (live : b.roster.isLive id) :
    Delivers ctx id code t.bytes.length ⟨offset, id, b⟩ (offset + t.bytes.length) b.stack
      (t.value ctx id b.roster) := by
  -- on the tree, for all places and entities at once: the parts of a tree stand at other offsets,
  -- on other stacks, and the body of a redirect runs for another entity
  induction t generalizing code offset id b with
  | literal v has => exact delivers_literal held
  | slot n =>
    have size : (Tree.slot n).bytes.length = 2 := rfl
    rw [size]
    refine Delivers.mono (n := 1) ?_ (by omega)
    have operand := held.right.uint8At
    rw [Expression.length_op] at operand
    cases read : ctx.windows.get n.toNat with
    | ok v =>
      rw [Tree.value, read]
      refine Delivers.instruction held ?_
      simp only [instruction, operand]
      refine (bind_of_ok (a := n) (t := b.counted .windowSlot) rfl).trans ?_
      rw [read]
      rfl
    | error f =>
      rw [Tree.value, read]
      refine ⟨b.stack, (b.counted .windowSlot).profile, Faults.instruction held ?_⟩
      simp only [instruction, operand]
      refine (bind_of_ok (a := n) (t := b.counted .windowSlot) rfl).trans ?_
      rw [read]
      rfl
  | entityVar bank index ih =>
    have size : (Tree.entityVar bank index).bytes.length = index.bytes.length + 1 := by
      simp [Tree.bytes]
    rw [size] at small ⊢
    have read := held.right
    refine (ih held.left (by omega) live).bind fun i r₁ profile first => ?_
    -- the index may have written variables, but it has removed nobody
    obtain ⟨e, present⟩ := Roster.isLive_iff.mp (Tree.isLive_of_value first live)
    rw [bind_of_ok (Tree.entity_of_get? present)]
    refine Delivers.instruction read ?_
    simp only [instruction]
    rw [bind_of_ok (entity_of_get? present)]
    rfl
  | unary op x ih =>
    have size : (Tree.unary op x).bytes.length = x.bytes.length + 1 := by simp [Tree.bytes]
    rw [size] at small ⊢
    refine (ih held.left (by omega) live).bind fun a r₁ profile first => ?_
    exact Delivers.instruction held.right rfl
  | binary op x y ihx ihy =>
    have size : (Tree.binary op x y).bytes.length = x.bytes.length + (y.bytes.length + 1) := by
      simp [Tree.bytes]
    rw [size] at small ⊢
    refine (ihx held.left.left (by omega) live).bind fun a r₁ profile first => ?_
    have live := Tree.isLive_of_value first live
    rw [← Nat.add_assoc offset]
    refine (ihy held.left.right (by omega) live).bind fun c r₂ profile second => ?_
    have fold := held.right
    rw [List.length_append, ← Nat.add_assoc] at fold
    exact Delivers.instruction fold rfl
  | ifElse c x y ihc ihx ihy =>
    have size : (Tree.ifElse c x y).bytes.length =
        c.bytes.length + (x.bytes.length + (y.bytes.length + 1)) := by
      simp [Tree.bytes]
    rw [size] at small ⊢
    refine (ihc held.left.left.left (by omega) live).bind fun a r₁ profile first => ?_
    have live := Tree.isLive_of_value first live
    rw [← Nat.add_assoc offset]
    refine (ihx held.left.left.right (by omega) live).bind fun d r₂ profile second => ?_
    have live := Tree.isLive_of_value second live
    have last := held.left.right
    have choose := held.right
    simp only [List.length_append, ← Nat.add_assoc] at last choose ⊢
    refine (ihy last (by omega) live).bind fun e r₃ profile third => ?_
    exact Delivers.instruction choose rfl
  | update mode bank index x ihi ihx =>
    have size : (Tree.update mode bank index x).bytes.length =
        index.bytes.length + (x.bytes.length + 2) := by
      simp [Tree.bytes, Expression.store]
    rw [size] at small ⊢
    refine (ihi held.left.left (by omega) live).bind fun i r₁ profile first => ?_
    have live := Tree.isLive_of_value first live
    rw [← Nat.add_assoc offset]
    refine (ihx held.left.right (by omega) live).bind fun v r₂ profile second => ?_
    obtain ⟨e, present⟩ := Roster.isLive_iff.mp (Tree.isLive_of_value second live)
    rw [bind_of_ok (Tree.entity_of_get? present)]
    have write := held.right
    rw [List.length_append, ← Nat.add_assoc] at write
    refine Delivers.mono (n := 1) (Delivers.instruction write ?_) (by omega)
    exact instruction_store write.tail present
  | run body ih =>
    have size : (Tree.run body).bytes.length = body.bytes.length + 5 := by
      simp [Tree.bytes]
    rw [size] at small ⊢
    have inner := ih (b := b.counted .run) (Holds.whole body.bytes) (by omega) live
    exact delivers_nested held (instruction_run held.tail (by omega) _) inner
  | runUnredirected body ih =>
    have size : (Tree.runUnredirected body).bytes.length = body.bytes.length + 5 := by
      simp [Tree.bytes]
    rw [size] at small ⊢
    have inner := ih (b := b.counted .runUnredirected) (Holds.whole body.bytes) (by omega) live
    exact delivers_nested held (instruction_runUnredirected held.tail (by omega) _) inner
  | redirect role selector body ihs ihb =>
    have inner (target : EntityId) (b : Bench) (small : body.bytes.length < 0x80000000)
        (live : b.roster.isLive target) :
        Delivers ctx target body.bytes body.bytes.length ⟨0, target, b⟩ body.bytes.length b.stack
          (body.value ctx target b.roster) := by
      have inner := ihb (Holds.whole body.bytes) small live
      rwa [Nat.zero_add] at inner
    by_cases takes : role.takesSelector
    · have size : (Tree.redirect role selector body).bytes.length =
          selector.bytes.length + (body.bytes.length + 10) := by
        simp [Tree.bytes, takes]
      rw [size] at small ⊢
      rw [Tree.bytes, if_pos takes] at held
      rw [Tree.value, if_pos takes]
      refine (ihs held.left (by omega) live).bind fun s r₁ profile first => ?_
      have operands : role.operands s b.stack = s :: b.stack := if_pos takes
      rw [← operands, ← Nat.add_assoc offset]
      exact delivers_redirect held.right (by omega) (Tree.isLive_of_value first live)
        fun target b => inner target b (by omega)
    · have size : (Tree.redirect role selector body).bytes.length = body.bytes.length + 10 := by
        simp [Tree.bytes, takes]
      rw [size] at small ⊢
      rw [Tree.bytes, if_neg takes] at held
      rw [Tree.value, if_neg takes, pure_bind]
      have operands : role.operands .unset b.stack = b.stack := if_neg takes
      have deliver : Delivers ctx id code (body.bytes.length + 10)
          ⟨offset, id, ⟨role.operands .unset b.stack, b.profile, b.roster⟩⟩
          (offset + (body.bytes.length + 10)) b.stack
          (Tree.onRole role .unset id (body.value ctx) b.roster) :=
        delivers_redirect held (by omega) live fun target b => inner target b (by omega)
      rwa [operands] at deliver
  | branch test conditional c passed jumped ihc ihp ihj =>
    have size : (Tree.branch test conditional c passed jumped).bytes.length =
        c.bytes.length + (passed.bytes.length + jumped.bytes.length + 10) := by
      simp [Tree.bytes, Expression.arms_eq]
      omega
    rw [size] at small ⊢
    rw [Tree.bytes, Expression.arms_eq] at held
    have decide := held.left.left.left.right
    have passing := held.left.left.right
    have leave := held.left.right
    have jumping := held.right
    simp only [List.length_append, Expression.length_op, Bytes.length_ofInt32, ← Nat.add_assoc]
      at passing leave jumping
    refine (ihc held.left.left.left.left (by omega) live).bind fun a r₁ profile first => ?_
    have live := Tree.isLive_of_value first live
    obtain ⟨profile', jump⟩ : ∃ profile', Arrives ctx id code 1
        ⟨offset + c.bytes.length, id, ⟨a :: b.stack, profile, r₁⟩⟩
        ⟨if test.holds a.toBool then offset + c.bytes.length + 5 + (passed.bytes.length + 5)
          else offset + c.bytes.length + 5, id, ⟨b.stack, profile', r₁⟩⟩ :=
      arrives_conditional conditional decide (by omega)
    have stop : offset + c.bytes.length + 5 + passed.bytes.length + 5 + jumped.bytes.length =
        offset + (c.bytes.length + (passed.bytes.length + jumped.bytes.length + 10)) := by
      omega
    by_cases jumps : test.holds a.toBool
    · -- the first jump leads over the other arm and the second jump
      rw [if_pos jumps, ← Nat.add_assoc _ passed.bytes.length] at jump
      rw [if_pos jumps, ← stop]
      have arm := ihj (b := ⟨b.stack, profile', r₁⟩) jumping (by omega) live
      exact (Delivers.after jump arm).mono (by omega)
    · -- the first jump is not taken, and the second one leads over the other arm
      rw [if_neg jumps] at jump
      rw [if_neg jumps, ← stop]
      have arm := (ihp (b := ⟨b.stack, profile', r₁⟩) passing (by omega) live).land
        (arrives_always leave (by omega))
      exact (Delivers.after jump arm).mono (by omega)

/-- **Assembled trees run as they evaluate**, for every live entity and whatever code, stack and
    values surround them:

    * a tree whose slots are there has a value;
    * the run of its code gets from the first byte exactly to the end, with the value on top of
      the stack it found and with the roster that evaluation leaves, so evaluating the code alone
      gives the value and leaves the stack as it was;
    * if evaluation faults, for a slot that is not there, so does the run.

    As many instructions as the code has bytes are enough. -/
theorem runFrom_bytes (ctx : EvalContext) (t : Tree) (id : EntityId) (before after : Expression)
    (stack : Stack) (profile : Profile) (r : Roster) (small : t.bytes.length < 0x80000000)
    (live : r.isLive id) :
    let code := before ++ t.bytes ++ after
    let stop := before.length + t.bytes.length
    (t.InWindow ctx.windows → ∃ v r', t.value ctx id r = .ok v r') ∧
    (∀ v r', t.value ctx id r = .ok v r' →
      (∃ profile', ∃ steps ≤ t.bytes.length, ∀ budget, t.bytes.length ≤ budget + steps →
        runFrom ctx id (budget + steps) code before.length id ⟨stack, profile, r⟩ =
          runFrom ctx id budget code stop id ⟨v :: stack, profile', r'⟩) ∧
      (∃ profile', ∀ budget, t.bytes.length ≤ budget →
        eval ctx budget t.bytes id ⟨stack, profile, r⟩ = .ok v ⟨stack, profile', r'⟩)) ∧
    (∀ f r', t.value ctx id r = .error f r' →
      ∃ stack' profile', ∀ budget, t.bytes.length ≤ budget →
        runFrom ctx id budget code before.length id ⟨stack, profile, r⟩ =
          .error f ⟨stack', profile', r'⟩) := by
  intro code stop
  have held : Holds code before.length t.bytes := Holds.intro ..
  have embedded := delivers_bytes (b := ⟨stack, profile, r⟩) ctx t held small live
  have alone := delivers_bytes (b := ⟨stack, profile, r⟩) ctx t (Holds.whole t.bytes) small live
  rw [Nat.zero_add] at alone
  refine ⟨fun slots => Tree.exists_value slots live, fun v r' value => ?_, fun f r' fault => ?_⟩
  · rw [value] at embedded alone
    refine ⟨embedded, ?_⟩
    obtain ⟨profile', arrives⟩ := alone
    exact ⟨profile', fun budget enough => (bind_of_ok (arrives.run enough)).trans rfl⟩
  · rw [fault] at embedded
    exact embedded

/-- Player one sets a variable of their own, because the other arm is jumped over: a redirect with
    a slot as its selector finds them, and its body gives zero. -/
theorem runFrom_bytes_branch :
    let ctx : EvalContext := ⟨⟨[.int 1], [0]⟩, .empty, .current⟩
    let r := ((Roster.ofSeed 0).addPlayer 1 "").1
    let t := Tree.branch .ifZero (by decide) (.redirect .player (.slot 0) (.literal (.int 0) trivial))
      (.literal (.int 7) trivial)
      (.update .set .ints (.literal (.int 2) trivial) (.literal (.int 5) trivial))
    let code := [0xff] ++ t.bytes ++ [0xff]
    t.bytes.length < 0x80000000 ∧ r.isLive 0 ∧ t.InWindow ctx.windows ∧
      ∃ r', t.value ctx 0 r = .ok (.int 5) r' ∧
        ∃ profile', ∃ steps ≤ t.bytes.length, ∀ budget, t.bytes.length ≤ budget + steps →
          runFrom ctx 0 (budget + steps) code 1 0 ⟨[.failed], .off, r⟩ =
            runFrom ctx 0 budget code (1 + t.bytes.length) 0 ⟨[.int 5, .failed], profile', r'⟩ := by
  intro ctx r t code
  have small : t.bytes.length < 0x80000000 := by decide
  have live : r.isLive 0 := by decide
  have slots : t.InWindow ctx.windows := ⟨⟨fun _ => Nat.zero_lt_one, trivial⟩, trivial, trivial, trivial⟩
  have runs := runFrom_bytes ctx t 0 [0xff] [0xff] [.failed] .off r small live
  exact ⟨small, live, slots, _, rfl, (runs.2.1 (.int 5) _ rfl).1⟩

end Eval
end TickScript
