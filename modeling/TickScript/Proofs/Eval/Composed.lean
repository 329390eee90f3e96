import TickScript.Eval.Run
import TickScript.Proofs.Action
import TickScript.Proofs.Value.NaNFree

/-! # What expressions are made of

    An expression is a sequence of few kinds of actions: it looks at the roster and at the stack,
    pops, pushes, counts, draws a random number, or writes to a store.  `Eval.Composed` is the
    predicate of actions that are made of these; it holds of every run (`composed_run`), by
    induction on its budget, because it holds of every instruction.

    So whatever is kept by each kind of action and by sequences is kept by every expression, by
    induction on `Composed` and without a further look at the instructions.  One parameter says
    whether writes to stores are among the kinds: only the instructions of one page need them.
    Another says whether a budget may be used up, which is for runs but for no instruction.  A third
    says whether counting is among the kinds, which of the instructions only redirects need.

    The predicate also says what is pushed.  If a property of values survives all operations, and
    the values in the windows have it, then an expression pushes none but values with the property,
    as long as it pops none but such.
-/

namespace TickScript

theorem Windows.mem_slots_of_get {w : Windows} {slot : Nat} {v : Value}
    (found : w.get slot = .ok v) : v ∈ w.slots := by
  have inside : ∀ x ∈ w.current, x ∈ w.slots := by
    unfold current
    split
    · exact nofun
    · exact fun x i => List.mem_of_mem_drop i
  unfold get at found
  split at found
  case h_1 x present =>
    cases found
    exact inside v (List.mem_of_getElem? present)
  case h_2 => cases found

namespace Eval

/-! ## Reads that may fault -/

section

variable {α β : Type} {code : Expression} {offset : Nat}

/-- **Not the fault of a run whose budget is used up.** -/
def Unspent (x : Except Fault α) : Prop := x ≠ .error .outOfFuel

theorem Unspent.bind {x : Except Fault α} {f : α → Except Fault β} (first : Unspent x)
    (rest : ∀ a, Unspent (f a)) : Unspent (x >>= f) := by
  cases x with
  | ok a => exact rest a
  | error e => exact fun spent => first (congrArg Except.error (Except.error.inj spent))

theorem Unspent.map {x : Except Fault α} (f : α → β) (h : Unspent x) : Unspent (f <$> x) := by
  cases x with
  | ok a => exact nofun
  | error e => exact fun spent => h (congrArg Except.error (Except.error.inj spent))

theorem unspent_uint8At : Unspent (code.uint8At offset) := by
  unfold Expression.uint8At
  split <;> exact nofun

theorem unspent_operandAt {width : Nat} : Unspent (code.operandAt width offset) := by
  unfold Expression.operandAt
  split <;> exact nofun

theorem unspent_int32At : Unspent (code.int32At offset) := unspent_operandAt.map _

theorem unspent_literal (form : Literal) : Unspent (literal code offset form) := by
  cases form with
  | int8 => exact (unspent_uint8At.map _).map _
  | int32 | int64 | single => exact (unspent_operandAt.map _).map _

theorem unspent_nestedAt : Unspent (code.nestedAt offset) := by
  refine unspent_int32At.bind fun length => ?_
  dsimp only
  split <;> exact nofun

theorem unspent_shortTargetAt : Unspent (code.shortTargetAt offset) := unspent_uint8At.map _

theorem unspent_longTargetAt : Unspent (code.longTargetAt offset) := by
  refine unspent_int32At.bind fun distance => ?_
  dsimp only
  split <;> exact nofun

theorem unspent_slot (w : Windows) (slot : Nat) : Unspent (w.get slot) := by
  unfold Windows.get
  split <;> exact nofun

theorem unspent_string (p : StringPool) (index : Int32) : Unspent (p.resolve index) := by
  unfold StringPool.resolve
  split <;> exact nofun

theorem unspent_entity (r : Roster) (id : EntityId) : Unspent (r.get id) := by
  unfold Roster.get
  split <;> exact nofun

theorem unspent_scaleRatio (r : Roster) (current origin : EntityId) :
    Unspent (r.scaleRatio current origin) := by
  unfold Roster.scaleRatio
  split
  · exact nofun
  · exact (unspent_entity r current).bind fun _ => (unspent_entity r origin).bind fun _ => nofun

theorem unspent_modifyTop (f : Value → Value) (stack : Stack) :
    Unspent (Stack.modifyTop f stack) := by
  cases stack <;> exact nofun

theorem unspent_dup (stack : Stack) : Unspent (Stack.dup stack) := by
  cases stack <;> exact nofun

theorem unspent_swap (stack : Stack) : Unspent (Stack.swap stack) := by
  unfold Stack.swap
  split <;> exact nofun

end

/-! ## Actions -/

/-- **Made of the actions of expressions**, where values with the property `P` are pushed, if
    none but such are popped; without `stores`, of those that write to no store, without
    `spends`, of those that use up no budget, and without `counts`, of those that count nothing. -/
inductive Composed (stores spends counts : Prop) (P : Value → Prop) : {α : Type} → Eval α → Prop
  | pure {α : Type} (a : α) : Composed stores spends counts P (Pure.pure a)
  | throw {α : Type} {f : Fault} (spent : f = .outOfFuel → spends) :
      Composed stores spends counts P (throw f : Eval α)
  | bind {α β : Type} {x : Eval α} {f : α → Eval β} (first : Composed stores spends counts P x)
      (rest : ∀ a, Composed stores spends counts P (f a)) :
      Composed stores spends counts P (x >>= f)
  | roster : Composed stores spends counts P Eval.roster
  | top : Composed stores spends counts P Eval.top
  | pop {α : Type} {f : Value → Eval α} (rest : ∀ v, P v → Composed stores spends counts P (f v)) :
      Composed stores spends counts P (Eval.pop >>= f)
  | push {v : Value} (has : P v) : Composed stores spends counts P (Eval.push v)
  | onStack {f : Stack → Except Fault Stack} (unspent : ∀ stack, Unspent (f stack))
      (has : ∀ stack stack', (∀ v ∈ stack, P v) → f stack = .ok stack' → ∀ v ∈ stack', P v) :
      Composed stores spends counts P (Eval.onStack f)
  | random (low high : Int32) : Composed stores spends counts P (Eval.random low high)
  | record (among : counts) (o : Opcode) : Composed stores spends counts P (Eval.record o)
  | recordFailedRedirect (among : counts) :
      Composed stores spends counts P Eval.recordFailedRedirect
  | storeVariable (among : stores) (current : EntityId) (mode : UpdateMode) (bank : VariableBank)
      (v : Value) : Composed stores spends counts P (Eval.storeVariable current mode bank v)
  | storeNamed (among : stores) (ctx : EvalContext) (code : Expression) (offset : Nat)
      (current : EntityId) (mode : UpdateMode) (v : Value) :
      Composed stores spends counts P (Eval.storeNamed ctx code offset current mode v)

namespace Composed

variable {stores spends counts : Prop} {P : Value → Prop} {α : Type}

/-! ## Reads -/

theorem ofExcept {x : Except Fault α} (unspent : Unspent x) :
    Composed stores spends counts P (Eval.ofExcept x) := by
  cases x with
  | ok a => exact .pure a
  | error f => exact .throw fun spent => absurd (congrArg Except.error spent) unspent

/-- What follows a result that may be a fault may use that it is that result. -/
theorem bind_ofExcept {β : Type} {x : Except Fault α} {f : α → Eval β} (unspent : Unspent x)
    (rest : ∀ a, x = .ok a → Composed stores spends counts P (f a)) :
    Composed stores spends counts P (Eval.ofExcept x >>= f) := by
  cases x with
  | ok a => exact rest a rfl
  | error f => exact .throw fun spent => absurd (congrArg Except.error spent) unspent

theorem entity (id : EntityId) : Composed stores spends counts P (Eval.entity id) :=
  roster.bind fun r => ofExcept (unspent_entity r id)

theorem scaleRatio (current origin : EntityId) :
    Composed stores spends counts P (Eval.scaleRatio current origin) :=
  roster.bind fun r => ofExcept (unspent_scaleRatio r current origin)

theorem ite {c : Prop} [Decidable c] {x y : Eval α} (hx : Composed stores spends counts P x)
    (hy : Composed stores spends counts P y) :
    Composed stores spends counts P (if c then x else y) := by
  split
  · exact hx
  · exact hy

/-! ## The stack -/

theorem modifyTop {f : Value → Value} (has : ∀ v, P v → P (f v)) :
    Composed stores spends counts P (Eval.modifyTop f) := by
  refine .onStack (unspent_modifyTop f) fun stack stack' all changed => ?_
  cases stack with
  | nil => cases changed
  | cons v rest =>
    cases changed
    rw [List.forall_mem_cons] at all ⊢
    exact ⟨has v all.1, all.2⟩

theorem dup : Composed stores spends counts P (Eval.onStack Stack.dup) := by
  refine .onStack unspent_dup fun stack stack' all changed => ?_
  cases stack with
  | nil => cases changed
  | cons v rest =>
    cases changed
    exact List.forall_mem_cons.mpr ⟨all v List.mem_cons_self, all⟩

theorem swap : Composed stores spends counts P (Eval.onStack Stack.swap) := by
  refine .onStack unspent_swap fun stack stack' all changed => ?_
  match stack, changed with
  | v :: w :: rest, rfl =>
    rw [List.forall_mem_cons, List.forall_mem_cons] at all ⊢
    exact ⟨all.2.1, all.1, all.2.2⟩

theorem fold {f : Value → Value → Value} (has : ∀ a b, P (f a b)) :
    Composed stores spends counts P (Eval.fold f) :=
  .pop fun right _ => modifyTop fun left _ => has left right

theorem jumpTaken (test : JumpTest) : Composed stores spends counts P (Eval.jumpTaken test) := by
  cases test with
  | always => exact .pure _
  | ifZero | ifNonZero => exact .pop fun _ _ => .pure _

section

variable (closed : Value.Closed P)

include closed

/-! ## Questions about entities -/

theorem pushScaled (current origin : EntityId) (read : Entity → Single) :
    Composed stores spends counts P (Eval.pushScaled current origin read) :=
  (scaleRatio current origin).bind fun _ => (entity current).bind fun _ =>
    .push (closed.ofSingle _)

theorem query (current : EntityId) (q : Query) :
    Composed stores spends counts P (Eval.query current q) := by
  cases q with
  | isHelper => exact (entity current).bind fun _ => modifyTop fun _ _ => closed.bool _
  | numHelper => exact roster.bind fun _ => modifyTop fun _ _ => closed.ofCount _
  | numTarget =>
    exact top.bind fun _ => (entity current).bind fun _ => roster.bind fun _ =>
      modifyTop fun _ _ => closed.ofCount _
  | numExplod => exact (entity current).bind fun _ => modifyTop fun _ _ => closed.ofCount _
  | scriptIdExists => exact roster.bind fun _ => modifyTop fun _ _ => closed.bool _

theorem tally (current : EntityId) (t : Tally) :
    Composed stores spends counts P (Eval.tally current t) := by
  cases t with
  | numEnemy | numPartner =>
    exact (entity current).bind fun _ => roster.bind fun _ => .push (closed.ofCount _)
  | gameTime | roundState => exact roster.bind fun _ => .push (closed.ofInt32 _)

theorem distance (current origin : EntityId) (mark : Landmark) (axis : Axis) :
    Composed stores spends counts P (Eval.distance current origin mark axis) := by
  refine roster.bind fun r => ?_
  cases mark.resolve r current with
  | none => exact .push closed.failed
  | some other =>
    exact (scaleRatio current origin).bind fun _ => (entity current).bind fun _ =>
      (entity other).bind fun _ => .push (closed.ofSingle _)

/-! ## Pages -/

theorem constantOp (ctx : EvalContext) (code : Expression) (offset : Nat)
    (current origin : EntityId) :
    Composed stores spends counts P (Eval.constantOp ctx code offset current origin) := by
  refine (ofExcept unspent_uint8At).bind fun byte => ?_
  cases ConstantOp.ofByte? byte with
  | none => exact .throw nofun
  | some op =>
    refine (scaleRatio current origin).bind fun _ => (entity current).bind fun _ => ?_
    cases op with
    | named =>
      exact (ofExcept unspent_int32At).bind fun index =>
        (ofExcept (unspent_string ctx.strings index)).bind fun _ =>
          (push (closed.namedConstant _ _)).bind fun _ => .pure _
    | _ => exact (push (closed.constant _ _ _)).bind fun _ => .pure _

omit closed in
theorem storeOp (among : stores) (ctx : EvalContext) (code : Expression) (offset : Nat)
    (current : EntityId) :
    Composed stores spends counts P (Eval.storeOp ctx code offset current) := by
  refine (ofExcept unspent_uint8At).bind fun byte => ?_
  cases StoreOp.ofByte? byte with
  | none => exact .throw nofun
  | some op =>
    refine .pop fun v _ => ?_
    cases op with
    | set bank => exact (storeVariable among current .set bank v).bind fun _ => .pure _
    | add bank => exact (storeVariable among current .add bank v).bind fun _ => .pure _
    | setName => exact (storeNamed among ctx code _ current .set v).bind fun _ => .pure _
    | addName => exact (storeNamed among ctx code _ current .add v).bind fun _ => .pure _

theorem extendedOp (ctx : EvalContext) (code : Expression) (offset : Nat)
    (current origin : EntityId) :
    Composed stores spends counts P (Eval.extendedOp ctx code offset current origin) := by
  refine (ofExcept unspent_uint8At).bind fun byte => ?_
  cases ExtendedOp.ofByte? byte with
  | none => exact .throw nofun
  | some op =>
    cases op with
    | max | min | atan2 | round => exact (fold fun _ _ => closed.ofDouble _).bind fun _ => .pure _
    | sign => exact (modifyTop fun v _ => closed.sign v).bind fun _ => .pure _
    | radians | degrees => exact (modifyTop fun _ _ => closed.ofDouble _).bind fun _ => .pure _
    | clamp | lerp =>
      exact .pop fun _ _ => .pop fun _ _ =>
        (modifyTop fun _ _ => closed.ofDouble _).bind fun _ => .pure _
    | randomRange =>
      exact .pop fun _ _ => top.bind fun _ => (random _ _).bind fun _ =>
        (modifyTop fun _ _ => closed.ofInt32 _).bind fun _ => .pure _
    | distance mark axis => exact (distance closed current origin mark axis).bind fun _ => .pure _
    | getName =>
      exact (ofExcept unspent_int32At).bind fun index =>
        (ofExcept (unspent_string ctx.strings index)).bind fun _ => (entity current).bind fun _ =>
          (push (closed.ofSingle _)).bind fun _ => .pure _
    | depth d => exact (pushScaled closed current origin _).bind fun _ => .pure _
    | number f =>
      exact (entity current).bind fun _ => (push (closed.ofSingle _)).bind fun _ => .pure _
    | spritePriority =>
      exact (entity current).bind fun _ => (push (closed.ofInt32 _)).bind fun _ => .pure _

/-! ## Instructions -/

/-- A redirect, once its selector is known. -/
theorem redirectTo (among : counts) (code : Expression) (offset : Nat) (current origin : EntityId)
    (role : Role) (selector : Int32) : Composed stores spends counts P (do
      let _ ← Eval.entity current
      match (← Eval.roster).resolve current selector role with
      | some id => return .goto (offset + 4) id
      | none =>
        Eval.recordFailedRedirect
        Eval.push .failed
        return .goto (← Eval.ofExcept (code.longTargetAt offset)) origin : Eval Continuation) := by
  refine (entity current).bind fun _ => roster.bind fun r => ?_
  cases r.resolve current selector role with
  | some id => exact .pure _
  | none =>
    exact (recordFailedRedirect among).bind fun _ => (push closed.failed).bind fun _ =>
      (ofExcept unspent_longTargetAt).bind fun _ => .pure _

theorem redirect (among : counts) (code : Expression) (offset : Nat) (current origin : EntityId)
    (role : Role) :
    Composed stores spends counts P (Eval.redirect code offset current origin role) :=
  have bound (selector : Int32) := redirectTo closed among code offset current origin role selector
  ite (bind (.pop fun _ _ => .pure _) bound) (bind (.pure _) bound)

variable {ctx : EvalContext} (windows : ∀ v ∈ ctx.windows.slots, P v)

include windows

/-- **Every instruction is composed.**  Those of one page write to stores, and only redirects
    count. -/
theorem instruction (code : Expression) (offset : Nat) (current origin : EntityId) (o : Opcode)
    (among : o = .page .stores → stores) (counting : ∀ role, o = .redirect role → counts) :
    Composed stores spends counts P (Eval.instruction ctx code offset current origin o) := by
  cases o with
  | literal form =>
    exact bind_ofExcept (unspent_literal form) fun v read =>
      (push (closed.literal read)).bind fun _ => .pure _
  | pop => exact .pop fun _ _ => .pure _
  | dup => exact dup.bind fun _ => .pure _
  | swap => exact swap.bind fun _ => .pure _
  | entityVar bank =>
    exact (entity current).bind fun _ => (modifyTop fun _ _ => closed.readVariable _ _ _).bind
      fun _ => .pure _
  | windowSlot =>
    exact (ofExcept unspent_uint8At).bind fun slot =>
      bind_ofExcept (unspent_slot ctx.windows slot.toNat) fun v found =>
        (push (windows v (Windows.mem_slots_of_get found))).bind fun _ => .pure _
  | unary op => exact (modifyTop fun _ has => closed.unary op has).bind fun _ => .pure _
  | binary op => exact (fold fun _ _ => closed.binary _ op _ _).bind fun _ => .pure _
  | ifElse =>
    refine .pop fun otherwise hasOtherwise => .pop fun chosen hasChosen => ?_
    refine (modifyTop fun v _ => ?_).bind fun _ => .pure _
    split
    · exact hasChosen
    · exact hasOtherwise
  | jumpShort test =>
    exact (jumpTaken test).bind fun _ =>
      ite ((ofExcept unspent_shortTargetAt).bind fun _ => .pure _) (.pure _)
  | jumpLong test =>
    exact (jumpTaken test).bind fun _ =>
      ite ((ofExcept unspent_longTargetAt).bind fun _ => .pure _) (.pure _)
  | jumpIfFailed =>
    exact top.bind fun _ => ite ((ofExcept unspent_shortTargetAt).bind fun _ => .pure _) (.pure _)
  | run | runUnredirected => exact (ofExcept unspent_nestedAt).bind fun _ => .pure _
  | random => exact (random _ _).bind fun _ => (push (closed.ofInt32 _)).bind fun _ => .pure _
  | redirect role => exact redirect closed (counting role rfl) code offset current origin role
  | redirectReset => exact .pure _
  | field f => exact (entity current).bind fun e => (push (closed.field f e)).bind fun _ => .pure _
  | coordinate c => exact (pushScaled closed current origin _).bind fun _ => .pure _
  | stateTypeIs | moveTypeIs | prevMoveTypeIs =>
    exact (ofExcept unspent_uint8At).bind fun _ => (entity current).bind fun _ =>
      (push (closed.bool _)).bind fun _ => .pure _
  | query q => exact (query closed current q).bind fun _ => .pure _
  | tally t => exact (tally closed current t).bind fun _ => .pure _
  | page p =>
    cases p with
    | constants => exact (constantOp closed ctx code offset current origin).bind fun _ => .pure _
    | stores => exact (storeOp (among rfl) ctx code offset current).bind fun _ => .pure _
    | extended => exact (extendedOp closed ctx code offset current origin).bind fun _ => .pure _

/-! ## Runs -/

theorem dispatch (code : Expression) (offset : Nat) (current origin : EntityId) (byte : UInt8) :
    Composed True spends True P (Eval.dispatch ctx code offset current origin byte) := by
  unfold Eval.dispatch
  split
  · exact .throw nofun
  · exact (record trivial _).bind fun _ =>
      instruction closed windows code (offset + 1) current origin _ (fun _ => trivial)
        fun _ _ => trivial

theorem runFrom (origin : EntityId) (budget : Nat) (code : Expression) (offset : Nat)
    (current : EntityId) :
    Composed True True True P (Eval.runFrom ctx origin budget code offset current) := by
  -- on the budget: a nested run and what follows it share what is left of it
  induction budget generalizing origin code offset current with
  | zero => exact ite (.throw fun _ => trivial) (.pure _)
  | succ budget ih =>
    rw [Eval.runFrom]
    cases code[offset]? with
    | none => exact .pure _
    | some byte =>
      refine (dispatch closed windows code offset current origin byte).bind fun next => ?_
      cases next with
      | goto next current => exact ih origin code next current
      | call body entity next current =>
        exact (ih entity body 0 entity).bind fun _ => ih origin code next current

/-- **Every run is composed**, whatever its bytes. -/
theorem run (budget : Nat) (code : Expression) (id : EntityId) :
    Composed True True True P (Eval.run ctx budget code id) :=
  runFrom closed windows id budget code 0 id

end

end Composed

/-! ## Budgets -/

/-- **Uses up no budget**: if it faults, then not for want of one. -/
def Frugal (x : Eval α) : Prop :=
  ∀ b, Ends x b (fun _ _ => True) fun f _ => f ≠ .outOfFuel

namespace Frugal

variable {α β : Type}

theorem bind {x : Eval α} {f : α → Eval β} (first : Frugal x) (rest : ∀ a, Frugal (f a)) :
    Frugal (x >>= f) :=
  fun b => Ends.bind ((first b).mono (fun a t _ => rest a t) fun _ _ unspent => unspent)

theorem ofExcept {x : Except Fault α} (unspent : Unspent x) : Frugal (Eval.ofExcept x) := by
  intro b
  cases x with
  | ok a => exact trivial
  | error f => exact fun spent => unspent (congrArg Except.error spent)

theorem top : Frugal Eval.top := by
  intro b
  refine Ends.step (a := b) (t := b) rfl ?_
  cases b.stack with
  | nil => exact nofun
  | cons v rest => exact trivial

theorem pop : Frugal Eval.pop := by
  intro b
  refine Ends.step (a := b) (t := b) rfl ?_
  cases b.stack with
  | nil => exact nofun
  | cons v rest => exact trivial

theorem onStack {f : Stack → Except Fault Stack} (unspent : ∀ stack, Unspent (f stack)) :
    Frugal (Eval.onStack f) := by
  intro b
  refine Ends.step (a := b) (t := b) rfl (Ends.bind ?_)
  exact (ofExcept (unspent b.stack) b).mono (fun _ _ _ => trivial) fun _ _ spared => spared

theorem entity (id : EntityId) : Frugal (Eval.entity id) := by
  intro b
  exact ofExcept (unspent_entity b.roster id) b

end Frugal

/-- **What is composed without using up a budget** does not fault for want of one. -/
theorem Composed.frugal {stores counts : Prop} {P : Value → Prop} {α : Type} {x : Eval α}
    (built : x.Composed stores False counts P) (all : ∀ v, P v) : Frugal x := by
  induction built with
  | pure a => exact fun _ => trivial
  | throw spent => exact fun _ => spent
  | bind _ _ first rest => exact first.bind rest
  | roster => exact fun _ => trivial
  | top => exact .top
  | pop _ rest => exact Frugal.pop.bind fun v => rest v (all v)
  | push _ => exact fun _ => trivial
  | onStack unspent _ => exact .onStack unspent
  | random low high => exact fun _ => trivial
  | record _ o => exact fun _ => trivial
  | recordFailedRedirect _ => exact fun _ => trivial
  | storeVariable _ current mode bank v =>
    -- what is left is to write, which never faults
    refine (Frugal.entity current).bind fun _ => Frugal.pop.bind fun _ => ?_
    exact fun _ => trivial
  | storeNamed _ ctx code offset current mode v =>
    refine (Frugal.entity current).bind fun _ => ?_
    refine (Frugal.ofExcept unspent_int32At).bind fun index => ?_
    refine (Frugal.ofExcept (unspent_string ctx.strings index)).bind fun _ => ?_
    exact fun _ => trivial

/-- **No instruction uses up a budget.**  Only a run does. -/
theorem frugal_dispatch (ctx : EvalContext) (code : Expression) (offset : Nat)
    (current origin : EntityId) (byte : UInt8) :
    Frugal (Eval.dispatch ctx code offset current origin byte) :=
  (Composed.dispatch .trivial (fun _ _ => trivial) code offset current origin byte).frugal
    fun _ => trivial

end Eval
end TickScript
