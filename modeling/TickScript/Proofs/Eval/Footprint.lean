import TickScript.Proofs.Eval.Composed
import TickScript.Proofs.Roster.Lookup

/-! # What expressions leave alone

    An expression changes the stack and the profile as it likes, but the roster in two ways only:
    it draws random numbers, and it updates variables and named numbers of live entities.  A
    footprint on benches that allows these is kept by every expression
    (`AllowsExpressions.eval`), because it is kept by each of the actions that expressions are
    composed of.

    Of the instructions only redirects count, and so the others leave the profile alone
    (`keeps_profile`).
-/

namespace TickScript

theorem Eval.entity_of_get? {id : EntityId} {e : Entity} {b : Bench}
    (present : b.roster.get? id = some e) : Eval.entity id b = .ok e b := by
  have found : Eval.ofExcept (b.roster.get id) b = .ok e b := by
    rw [Roster.get_of_get? present]
    rfl
  exact found

theorem Eval.entity_of_none {id : EntityId} {b : Bench} (absent : b.roster.get? id = none) :
    Eval.entity id b = .error (.missingEntity id) b := by
  have missing : Eval.ofExcept (b.roster.get id) b = .error (.missingEntity id) b := by
    rw [Roster.get, absent]
    rfl
  exact missing

namespace Footprint

/-- **What expressions need of a footprint** to stay within it; the profile may be out of bounds to
    those that do not count. -/
structure AllowsExpressions (F : Footprint Bench) (counts : Prop) : Prop where
  operands : ∀ (b : Bench) (stack : Stack), F.allows b { b with stack := stack }
  profile : counts → ∀ (b : Bench) (profile : Profile), F.allows b { b with profile := profile }
  random : ∀ (b : Bench) (low high : Int32),
    F.allows b { b with roster := (b.roster.random low high).2 }
  updateVariable : ∀ (b : Bench) {id : EntityId} {e : Entity} (mode : UpdateMode)
    (bank : VariableBank) (index : Int32) (v : Value), b.roster.get? id = some e →
    F.allows b
      { b with roster := b.roster.modify id fun _ => (e.updateVariable mode bank index v).1 }
  updateNamed : ∀ (b : Bench) {id : EntityId} {e : Entity} (mode : UpdateMode) (name : String)
    (x : Single), b.roster.get? id = some e →
    F.allows b { b with roster := b.roster.modify id fun _ => (e.updateNamed mode name x).1 }

variable {F : Footprint Bench} {α : Type}

/-! ## Actions that only look -/

namespace Keeps

theorem ofExcept (x : Except Fault α) : F.Keeps (Eval.ofExcept x) := by
  cases x with
  | ok a => exact .pure a
  | error f => exact .throw f

theorem top : F.Keeps Eval.top := get.bind fun b => ofExcept b.stack.top

theorem roster : F.Keeps Eval.roster := get.bind fun _ => .pure _

theorem entity (id : EntityId) : F.Keeps (Eval.entity id) :=
  roster.bind fun r => ofExcept (r.get id)

/-- What follows the look at an entity may use that it is the one in the roster. -/
theorem bind_entity {id : EntityId} {f : Entity → Eval α}
    (hf : ∀ b e, b.roster.get? id = some e →
      Ends (f e) b (fun _ t => F.allows b t) fun _ t => F.allows b t) :
    F.Keeps (Eval.entity id >>= f) := by
  intro b
  cases present : b.roster.get? id with
  | some e => exact Ends.step (Eval.entity_of_get? present) (hf b e present)
  | none =>
    rw [Ends, bind_of_error (Eval.entity_of_none present)]
    exact F.refl b

/-! ## The stack -/

section

variable (operands : ∀ (b : Bench) (stack : Stack), F.allows b { b with stack := stack })

include operands

theorem pop : F.Keeps Eval.pop := by
  intro b
  refine Ends.step (a := b) (t := b) rfl ?_
  cases b.stack.pop with
  | error f => exact F.refl b
  | ok result => exact operands b result.2

theorem onStack (f : Stack → Except Fault Stack) : F.Keeps (Eval.onStack f) := by
  intro b
  refine Ends.step (a := b) (t := b) rfl ?_
  cases f b.stack with
  | error f => exact F.refl b
  | ok stack => exact operands b stack

end

end Keeps

namespace AllowsExpressions

section

variable {counts : Prop} (h : F.AllowsExpressions counts)

include h

theorem pop : F.Keeps Eval.pop := .pop h.operands

/-! ## Writes -/

/-- The entity that is written back is the one that was read, since only the stack changes in
    between. -/
theorem storeVariable (current : EntityId) (mode : UpdateMode) (bank : VariableBank) (v : Value) :
    F.Keeps (Eval.storeVariable current mode bank v) := by
  refine Keeps.bind_entity fun b e present => ?_
  obtain ⟨stack, profile, r⟩ := b
  cases stack with
  | nil => exact F.refl _
  | cons index rest =>
    have taken : F.allows ⟨index :: rest, profile, r⟩ ⟨rest, profile, r⟩ :=
      h.operands _ rest
    have written := h.updateVariable ⟨rest, profile, r⟩ mode bank index.toInt32 v present
    exact F.trans (F.trans taken written) (h.operands _ _)

theorem storeNamed (ctx : EvalContext) (code : Expression) (offset : Nat) (current : EntityId)
    (mode : UpdateMode) (v : Value) :
    F.Keeps (Eval.storeNamed ctx code offset current mode v) := by
  refine Keeps.bind_entity fun b e present => ?_
  cases code.int32At offset with
  | error f => exact F.refl b
  | ok index =>
    -- the name is resolved after the entity was read, and from the code alone
    cases resolved : ctx.strings.resolve index with
    | error f =>
      refine Ends.step (a := index) (t := b) rfl ?_
      rw [resolved]
      exact F.refl b
    | ok name =>
      refine Ends.step (a := index) (t := b) rfl ?_
      rw [resolved]
      exact F.trans (h.updateNamed b mode name v.toSingle present) (h.operands _ _)

/-! ## Expressions -/

/-- **What expressions are composed of stays within the footprint**, and so do they. -/
theorem composed {stores spends : Prop} {x : Eval α}
    (built : x.Composed stores spends counts fun _ => True) : F.Keeps x := by
  induction built with
  | pure a => exact .pure a
  | throw _ => exact .throw _
  | bind _ _ first rest => exact first.bind rest
  | roster => exact Keeps.roster
  | top => exact Keeps.top
  | pop _ rest => exact h.pop.bind fun v => rest v trivial
  | push _ => exact .modify fun b => h.operands b _
  | onStack _ _ => exact .onStack h.operands _
  | random low high => exact fun b => h.random b low high
  | record among o => exact .modify fun b => h.profile among b _
  | recordFailedRedirect among => exact .modify fun b => h.profile among b _
  | storeVariable _ current mode bank v => exact h.storeVariable current mode bank v
  | storeNamed _ ctx code offset current mode v => exact h.storeNamed ctx code offset current mode v

end

/-- **Every expression stays within the footprint**, whatever its bytes. -/
theorem eval (h : F.AllowsExpressions True) (ctx : EvalContext) (budget : Nat) (code : Expression)
    (id : EntityId) : F.Keeps (Eval.eval ctx budget code id) :=
  (h.composed (.run .trivial (fun _ _ => trivial) budget code id)).bind fun _ => h.pop

end AllowsExpressions

theorem allowsExpressions_profile :
    (fixing fun b : Bench => b.profile).AllowsExpressions False where
  operands _ _ := rfl
  profile := False.elim
  random _ _ _ := rfl
  updateVariable _ _ _ _ _ _ _ _ := rfl
  updateNamed _ _ _ _ _ _ _ := rfl

/-- **An instruction that is no redirect counts nothing**; it was counted before. -/
theorem keeps_profile (ctx : EvalContext) (code : Expression) (offset : Nat)
    (current origin : EntityId) {o : Opcode} (plain : ∀ role, o ≠ .redirect role) :
    (fixing fun b : Bench => b.profile).Keeps
      (Eval.instruction ctx code offset current origin o) := by
  have built : (Eval.instruction ctx code offset current origin o).Composed True False False
      fun _ => True :=
    .instruction .trivial (fun _ _ => trivial) code offset current origin o (fun _ => trivial) plain
  exact allowsExpressions_profile.composed built

end Footprint
end TickScript
