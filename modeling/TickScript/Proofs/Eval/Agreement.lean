import TickScript.Proofs.Agreement
import TickScript.Proofs.Eval.Composed

/-! # Expressions do not see the counts

    Beside its context an expression depends on operands and roster alone.  The profile is
    written, but no instruction reads it: whatever it counted so far, the same expression has the
    same result, leaves the same operands and makes the same of the roster.
-/

namespace TickScript

/-- **Benches that differ in their counts only.** -/
def Bench.Like (b b' : Bench) : Prop := b'.stack = b.stack ∧ b'.roster = b.roster

namespace Eval

variable {α : Type}

/-! ## The actions of expressions -/

theorem blind_ofExcept (x : Except Fault α) : Blind Bench.Like (Eval.ofExcept x) := by
  cases x with
  | ok a => exact .pure a
  | error f => exact .throw f

theorem blind_roster : Blind Bench.Like Eval.roster := by
  intro b b' like
  show Alike Bench.Like (.ok b.roster b) (.ok b'.roster b')
  rw [like.2]
  exact .ok _ like

theorem blind_entity (id : EntityId) : Blind Bench.Like (Eval.entity id) :=
  blind_roster.bind fun r => blind_ofExcept (r.get id)

/-- What is done with the stack, and what comes of it, is decided by the stack. -/
theorem blind_stack {x : Eval α} {g : Stack → Except Fault (α × Stack)}
    (run : ∀ b, x b = match g b.stack with
      | .ok (a, stack) => .ok a { b with stack := stack }
      | .error f => .error f b) : Blind Bench.Like x := by
  intro b b' like
  rw [run b, run b', like.1]
  cases g b.stack with
  | ok result => exact .ok result.1 ⟨rfl, like.2⟩
  | error f => exact .error f like

theorem blind_pop : Blind Bench.Like Eval.pop := by
  refine blind_stack (g := Stack.pop) fun b => ?_
  obtain ⟨stack, profile, r⟩ := b
  cases stack <;> rfl

theorem blind_top : Blind Bench.Like Eval.top := by
  refine blind_stack (g := fun stack => stack.top.map (·, stack)) fun b => ?_
  obtain ⟨stack, profile, r⟩ := b
  cases stack <;> rfl

theorem blind_onStack (f : Stack → Except Fault Stack) : Blind Bench.Like (Eval.onStack f) := by
  refine blind_stack (g := fun stack => (f stack).map ((), ·)) fun b => ?_
  have run : Eval.onStack f b = (Eval.ofExcept (f b.stack) >>= fun stack =>
      set { b with stack := stack }) b := rfl
  rw [run]
  cases f b.stack <;> rfl

theorem blind_push (v : Value) : Blind Bench.Like (Eval.push v) :=
  .modify fun like => ⟨congrArg (Stack.push · v) like.1, like.2⟩

theorem blind_update (id : EntityId) (f : Entity → Entity) : Blind Bench.Like (Eval.update id f) :=
  .modify fun like => ⟨like.1, congrArg (Roster.modify · id f) like.2⟩

theorem blind_random (low high : Int32) : Blind Bench.Like (Eval.random low high) := by
  intro b b' like
  show Alike Bench.Like
    (.ok (b.roster.random low high).1 { b with roster := (b.roster.random low high).2 })
    (.ok (b'.roster.random low high).1 { b' with roster := (b'.roster.random low high).2 })
  rw [like.2]
  exact .ok _ ⟨like.1, rfl⟩

/-! ## Expressions -/

/-- **What expressions are composed of does not see the counts**, and so neither do they. -/
theorem Composed.blind {stores spends counts : Prop} {P : Value → Prop} {x : Eval α}
    (built : x.Composed stores spends counts P) (all : ∀ v, P v) : Blind Bench.Like x := by
  induction built with
  | pure a => exact .pure a
  | throw _ => exact .throw _
  | bind _ _ first rest => exact first.bind rest
  | roster => exact blind_roster
  | top => exact blind_top
  | pop _ rest => exact blind_pop.bind fun v => rest v (all v)
  | push _ => exact blind_push _
  | onStack _ _ => exact blind_onStack _
  | random low high => exact blind_random low high
  -- counts may differ before and after
  | record _ o => exact .modify fun like => like
  | recordFailedRedirect _ => exact .modify fun like => like
  | storeVariable _ current mode bank v =>
    exact (blind_entity current).bind fun _ => blind_pop.bind fun _ =>
      (blind_update current _).bind fun _ => blind_push _
  | storeNamed _ ctx code offset current mode v =>
    exact (blind_entity current).bind fun _ => (blind_ofExcept _).bind fun _ =>
      (blind_ofExcept _).bind fun _ => (blind_update current _).bind fun _ => blind_push _

theorem blind_dispatch (ctx : EvalContext) (code : Expression) (offset : Nat)
    (current origin : EntityId) (byte : UInt8) :
    Blind Bench.Like (Eval.dispatch ctx code offset current origin byte) := by
  have built : (Eval.dispatch ctx code offset current origin byte).Composed True False True
      fun _ => True := .dispatch .trivial (fun _ _ => trivial) code offset current origin byte
  exact built.blind fun _ => trivial

theorem blind_runFrom (ctx : EvalContext) (origin : EntityId) (budget : Nat) (code : Expression)
    (offset : Nat) (current : EntityId) :
    Blind Bench.Like (Eval.runFrom ctx origin budget code offset current) := by
  have built : (Eval.runFrom ctx origin budget code offset current).Composed True True True
      fun _ => True := .runFrom .trivial (fun _ _ => trivial) origin budget code offset current
  exact built.blind fun _ => trivial

/-- **No expression sees the counts.** -/
theorem blind_eval (ctx : EvalContext) (budget : Nat) (code : Expression) (id : EntityId) :
    Blind Bench.Like (Eval.eval ctx budget code id) :=
  (blind_runFrom ctx id budget code 0 id).bind fun _ => blind_pop

end Eval
end TickScript
