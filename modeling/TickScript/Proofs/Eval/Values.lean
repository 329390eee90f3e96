import TickScript.Proofs.Eval.Composed
import TickScript.Proofs.Eval.Footprint

/-! # What kinds of values expressions leave

    If a property of values survives all operations, and all operands and all slots have it, then
    an expression leaves operands that have it, however it ends, and its value has it
    (`Eval.ends_eval_holds`).  This is an induction on what the expression is composed of: what is
    pushed has the property, and so does what is popped, because nothing else is on the stack.
-/

namespace TickScript

/-- **All operands have a property.** -/
def Bench.Holds (P : Value → Prop) (b : Bench) : Prop := ∀ v ∈ b.stack, P v

namespace Eval

variable {P : Value → Prop} {b : Bench} {α : Type}

theorem ends_pop_holds (all : b.Holds P) :
    Ends Eval.pop b (fun v t => P v ∧ t.Holds P) fun _ t => t.Holds P := by
  obtain ⟨stack, profile, r⟩ := b
  cases stack with
  | nil => exact all
  | cons v rest => exact ⟨all v List.mem_cons_self, fun w i => all w (List.mem_cons_of_mem v i)⟩

theorem ends_onStack_holds {f : Stack → Except Fault Stack} (all : b.Holds P)
    (has : ∀ stack stack', (∀ v ∈ stack, P v) → f stack = .ok stack' → ∀ v ∈ stack', P v) :
    Ends (Eval.onStack f) b (fun _ t => t.Holds P) fun _ t => t.Holds P := by
  refine Ends.step (a := b) (t := b) rfl ?_
  cases changed : f b.stack with
  | error e => exact all
  | ok stack => exact has b.stack stack all changed

theorem holds_push {v : Value} (has : P v) (all : b.Holds P) :
    Bench.Holds P { b with stack := b.stack.push v } :=
  List.forall_mem_cons.mpr ⟨has, all⟩

section

variable (closed : Value.Closed P)

include closed

/-- The number that was written is pushed. -/
theorem ends_storeVariable_holds (current : EntityId) (mode : UpdateMode) (bank : VariableBank)
    (v : Value) (all : b.Holds P) :
    Ends (Eval.storeVariable current mode bank v) b (fun _ t => t.Holds P)
      fun _ t => t.Holds P := by
  refine Ends.bind ((Footprint.Keeps.entity current).still (fun e => ?_) fun _ => all)
  refine Ends.bind ((ends_pop_holds all).mono (fun index t popped => ?_) fun _ _ left => left)
  exact holds_push (closed.updateVariable e mode bank index.toInt32 v) popped.2

theorem ends_storeNamed_holds (ctx : EvalContext) (code : Expression) (offset : Nat)
    (current : EntityId) (mode : UpdateMode) (v : Value) (all : b.Holds P) :
    Ends (Eval.storeNamed ctx code offset current mode v) b (fun _ t => t.Holds P)
      fun _ t => t.Holds P := by
  -- what comes before the write only looks
  refine Ends.bind ((Footprint.Keeps.entity current).still (fun e => ?_) fun _ => all)
  refine Ends.bind ((Footprint.Keeps.ofExcept _).still (fun index => ?_) fun _ => all)
  refine Ends.bind ((Footprint.Keeps.ofExcept _).still (fun name => ?_) fun _ => all)
  exact holds_push (closed.ofSingle _) all

/-- **What pushes only values with the property** leaves only such operands, however it ends. -/
theorem Composed.ends_holds {stores spends counts : Prop} {x : Eval α}
    (built : x.Composed stores spends counts P) (all : b.Holds P) :
    Ends x b (fun _ t => t.Holds P) fun _ t => t.Holds P := by
  induction built generalizing b with
  | pure a => exact all
  | throw _ => exact all
  | bind _ _ first rest =>
    exact Ends.bind ((first all).mono (fun a _ => rest a) fun _ _ left => left)
  | roster => exact all
  | top => exact Footprint.Keeps.top.still (fun _ => all) fun _ => all
  | pop _ rest =>
    exact Ends.bind ((ends_pop_holds all).mono (fun v _ popped => rest v popped.1 popped.2)
      fun _ _ left => left)
  | push has => exact holds_push has all
  | onStack _ has => exact ends_onStack_holds all has
  | random low high => exact all
  | record _ o => exact all
  | recordFailedRedirect _ => exact all
  | storeVariable _ current mode bank v =>
    exact ends_storeVariable_holds closed current mode bank v all
  | storeNamed _ ctx code offset current mode v =>
    exact ends_storeNamed_holds closed ctx code offset current mode v all

/-- **The value of an expression has the property**, and so have the operands that it leaves. -/
theorem ends_eval_holds {ctx : EvalContext} (windows : ∀ v ∈ ctx.windows.slots, P v)
    (budget : Nat) (code : Expression) (id : EntityId) (all : b.Holds P) :
    Ends (Eval.eval ctx budget code id) b (fun v t => P v ∧ t.Holds P) fun _ t => t.Holds P := by
  have ran := (Composed.run closed windows budget code id).ends_holds closed all
  exact Ends.bind (ran.mono (fun _ _ left => ends_pop_holds left) fun _ _ left => left)

end

end Eval
end TickScript
