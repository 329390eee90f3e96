import TickScript.Eval.Run
import TickScript.Proofs.Bytecode.Reading

/-! # One instruction after the other

    A run is followed from point to point.  `runFrom_instruction` says what one instruction
    contributes to a run, and is the only place where `runFrom` is opened; `Arrives` and `Faults`
    say what becomes of a run that starts with at least `n` instructions to spend:

    * `Arrives n p q`: to continue from `p` is to continue from `q`, some instructions later;
    * `Faults n p f b`: the run from `p` ends with the fault `f` and leaves `b` behind.

    A nested run gets what is left of the budget, but the run around it goes on with what it had,
    so the numbers of both add up to one that is enough.
-/

namespace TickScript

open Expression (Holds)

/-- The bench on which an instruction is executed: it was counted before. -/
def Bench.counted (b : Bench) (o : Opcode) : Bench :=
  { b with profile := b.profile.record o b.stack.length }

namespace Eval

/-! ## Single instructions -/

/-- What is left to do after an instruction, with a budget for it. -/
def proceed (ctx : EvalContext) (origin : EntityId) (budget : Nat) (code : Expression) :
    Continuation → Eval Unit
  | .goto next current => runFrom ctx origin budget code next current
  | .call body entity next current => do
    run ctx budget body entity
    runFrom ctx origin budget code next current

section

variable {ctx : EvalContext} {origin current : EntityId} {code : Expression} {offset : Nat}

/-- A known instruction is counted and executed. -/
theorem dispatch_of_known {byte : UInt8} {o : Opcode} (known : Opcode.ofByte? byte = some o)
    (b : Bench) :
    dispatch ctx code offset current origin byte b =
      instruction ctx code (offset + 1) current origin o (b.counted o) := by
  rw [dispatch, known]
  rfl

/-- **One instruction of a run**: it is executed, and the rest follows. -/
theorem runFrom_instruction {o : Opcode} {part : Bytes} (budget : Nat)
    (held : Holds code offset (o.toByte :: part)) (b : Bench) :
    runFrom ctx origin (budget + 1) code offset current b =
      (instruction ctx code (offset + 1) current origin o >>= proceed ctx origin budget code)
        (b.counted o) := by
  simp only [runFrom, held.head, dispatch, Opcode.ofByte?_toByte]
  rfl

/-- A run at the end of its code is over. -/
theorem runFrom_end (budget : Nat) (behind : code.length ≤ offset) (b : Bench) :
    runFrom ctx origin budget code offset current b = .ok () b := by
  cases budget with
  | zero => simp [runFrom, Nat.not_lt.mpr behind, pure, EStateM.pure]
  | succ n => simp [runFrom, List.getElem?_eq_none behind, pure, EStateM.pure]

end

/-! ## Many instructions -/

/-- **Point of a run**: where it continues, with which current entity and on what. -/
structure Point where
  offset : Nat
  current : EntityId
  bench : Bench

/-- The run from a point on. -/
def runAt (ctx : EvalContext) (origin : EntityId) (budget : Nat) (code : Expression) (p : Point) :
    EStateM.Result Fault Bench Unit :=
  runFrom ctx origin budget code p.offset p.current p.bench

/-- **A run gets from one point to another** if it may spend at least `n` instructions, of which
    it spends some. -/
def Arrives (ctx : EvalContext) (origin : EntityId) (code : Expression) (n : Nat) (p q : Point) :
    Prop :=
  ∃ steps ≤ n, ∀ budget, n ≤ budget + steps →
    runAt ctx origin (budget + steps) code p = runAt ctx origin budget code q

/-- **A run faults** and leaves a bench behind, if it may spend at least `n` instructions. -/
def Faults (ctx : EvalContext) (origin : EntityId) (code : Expression) (n : Nat) (p : Point)
    (f : Fault) (b : Bench) : Prop :=
  ∀ budget, n ≤ budget → runAt ctx origin budget code p = .error f b

section

variable {ctx : EvalContext} {origin current next : EntityId} {code body part : Expression}
  {n n' offset stop : Nat} {b b' : Bench} {o : Opcode} {f : Fault} {p q r : Point}

/-- A run is where it is. -/
theorem Arrives.refl (p : Point) : Arrives ctx origin code 0 p p :=
  ⟨0, Nat.le_refl 0, fun _ _ => rfl⟩

theorem Arrives.mono (h : Arrives ctx origin code n p q) (more : n ≤ n') :
    Arrives ctx origin code n' p q := by
  obtain ⟨steps, few, reach⟩ := h
  exact ⟨steps, by omega, fun budget enough => reach budget (by omega)⟩

theorem Faults.mono (h : Faults ctx origin code n p f b) (more : n ≤ n') :
    Faults ctx origin code n' p f b :=
  fun budget enough => h budget (by omega)

theorem Arrives.trans (h : Arrives ctx origin code n p q) (h' : Arrives ctx origin code n' q r) :
    Arrives ctx origin code (n + n') p r := by
  obtain ⟨steps, few, reach⟩ := h
  obtain ⟨steps', few', reach'⟩ := h'
  -- what the first part does not spend of its bound is not needed by the second
  refine ⟨steps' + steps, by omega, fun budget enough => ?_⟩
  rw [← Nat.add_assoc, reach _ (by omega), reach' _ (by omega)]

theorem Arrives.faults (h : Arrives ctx origin code n p q) (h' : Faults ctx origin code n' q f b) :
    Faults ctx origin code (n + n') p f b := by
  obtain ⟨steps, few, reach⟩ := h
  intro budget enough
  have split : budget = (budget - steps) + steps := by omega
  rw [split, reach _ (by omega), h' _ (by omega)]

/-- An instruction that goes on without a nested run. -/
theorem Arrives.instruction (held : Holds code offset (o.toByte :: part))
    (run : instruction ctx code (offset + 1) current origin o (b.counted o) =
      .ok (.goto stop next) b') :
    Arrives ctx origin code 1 ⟨offset, current, b⟩ ⟨stop, next, b'⟩ := by
  refine ⟨1, Nat.le_refl _, fun budget _ => ?_⟩
  simp only [runAt, runFrom_instruction budget held, bind, EStateM.bind, run, proceed]

/-- An instruction that faults. -/
theorem Faults.instruction (held : Holds code offset (o.toByte :: part))
    (run : instruction ctx code (offset + 1) current origin o (b.counted o) = .error f b') :
    Faults ctx origin code 1 ⟨offset, current, b⟩ f b' := by
  intro budget enough
  obtain ⟨left, rfl⟩ : ∃ left, budget = left + 1 := ⟨budget - 1, by omega⟩
  simp only [runAt, runFrom_instruction left held, bind, EStateM.bind, run]

/-- A run that reaches its end is over. -/
theorem Arrives.run {last : EntityId} (h : Arrives ctx origin code n ⟨0, origin, b⟩
      ⟨code.length, last, b'⟩) {budget : Nat} (enough : n ≤ budget) :
    run ctx budget code origin b = .ok () b' := by
  obtain ⟨steps, few, reach⟩ := h
  have split : budget = (budget - steps) + steps := by omega
  have reach := reach (budget - steps) (by omega)
  rw [← split] at reach
  exact reach.trans (runFrom_end _ (Nat.le_refl _) _)

/-- A run that reaches its end with one value more evaluates to it. -/
theorem Arrives.eval {last : EntityId} {stack : Stack} {profile profile' : Profile}
    {r r' : Roster} {v : Value}
    (h : Arrives ctx origin code n ⟨0, origin, ⟨stack, profile, r⟩⟩
      ⟨code.length, last, ⟨v :: stack, profile', r'⟩⟩) {budget : Nat} (enough : n ≤ budget) :
    Eval.eval ctx budget code origin ⟨stack, profile, r⟩ = .ok v ⟨stack, profile', r'⟩ := by
  simp only [Eval.eval, bind, EStateM.bind, h.run enough]
  rfl

/-- An instruction with a nested run that reaches its end. -/
theorem Arrives.nested {entity last : EntityId} {b'' : Bench}
    (held : Holds code offset (o.toByte :: part))
    (call : Eval.instruction ctx code (offset + 1) current origin o (b.counted o) =
      .ok (.call body entity stop next) b')
    (inner : Arrives ctx entity body n ⟨0, entity, b'⟩ ⟨body.length, last, b''⟩) :
    Arrives ctx origin code (n + 1) ⟨offset, current, b⟩ ⟨stop, next, b''⟩ := by
  -- the nested run spends from a budget of its own, which is the one that is left here
  refine ⟨1, by omega, fun budget enough => ?_⟩
  have finish : Eval.run ctx budget body entity b' = .ok () b'' := inner.run (by omega)
  simp only [runAt, runFrom_instruction budget held, bind, EStateM.bind, call, proceed, finish]

/-- An instruction whose nested run faults. -/
theorem Faults.nested {entity : EntityId} {b'' : Bench}
    (held : Holds code offset (o.toByte :: part))
    (call : Eval.instruction ctx code (offset + 1) current origin o (b.counted o) =
      .ok (.call body entity stop next) b')
    (inner : Faults ctx entity body n ⟨0, entity, b'⟩ f b'') :
    Faults ctx origin code (n + 1) ⟨offset, current, b⟩ f b'' := by
  intro budget enough
  obtain ⟨left, rfl⟩ : ∃ left, budget = left + 1 := ⟨budget - 1, by omega⟩
  have fault : Eval.run ctx left body entity b' = .error f b'' := inner left (by omega)
  simp only [runAt, runFrom_instruction left held, bind, EStateM.bind, call, proceed, fault]

end

end Eval
end TickScript
