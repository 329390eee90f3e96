import TickScript.Proofs.Eval.Agreement
import TickScript.Proofs.Eval.Dispatches

/-! # What runs meet

    `encountersFrom` lists the instructions that a run dispatches, each with the entity that it is
    for and with stack and roster as it finds them.  Nested runs are in it, and so is an
    instruction that faults; a byte that is no opcode is not dispatched.

    They are the instructions of `dispatchesFrom` (`opcodes_encountersFrom`), and the profile has no
    part in what is met (`encountersFrom_like`).
-/

namespace TickScript

/-- **An instruction as a run meets it.** -/
structure Encounter where
  opcode : Opcode
  /-- The entity that it is for. -/
  current : EntityId
  stack : Stack
  roster : Roster

/-- **Whether a redirect finds nobody.**  One of a dead entity, or without its selector, is a fault
    before anybody is looked for. -/
def Role.misses (role : Role) (current : EntityId) (stack : Stack) (r : Roster) : Bool :=
  r.isLive current && (role.selector? stack).any fun s => (r.resolve current s role).isNone

/-- **A redirect that does not resolve.** -/
def Encounter.misses (e : Encounter) : Bool :=
  match e.opcode with
  | .redirect role => role.misses e.current e.stack e.roster
  | _ => false

namespace Eval

/-- **What a run meets**, in order. -/
def encountersFrom (ctx : EvalContext) (origin : EntityId) :
    (budget : Nat) → (code : Expression) → (offset : Nat) → (current : EntityId) → Bench →
      List Encounter
  | 0, _, _, _, _ => []
  | budget + 1, code, offset, current, b =>
    match code[offset]? with
    | none => []
    | some byte =>
      match Opcode.ofByte? byte with
      | none => []
      | some o =>
        ⟨o, current, b.stack, b.roster⟩ ::
          match dispatch ctx code offset current origin byte b with
          | .error _ _ => []
          | .ok (.goto next following) t => encountersFrom ctx origin budget code next following t
          | .ok (.call body entity next following) t =>
            encountersFrom ctx entity budget body 0 entity t ++
              match runFrom ctx entity budget body 0 entity t with
              | .ok _ u => encountersFrom ctx origin budget code next following u
              | .error _ _ => []

/-- What the run of an expression for an entity meets. -/
def encounters (ctx : EvalContext) (budget : Nat) (code : Expression) (entity : EntityId)
    (b : Bench) : List Encounter :=
  encountersFrom ctx entity budget code 0 entity b

/-- What a run meets behind an instruction: nested runs come first, and nothing comes behind a
    fault. -/
def encountersAfter (ctx : EvalContext) (origin : EntityId) (budget : Nat) (code : Expression) :
    EStateM.Result Fault Bench Continuation → List Encounter
  | .error _ _ => []
  | .ok (.goto next following) t => encountersFrom ctx origin budget code next following t
  | .ok (.call body entity next following) t =>
    encountersFrom ctx entity budget body 0 entity t ++
      match runFrom ctx entity budget body 0 entity t with
      | .ok _ u => encountersFrom ctx origin budget code next following u
      | .error _ _ => []

variable {ctx : EvalContext} {code : Expression} {offset budget : Nat}
  {current origin : EntityId} {b b' : Bench} {byte : UInt8} {o : Opcode}

theorem encountersFrom_of_known (found : code[offset]? = some byte)
    (known : Opcode.ofByte? byte = some o) :
    encountersFrom ctx origin (budget + 1) code offset current b =
      ⟨o, current, b.stack, b.roster⟩ :: encountersAfter ctx origin budget code
        (dispatch ctx code offset current origin byte b) := by
  simp only [encountersFrom, found, known]
  cases dispatch ctx code offset current origin byte b with
  | ok c t => cases c <;> rfl
  | error f t => rfl

/-! ## Encounters are dispatches -/

/-- **What is met is what is dispatched.** -/
theorem opcodes_encountersFrom (ctx : EvalContext) (depth : Nat) (origin : EntityId) (budget : Nat)
    (code : Expression) (offset : Nat) (current : EntityId) (b : Bench) :
    (encountersFrom ctx origin budget code offset current b).map (·.opcode) =
      (dispatchesFrom ctx depth origin budget code offset current b).map (·.opcode) := by
  induction budget generalizing depth origin code offset current b with
  | zero => rfl
  | succ budget ih =>
    cases found : code[offset]? with
    | none => simp only [encountersFrom, dispatchesFrom, found, List.map_nil]
    | some byte =>
      cases known : Opcode.ofByte? byte with
      | none => simp only [encountersFrom, dispatchesFrom, found, known, List.map_nil]
      | some o =>
        rw [encountersFrom_of_known found known, List.map_cons]
        cases run : dispatch ctx code offset current origin byte b with
        | error f t => simp only [encountersAfter, dispatchesFrom, found, known, run, List.map]
        | ok c t =>
          rw [dispatchesFrom_of_ok budget depth found known run]
          refine congrArg (o :: ·) ?_
          cases c with
          | goto next following => exact ih depth origin code next following t
          | call body entity next following =>
            simp only [encountersAfter, dispatchesAfter, List.map_append,
              ih (depth + 1) entity body 0 entity t]
            cases runFrom ctx entity budget body 0 entity t with
            | ok _ u => exact congrArg (_ ++ ·) (ih depth origin code next following u)
            | error _ u => rfl

/-! ## Encounters and counts -/

/-- Behind alike ends of an instruction the same is met, if it is from alike benches. -/
theorem encountersAfter_like {r r' : EStateM.Result Fault Bench Continuation}
    (same : ∀ origin code offset current (b b' : Bench), b.Like b' →
      encountersFrom ctx origin budget code offset current b' =
        encountersFrom ctx origin budget code offset current b)
    (alike : Alike Bench.Like r r') :
    encountersAfter ctx origin budget code r' = encountersAfter ctx origin budget code r := by
  cases alike with
  | error f _ => rfl
  | @ok c t t' like =>
    cases c with
    | goto next following => exact same origin code next following t t' like
    | call body entity next following =>
      have nested := blind_runFrom ctx entity budget body 0 entity t t' like
      simp only [encountersAfter, same entity body 0 entity t t' like]
      generalize runFrom ctx entity budget body 0 entity t = ended at nested ⊢
      generalize runFrom ctx entity budget body 0 entity t' = ended' at nested ⊢
      cases nested with
      | ok _ like => exact congrArg (_ ++ ·) (same origin code next following _ _ like)
      | error f _ => rfl

/-- **What is met does not depend on the counts.** -/
theorem encountersFrom_like (ctx : EvalContext) (origin : EntityId) (budget : Nat)
    (code : Expression) (offset : Nat) (current : EntityId) (b b' : Bench) (like : b.Like b') :
    encountersFrom ctx origin budget code offset current b' =
      encountersFrom ctx origin budget code offset current b := by
  induction budget generalizing origin code offset current b b' with
  | zero => rfl
  | succ budget ih =>
    cases found : code[offset]? with
    | none => simp only [encountersFrom, found]
    | some byte =>
      cases known : Opcode.ofByte? byte with
      | none => simp only [encountersFrom, found, known]
      | some o =>
        rw [encountersFrom_of_known found known, encountersFrom_of_known found known, like.1,
          like.2]
        exact congrArg (_ :: ·)
          (encountersAfter_like ih (blind_dispatch ctx code offset current origin byte b b' like))

end Eval
end TickScript
