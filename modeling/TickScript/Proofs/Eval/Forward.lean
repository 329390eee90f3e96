import Mathlib.Logic.Function.Basic
import TickScript.Proofs.Bytecode.Levels
import TickScript.Proofs.Eval.Composed
import TickScript.Proofs.Eval.Operands

/-! # Runs without backward jumps

    A run may jump into an operand or into a nested expression, and what it finds there are
    instructions like any other.  So its instructions are told apart by the bytes of the program
    that they were read from: `placed` finds the place of each one that is dispatched.  A nested
    expression stands behind the opcode and the length of the run that runs it, and the run
    around it goes on behind the expression, so its places lie between those of the two
    instructions around it.

    If no long jump leads backwards, every instruction goes on behind its own place
    (`passes_on`).  Then places increase along the run, nested runs included, there are no more
    of them than bytes, and a budget of as many instructions is never used up
    (`forward_runs_end`).
-/

namespace TickScript

open Expression (Holds)

/-! ## Places -/

/-- **A dispatched instruction and its place**: where its opcode stands in the program. -/
structure PlacedDispatch extends Dispatched where
  place : Nat

namespace Dispatched

/-- Where the expressions begin in the program, by their depths, behind an instruction: one that it
    runs stands behind the opcode and the four bytes of its length. -/
def basesBehind (bases : Nat → Nat) (d : Dispatched) : Nat → Nat :=
  Function.update bases (d.depth + 1) (bases d.depth + d.offset + 5)

/-- **The places of dispatched instructions**, given where the expressions begin that they are
    in. -/
def placedFrom (bases : Nat → Nat) : List Dispatched → List PlacedDispatch
  | [] => []
  | d :: later => ⟨d, bases d.depth + d.offset⟩ :: placedFrom (d.basesBehind bases) later

/-- **The places of what a run dispatches**: its expression is the whole program. -/
def placed (ds : List Dispatched) : List PlacedDispatch := placedFrom (fun _ => 0) ds

variable {bases : Nat → Nat} {ds : List Dispatched} {d : Dispatched} {depth : Nat}

/-- Placing drops no instruction and adds none. -/
theorem map_placedFrom (bases : Nat → Nat) (ds : List Dispatched) :
    (placedFrom bases ds).map (·.toDispatched) = ds := by
  induction ds generalizing bases with
  | nil => rfl
  | cons d later ih => exact congrArg (d :: ·) (ih _)

theorem placedFrom_append (bases : Nat → Nat) (ds later : List Dispatched) :
    placedFrom bases (ds ++ later) =
      placedFrom bases ds ++ placedFrom (ds.foldl basesBehind bases) later := by
  induction ds generalizing bases with
  | nil => rfl
  | cons d rest ih => exact congrArg (_ :: ·) (ih _)

theorem basesBehind_below (below : d.depth = depth) :
    d.basesBehind bases (depth + 1) = bases depth + d.offset + 5 := by
  rw [basesBehind, below]
  exact Function.update_self ..

theorem basesBehind_of_le (around : depth ≤ d.depth) :
    d.basesBehind bases depth = bases depth := by
  have other : depth ≠ d.depth + 1 := by omega
  exact Function.update_of_ne other ..

/-- Nested runs leave it where the expressions around them begin. -/
theorem foldl_basesBehind_of_le (around : ∀ d ∈ ds, depth ≤ d.depth) :
    ds.foldl basesBehind bases depth = bases depth := by
  induction ds generalizing bases with
  | nil => rfl
  | cons d rest ih =>
    obtain ⟨first, others⟩ := List.forall_mem_cons.mp around
    rw [List.foldl_cons, ih others]
    exact basesBehind_of_le first

end Dispatched

namespace PlacedDispatch

/-- **A dispatched instruction does not leap backwards**: its long displacement, if it leapt by
    one, is not negative. -/
def LeapsForward (program : Expression) (x : PlacedDispatch) : Prop :=
  x.leapt = true → x.opcode.operand = .jump32 →
    ∀ i, program.int32At (x.place + 1) = .ok i → 0 ≤ i

instance {program : Expression} {x : PlacedDispatch} : Decidable (x.LeapsForward program) :=
  -- the one displacement there is looked at, not every word
  match read : program.int32At (x.place + 1) with
  | .ok i => decidable_of_iff (x.leapt = true → x.opcode.operand = .jump32 → 0 ≤ i)
      (by simp [LeapsForward, read])
  | .error f => .isTrue (by simp [LeapsForward, read])

/-- **Places go up** from one to below another, and hold the opcodes that are dispatched there. -/
structure Ascend (program : Expression) (first stop : Nat) (placed : List PlacedDispatch) :
    Prop where
  increasing : placed.Pairwise fun x y => x.place < y.place
  between : ∀ x ∈ placed, first ≤ x.place ∧ x.place < stop
  opcodes : ∀ x ∈ placed, program[x.place]?.bind Opcode.ofByte? = some x.opcode

namespace Ascend

variable {program : Expression} {first next stop : Nat} {x : PlacedDispatch}
  {placed later : List PlacedDispatch}

theorem nil : Ascend program first stop [] := ⟨.nil, nofun, nofun⟩

theorem cons (here : program[x.place]?.bind Opcode.ofByte? = some x.opcode)
    (inside : x.place < stop) (further : x.place < next) (h : Ascend program next stop placed) :
    Ascend program x.place stop (x :: placed) := by
  refine ⟨List.pairwise_cons.mpr ⟨?_, h.increasing⟩, ?_, List.forall_mem_cons.mpr ⟨here, h.opcodes⟩⟩
  · intro y i
    exact Nat.lt_of_lt_of_le further (h.between y i).1
  · refine List.forall_mem_cons.mpr ⟨⟨Nat.le_refl _, inside⟩, ?_⟩
    intro y i
    obtain ⟨behind, before⟩ := h.between y i
    exact ⟨by omega, before⟩

theorem append (h : Ascend program first next placed) (h' : Ascend program next stop later)
    (ordered : first ≤ next) (inside : next ≤ stop) :
    Ascend program first stop (placed ++ later) := by
  refine ⟨List.pairwise_append.mpr ⟨h.increasing, h'.increasing, ?_⟩, ?_, ?_⟩
  · intro x i y i'
    exact Nat.lt_of_lt_of_le (h.between x i).2 (h'.between y i').1
  · intro x i
    rcases List.mem_append.mp i with i | i
    · obtain ⟨behind, before⟩ := h.between x i
      exact ⟨behind, by omega⟩
    · obtain ⟨behind, before⟩ := h'.between x i
      exact ⟨by omega, before⟩
  · intro x i
    rcases List.mem_append.mp i with i | i
    · exact h.opcodes x i
    · exact h'.opcodes x i

/-- **There are no more instructions than places.** -/
theorem length_le (h : Ascend program first stop placed) : placed.length ≤ stop - first := by
  induction placed generalizing first with
  | nil => exact Nat.zero_le _
  | cons x rest ih =>
    obtain ⟨ahead, increasing⟩ := List.pairwise_cons.mp h.increasing
    obtain ⟨⟨behind, before⟩, between⟩ := List.forall_mem_cons.mp h.between
    have others : Ascend program (x.place + 1) stop rest :=
      ⟨increasing, fun y i => ⟨ahead y i, (between y i).2⟩, (List.forall_mem_cons.mp h.opcodes).2⟩
    have fewer := ih others
    rw [List.length_cons]
    omega

end Ascend
end PlacedDispatch

namespace Eval

variable {ctx : EvalContext} {code program : Expression} {offset : Nat}
  {current origin : EntityId} {b t : Bench} {byte : UInt8} {o : Opcode} {c : Continuation}

/-! ## Where an instruction goes on -/

/-- **A leap**: execution goes on in the same expression, at the target that stands behind the
    opcode. -/
def LeapsTo (code : Expression) (offset : Nat) (o : Opcode) (c : Continuation) : Prop :=
  c.body? = none ∧
    (code.shortTargetAt offset = .ok c.offset ∨
      o.operand = .jump32 ∧ code.longTargetAt offset = .ok c.offset)

theorem leapsTo_of_jump {taken : Bool} {target : Except Fault Nat} {next : Nat} {t : Bench}
    {following : EntityId} (leaps : taken = o.leaps current b)
    (aims : ∀ n, target = .ok n → LeapsTo code offset o (.goto n origin)) :
    Ends (if taken then return .goto (← ofExcept target) origin else return .goto next following :
      Eval Continuation) t
      (fun c _ => o.leaps current b = true → LeapsTo code offset o c) fun _ _ => True := by
  rw [← leaps]
  cases taken with
  | false => exact Ends.of_ok fun _ _ _ => nofun
  | true =>
    refine Ends.of_ok fun c u run _ => ?_
    cases target with
    | error f => cases run
    | ok n =>
      cases run
      exact aims n rfl

theorem leapsTo_of_redirect {role : Role} :
    Ends (instruction ctx code offset current origin (.redirect role)) b
      (fun c _ => (Opcode.redirect role).leaps current b = true →
        LeapsTo code offset (.redirect role) c) fun _ _ => True := by
  refine Ends.of_ok fun c t run leaps => ?_
  obtain ⟨live, s, selected⟩ := ready_of_redirect.ok run
  have nobody : (b.roster.resolve current (role.selector b.stack) role).isNone = true := leaps
  rw [Role.selector_of_selector? selected, Option.isNone_iff_eq_none] at nobody
  obtain ⟨stack, profile, r⟩ := b
  obtain ⟨selector, rest, rfl, same⟩ := exists_operands selected
  have nobody : r.resolve current selector.toInt32 role = none := (same current r).trans nobody
  rw [redirect_eq live, nobody] at run
  cases read : code.longTargetAt offset with
  | error f =>
    simp only [read] at run
    cases run
  | ok target =>
    simp only [read] at run
    cases run
    exact ⟨rfl, Or.inr ⟨rfl, read⟩⟩

/-- **An instruction that leaps goes on at its target.** -/
theorem instruction_leaps :
    Ends (instruction ctx code offset current origin o) b
      (fun c _ => o.leaps current b = true → LeapsTo code offset o c) fun _ _ => True := by
  cases o with
  | jumpShort test =>
    refine Ends.bind (ends_jumpTaken.mono (fun taken t same => ?_) fun _ _ _ => trivial)
    exact leapsTo_of_jump same fun n read => ⟨rfl, Or.inl read⟩
  | jumpIfFailed =>
    refine Ends.bind (ends_top.mono (fun taken t same => ?_) fun _ _ _ => trivial)
    exact leapsTo_of_jump same fun n read => ⟨rfl, Or.inl read⟩
  | jumpLong test =>
    refine Ends.bind (ends_jumpTaken.mono (fun taken t same => ?_) fun _ _ _ => trivial)
    exact leapsTo_of_jump same fun n read => ⟨rfl, Or.inr ⟨rfl, read⟩⟩
  | redirect role => exact leapsTo_of_redirect
  | _ => exact Ends.of_ok fun _ _ _ => nofun

theorem lt_of_shortTargetAt {target : Nat} (read : code.shortTargetAt offset = .ok target) :
    offset < target := by
  have inside := inside_of_shortTargetAt read
  unfold Expression.shortTargetAt at read
  cases found : code.uint8At offset with
  | error f =>
    rw [found] at read
    cases read
  | ok d =>
    rw [found] at read
    obtain rfl := Except.ok.inj read
    -- zero stands for the end of the code
    show offset < if d = 0 then code.length else offset + 1 + d.toNat
    split <;> omega

theorem lt_of_longTargetAt {target : Nat} (read : code.longTargetAt offset = .ok target)
    (forward : ∀ i, code.int32At offset = .ok i → 0 ≤ i) : offset < target := by
  unfold Expression.longTargetAt at read
  cases found : code.int32At offset with
  | error f =>
    rw [found] at read
    cases read
  | ok i =>
    have nonneg : 0 ≤ i.toInt := Int32.le_iff_toInt_le.mp (forward i found)
    rw [found] at read
    simp only [bind, Except.bind] at read
    split at read
    case isTrue =>
      obtain rfl := Except.ok.inj read
      omega
    case isFalse => cases read

/-- **An instruction goes on behind its place**, unless it leaps by a negative displacement. -/
theorem passes_on (known : Opcode.ofByte? byte = some o)
    (run : dispatch ctx code offset current origin byte b = .ok c t)
    (forward : o.leaps current b = true → o.operand = .jump32 →
      ∀ i, code.int32At (offset + 1) = .ok i → 0 ≤ i) : offset < c.offset := by
  have executed : instruction ctx code (offset + 1) current origin o (b.counted o) = .ok c t :=
    (dispatch_of_known known b).symm.trans run
  cases leaps : o.leaps current b with
  | false =>
    have behind := (dispatch_follows known run leaps).1
    omega
  | true =>
    rcases (instruction_leaps.ok executed leaps).2 with short | ⟨long, read⟩
    · have further := lt_of_shortTargetAt short
      omega
    · have further := lt_of_longTargetAt read (forward leaps long)
      omega

/-- **A nested expression stands behind its length**, and the run around it goes on behind the
    expression. -/
theorem holds_of_call {body : Expression} {entity following : EntityId} {next : Nat}
    (known : Opcode.ofByte? byte = some o)
    (run : dispatch ctx code offset current origin byte b = .ok (.call body entity next following) t) :
    Holds code (offset + 5) body ∧ next = offset + 5 + body.length := by
  have executed : instruction ctx code (offset + 1) current origin o (b.counted o) =
      .ok (.call body entity next following) t := (dispatch_of_known known b).symm.trans run
  have stays : o.leaps current b = false := by
    cases leaps : o.leaps current b with
    | false => rfl
    | true =>
      obtain ⟨nested, -⟩ := instruction_leaps.ok executed leaps
      cases nested
  obtain ⟨goes, shows⟩ := dispatch_follows known run stays
  have line := ListingLine.nestedAt_of_body shows.symm
  obtain ⟨rest, -, whole, size⟩ := ArgRecord.nestedAt_eq_ok_iff.mp line
  have goes : next = offset + 1 + (4 + body.length) := goes.trans (congrArg _ size)
  have inside : offset + 1 ≤ code.length := by
    have left := congrArg List.length whole
    rw [List.length_drop, List.length_append, ArgRecord.length_expressionBytes] at left
    omega
  have held : Holds code (offset + 1) (body.lengthBytes ++ body) := .of_drop inside whole
  refine ⟨?_, by omega⟩
  have stands := held.right
  rwa [Expression.length_lengthBytes] at stands

/-! ## What a run dispatches, whatever its budget -/

theorem dispatchesFrom_end (depth budget : Nat) (behind : code.length ≤ offset) :
    dispatchesFrom ctx depth origin budget code offset current b = [] := by
  cases budget with
  | zero => rfl
  | succ budget => simp only [dispatchesFrom, List.getElem?_eq_none behind]

theorem dispatchesFrom_of_error {f : Fault} (depth budget : Nat) (found : code[offset]? = some byte)
    (run : dispatch ctx code offset current origin byte b = .error f t) :
    dispatchesFrom ctx depth origin (budget + 1) code offset current b =
      ((Opcode.ofByte? byte).map fun o => ⟨depth, offset, o, false⟩).toList := by
  cases known : Opcode.ofByte? byte with
  | none =>
    simp only [dispatchesFrom, found, known]
    rfl
  | some o =>
    simp only [dispatchesFrom, found, known, run]
    rfl

theorem exists_opcode (run : dispatch ctx code offset current origin byte b = .ok c t) :
    ∃ o, Opcode.ofByte? byte = some o := by
  cases known : Opcode.ofByte? byte with
  | none =>
    rw [dispatch, known] at run
    cases run
  | some o => exact ⟨o, rfl⟩

/-- Nested runs are deeper than the run around them. -/
theorem depth_le_of_mem {depth budget : Nat} {d : Dispatched}
    (i : d ∈ dispatchesFrom ctx depth origin budget code offset current b) : depth ≤ d.depth := by
  induction budget generalizing depth origin code offset current b with
  | zero => cases i
  | succ budget ih =>
    cases found : code[offset]? with
    | none =>
      simp only [dispatchesFrom, found] at i
      cases i
    | some byte =>
      cases run : dispatch ctx code offset current origin byte b with
      | error f t =>
        rw [dispatchesFrom_of_error depth budget found run, Option.mem_toList] at i
        obtain ⟨o, -, rfl⟩ := Option.map_eq_some_iff.mp i
        exact Nat.le_refl depth
      | ok c t =>
        obtain ⟨o, known⟩ := exists_opcode run
        rw [dispatchesFrom_of_ok budget depth found known run] at i
        rcases List.mem_cons.mp i with rfl | i
        · exact Nat.le_refl depth
        · cases c with
          | goto next following => exact ih i
          | call body entity next following =>
            rcases List.mem_append.mp i with i | i
            · exact Nat.le_of_succ_le (ih i)
            · cases ended : runFrom ctx entity budget body 0 entity t with
              | error f u =>
                rw [ended] at i
                cases i
              | ok _ u =>
                rw [ended] at i
                exact ih i

/-- With more budget, the rest of a run does the same behind an instruction if its parts do. -/
theorem steady_after {budget more next : Nat} {body : Expression} {entity following : EntityId}
    (inner : runFrom ctx entity more body 0 entity t = runFrom ctx entity budget body 0 entity t ∧
      ∀ depth, dispatchesFrom ctx depth entity more body 0 entity t =
        dispatchesFrom ctx depth entity budget body 0 entity t)
    (after : ∀ u, runFrom ctx entity budget body 0 entity t = .ok () u →
      runFrom ctx origin more code next following u =
          runFrom ctx origin budget code next following u ∧
        ∀ depth, dispatchesFrom ctx depth origin more code next following u =
          dispatchesFrom ctx depth origin budget code next following u) :
    let c : Continuation := .call body entity next following
    proceed ctx origin more code c t = proceed ctx origin budget code c t ∧
      ∀ depth, dispatchesAfter ctx depth origin more code c t =
        dispatchesAfter ctx depth origin budget code c t := by
  obtain ⟨same, listed⟩ := inner
  have both (budget : Nat) : proceed ctx origin budget code (.call body entity next following) t =
      (runFrom ctx entity budget body 0 entity >>= fun _ =>
        runFrom ctx origin budget code next following) t := rfl
  cases ended : runFrom ctx entity budget body 0 entity t with
  | error f u =>
    rw [ended] at same
    refine ⟨?_, fun depth => ?_⟩
    · rw [both, both, bind_of_error same, bind_of_error ended]
    · simp only [dispatchesAfter, listed, same, ended]
  | ok _ u =>
    rw [ended] at same
    obtain ⟨later, laterListed⟩ := after u ended
    refine ⟨?_, fun depth => ?_⟩
    · rw [both, both, bind_of_ok same, bind_of_ok ended, later]
    · simp only [dispatchesAfter, listed, laterListed, same, ended]

open PlacedDispatch (Ascend)

open Dispatched (placedFrom)

/-- Places go up from an instruction on if they do behind it. -/
theorem ascend_cons {bases : Nat → Nat} {depth next : Nat} {leapt : Bool} {later : List Dispatched}
    (held : Holds program (bases depth) code) (found : code[offset]? = some byte)
    (known : Opcode.ofByte? byte = some o) (further : offset < next)
    (after : Ascend program (bases depth + next) (bases depth + code.length)
      (placedFrom (Dispatched.basesBehind bases ⟨depth, offset, o, leapt⟩) later)) :
    Ascend program (bases depth + offset) (bases depth + code.length)
      (placedFrom bases (⟨depth, offset, o, leapt⟩ :: later)) := by
  have inside : offset < code.length := (List.getElem?_eq_some_iff.mp found).1
  have here : program[bases depth + offset]?.bind Opcode.ofByte? = some o := by
    rw [held.getElem? found]
    exact known
  have first : bases depth + offset < bases depth + code.length := by omega
  have further : bases depth + offset < bases depth + next := by omega
  exact .cons (x := ⟨⟨depth, offset, o, leapt⟩, bases depth + offset⟩) here first further after

namespace Site

/-- **The instruction there faults.** -/
def Fails (ctx : EvalContext) (s : Site) (f : Fault) (t : Bench) : Prop :=
  ∃ byte, s.code[s.offset]? = some byte ∧
    Eval.dispatch ctx s.code s.offset s.current s.origin byte s.bench = .error f t

/-- An instruction uses up no budget, so it never faults for want of one. -/
theorem Fails.ne_outOfFuel {s : Site} {f : Fault} {t : Bench} (fails : Fails ctx s f t) :
    f ≠ .outOfFuel := by
  obtain ⟨byte, -, ended⟩ := fails
  have frugal := frugal_dispatch ctx s.code s.offset s.current s.origin byte s.bench
  rwa [Ends, ended] at frugal

/-- **The rest of the run goes forward and ends**, at the end of its code or with the fault of an
    instruction, before its budget is used up. -/
inductive Forward (ctx : EvalContext) : Site → Prop where
  | finish {origin current : EntityId} {budget offset : Nat} {code : Expression} {b : Bench}
      (behind : code.length ≤ offset) : Forward ctx ⟨origin, budget, code, offset, current, b⟩
  | fault {origin current : EntityId} {budget offset : Nat} {code : Expression} {b t : Bench}
      {f : Fault} (fails : Fails ctx ⟨origin, budget + 1, code, offset, current, b⟩ f t) :
      Forward ctx ⟨origin, budget + 1, code, offset, current, b⟩
  | on {origin current following : EntityId} {budget offset next : Nat} {code : Expression}
      {b t : Bench}
      (runs : Executes ctx ⟨origin, budget + 1, code, offset, current, b⟩ (.goto next following) t)
      (further : offset < next) (after : Forward ctx ⟨origin, budget, code, next, following, t⟩) :
      Forward ctx ⟨origin, budget + 1, code, offset, current, b⟩
  | call {origin current entity following : EntityId} {budget offset next : Nat}
      {code body : Expression} {b t : Bench}
      (runs : Executes ctx ⟨origin, budget + 1, code, offset, current, b⟩
        (.call body entity next following) t)
      (inner : Forward ctx ⟨entity, budget, body, 0, entity, t⟩)
      (after : ∀ u, runFrom ctx entity budget body 0 entity t = .ok () u →
        Forward ctx ⟨origin, budget, code, next, following, u⟩) :
      Forward ctx ⟨origin, budget + 1, code, offset, current, b⟩

namespace Forward

variable {s : Site} {bases : Nat → Nat} {depth : Nat}

/-- **A forward run faults where one of its instructions does.** -/
theorem exists_fails (h : Forward ctx s) {f : Fault} (fault : s.run ctx = .error f t) :
    ∃ s', Reaches ctx s s' ∧ s'.Fails ctx f t := by
  induction h with
  | finish behind => cases (runFrom_end _ behind _).symm.trans fault
  | fault fails =>
    obtain ⟨byte, found, ended⟩ := id fails
    cases ((runFrom_of_found _ found).trans (bind_of_error ended)).symm.trans fault
    exact ⟨_, .refl, fails⟩
  | on runs further after ih =>
    obtain ⟨s', reach, fails⟩ := ih ((run_of_executes rfl runs).symm.trans fault)
    exact ⟨s', .head (.on rfl runs) reach, fails⟩
  | @call origin current entity following budget offset next code body b t' runs inner after ihi iha =>
    have fault := (run_of_executes rfl runs).symm.trans fault
    cases ended : runFrom ctx entity budget body 0 entity t' with
    | error f' u =>
      cases (bind_of_error ended).symm.trans fault
      obtain ⟨s', reach, fails⟩ := ihi ended
      exact ⟨s', .head (.into rfl runs) reach, fails⟩
    | ok _ u =>
      obtain ⟨s', reach, fails⟩ := iha u ended ((bind_of_ok ended).symm.trans fault)
      exact ⟨s', .head (.behind rfl runs ended) reach, fails⟩

/-- With another budget, an instruction is executed all the same. -/
theorem steady_step {origin current : EntityId} {budget more offset : Nat} {code : Expression}
    {b : Bench} (runs : Executes ctx ⟨origin, budget + 1, code, offset, current, b⟩ c t)
    (after : proceed ctx origin more code c t = proceed ctx origin budget code c t ∧
      ∀ depth, dispatchesAfter ctx depth origin more code c t =
        dispatchesAfter ctx depth origin budget code c t) :
    runFrom ctx origin (more + 1) code offset current b =
        runFrom ctx origin (budget + 1) code offset current b ∧
      ∀ depth, dispatchesFrom ctx depth origin (more + 1) code offset current b =
        dispatchesFrom ctx depth origin (budget + 1) code offset current b := by
  obtain ⟨same, listed⟩ := after
  obtain ⟨byte, found, ended⟩ := runs
  obtain ⟨o, known⟩ := exists_opcode ended
  have goes (n : Nat) : runFrom ctx origin (n + 1) code offset current b =
      proceed ctx origin n code c t := (runFrom_of_found n found).trans (bind_of_ok ended)
  refine ⟨?_, fun depth => ?_⟩
  · rw [goes, goes, same]
  · rw [dispatchesFrom_of_ok more depth found known ended,
      dispatchesFrom_of_ok budget depth found known ended, listed]

/-- **With more budget, a forward run does the same.** -/
theorem steady (h : Forward ctx s) {more : Nat} (enough : s.budget ≤ more) :
    runFrom ctx s.origin more s.code s.offset s.current s.bench = s.run ctx ∧
      ∀ depth, dispatchesFrom ctx depth s.origin more s.code s.offset s.current s.bench =
        s.dispatches ctx depth := by
  induction h generalizing more with
  | @finish origin current budget offset code b behind =>
    refine ⟨?_, fun depth => ?_⟩
    · exact (runFrom_end more behind b).trans (runFrom_end budget behind b).symm
    · exact (dispatchesFrom_end depth more behind).trans (dispatchesFrom_end depth budget behind).symm
  | @fault origin current budget offset code b t f fails =>
    obtain ⟨byte, found, ended⟩ := fails
    obtain ⟨more, rfl⟩ := Nat.exists_eq_add_of_le' (Nat.le_trans (Nat.le_add_left 1 budget) enough)
    have faults (n : Nat) : runFrom ctx origin (n + 1) code offset current b = .error f t :=
      (runFrom_of_found n found).trans (bind_of_error ended)
    refine ⟨(faults more).trans (faults budget).symm, fun depth => ?_⟩
    exact (dispatchesFrom_of_error depth more found ended).trans
      (dispatchesFrom_of_error depth budget found ended).symm
  | @on origin current following budget offset next code b t runs further after ih =>
    obtain ⟨more, rfl⟩ := Nat.exists_eq_add_of_le' (Nat.le_trans (Nat.le_add_left 1 budget) enough)
    obtain ⟨same, listed⟩ := ih (Nat.le_of_succ_le_succ enough)
    exact steady_step runs ⟨same, listed⟩
  | @call origin current entity following budget offset next code body b t runs inner after ihi iha =>
    obtain ⟨more, rfl⟩ := Nat.exists_eq_add_of_le' (Nat.le_trans (Nat.le_add_left 1 budget) enough)
    have less : budget ≤ more := Nat.le_of_succ_le_succ enough
    exact steady_step runs (steady_after (ihi less) fun u ended => iha u ended less)

/-- **Places go up in a forward run**, within its expression. -/
theorem ascend (h : Forward ctx s) (bases : Nat → Nat) (depth : Nat)
    (held : Holds program (bases depth) s.code) :
    Ascend program (bases depth + s.offset) (bases depth + s.code.length)
      (placedFrom bases (s.dispatches ctx depth)) := by
  induction h generalizing bases depth with
  | @finish origin current budget offset code b behind =>
    rw [dispatches, dispatchesFrom_end depth budget behind]
    exact .nil
  | @fault origin current budget offset code b t f fails =>
    obtain ⟨byte, found, ended⟩ := fails
    rw [dispatches, dispatchesFrom_of_error depth budget found ended]
    cases known : Opcode.ofByte? byte with
    | none => exact .nil
    | some o => exact ascend_cons held found known (Nat.lt_succ_self offset) .nil
  | @on origin current following budget offset next code b t runs further after ih =>
    obtain ⟨byte, found, ended⟩ := runs
    obtain ⟨o, known⟩ := exists_opcode ended
    rw [dispatches, dispatchesFrom_of_ok budget depth found known ended]
    refine ascend_cons held found known further ?_
    have same : Dispatched.basesBehind bases ⟨depth, offset, o, o.leaps current b⟩ depth =
        bases depth := Dispatched.basesBehind_of_le (Nat.le_refl depth)
    rw [← same]
    exact ih _ depth (same ▸ held)
  | @call origin current entity following budget offset next code body b t runs inner after ihi iha =>
    obtain ⟨byte, found, ended⟩ := runs
    obtain ⟨o, known⟩ := exists_opcode ended
    obtain ⟨stands, behind⟩ : Holds code (offset + 5) body ∧ next = offset + 5 + body.length :=
      holds_of_call known ended
    have inside : next ≤ code.length := behind ▸ stands.le_length
    rw [dispatches, dispatchesFrom_of_ok budget depth found known ended]
    have further : offset < offset + 5 := Nat.lt_add_of_pos_right (by decide)
    refine ascend_cons held found known further ?_
    generalize start : Dispatched.basesBehind bases ⟨depth, offset, o, o.leaps current b⟩ = bases'
    have same : bases' depth = bases depth := by
      rw [← start]
      exact Dispatched.basesBehind_of_le (Nat.le_refl depth)
    have base : bases' (depth + 1) = bases depth + (offset + 5) := by
      rw [← start]
      exact Dispatched.basesBehind_below rfl
    -- the places of the nested run come first, and are those of its expression
    have nested : Ascend program (bases depth + (offset + 5)) (bases depth + next)
        (placedFrom bases' (dispatchesFrom ctx (depth + 1) entity budget body 0 entity t)) := by
      have places := ihi bases' (depth + 1) (base ▸ held.trans stands)
      rwa [base, Nat.add_zero, Nat.add_assoc, ← behind] at places
    rw [dispatchesAfter, Dispatched.placedFrom_append]
    refine nested.append ?_ (by omega) (Nat.add_le_add_left inside _)
    cases run : runFrom ctx entity budget body 0 entity t with
    | error f u => exact .nil
    | ok _ u =>
      -- deeper instructions leave the base of this expression as it is
      generalize later : List.foldl Dispatched.basesBehind bases' _ = bases''
      have same : bases'' depth = bases depth := by
        rw [← later, Dispatched.foldl_basesBehind_of_le, same]
        intro d i
        exact Nat.le_of_succ_le (depth_le_of_mem i)
      rw [← same]
      exact iha u run bases'' depth (same ▸ held)

end Forward

/-! ## Without backward jumps -/

variable {s : Site} {bases : Nat → Nat} {depth : Nat}

/-- The displacement of an instruction, as it stands in the program. -/
theorem displacement_nonneg {leapt : Bool} (held : Holds program (bases depth) code)
    (forward : PlacedDispatch.LeapsForward program
      ⟨⟨depth, offset, o, leapt⟩, bases depth + offset⟩) (leaps : leapt = true)
    (long : o.operand = .jump32) (i : Int32) (read : code.int32At (offset + 1) = .ok i) : 0 ≤ i := by
  have stands : Holds program (bases depth + (offset + 1)) (Bytes.ofInt32 i) :=
    held.trans (Expression.holds_of_int32At read)
  refine forward leaps long i ?_
  show program.int32At (bases depth + offset + 1) = .ok i
  rw [Nat.add_assoc, stands.int32At]

/-- **A run without backward jumps goes forward and ends**, if its budget is no less than the bytes
    that are left. -/
theorem forward_of_placed (bases : Nat → Nat) (depth : Nat)
    (enough : s.code.length ≤ s.offset + s.budget)
    (held : Holds program (bases depth) s.code)
    (forward : ∀ x ∈ placedFrom bases (s.dispatches ctx depth), x.LeapsForward program) :
    Forward ctx s := by
  obtain ⟨origin, budget, code, offset, current, b⟩ := s
  -- on the budget: each instruction takes one, and passes over at least one byte
  induction budget generalizing origin code offset current b bases depth with
  | zero => exact .finish enough
  | succ budget ih =>
    cases found : code[offset]? with
    | none => exact .finish (List.getElem?_eq_none_iff.mp found)
    | some byte =>
      cases ended : dispatch ctx code offset current origin byte b with
      | error f t => exact .fault ⟨byte, found, ended⟩
      | ok c t =>
        obtain ⟨o, known⟩ := exists_opcode ended
        rw [dispatches, dispatchesFrom_of_ok budget depth found known ended] at forward
        obtain ⟨here, later⟩ := List.forall_mem_cons.mp forward
        have further : offset < c.offset := passes_on known ended (displacement_nonneg held here)
        generalize start :
          Dispatched.basesBehind bases ⟨depth, offset, o, o.leaps current b⟩ = bases' at later
        have held' : Holds program (bases' depth) code := by
          rw [← start, Dispatched.basesBehind_of_le (Nat.le_refl depth)]
          exact held
        have enough : code.length ≤ offset + (budget + 1) := enough
        cases c with
        | goto next following =>
          have further : offset < next := further
          have left : code.length ≤ next + budget := by omega
          have after : Forward ctx ⟨origin, budget, code, next, following, t⟩ :=
            ih bases' depth origin code next following t left held' later
          exact .on ⟨byte, found, ended⟩ further after
        | call body entity next following =>
          -- the expression and what is behind it share the bytes that are left, so what is left of
          -- the budget is enough for each of them
          obtain ⟨stands, behind⟩ : Holds code (offset + 5) body ∧ next = offset + 5 + body.length :=
            holds_of_call known ended
          have inside : next ≤ code.length := behind ▸ stands.le_length
          have base : bases' (depth + 1) = bases depth + (offset + 5) := by
            rw [← start]
            exact Dispatched.basesBehind_below rfl
          rw [dispatchesAfter, Dispatched.placedFrom_append] at later
          obtain ⟨inner, later⟩ := List.forall_mem_append.mp later
          have left : body.length ≤ 0 + budget := by omega
          have nested : Forward ctx ⟨entity, budget, body, 0, entity, t⟩ :=
            ih bases' (depth + 1) entity body 0 entity t left (base ▸ held.trans stands) inner
          refine .call ⟨byte, found, ended⟩ nested fun u run => ?_
          rw [run] at later
          generalize passed : List.foldl Dispatched.basesBehind bases' _ = bases'' at later
          have held'' : Holds program (bases'' depth) code := by
            rw [← passed, Dispatched.foldl_basesBehind_of_le fun d i =>
              Nat.le_of_succ_le (depth_le_of_mem i)]
            exact held'
          have left : code.length ≤ next + budget := by omega
          exact ih bases'' depth origin code next following u left held'' later

end Site

/-- **Runs without backward jumps end within the length of their program.**

    If no dispatched instruction leaps backwards by a long displacement, as many instructions as
    the program has bytes are budget enough.  No run faults for want of more: a fault is one that
    an instruction ends with, at a site that the run reaches.  And with more budget the run is the
    same, with the same result and the same instructions.

    They are no more than the bytes of the program, nested runs included.  Each is the opcode at
    its place in the program, and places increase from one to the next, so no byte is dispatched
    twice. -/
theorem forward_runs_end (ctx : EvalContext) (code : Expression) (entity : EntityId) (b : Bench)
    (forward : ∀ x ∈ Dispatched.placed (dispatches ctx code.length code entity b),
      x.LeapsForward code) :
    (∀ f t, run ctx code.length code entity b = .error f t → f ≠ .outOfFuel ∧
      ∃ s, Site.Reaches ctx ⟨entity, code.length, code, 0, entity, b⟩ s ∧ s.Fails ctx f t) ∧
    (∀ budget, code.length ≤ budget →
      run ctx budget code entity b = run ctx code.length code entity b ∧
        dispatches ctx budget code entity b = dispatches ctx code.length code entity b) ∧
    (dispatches ctx code.length code entity b).length ≤ code.length ∧
    let placed := Dispatched.placed (dispatches ctx code.length code entity b)
    placed.map (·.toDispatched) = dispatches ctx code.length code entity b ∧
      (∀ x ∈ placed, code[x.place]?.bind Opcode.ofByte? = some x.opcode) ∧
      placed.Pairwise fun x y => x.place < y.place := by
  have whole : Holds code 0 code := .whole code
  have enough : code.length ≤ 0 + code.length := by omega
  have ends : Site.Forward ctx ⟨entity, code.length, code, 0, entity, b⟩ :=
    Site.forward_of_placed (fun _ => 0) 0 enough whole forward
  have ascends : Ascend code (0 + 0) (0 + code.length)
      (Dispatched.placed (dispatches ctx code.length code entity b)) :=
    ends.ascend (fun _ => 0) 0 whole
  have listed := Dispatched.map_placedFrom (fun _ => 0) (dispatches ctx code.length code entity b)
  refine ⟨fun f t fault => ?_, fun budget more => ?_, ?_, listed, ascends.opcodes,
    ascends.increasing⟩
  · obtain ⟨s, reach, fails⟩ := ends.exists_fails fault
    exact ⟨fails.ne_outOfFuel, s, reach, fails⟩
  · obtain ⟨same, dispatched⟩ := ends.steady more
    exact ⟨same, dispatched 0⟩
  · have count := congrArg List.length listed
    rw [List.length_map] at count
    have fewer := ascends.length_le
    rw [Dispatched.placed] at fewer
    omega

/-- A jump over an instruction, and then a nested run that jumps behind its own end: five
    instructions are dispatched, at increasing places. -/
theorem forward_runs_end_nested :
    let ctx : EvalContext := ⟨.empty, .empty, .current⟩
    let b : Bench := ⟨[], .off, ((Roster.ofSeed 0).addPlayer 1 "").1⟩
    let code := Expression.op (.jumpLong .always) ++ Bytes.ofInt32 1 ++ Expression.op .dup ++
      Expression.run (Expression.int 1 ++ Expression.op (.jumpShort .ifNonZero) ++ [9]) ++
      Expression.int 7
    (∀ x ∈ Dispatched.placed (dispatches ctx code.length code 0 b), x.LeapsForward code) ∧
      (Dispatched.placed (dispatches ctx code.length code 0 b)).map (·.place) = [0, 6, 11, 13, 15] ∧
      (dispatches ctx code.length code 0 b).length ≤ code.length := by
  intro ctx b code
  have forward : ∀ x ∈ Dispatched.placed (dispatches ctx code.length code 0 b),
      x.LeapsForward code := by decide +kernel
  obtain ⟨-, -, fewer, -⟩ := forward_runs_end ctx code 0 b forward
  exact ⟨forward, by decide +kernel, fewer⟩

end Eval
end TickScript
