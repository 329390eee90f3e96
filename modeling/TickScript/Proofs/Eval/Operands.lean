import Mathlib.Logic.Relation
import TickScript.Proofs.Bytecode.Truncated
import TickScript.Proofs.Eval.Dispatches
import TickScript.Proofs.Eval.Redirect

/-! # Operands that a run needs

    An instruction whose operand is cut short faults where it reads the operand.  A conditional
    jump that is not taken and a redirect that finds somebody do not read it: they **pass over**
    it (`Opcode.passes`), and so over the end of the code, where the run of their expression is
    over without a fault.  All other instructions read their operand, whichever way they go on
    (`instruction_has`).

    `Reaches` says at which places instructions are executed in the course of a run, in its nested
    runs too.  A run without a fault reaches only places from which the rest of it runs without a
    fault (`ran_of_reaches`), so what is known of one instruction holds of all that are reached.
-/

namespace TickScript

/-! ## Passing over an operand -/

/-- **Whether an instruction passes over its operand unread**: it is a jump on a condition that
    does not hold, or a redirect of a live entity that finds somebody. -/
def Opcode.passes (o : Opcode) (current : EntityId) (b : Bench) : Bool :=
  match o with
  | .jumpShort test | .jumpLong test => b.stack.head?.any fun v => !test.holds v.toBool
  | .jumpIfFailed => b.stack.head?.any fun v => !v.isFailed
  | .redirect role => b.roster.isLive current &&
      (role.selector? b.stack).any fun s => (b.roster.resolve current s role).isSome
  | _ => false

theorem Opcode.operand_of_passes {o : Opcode} {current : EntityId} {b : Bench}
    (passes : o.passes current b = true) : o.operand ≠ .nested ∧ o.operand ≠ .page := by
  cases o with
  | jumpShort | jumpIfFailed | jumpLong | redirect => exact ⟨nofun, nofun⟩
  | _ => cases passes

namespace Eval

variable {ctx : EvalContext} {code : Expression} {offset : Nat} {current origin : EntityId}
  {b : Bench} {o : Opcode}

/-! ## What was read is there -/

theorem fits_drop {operand : Operand} (nested : operand ≠ .nested)
    (inside : offset + operand.width ≤ code.length) : operand.fits (code.drop offset) = true := by
  rw [Operand.fits_of_fixed nested, List.length_drop]
  exact decide_eq_true (by omega)

theorem hasOperand_of_fixed (nested : o.operand ≠ .nested) (page : o.operand ≠ .page)
    (inside : offset + o.operand.width ≤ code.length) : o.hasOperand (code.drop offset) = true := by
  rw [Opcode.hasOperand_of_fixed page]
  exact fits_drop nested inside

/-- A reader that gives a result found its bytes. -/
theorem inside_of_read {α : Type} {x : Except Fault α} {a : α} {inside : Prop} [Decidable inside]
    (reads : x.isOk = decide inside) (found : x = .ok a) : inside := by
  rw [found] at reads
  exact of_decide_eq_true reads.symm

theorem inside_of_longTargetAt {target : Nat} (found : code.longTargetAt offset = .ok target) :
    offset + 4 ≤ code.length := by
  unfold Expression.longTargetAt at found
  cases read : code.int32At offset with
  | error f =>
    rw [read] at found
    cases found
  | ok i => exact inside_of_read Expression.isOk_int32At read

theorem inside_of_shortTargetAt {target : Nat} (found : code.shortTargetAt offset = .ok target) :
    offset + 1 ≤ code.length := by
  refine inside_of_read ?_ found
  rw [Expression.shortTargetAt, Expression.isOk_map, Expression.isOk_uint8At]

theorem hasOperand_of_nested {found : Expression × Nat} (nested : o.operand = .nested)
    (read : code.nestedAt offset = .ok found) : o.hasOperand (code.drop offset) = true := by
  obtain ⟨size, same, -⟩ := Expression.nestedAt_drop read
  rw [Opcode.hasOperand_of_fixed (by rw [nested]; nofun), nested, Operand.fits, same]
  rfl

theorem hasOperand_of_page {p : Page} (has : HasPageOp code offset p) :
    (Opcode.page p).hasOperand (code.drop offset) = true := by
  obtain ⟨byte, name, operand, read, known, present⟩ := has
  rw [Expression.drop_of_uint8At read, Opcode.hasOperand, known, Option.all_some]
  rcases ListingLine.pageOp?_operand known with rfl | rfl
  · exact Operand.fits_none _
  · obtain ⟨i, found⟩ := present rfl
    show Operand.int32.fits (code.drop (offset + 1)) = true
    exact fits_drop (by decide) (inside_of_read Expression.isOk_int32At found)

theorem isOk_literal (form : Literal) :
    (literal code offset form).isOk =
      decide (offset + (Opcode.literal form).operand.width ≤ code.length) := by
  cases form with
  | int8 => exact (Expression.isOk_map ..).trans Expression.isOk_int8At
  | int32 => exact (Expression.isOk_map ..).trans Expression.isOk_int32At
  | int64 => exact (Expression.isOk_map ..).trans Expression.isOk_int64At
  | single => exact (Expression.isOk_map ..).trans Expression.isOk_singleAt

/-! ## Jumps -/

theorem passes_of_jumpTaken {test : JumpTest} :
    Ends (jumpTaken test) b
      (fun taken _ => taken = false → b.stack.head?.any (fun v => !test.holds v.toBool) = true)
      fun _ _ => True := by
  obtain ⟨stack, profile, r⟩ := b
  cases test with
  | always => exact Ends.pure nofun
  | ifZero | ifNonZero =>
    refine Ends.bind (ends_pop fun v rest top => Ends.pure fun stays => ?_)
    obtain rfl : stack = v :: rest := top
    exact congrArg not stays

theorem passes_of_top :
    Ends top b
      (fun v _ => v.isFailed = false → b.stack.head?.any (fun v => !v.isFailed) = true)
      fun _ _ => True := by
  obtain ⟨stack, profile, r⟩ := b
  cases stack with
  | nil => trivial
  | cons v rest => exact fun stays => congrArg not stays

/-- A jump reads its target if it is taken. -/
theorem has_of_jump {taken : Bool} {target : Except Fault Nat} {next : Nat} {t : Bench}
    {has passes : Prop} (reads : ∀ n, target = .ok n → has) (stays : taken = false → passes) :
    Ends (if taken then return .goto (← ofExcept target) origin else return .goto next origin :
      Eval Continuation) t (fun _ _ => has ∨ passes) fun _ _ => True := by
  cases taken with
  | true => exact ends_reads fun n found => Or.inl (reads n found)
  | false => exact Ends.pure (Or.inr (stays rfl))

/-! ## Redirects -/

theorem has_of_redirect {role : Role} :
    Ends (instruction ctx code offset current origin (.redirect role)) b
      (fun _ _ => (Opcode.redirect role).hasOperand (code.drop offset) = true ∨
        (Opcode.redirect role).passes current b = true) fun _ _ => True := by
  refine Ends.of_ok fun c t run => ?_
  obtain ⟨live, s, selected⟩ := ready_of_redirect.ok run
  obtain ⟨stack, profile, r⟩ := b
  obtain ⟨selector, rest, rfl, same⟩ := exists_operands selected
  rw [redirect_eq live, same] at run
  cases answer : r.resolve current s role with
  | some target =>
    right
    have found : (r.resolve current s role).isSome = true := by rw [answer]; rfl
    simp only [Opcode.passes, selected, Option.any_some, found, Bool.and_true]
    exact live
  | none =>
    left
    rw [answer] at run
    cases read : code.longTargetAt offset with
    | error f =>
      simp only [read] at run
      cases run
    | ok target =>
      exact hasOperand_of_fixed (o := .redirect role) nofun nofun (inside_of_longTargetAt read)

/-! ## All instructions -/

/-- **An instruction has its operand or passes over it**, if it does not fault. -/
theorem instruction_has :
    Ends (instruction ctx code offset current origin o) b
      (fun _ _ => o.hasOperand (code.drop offset) = true ∨ o.passes current b = true)
      fun _ _ => True := by
  have reads {α : Type} {x : Except Fault α} {k : α → Eval Continuation} (t : Bench)
      (nested : o.operand ≠ .nested) (page : o.operand ≠ .page)
      (width : x.isOk = decide (offset + o.operand.width ≤ code.length)) :
      Ends (ofExcept x >>= k) t
        (fun _ _ => o.hasOperand (code.drop offset) = true ∨ o.passes current b = true)
        fun _ _ => True :=
    ends_reads fun _ found => Or.inl (hasOperand_of_fixed nested page (inside_of_read width found))
  -- only jumps and redirects have a way to go on that does not read
  cases o with
  | page p =>
    exact ends_page_has.mono (fun _ _ has => Or.inl (hasOperand_of_page has)) fun _ _ _ => trivial
  | run | runUnredirected =>
    exact ends_reads fun found read => Or.inl (hasOperand_of_nested rfl read)
  | redirect role => exact has_of_redirect
  | jumpShort test =>
    refine Ends.bind (passes_of_jumpTaken.mono (fun taken t stays => ?_) fun _ _ _ => trivial)
    refine has_of_jump (fun n found => ?_) stays
    exact hasOperand_of_fixed nofun nofun (inside_of_shortTargetAt found)
  | jumpLong test =>
    refine Ends.bind (passes_of_jumpTaken.mono (fun taken t stays => ?_) fun _ _ _ => trivial)
    refine has_of_jump (fun n found => ?_) stays
    exact hasOperand_of_fixed nofun nofun (inside_of_longTargetAt found)
  | jumpIfFailed =>
    refine Ends.bind (passes_of_top.mono (fun v t stays => ?_) fun _ _ _ => trivial)
    refine has_of_jump (fun n found => ?_) stays
    exact hasOperand_of_fixed nofun nofun (inside_of_shortTargetAt found)
  | literal form =>
    exact reads b (by cases form <;> nofun) (by cases form <;> nofun) (isOk_literal form)
  | windowSlot | stateTypeIs | moveTypeIs | prevMoveTypeIs =>
    exact reads b nofun nofun Expression.isOk_uint8At
  | _ => exact Ends.of_ok fun _ _ _ => Or.inl (Operand.fits_none (code.drop offset))

theorem jumpTaken_of_stays {test : JumpTest} {v : Value} {rest : Stack} {profile : Profile}
    {r : Roster} (stays : test.holds v.toBool = false) :
    jumpTaken test ⟨v :: rest, profile, r⟩ = .ok false ⟨rest, profile, r⟩ := by
  cases test with
  | always => cases stays
  | ifZero | ifNonZero =>
    rw [← stays]
    rfl

/-- **An instruction that passes goes on behind its operand**, whether that is there or not. -/
theorem instruction_of_passes (passes : o.passes current b = true) :
    ∃ next t, instruction ctx code offset current origin o b =
      .ok (.goto (offset + o.operand.width) next) t := by
  cases o with
  | redirect role =>
    have ready := Bool.and_eq_true_iff.mp passes
    obtain ⟨s, selected, found⟩ := (Option.any_eq_true _ _).mp ready.2
    obtain ⟨target, found⟩ := Option.isSome_iff_exists.mp found
    obtain ⟨stack, profile, r⟩ := b
    obtain ⟨selector, rest, rfl, same⟩ := exists_operands selected
    exact ⟨target, _, redirect_some ready.1 ((same current r).trans found)⟩
  | jumpShort test | jumpLong test =>
    obtain ⟨v, first, stays⟩ := (Option.any_eq_true _ _).mp passes
    obtain ⟨stack, profile, r⟩ := b
    obtain ⟨rest, rfl⟩ := List.head?_eq_some_iff.mp first
    have stays : test.holds v.toBool = false := (Bool.not_eq_true' _).mp stays
    exact ⟨origin, _, bind_of_ok (jumpTaken_of_stays stays)⟩
  | jumpIfFailed =>
    obtain ⟨v, first, stays⟩ := (Option.any_eq_true _ _).mp passes
    obtain ⟨stack, profile, r⟩ := b
    obtain ⟨rest, rfl⟩ := List.head?_eq_some_iff.mp first
    have stays : v.isFailed = false := (Bool.not_eq_true' _).mp stays
    have seen : top ⟨v :: rest, profile, r⟩ = .ok v ⟨v :: rest, profile, r⟩ := rfl
    refine ⟨origin, ⟨v :: rest, profile, r⟩, (bind_of_ok seen).trans ?_⟩
    rw [stays]
    rfl
  | _ => cases passes

/-! ## Where instructions are executed -/

/-- **Where a run is**, with all that the rest of it depends on. -/
structure Site where
  /-- The entity that the expression was started for. -/
  origin : EntityId
  budget : Nat
  code : Expression
  offset : Nat
  current : EntityId
  bench : Bench

namespace Site

/-- The rest of the run. -/
def run (ctx : EvalContext) (s : Site) : EStateM.Result Fault Bench Unit :=
  runFrom ctx s.origin s.budget s.code s.offset s.current s.bench

/-- What the rest of the run dispatches. -/
def dispatches (ctx : EvalContext) (depth : Nat) (s : Site) : List Dispatched :=
  dispatchesFrom ctx depth s.origin s.budget s.code s.offset s.current s.bench

/-- The instruction there, if there is one. -/
def opcode? (s : Site) : Option Opcode := s.code[s.offset]?.bind Opcode.ofByte?

/-- The bytes behind the opcode. -/
def operands (s : Site) : Bytes := s.code.drop (s.offset + 1)

/-- **The instruction there is executed**, and says how to go on. -/
def Executes (ctx : EvalContext) (s : Site) (c : Continuation) (t : Bench) : Prop :=
  ∃ byte, s.code[s.offset]? = some byte ∧
    dispatch ctx s.code s.offset s.current s.origin byte s.bench = .ok c t

/-- **Where a run is next**: at the next instruction, in a nested expression or behind it. -/
inductive Leads (ctx : EvalContext) : Site → Site → Prop where
  | on {s : Site} {budget next : Nat} {following : EntityId} {t : Bench}
      (left : s.budget = budget + 1) (runs : s.Executes ctx (.goto next following) t) :
      Leads ctx s ⟨s.origin, budget, s.code, next, following, t⟩
  | into {s : Site} {budget next : Nat} {body : Expression} {entity following : EntityId}
      {t : Bench} (left : s.budget = budget + 1)
      (runs : s.Executes ctx (.call body entity next following) t) :
      Leads ctx s ⟨entity, budget, body, 0, entity, t⟩
  | behind {s : Site} {budget next : Nat} {body : Expression} {entity following : EntityId}
      {t u : Bench} (left : s.budget = budget + 1)
      (runs : s.Executes ctx (.call body entity next following) t)
      (ended : runFrom ctx entity budget body 0 entity t = .ok () u) :
      Leads ctx s ⟨s.origin, budget, s.code, next, following, u⟩

/-- **The sites of a run**, from one of them on. -/
abbrev Reaches (ctx : EvalContext) : Site → Site → Prop := Relation.ReflTransGen (Leads ctx)

variable {s s' : Site} {t : Bench} {c : Continuation}

theorem run_of_executes {budget : Nat} (left : s.budget = budget + 1)
    (runs : s.Executes ctx c t) :
    s.run ctx = proceed ctx s.origin budget s.code c t := by
  obtain ⟨byte, found, ended⟩ := runs
  rw [run, left, runFrom_of_found budget found]
  exact bind_of_ok ended

/-- **One step of a run without a fault** leads to a run without a fault. -/
theorem ran_of_leads {u : Bench} (step : Leads ctx s s') (ran : s.run ctx = .ok () u) :
    ∃ u', s'.run ctx = .ok () u' := by
  cases step with
  | on left runs => exact ⟨u, (run_of_executes left runs).symm.trans ran⟩
  | into left runs =>
    obtain ⟨_, t', nested, -⟩ := exists_of_bind ((run_of_executes left runs).symm.trans ran)
    exact ⟨t', nested⟩
  | behind left runs ended =>
    obtain ⟨_, t', nested, after⟩ := exists_of_bind ((run_of_executes left runs).symm.trans ran)
    obtain ⟨-, rfl⟩ := EStateM.Result.ok.inj (nested.symm.trans ended)
    exact ⟨u, after⟩

/-- **A run without a fault reaches only runs without a fault.** -/
theorem ran_of_reaches {u : Bench} (reach : Reaches ctx s s') (ran : s.run ctx = .ok () u) :
    ∃ u', s'.run ctx = .ok () u' := by
  -- along the path, whose every step is taken in a run without a fault
  induction reach with
  | refl => exact ⟨u, ran⟩
  | tail _ step ih =>
    obtain ⟨u', ran'⟩ := ih
    exact ran_of_leads step ran'

/-- What is dispatched behind an instruction is dispatched from where it leads. -/
theorem leads_of_after {depth budget : Nat} {d : Dispatched} (left : s.budget = budget + 1)
    (runs : s.Executes ctx c t) (i : d ∈ dispatchesAfter ctx depth s.origin budget s.code c t) :
    ∃ s' depth', Leads ctx s s' ∧ s'.budget = budget ∧ d ∈ s'.dispatches ctx depth' := by
  cases c with
  | goto next following => exact ⟨_, depth, .on left runs, rfl, i⟩
  | call body entity next following =>
    rcases List.mem_append.mp i with i | i
    · exact ⟨_, depth + 1, .into left runs, rfl, i⟩
    · -- what follows a nested run is dispatched only if that ended without a fault
      cases ended : runFrom ctx entity budget body 0 entity t with
      | error f u =>
        rw [ended] at i
        cases i
      | ok _ u =>
        rw [ended] at i
        exact ⟨_, depth, .behind left runs ended, rfl, i⟩

/-- What the rest of a run dispatches is its next instruction, or what is dispatched from where
    that leads. -/
theorem leads_of_dispatches {depth : Nat} {d : Dispatched} (i : d ∈ s.dispatches ctx depth) :
    s.offset = d.offset ∧ s.opcode? = some d.opcode ∨
      ∃ s' depth', Leads ctx s s' ∧ s'.budget < s.budget ∧ d ∈ s'.dispatches ctx depth' := by
  obtain ⟨origin, budget, code, offset, current, b⟩ := s
  cases budget with
  | zero => cases i
  | succ budget =>
    cases found : code[offset]? with
    | none =>
      simp only [dispatches, dispatchesFrom, found] at i
      cases i
    | some byte =>
      cases known : Opcode.ofByte? byte with
      | none =>
        simp only [dispatches, dispatchesFrom, found, known] at i
        cases i
      | some o =>
        rw [opcode?, found, Option.bind_some, known]
        cases ended : dispatch ctx code offset current origin byte b with
        | error f t =>
          simp only [dispatches, dispatchesFrom, found, known, ended] at i
          obtain rfl := List.mem_singleton.mp i
          exact Or.inl ⟨rfl, rfl⟩
        | ok c t =>
          have runs : Executes ctx ⟨origin, budget + 1, code, offset, current, b⟩ c t :=
            ⟨byte, found, ended⟩
          rw [dispatches, dispatchesFrom_of_ok budget depth found known ended] at i
          rcases List.mem_cons.mp i with rfl | i
          · exact Or.inl ⟨rfl, rfl⟩
          · obtain ⟨s', depth', step, spent, next⟩ := leads_of_after rfl runs i
            exact Or.inr ⟨s', depth', step, Nat.lt_succ_of_le (Nat.le_of_eq spent), next⟩

/-- **Every instruction that a run dispatches is dispatched at a site of it.** -/
theorem exists_reached {depth : Nat} {d : Dispatched} (i : d ∈ s.dispatches ctx depth) :
    ∃ s', Reaches ctx s s' ∧ s'.offset = d.offset ∧ s'.opcode? = some d.opcode := by
  -- on the budget, which each instruction takes one of
  induction left : s.budget using Nat.strongRecOn generalizing s depth with
  | ind budget ih =>
    rcases leads_of_dispatches i with here | ⟨s', depth', step, less, i'⟩
    · exact ⟨s, .refl, here⟩
    · obtain ⟨s'', reach, there⟩ := ih s'.budget (left ▸ less) i' rfl
      exact ⟨s'', .head step reach, there⟩

/-- An instruction takes one of the budget, or is a fault. -/
theorem budget_pos_of_ran {u : Bench} (ran : s.run ctx = .ok () u) (here : s.opcode? = some o) :
    0 < s.budget := by
  obtain ⟨byte, found, -⟩ := Option.bind_eq_some_iff.mp here
  obtain ⟨inside, -⟩ := List.getElem?_eq_some_iff.mp found
  refine Nat.pos_of_ne_zero fun spent => ?_
  rw [run, spent, runFrom, if_pos inside] at ran
  cases ran

/-- **A run without a fault has the operand** of its next instruction, or passes over it. -/
theorem has_of_ran {u : Bench} (ran : s.run ctx = .ok () u) (here : s.opcode? = some o) :
    o.hasOperand s.operands = true ∨ o.passes s.current s.bench = true := by
  have left := budget_pos_of_ran ran here
  obtain ⟨origin, budget, code, offset, current, b⟩ := s
  obtain ⟨byte, found, known⟩ := Option.bind_eq_some_iff.mp here
  obtain ⟨budget, rfl⟩ := Nat.exists_eq_succ_of_ne_zero (Nat.ne_of_gt left)
  rw [run, runFrom_of_found budget found] at ran
  obtain ⟨c, t, ended, -⟩ := exists_of_bind ran
  rw [dispatch_of_known known] at ended
  have has : o.hasOperand (code.drop (offset + 1)) = true ∨ o.passes current (b.counted o) = true :=
    instruction_has.ok ended
  -- counting the instruction leaves alone what decides whether it passes
  exact has

/-- A run that passes over a cut operand is behind the end of its expression. -/
theorem ran_of_passes (here : s.opcode? = some o) (cut : o.hasOperand s.operands = false)
    (passes : o.passes s.current s.bench = true) (left : 0 < s.budget) :
    ∃ u, s.run ctx = .ok () u := by
  obtain ⟨origin, budget, code, offset, current, b⟩ := s
  obtain ⟨byte, found, known⟩ := Option.bind_eq_some_iff.mp here
  obtain ⟨budget, rfl⟩ := Nat.exists_eq_succ_of_ne_zero (Nat.ne_of_gt left)
  obtain ⟨next, t, ended⟩ : ∃ next t,
      instruction ctx code (offset + 1) current origin o (b.counted o) =
        .ok (.goto (offset + 1 + o.operand.width) next) t := instruction_of_passes passes
  have behind : code.length ≤ offset + 1 + o.operand.width := by
    obtain ⟨nested, page⟩ := Opcode.operand_of_passes passes
    by_cases inside : offset + 1 + o.operand.width ≤ code.length
    · have has := hasOperand_of_fixed nested page inside
      exact absurd (has.symm.trans cut) nofun
    · exact Nat.le_of_not_le inside
  refine ⟨t, ?_⟩
  rw [run, runFrom_of_found budget found, bind_of_ok ((dispatch_of_known known b).trans ended)]
  exact runFrom_end budget behind t

/-- **Where the operand is cut short**, the rest of the run ends without a fault exactly if the
    instruction passes over it. -/
theorem ran_iff_passes (here : s.opcode? = some o) (cut : o.hasOperand s.operands = false) :
    (∃ u, s.run ctx = .ok () u) ↔ o.passes s.current s.bench = true ∧ 0 < s.budget := by
  constructor
  · rintro ⟨u, ran⟩
    have passes : o.passes s.current s.bench = true := by
      rcases has_of_ran ran here with has | passes
      · exact absurd (has.symm.trans cut) nofun
      · exact passes
    exact ⟨passes, budget_pos_of_ran ran here⟩
  · rintro ⟨passes, left⟩
    exact ran_of_passes here cut passes left

end Site

/-- **Runs have the operands of what they dispatch, except for those that they pass over.**

    An opcode has all of its operand where the listing does not mark it as truncated.

    Whatever a run dispatches, in nested runs too, it dispatches at a site that it reaches.  If it
    ends without a fault, the instruction at each of these has its operand, unless it is a jump
    on a condition that does not hold or a redirect that finds somebody.

    With a cut operand, these end the run of their expression without a fault, and all other
    instructions end it with one. -/
theorem runs_have_operands (ctx : EvalContext) :
    (∀ o offset rest, (ListingLine.ofOpcode o offset rest).text = ListingLine.truncated o.name ↔
      o.hasOperand rest = false) ∧
    (∀ start depth, ∀ d ∈ Site.dispatches ctx depth start,
      ∃ s, Site.Reaches ctx start s ∧ s.offset = d.offset ∧ s.opcode? = some d.opcode) ∧
    (∀ start t, Site.run ctx start = .ok () t → ∀ s, Site.Reaches ctx start s →
      ∀ o, s.opcode? = some o →
        o.hasOperand s.operands = true ∨ o.passes s.current s.bench = true) ∧
    ∀ (s : Site) o, s.opcode? = some o → o.hasOperand s.operands = false →
      ((∃ t, s.run ctx = .ok () t) ↔ o.passes s.current s.bench = true ∧ 0 < s.budget) := by
  refine ⟨ListingLine.text_eq_truncated_iff, ?_, ?_, ?_⟩
  · intro start depth d i
    exact Site.exists_reached i
  · intro start t ran s reach o here
    obtain ⟨u, ran⟩ := Site.ran_of_reaches reach ran
    exact Site.has_of_ran ran here
  · intro s o here cut
    exact Site.ran_iff_passes here cut

/-- A nested run whose last instruction is a jump without its operand: its condition does not hold,
    so it is passed over. -/
theorem runs_have_operands_nested :
    let ctx : EvalContext := ⟨.empty, .empty, .current⟩
    let b : Bench := ⟨[], .off, ((Roster.ofSeed 0).addPlayer 1 "").1⟩
    let jump := Expression.op (.jumpShort .ifZero)
    let code := Expression.run (Expression.int 5 ++ Expression.int 1 ++ jump) ++ Expression.op .dup
    (∃ s, Site.Reaches ctx ⟨0, 5, code, 0, 0, b⟩ s ∧ s.opcode? = some (.jumpShort .ifZero) ∧
      ((Opcode.jumpShort .ifZero).hasOperand s.operands = true ∨
        (Opcode.jumpShort .ifZero).passes s.current s.bench = true)) ∧
    ∃ t, Site.run ctx ⟨0, 1, jump, 0, 0, { b with stack := [.int 1] }⟩ = .ok () t := by
  intro ctx b jump code
  have ends : Ends (run ctx 5 code 0) b (fun _ _ => True) fun _ _ => False := by decide +kernel
  obtain ⟨_, t, ran, -⟩ := ends.exists_ok
  obtain ⟨-, covers, has, passed⟩ := runs_have_operands ctx
  constructor
  · have dispatched : (1, 4, some (.jumpShort .ifZero)) ∈
        (Site.dispatches ctx 0 ⟨0, 5, code, 0, 0, b⟩).map (·.position) := by decide +kernel
    obtain ⟨d, i, same⟩ := List.mem_map.mp dispatched
    obtain ⟨s, reach, -, here⟩ := covers _ 0 d i
    have here : s.opcode? = some (.jumpShort .ifZero) := here.trans (congrArg (·.2.2) same)
    exact ⟨s, reach, here, has ⟨0, 5, code, 0, 0, b⟩ t ran s reach _ here⟩
  · have ends := passed ⟨0, 1, jump, 0, 0, { b with stack := [.int 1] }⟩ _ rfl (by decide +kernel)
    exact ends.mpr ⟨by decide +kernel, by decide⟩

/-- A jump whose operand is missing ends the run without a fault if it is not taken, and so does a
    redirect that finds somebody; taken, or if nobody is found, each is a fault. -/
theorem runs_have_operands_untaken :
    let ctx : EvalContext := ⟨.empty, .empty, .current⟩
    let b : Bench := ⟨[], .off, ((Roster.ofSeed 0).addPlayer 1 "").1⟩
    let code (condition : Int32) (o : Opcode) :=
      Expression.int 5 ++ Expression.int condition ++ Expression.op o
    let ends (condition : Int32) (o : Opcode) := Ends (run ctx 3 (code condition o) 0) b
      (fun _ t => t.stack = [.int 5] ∧
        (0, 4, some o) ∈ (dispatches ctx 3 (code condition o) 0 b).map (·.position) ∧
        (ListingLine.ofOpcode o 5 ((code condition o).drop 5)).text = ListingLine.truncated o.name)
      fun _ _ => False
    let faults (condition : Int32) (o : Opcode) := Ends (run ctx 3 (code condition o) 0) b
      (fun _ _ => False) fun f _ => f = .truncatedOperand 5
    ends 1 (.jumpShort .ifZero) ∧ faults 0 (.jumpShort .ifZero) ∧
      ends 1 (.redirect .player) ∧ faults 2 (.redirect .player) := by
  refine ⟨?_, ?_, ?_, ?_⟩
  all_goals
    dsimp only
    decide +kernel

end Eval
end TickScript
