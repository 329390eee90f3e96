import TickScript.Proofs.Bytecode.Entries
import TickScript.Proofs.Eval.Redirect

/-! # Instructions and lines of listings

    A listing passes over operands by the table of their widths, a run by what each instruction
    says of where it goes on.  An instruction **leaps** if it is a jump that is taken or a redirect
    that finds nobody.  Any other goes on behind its line, and runs the expression that the
    listing shows below it (`instruction_follows`).

    An operand that is cut short makes most instructions fault.  Those that do not look at it, a
    jump that is not taken and a redirect that finds somebody, pass over it all the same, and so
    does the listing.
-/

namespace TickScript

/-! ## Leaps -/

/-- The selector that a redirect finds on the stack, or zero. -/
def Role.selector (role : Role) (stack : Stack) : Int32 :=
  if role.takesSelector then (stack.head?.map Value.toInt32).getD 0 else 0

theorem Role.selector_of_selector? {role : Role} {stack : Stack} {s : Int32}
    (selected : role.selector? stack = some s) : role.selector stack = s := by
  unfold selector? at selected
  unfold selector
  split
  case isTrue takes =>
    rw [if_pos takes] at selected
    rw [selected]
    rfl
  case isFalse takes =>
    rw [if_neg takes] at selected
    exact Option.some.inj selected

/-- **Whether an instruction leaps**: it is a jump that is taken, or a redirect that finds
    nobody. -/
def Opcode.leaps (o : Opcode) (current : EntityId) (b : Bench) : Bool :=
  match o with
  | .jumpShort test | .jumpLong test => test.holds (b.stack.head?.any Value.toBool)
  | .jumpIfFailed => b.stack.head?.any Value.isFailed
  | .redirect role => (b.roster.resolve current (role.selector b.stack) role).isNone
  | _ => false

theorem Opcode.operand_of_isPlain {o : Opcode} (plain : o.isPlain) : o.operand ≠ .nested := by
  cases o with
  | run | runUnredirected => cases plain
  | literal form => cases form <;> nofun
  | _ => nofun

theorem Opcode.operandSize_of_fixed {o : Opcode} (page : o.operand ≠ .page) (rest : Bytes) :
    o.operandSize rest = o.operand.width := by
  cases o with
  | page p => exact absurd rfl page
  | _ => rfl

namespace Continuation

/-- Where execution goes on in the same expression. -/
def offset : Continuation → Nat
  | goto offset _ => offset
  | call _ _ offset _ => offset

/-- The nested expression that is run first. -/
def body? : Continuation → Option Expression
  | goto _ _ => none
  | call body _ _ _ => some body

/-- **Execution goes on behind a line of a listing**, and first runs what the line shows. -/
def Follows (c : Continuation) (offset : Nat) (line : ListingLine) : Prop :=
  c.offset = offset + line.size ∧ c.body? = line.body

theorem follows_of_fixed {o : Opcode} (nested : o.operand ≠ .nested) (page : o.operand ≠ .page)
    (offset : Nat) (rest : Bytes) (current : EntityId) :
    (goto (offset + o.operand.width) current).Follows offset (.ofOpcode o offset rest) := by
  have fixed : (ListingLine.ofOpcode o offset rest).size = o.operand.width ∧
      (ListingLine.ofOpcode o offset rest).body = none := by
    rw [ListingLine.ofOpcode_eq_single page]
    exact ListingLine.single_of_fixed nested page
  obtain ⟨size, body⟩ := fixed
  exact ⟨congrArg (offset + ·) size.symm, body.symm⟩

end Continuation

namespace Eval

variable {ctx : EvalContext} {code : Expression} {offset : Nat} {current origin : EntityId}
  {b : Bench}

/-! ## Pages -/

/-- An operand that cannot be read is a fault. -/
theorem ends_reads {α β : Type} {x : Except Fault α} {k : α → Eval β} {P : Prop}
    (h : ∀ a, x = .ok a → P) : Ends (ofExcept x >>= k) b (fun _ _ => P) fun _ _ => True := by
  cases x with
  | ok a => exact Ends.last fun _ _ => Ends.of_ok fun _ _ _ => h a rfl
  | error f => trivial

/-- **The code has a page operation**, and all of its operand. -/
def HasPageOp (code : Expression) (offset : Nat) (p : Page) : Prop :=
  ∃ byte name operand, code.uint8At offset = .ok byte ∧
    ListingLine.pageOp? p byte = some (name, operand) ∧
    (operand = .int32 → ∃ i, code.int32At (offset + 1) = .ok i)

theorem ends_constantOp_has :
    Ends (constantOp ctx code offset current origin) b
      (fun _ _ => HasPageOp code offset .constants) fun _ _ => True := by
  unfold constantOp
  cases read : code.uint8At offset with
  | error f => trivial
  | ok byte =>
    refine Ends.step (a := byte) (t := b) rfl ?_
    cases known : ConstantOp.ofByte? byte with
    | none => trivial
    | some op =>
      have here : ListingLine.pageOp? .constants byte = some (op.name, op.operand) :=
        congrArg (Option.map _) known
      refine Ends.last fun _ _ => Ends.last fun _ _ => ?_
      cases op with
      | named => exact ends_reads fun i found => ⟨byte, _, _, read, here, fun _ => ⟨i, found⟩⟩
      | _ => exact Ends.of_ok fun _ _ _ => ⟨byte, _, _, read, here, nofun⟩

theorem ends_storeNamed_has {mode : UpdateMode} {v : Value} :
    Ends (storeNamed ctx code offset current mode v) b
      (fun _ _ => ∃ i, code.int32At offset = .ok i) fun _ _ => True :=
  Ends.last fun _ _ => ends_reads fun i found => ⟨i, found⟩

theorem ends_storeOp_has :
    Ends (storeOp ctx code offset current) b (fun _ _ => HasPageOp code offset .stores)
      fun _ _ => True := by
  unfold storeOp
  cases read : code.uint8At offset with
  | error f => trivial
  | ok byte =>
    refine Ends.step (a := byte) (t := b) rfl ?_
    cases known : StoreOp.ofByte? byte with
    | none => trivial
    | some op =>
      have here : ListingLine.pageOp? .stores byte = some (op.name, op.operand) :=
        congrArg (Option.map _) known
      refine Ends.last fun _ _ => ?_
      cases op with
      | setName | addName =>
        exact Ends.bind (ends_storeNamed_has.mono
          (fun _ _ found => Ends.pure ⟨byte, _, _, read, here, fun _ => found⟩) fun _ _ _ => trivial)
      | set bank | add bank => exact Ends.of_ok fun _ _ _ => ⟨byte, _, _, read, here, nofun⟩

theorem ends_extendedOp_has :
    Ends (extendedOp ctx code offset current origin) b
      (fun _ _ => HasPageOp code offset .extended) fun _ _ => True := by
  unfold extendedOp
  cases read : code.uint8At offset with
  | error f => trivial
  | ok byte =>
    refine Ends.step (a := byte) (t := b) rfl ?_
    cases known : ExtendedOp.ofByte? byte with
    | none => trivial
    | some op =>
      have here : ListingLine.pageOp? .extended byte = some (op.name, op.operand) :=
        congrArg (Option.map _) known
      cases op with
      | getName => exact ends_reads fun i found => ⟨byte, _, _, read, here, fun _ => ⟨i, found⟩⟩
      | _ => exact Ends.of_ok fun _ _ _ => ⟨byte, _, _, read, here, nofun⟩

theorem ends_page_has {p : Page} :
    Ends (instruction ctx code offset current origin (.page p)) b
      (fun _ _ => HasPageOp code offset p) fun _ _ => True := by
  cases p with
  | constants =>
    exact Ends.bind (ends_constantOp_has.mono (fun _ _ has => Ends.pure has) fun _ _ _ => trivial)
  | stores =>
    exact Ends.bind (ends_storeOp_has.mono (fun _ _ has => Ends.pure has) fun _ _ _ => trivial)
  | extended =>
    exact Ends.bind (ends_extendedOp_has.mono (fun _ _ has => Ends.pure has) fun _ _ _ => trivial)

/-! ## Jumps and redirects -/

theorem ends_top :
    Ends top b (fun v _ => v.isFailed = b.stack.head?.any Value.isFailed) fun _ _ => True := by
  obtain ⟨stack, profile, roster⟩ := b
  cases stack with
  | nil => trivial
  | cons v rest => rfl

theorem ends_jumpTaken {test : JumpTest} :
    Ends (jumpTaken test) b
      (fun taken _ => taken = test.holds (b.stack.head?.any Value.toBool)) fun _ _ => True := by
  have condition (v : Value) (rest : Stack) (top : b.stack = v :: rest) :
      v.toBool = b.stack.head?.any Value.toBool := by
    rw [top]
    rfl
  cases test with
  | always => exact Ends.pure rfl
  | ifZero =>
    exact Ends.bind (ends_pop fun v rest top =>
      Ends.pure (congrArg JumpTest.ifZero.holds (condition v rest top)))
  | ifNonZero =>
    exact Ends.bind (ends_pop fun v rest top =>
      Ends.pure (congrArg JumpTest.ifNonZero.holds (condition v rest top)))

theorem ends_redirect {role : Role} :
    Ends (instruction ctx code offset current origin (.redirect role)) b
      (fun c _ => (Opcode.redirect role).leaps current b = false →
        ∃ target, c = .goto (offset + 4) target) fun _ _ => True := by
  refine Ends.of_ok fun c t run stays => ?_
  obtain ⟨live, s, selected⟩ := ready_of_redirect.ok run
  have found : (b.roster.resolve current (role.selector b.stack) role).isNone = false := stays
  rw [Role.selector_of_selector? selected, Option.isNone_eq_false_iff] at found
  obtain ⟨target, found⟩ := Option.isSome_iff_exists.mp found
  obtain ⟨stack, profile, r⟩ := b
  obtain ⟨selector, rest, rfl, same⟩ := exists_operands selected
  have goes := run.symm.trans (redirect_some live ((same current r).trans found))
  exact ⟨target, (EStateM.Result.ok.inj goes).1⟩

/-! ## All instructions -/

/-- A jump that is not taken. -/
theorem follows_of_jump {o : Opcode} {taken : Bool} {target : Eval Continuation} {t : Bench}
    (leaps : taken = o.leaps current b) (nested : o.operand ≠ .nested) (page : o.operand ≠ .page) :
    Ends (if taken then target else return .goto (offset + o.operand.width) origin) t
      (fun c _ => o.leaps current b = false →
        c.Follows offset (ListingLine.ofOpcode o offset (code.drop offset)))
      fun _ _ => True := by
  rw [← leaps]
  cases taken with
  | true => exact Ends.of_ok fun _ _ _ => nofun
  | false => exact Ends.pure fun _ => Continuation.follows_of_fixed nested page ..

/-- A plain instruction with an operand of fixed width. -/
theorem follows_of_plain {o : Opcode} (plain : o.isPlain) (page : o.operand ≠ .page) :
    Ends (instruction ctx code offset current origin o) b
      (fun c _ => o.leaps current b = false →
        c.Follows offset (ListingLine.ofOpcode o offset (code.drop offset)))
      fun _ _ => True := by
  refine (ends_plain plain).mono (fun c _ same _ => ?_) fun _ _ _ => trivial
  rw [same, Opcode.operandSize_of_fixed page]
  exact Continuation.follows_of_fixed (Opcode.operand_of_isPlain plain) page offset _ origin

theorem follows_of_page {p : Page} :
    Ends (instruction ctx code offset current origin (.page p)) b
      (fun c _ => c.Follows offset (ListingLine.ofOpcode (.page p) offset (code.drop offset)))
      fun _ _ => True := by
  refine Ends.of_ok fun c t run => ?_
  obtain ⟨byte, name, operand, read, known, present⟩ := ends_page_has.ok run
  obtain rfl := (ends_plain rfl).ok run
  have start : code.drop offset = byte :: code.drop (offset + 1) := Expression.drop_of_uint8At read
  have size : (ListingLine.ofOpcode (.page p) offset (byte :: code.drop (offset + 1))).size =
      1 + operand.width :=
    ListingLine.size_paged known fun int32 =>
      (present int32).imp fun _ found => (Expression.int32At_drop found).2
  rw [start, Opcode.operandSize_page rfl, known]
  exact ⟨congrArg (offset + ·) size.symm, (ListingLine.body_paged ..).symm⟩

/-- A nested run, whichever entity it is for. -/
theorem follows_of_nested {o : Opcode} (nested : o.operand = .nested) (entity next : EntityId) :
    Ends (do
      let (body, stop) ← ofExcept (code.nestedAt offset)
      return .call body entity stop next : Eval Continuation) b
      (fun c _ => o.leaps current b = false →
        c.Follows offset (ListingLine.ofOpcode o offset (code.drop offset)))
      fun _ _ => True := by
  cases read : code.nestedAt offset with
  | error f => trivial
  | ok found =>
    obtain ⟨body, stop⟩ := found
    obtain ⟨size, same, rfl⟩ := Expression.nestedAt_drop read
    refine Ends.pure fun _ => ?_
    rw [ListingLine.ofOpcode_eq_single (by rw [nested]; nofun), nested]
    simp only [ListingLine.single, same]
    exact ⟨rfl, rfl⟩

/-- **An instruction that does not leap goes on behind its line.** -/
theorem instruction_follows {o : Opcode} :
    Ends (instruction ctx code offset current origin o) b
      (fun c _ => o.leaps current b = false →
        c.Follows offset (ListingLine.ofOpcode o offset (code.drop offset)))
      fun _ _ => True := by
  cases o with
  | page p => exact follows_of_page.mono (fun _ _ follows _ => follows) fun _ _ _ => trivial
  | run => exact follows_of_nested rfl current origin
  | runUnredirected => exact follows_of_nested rfl origin current
  | redirect role =>
    refine ends_redirect.mono (fun c t goes stays => ?_) fun _ _ _ => trivial
    obtain ⟨target, rfl⟩ := goes stays
    exact Continuation.follows_of_fixed (o := .redirect role) nofun nofun offset _ target
  | jumpShort test =>
    exact Ends.bind (ends_jumpTaken.mono
      (fun _ _ taken => follows_of_jump (o := .jumpShort test) taken nofun nofun) fun _ _ _ => trivial)
  | jumpIfFailed =>
    exact Ends.bind (ends_top.mono
      (fun _ _ taken => follows_of_jump (o := .jumpIfFailed) taken nofun nofun) fun _ _ _ => trivial)
  | jumpLong test =>
    exact Ends.bind (ends_jumpTaken.mono
      (fun _ _ taken => follows_of_jump (o := .jumpLong test) taken nofun nofun) fun _ _ _ => trivial)
  | literal form => exact follows_of_plain rfl (by cases form <;> nofun)
  | _ => exact follows_of_plain rfl nofun

end Eval
end TickScript
