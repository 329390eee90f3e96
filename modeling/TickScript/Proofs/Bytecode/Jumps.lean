import Mathlib.Algebra.Group.Nat.Defs
import TickScript.Proofs.Bytecode.Reading

/-! # Jumps land where they were closed

    A compiler opens a forward jump, goes on, and closes the jump when it has come to the target.
    There may be several open jumps at a time, of both widths, and they may be closed in any order.

        ‥‥ op 0 0 0 0 ‥‥ op 0 ‥‥ ‥‥        two open jumps
        ‥‥ op 0 0 0 0 ‥‥ op 7 ‥‥ ‥‥        the short one closed
                          └───────┘

    Two facts make this work.  Operands of jumps never overlap, so what is written into one leaves
    the others alone; and code is only ever added behind the operands, so what an operand says
    about the bytes behind it remains true.  A `Draft` keeps account of the jumps next to the code,
    and `Sound` says that the code agrees with the account, whatever was done to it.
-/

namespace TickScript

namespace Expression

variable {code : Expression} {part other : Bytes} {offset place i : Nat}

/-! ## Writing into code -/

/-- The code with some of its bytes replaced. -/
def overwrite (code : Expression) (offset : Nat) (part : Bytes) : Expression :=
  code.take offset ++ part ++ code.drop (offset + part.length)

theorem length_overwrite (inside : offset + part.length ≤ code.length) :
    (code.overwrite offset part).length = code.length := by
  simp only [overwrite, List.length_append, List.length_take, List.length_drop]
  omega

theorem getElem?_overwrite_of_lt (before : i < offset) (inside : offset ≤ code.length) :
    (code.overwrite offset part)[i]? = code[i]? := by
  have left : i < (code.take offset).length := by
    rw [List.length_take]
    omega
  rw [overwrite, List.append_assoc, List.getElem?_append_left left, List.getElem?_take_of_lt before]

theorem getElem?_overwrite_of_le (behind : offset + part.length ≤ i)
    (inside : offset ≤ code.length) : (code.overwrite offset part)[i]? = code[i]? := by
  have size : (code.take offset ++ part).length = offset + part.length := by
    rw [List.length_append, List.length_take]
    omega
  rw [overwrite, List.getElem?_append_right (size ▸ behind), size, List.getElem?_drop,
    Nat.add_sub_cancel' behind]

theorem getElem?_overwrite (apart : i < offset ∨ offset + part.length ≤ i)
    (inside : offset ≤ code.length) : (code.overwrite offset part)[i]? = code[i]? :=
  apart.elim (getElem?_overwrite_of_lt · inside) (getElem?_overwrite_of_le · inside)

namespace Holds

/-- A part is held if its bytes are. -/
theorem of_getElem? (inside : offset + part.length ≤ code.length)
    (same : ∀ i < part.length, code[offset + i]? = part[i]?) : Holds code offset part := by
  have split : code.drop offset = part ++ code.drop (offset + part.length) := by
    apply List.ext_getElem?
    intro i
    rw [List.getElem?_drop]
    by_cases within : i < part.length
    · rw [List.getElem?_append_left within, same i within]
    · have behind : part.length ≤ i := Nat.not_lt.mp within
      rw [List.getElem?_append_right behind, List.getElem?_drop]
      congr 1
      omega
  exact of_drop (by omega) split

theorem append (h : Holds code offset part) (more : Bytes) : Holds (code ++ more) offset part := by
  obtain ⟨before, after, rfl, rfl⟩ := h
  exact ⟨before, after ++ more, by simp, rfl⟩

theorem overwritten (inside : offset + part.length ≤ code.length) :
    Holds (code.overwrite offset part) offset part := by
  refine ⟨code.take offset, code.drop (offset + part.length), rfl, ?_⟩
  rw [List.length_take]
  omega

/-- **What is written into code** leaves everything alone that lies apart from it. -/
theorem overwrite (h : Holds code place other)
    (apart : place + other.length ≤ offset ∨ offset + part.length ≤ place)
    (inside : offset + part.length ≤ code.length) :
    Holds (code.overwrite offset part) place other := by
  have within := h.le_length
  refine of_getElem? (by rwa [length_overwrite inside]) ?_
  intro i here
  rw [getElem?_overwrite (by omega) (by omega)]
  obtain ⟨b, found⟩ : ∃ b, other[i]? = some b := ⟨_, List.getElem?_eq_getElem here⟩
  rw [found]
  exact h.getElem? found

end Holds
end Expression

open Expression (Holds)

/-! ## Two widths of jumps -/

/-- **The width of a jump's operand.** -/
inductive JumpWidth where
  /-- One byte, forward only; zero leads to the end. -/
  | short
  /-- Four bytes, signed. -/
  | long

namespace JumpWidth

variable {w : JumpWidth} {code : Expression} {offset distance : Nat}

def size : JumpWidth → Nat
  | short => 1
  | long => 4

/-- Emits a jump whose target is not known yet; the code, and the offset of its operand. -/
def openJump (w : JumpWidth) (o : Opcode) (code : Expression) : Expression × Nat :=
  match w with
  | short => Expression.openShortJump o code
  | long => Expression.openJump o code

/-- Makes the jump lead to the end of the code so far, unless that is out of reach. -/
def closeJump (w : JumpWidth) (code : Expression) (offset : Nat) : Option Expression :=
  match w with
  | short => Expression.closeShortJump code offset
  | long => some (Expression.closeJump code offset)

/-- Where the interpreter goes on when it takes the jump. -/
def targetAt (w : JumpWidth) (code : Expression) (offset : Nat) : Except Fault Nat :=
  match w with
  | short => code.shortTargetAt offset
  | long => code.longTargetAt offset

/-- **The distances that an operand can say.**  A short jump cannot lead to the byte behind it,
    as zero has another meaning. -/
def Reaches (w : JumpWidth) (distance : Nat) : Prop :=
  match w with
  | short => 1 ≤ distance ∧ distance ≤ 255
  | long => True

instance (w : JumpWidth) (distance : Nat) : Decidable (w.Reaches distance) :=
  match w with
  | short => inferInstanceAs (Decidable (_ ∧ _))
  | long => inferInstanceAs (Decidable True)

/-- The operand that says a distance. -/
def spell (w : JumpWidth) (distance : Nat) : Bytes :=
  match w with
  | short => [UInt8.ofNat distance]
  | long => Bytes.ofInt32 (.ofNat distance)

@[simp] theorem length_spell (w : JumpWidth) (distance : Nat) :
    (w.spell distance).length = w.size := by
  cases w with
  | short => rfl
  | long => exact Bytes.length_ofInt32 _

/-- An open jump says zero. -/
theorem openJump_eq (w : JumpWidth) (o : Opcode) (code : Expression) :
    w.openJump o code = (code ++ Expression.op o ++ w.spell 0, code.length + 1) := by
  cases w <;> rfl

/-- **Closing a jump** writes the number of bytes behind its operand, if the operand can say it. -/
theorem closeJump_eq (inside : offset + w.size ≤ code.length) :
    w.closeJump code offset =
      if w.Reaches (code.length - (offset + w.size)) then
        some (code.overwrite offset (w.spell (code.length - (offset + w.size))))
      else none := by
  cases w with
  | short =>
    have inside : offset < code.length := inside
    -- one byte is replaced in its place
    have written (b : UInt8) : code.set offset b = code.overwrite offset [b] := by
      rw [List.set_eq_take_append_cons_drop, if_pos inside, Expression.overwrite,
        List.append_assoc]
      rfl
    have reach : 0 < code.length - (offset + 1) ∧ code.length - (offset + 1) < 256 ↔
        short.Reaches (code.length - (offset + 1)) := by
      show _ ↔ 1 ≤ code.length - (offset + 1) ∧ code.length - (offset + 1) ≤ 255
      omega
    simp only [closeJump, Expression.closeShortJump, written, reach]
    rfl
  | long =>
    have inside : offset + 4 ≤ code.length := inside
    -- as the operand lies inside the code, the distance is not negative
    have behind : (code.length : Int) - (offset + 4) = (code.length - (offset + 4) : Nat) := by
      omega
    simp only [closeJump, Expression.closeJump, behind, Int32.ofInt_eq_ofNat]
    rw [if_pos (show long.Reaches _ from trivial), Expression.overwrite, length_spell]
    rfl

theorem toNat_ofNat_of_reaches (reaches : short.Reaches distance) :
    (UInt8.ofNat distance).toNat = distance := by
  obtain ⟨least, most⟩ : 1 ≤ distance ∧ distance ≤ 255 := reaches
  rw [UInt8.toNat_ofNat']
  omega

/-- No distance that a short jump says is zero. -/
theorem ofNat_ne_zero (reaches : short.Reaches distance) : UInt8.ofNat distance ≠ 0 := by
  intro zero
  have value := toNat_ofNat_of_reaches reaches
  rw [zero] at value
  have least : 1 ≤ distance := reaches.1
  have none : 0 = distance := value
  omega

/-- An operand that says a distance leads so far behind it. -/
theorem targetAt_of_holds (held : Holds code offset (w.spell distance))
    (reaches : w.Reaches distance) (small : distance < 2 ^ 31) :
    w.targetAt code offset = .ok (offset + w.size + distance) := by
  cases w with
  | short =>
    have read : code.uint8At offset = .ok (UInt8.ofNat distance) := held.uint8At
    simp only [targetAt, Expression.shortTargetAt, read]
    show Except.ok (if UInt8.ofNat distance = 0 then _ else _) = _
    rw [if_neg (ofNat_ne_zero reaches), toNat_ofNat_of_reaches reaches]
    rfl
  | long => exact held.longTargetAt small

end JumpWidth

/-! ## Drafts -/

/-- **A jump that was opened**: its operand, and how long the code was when it was closed. -/
structure DraftJump where
  width : JumpWidth
  offset : Nat
  landing : Option Nat

namespace DraftJump

/-- The end of the operand. -/
def stop (j : DraftJump) : Nat := j.offset + j.width.size

/-- The distance that the operand says. -/
def distance (j : DraftJump) : Nat :=
  match j.landing with
  | some landing => landing - j.stop
  | none => 0

/-- The code with the operand leading to its end. -/
def close (j : DraftJump) (code : Expression) : Expression :=
  code.overwrite j.offset (j.width.spell (code.length - j.stop))

/-- **The code agrees with the account of a jump.** -/
structure Written (j : DraftJump) (code : Expression) : Prop where
  held : Holds code j.offset (j.width.spell j.distance)
  landing : ∀ landing, j.landing = some landing →
    j.stop ≤ landing ∧ landing ≤ code.length ∧ j.width.Reaches (landing - j.stop)

variable {j : DraftJump} {code : Expression}

theorem Written.inside (h : j.Written code) : j.stop ≤ code.length := by
  have within := h.held.le_length
  rwa [JumpWidth.length_spell] at within

theorem Written.closeJump_eq (h : j.Written code) :
    j.width.closeJump code j.offset =
      if j.width.Reaches (code.length - j.stop) then some (j.close code) else none :=
  JumpWidth.closeJump_eq h.inside

theorem Written.fits (h : j.Written code) (distance : Nat) :
    j.offset + (j.width.spell distance).length ≤ code.length := by
  rw [JumpWidth.length_spell]
  exact h.inside

theorem Written.length_close (h : j.Written code) : (j.close code).length = code.length :=
  Expression.length_overwrite (h.fits _)

/-- **Closing a jump** changes its operand only. -/
theorem Written.getElem?_close (h : j.Written code) {i : Nat} (apart : i < j.offset ∨ j.stop ≤ i) :
    (j.close code)[i]? = code[i]? := by
  have inside := h.inside
  refine Expression.getElem?_overwrite ?_ (Nat.le_trans (Nat.le_add_right ..) inside)
  rwa [JumpWidth.length_spell]

theorem Written.append (h : j.Written code) (more : Bytes) : j.Written (code ++ more) where
  held := h.held.append more
  landing l closed := by
    obtain ⟨behind, before, reaches⟩ := h.landing l closed
    refine ⟨behind, ?_, reaches⟩
    rw [List.length_append]
    omega

/-- Another jump that is closed leaves this one as it is. -/
theorem Written.close_other (h : j.Written code) {k : DraftJump} (other : k.Written code)
    (apart : j.stop ≤ k.offset ∨ k.stop ≤ j.offset) : j.Written (k.close code) where
  held := by
    refine h.held.overwrite ?_ (other.fits _)
    rwa [JumpWidth.length_spell, JumpWidth.length_spell]
  landing l closed := by
    rw [other.length_close]
    exact h.landing l closed

/-- A jump that is closed is accounted for. -/
theorem Written.close_self (h : j.Written code) (reaches : j.width.Reaches (code.length - j.stop)) :
    Written { j with landing := some code.length } (j.close code) where
  held := Holds.overwritten (h.fits _)
  landing := by
    rintro _ ⟨⟩
    exact ⟨h.inside, Nat.le_of_eq h.length_close.symm, reaches⟩

/-- **A closed jump lands** where the code ended when it was closed. -/
theorem Written.targetAt (h : j.Written code) {landing : Nat} (closed : j.landing = some landing)
    (small : code.length < 2 ^ 31) : j.width.targetAt code j.offset = .ok landing := by
  obtain ⟨behind, before, reaches⟩ := h.landing landing closed
  have held := h.held
  rw [distance, closed] at held
  have near : landing - j.stop < 2 ^ 31 := by omega
  rw [JumpWidth.targetAt_of_holds held reaches near]
  exact congrArg Except.ok (Nat.add_sub_cancel' behind)

/-- The operand of a short jump that was closed is not zero. -/
theorem Written.nonzero (h : j.Written code) {landing : Nat} (closed : j.landing = some landing)
    (short : j.width = .short) : code[j.offset]? ≠ some 0 := by
  obtain ⟨-, -, reaches⟩ := h.landing landing closed
  have held := h.held
  rw [distance, closed, short] at held
  rw [short] at reaches
  rw [held.head]
  exact fun zero => JumpWidth.ofNat_ne_zero reaches (Option.some.inj zero)

end DraftJump

/-- **What a compiler does to code.** -/
inductive Edit where
  /-- Appends code of any kind. -/
  | emit (part : Bytes)
  | openJump (w : JumpWidth) (o : Opcode)
  /-- Closes the jump that was opened as number `n`. -/
  | closeJump (n : Nat)

/-- **Code in the making**, with an account of all jumps that were opened in it. -/
structure Draft where
  code : Expression
  jumps : List DraftJump

namespace Draft

/-- A jump that is out of reach stays as it is. -/
def perform (d : Draft) : Edit → Draft
  | .emit part => { d with code := d.code ++ part }
  | .openJump w o =>
    let (code, offset) := w.openJump o d.code
    ⟨code, d.jumps ++ [⟨w, offset, none⟩]⟩
  | .closeJump n =>
    match d.jumps[n]? with
    | none => d
    | some j =>
      match j.width.closeJump d.code j.offset with
      | none => d
      | some code => ⟨code, d.jumps.set n { j with landing := some d.code.length }⟩

def performAll (d : Draft) (edits : List Edit) : Draft := edits.foldl perform d

/-- **The code agrees with the account of all jumps**, whose operands lie one behind the other. -/
structure Sound (d : Draft) : Prop where
  written : ∀ (n : Nat) (j : DraftJump), d.jumps[n]? = some j → j.Written d.code
  apart : ∀ (m n : Nat) (j k : DraftJump), m < n → d.jumps[m]? = some j → d.jumps[n]? = some k →
    j.stop ≤ k.offset

variable {d : Draft} {j : DraftJump} {n : Nat}

/-- Code without jumps that were opened. -/
theorem sound_start (code : Expression) : Sound ⟨code, []⟩ where
  written n j found := by simp at found
  apart m n j k _ found := by simp at found

/-! ## One edit -/

theorem Sound.emit (h : d.Sound) (part : Bytes) : (d.perform (.emit part)).Sound where
  written n j found := (h.written n j found).append part
  apart := h.apart

theorem perform_openJump (d : Draft) (w : JumpWidth) (o : Opcode) :
    d.perform (.openJump w o) =
      ⟨d.code ++ (Expression.op o ++ w.spell 0), d.jumps ++ [⟨w, d.code.length + 1, none⟩]⟩ := by
  rw [perform, JumpWidth.openJump_eq, List.append_assoc]

theorem Sound.openJump (h : d.Sound) (w : JumpWidth) (o : Opcode) :
    (d.perform (.openJump w o)).Sound := by
  rw [perform_openJump]
  have new : Holds (d.code ++ (Expression.op o ++ w.spell 0)) (d.code.length + 1) (w.spell 0) :=
    ⟨d.code ++ Expression.op o, [], by simp, by simp⟩
  -- behind the jumps that were there before, there is the new one only
  have last {n : Nat} {j : DraftJump} (behind : d.jumps.length ≤ n)
      (found : (d.jumps ++ [⟨w, d.code.length + 1, none⟩])[n]? = some j) :
      j = ⟨w, d.code.length + 1, none⟩ := by
    rw [List.getElem?_append_right behind] at found
    exact List.mem_singleton.mp (List.mem_of_getElem? found)
  constructor
  case written =>
    intro n j found
    rcases Nat.lt_or_ge n d.jumps.length with before | behind
    · rw [List.getElem?_append_left before] at found
      exact (h.written n j found).append _
    · cases last behind found
      exact ⟨new, fun _ closed => nomatch closed⟩
  case apart =>
    intro m n j k before first second
    have size := (List.getElem?_eq_some_iff.mp second).1
    rw [List.length_append, List.length_singleton] at size
    rw [List.getElem?_append_left (by omega)] at first
    rcases Nat.lt_or_ge n d.jumps.length with before' | behind
    · rw [List.getElem?_append_left before'] at second
      exact h.apart m n j k before first second
    · -- the new operand stands behind the code, and so behind all others
      cases last behind second
      exact Nat.le_succ_of_le (h.written m j first).inside

/-- Closing a jump that was opened. -/
theorem perform_closeJump (h : d.Sound) (opened : d.jumps[n]? = some j) :
    d.perform (.closeJump n) =
      if j.width.Reaches (d.code.length - j.stop) then
        ⟨j.close d.code, d.jumps.set n { j with landing := some d.code.length }⟩
      else d := by
  simp only [perform, opened, (h.written n j opened).closeJump_eq]
  by_cases reaches : j.width.Reaches (d.code.length - j.stop)
  · rw [if_pos reaches, if_pos reaches]
  · rw [if_neg reaches, if_neg reaches]

/-- An entry of the account after one was replaced. -/
theorem eq_or_of_getElem?_set {jumps : List DraftJump} {k : DraftJump} {m : Nat}
    (found : (jumps.set n j)[m]? = some k) : m = n ∧ k = j ∨ m ≠ n ∧ jumps[m]? = some k := by
  by_cases same : m = n
  · subst same
    have here := (List.getElem?_eq_some_iff.mp found).1
    rw [List.length_set] at here
    rw [List.getElem?_set_self here] at found
    exact .inl ⟨rfl, (Option.some.inj found).symm⟩
  · rw [List.getElem?_set_ne (Ne.symm same)] at found
    exact .inr ⟨same, found⟩

/-- **Closing a jump** leaves the others alone: their operands lie before its own or behind it. -/
theorem Sound.closeJump (h : d.Sound) (n : Nat) : (d.perform (.closeJump n)).Sound := by
  cases opened : d.jumps[n]? with
  | none =>
    have still : d.perform (.closeJump n) = d := by simp only [perform, opened]
    rwa [still]
  | some j =>
    rw [perform_closeJump h opened]
    split
    case isFalse => exact h
    case isTrue reaches =>
      have written := h.written n j opened
      constructor
      case written =>
        intro m k found
        rcases eq_or_of_getElem?_set found with ⟨rfl, rfl⟩ | ⟨other, found⟩
        · exact written.close_self reaches
        · refine (h.written m k found).close_other written ?_
          rcases Nat.lt_or_gt_of_ne other with before | behind
          · exact .inl (h.apart m n k j before found opened)
          · exact .inr (h.apart n m j k behind opened found)
      case apart =>
        -- closing moves no operand, so the older account has the same places
        have older (m : Nat) (k : DraftJump)
            (found : (d.jumps.set n { j with landing := some d.code.length })[m]? = some k) :
            ∃ k', d.jumps[m]? = some k' ∧ k'.offset = k.offset ∧ k'.stop = k.stop := by
          rcases eq_or_of_getElem?_set found with ⟨rfl, rfl⟩ | ⟨-, found⟩
          · exact ⟨j, opened, rfl, rfl⟩
          · exact ⟨k, found, rfl, rfl⟩
        intro l m k k' before first second
        obtain ⟨_, found, -, stop⟩ := older l k first
        obtain ⟨_, found', offset, -⟩ := older m k' second
        rw [← stop, ← offset]
        exact h.apart l m _ _ before found found'

theorem Sound.perform (h : d.Sound) (e : Edit) : (d.perform e).Sound := by
  cases e with
  | emit part => exact h.emit part
  | openJump w o => exact h.openJump w o
  | closeJump n => exact h.closeJump n

/-- **An edit keeps the account** of a jump that it does not close. -/
theorem getElem?_jumps_perform (opened : d.jumps[n]? = some j) {e : Edit}
    (other : e ≠ .closeJump n) : (d.perform e).jumps[n]? = some j := by
  cases e with
  | emit part => exact opened
  | openJump w o =>
    have before := (List.getElem?_eq_some_iff.mp opened).1
    rw [perform_openJump, List.getElem?_append_left before, opened]
  | closeJump m =>
    have apart : m ≠ n := fun same => other (congrArg Edit.closeJump same)
    unfold Draft.perform
    dsimp only
    split
    · exact opened
    · split
      · exact opened
      · rw [List.getElem?_set_ne apart, opened]

/-! ## All edits -/

theorem Sound.performAll (h : d.Sound) (edits : List Edit) : (d.performAll edits).Sound := by
  induction edits generalizing d with
  | nil => exact h
  | cons e rest ih => exact ih (h.perform e)

theorem getElem?_jumps_performAll (opened : d.jumps[n]? = some j) {edits : List Edit}
    (others : ∀ e ∈ edits, e ≠ .closeJump n) : (d.performAll edits).jumps[n]? = some j := by
  induction edits generalizing d with
  | nil => exact opened
  | cons e rest ih =>
    refine ih (getElem?_jumps_perform opened (others e (.head _))) ?_
    exact fun e' later => others e' (.tail _ later)

/-- The account of a jump that was closed, after any edits that do not close it again. -/
theorem Sound.written_closed (h : d.Sound) (opened : d.jumps[n]? = some j)
    (reaches : j.width.Reaches (d.code.length - j.stop)) {later : List Edit}
    (others : ∀ e ∈ later, e ≠ .closeJump n) :
    DraftJump.Written { j with landing := some d.code.length }
      ((d.perform (.closeJump n)).performAll later).code := by
  have here : n < d.jumps.length := (List.getElem?_eq_some_iff.mp opened).1
  -- the account has the landing from now on, and the code agrees with it for good
  have closed : (d.perform (.closeJump n)).jumps[n]? =
      some { j with landing := some d.code.length } := by
    rw [perform_closeJump h opened, if_pos reaches]
    exact List.getElem?_set_self here
  exact ((h.perform _).performAll later).written n _ (getElem?_jumps_performAll closed others)

/-- **What closing a jump does**, at once and for good. -/
structure Landed (d : Draft) (n : Nat) (j : DraftJump) (code : Expression) : Prop where
  result : (d.perform (.closeJump n)).code = code
  /-- Nothing but the operand changes. -/
  length : code.length = d.code.length
  elsewhere : ∀ i, i < j.offset ∨ j.stop ≤ i → code[i]? = d.code[i]?
  /-- Whatever is done later, the jump leads to the end that the code had. -/
  lands : ∀ later, (∀ e ∈ later, e ≠ .closeJump n) →
    ((d.perform (.closeJump n)).performAll later).code.length < 2 ^ 31 →
    j.width.targetAt ((d.perform (.closeJump n)).performAll later).code j.offset =
      .ok d.code.length
  /-- A short jump never says zero, which would lead to the end that the code has then. -/
  nonzero : j.width = .short → ∀ later, (∀ e ∈ later, e ≠ .closeJump n) →
    ((d.perform (.closeJump n)).performAll later).code[j.offset]? ≠ some 0

theorem Sound.landed (h : d.Sound) (opened : d.jumps[n]? = some j)
    (reaches : j.width.Reaches (d.code.length - j.stop)) : d.Landed n j (j.close d.code) where
  result := by rw [perform_closeJump h opened, if_pos reaches]
  length := (h.written n j opened).length_close
  elsewhere _ apart := (h.written n j opened).getElem?_close apart
  lands _ others small := (h.written_closed opened reaches others).targetAt rfl small
  nonzero short _ others := (h.written_closed opened reaches others).nonzero rfl short

/-- **Jumps land where they were closed.**  Take any code, any edits, and a jump that was opened
    among them; other jumps may be open, or closed already.  Closing it succeeds if and only if
    its operand can say the number of bytes behind it, and else changes nothing.  If it succeeds,
    only the operand changes, and the jump leads to where the code ended.  It leads there for good,
    whatever is emitted, opened or closed later, as long as it is not closed again itself. -/
theorem closed_jumps_land (start : Expression) (edits : List Edit) {n : Nat} {j : DraftJump}
    (opened : (performAll ⟨start, []⟩ edits).jumps[n]? = some j) :
    let d := performAll ⟨start, []⟩ edits
    ((j.width.closeJump d.code j.offset).isSome ↔ j.width.Reaches (d.code.length - j.stop)) ∧
    (j.width.closeJump d.code j.offset = none → d.perform (.closeJump n) = d) ∧
    ∀ code, j.width.closeJump d.code j.offset = some code → d.Landed n j code := by
  intro d
  have sound : d.Sound := (sound_start start).performAll edits
  rw [(sound.written n j opened).closeJump_eq]
  by_cases reaches : j.width.Reaches (d.code.length - j.stop)
  · rw [if_pos reaches]
    refine ⟨iff_of_true rfl reaches, (nomatch ·), ?_⟩
    rintro _ ⟨⟩
    exact sound.landed opened reaches
  · rw [if_neg reaches, perform_closeJump sound opened, if_neg reaches]
    exact ⟨iff_of_false Bool.false_ne_true reaches, fun _ => rfl, fun _ closed => nomatch closed⟩

/-- A long jump, a short one behind it, and one instruction more. -/
def nested : Draft :=
  performAll ⟨[], []⟩
    [.openJump .long (.jumpLong .always), .openJump .short (.jumpShort .ifZero),
      .emit (Expression.op .pop)]

/-- The short jump is closed first, and still leads behind the instruction when the long one is
    closed and the code goes on. -/
theorem closed_jumps_land_nested :
    nested.jumps[1]? = some ⟨.short, 6, none⟩ ∧
    Landed nested 1 ⟨.short, 6, none⟩ [0x54, 0, 0, 0, 0, 0x51, 1, 0x08] ∧
    JumpWidth.short.targetAt
      ((nested.perform (.closeJump 1)).performAll
        [.emit (Expression.op .dup), .closeJump 0]).code 6 = .ok 8 := by
  have opened : nested.jumps[1]? = some ⟨.short, 6, none⟩ := rfl
  have closes := (closed_jumps_land [] _ opened).2.2 _ rfl
  refine ⟨opened, closes, closes.lands _ ?_ (by decide)⟩
  intro e later
  simp only [List.mem_cons, List.not_mem_nil, or_false] at later
  rcases later with rfl | rfl <;> nofun

end Draft
end TickScript
