import TickScript.Bytecode.Operand
import TickScript.Number.Decimal

/-! # Listings of expressions

    One line per instruction: its offset, its name and its operand.  The body of a nested run
    follows indented, with offsets of its own.  An unknown opcode ends its expression; an operand
    that is cut short is marked and swallows what is left, except that a page operation whose own
    operand is cut short swallows only its two bytes.
-/

namespace TickScript

/-- **One instruction of a listing.** -/
structure ListingLine where
  text : String
  /-- The bytes behind the opcode that belong to the instruction. -/
  size : Nat
  /-- The expression it runs. -/
  body : Option Expression

namespace ListingLine

/-- At least four characters: zeros fill up between the sign, if there is one, and the digits. -/
def place (n : Int) : String :=
  let digits := toString n.natAbs
  if 0 ≤ n then String.ofList (List.replicate (4 - digits.length) '0') ++ digits
  else "-" ++ String.ofList (List.replicate (3 - digits.length) '0') ++ digits

/-- The mark of an operand that is cut short. -/
def truncated (name : String) : String := name ++ " <truncated>"

/-- The line of an opcode with an operand of fixed width. -/
def plain (name : String) (width : Nat) (operand : Except Fault String) : ListingLine :=
  match operand with
  | .ok text => ⟨name ++ text, width, none⟩
  | .error _ => ⟨truncated name, width, none⟩

/-- The name and the operand of a page operation, if there is one with that number. -/
def pageOp? : Page → UInt8 → Option (String × Operand)
  | .constants, b => (ConstantOp.ofByte? b).map fun o => (o.name, o.operand)
  | .stores, b => (StoreOp.ofByte? b).map fun o => (o.name, o.operand)
  | .extended, b => (ExtendedOp.ofByte? b).map fun o => (o.name, o.operand)

/-- The line of a page operation. -/
def paged (name : String) (p : Page) : Bytes → ListingLine
  | [] => ⟨truncated name, 0, none⟩
  | b :: rest =>
    match pageOp? p b with
    | none => ⟨name ++ ".<invalid " ++ byteText b ++ ">", 1, none⟩
    | some (opName, .int32) =>
      match Expression.int32At rest 0 with
      | .ok i => ⟨name ++ "." ++ opName ++ " " ++ toString i.toInt, 5, none⟩
      | .error _ => ⟨truncated name, 1, none⟩
    | some (opName, _) => ⟨name ++ "." ++ opName, 1, none⟩

/-- The line of an opcode that is no page, given the bytes behind it and their offset. -/
def single (name : String) (operand : Operand) (offset : Nat) (rest : Bytes) : ListingLine :=
  let width := operand.width
  match operand with
  | .none | .page => ⟨name, 0, none⟩
  | .uint8 => plain name width <| (fun v => s!" {v}") <$> Expression.uint8At rest 0
  | .int8 => plain name width <| (fun v => s!" {v.toInt}") <$> Expression.int8At rest 0
  | .int32 => plain name width <| (fun v => s!" {v.toInt}") <$> Expression.int32At rest 0
  | .int64 => plain name width <| (fun v => s!" {v.toInt}") <$> Expression.int64At rest 0
  | .single => plain name width <|
      (fun v => " " ++ Decimal.literal.text v) <$> Expression.singleAt rest 0
  | .jump8 => plain name width <|
      (fun v => if v = 0 then " -> end" else " -> " ++ place (offset + 1 + v.toNat)) <$>
        Expression.uint8At rest 0
  | .jump32 => plain name width <|
      (fun v => " -> " ++ place ((offset : Int) + 4 + v.toInt)) <$> Expression.int32At rest 0
  | .nested =>
    match Expression.nestedAt rest 0 with
    | .ok (body, next) => ⟨s!"{name} {body.length}", next, some body⟩
    | .error _ => ⟨truncated name, rest.length, none⟩

/-- **The line of an opcode**, given the bytes behind it and their offset. -/
def ofOpcode (o : Opcode) (offset : Nat) (rest : Bytes) : ListingLine :=
  match o with
  | .page p => paged o.name p rest
  | _ => single o.name o.operand offset rest

/-- The line of an instruction that starts with a byte, given the bytes behind it. -/
def ofByte (b : UInt8) (offset : Nat) (rest : Bytes) : ListingLine :=
  match Opcode.ofByte? b with
  | some o => ofOpcode o offset rest
  | none => ⟨"<invalid opcode: " ++ byteText b ++ ">", rest.length, none⟩

end ListingLine

/-- A nested expression is part of the code it is read from. -/
theorem Expression.length_nestedAt_le {code body : Expression} {offset next : Nat}
    (h : code.nestedAt offset = .ok (body, next)) : body.length ≤ code.length := by
  unfold Expression.nestedAt at h
  cases hl : code.int32At offset with
  | error f => simp [hl, bind, Except.bind] at h
  | ok l =>
    simp only [hl, bind, Except.bind] at h
    split at h
    · cases h
      simp only [List.length_take, List.length_drop]
      omega
    · cases h

namespace ListingLine

@[simp] theorem body_plain (name : String) (width : Nat) (operand : Except Fault String) :
    (plain name width operand).body = none := by
  cases operand <;> rfl

@[simp] theorem body_paged (name : String) (p : Page) (rest : Bytes) :
    (paged name p rest).body = none := by
  unfold paged
  split
  · rfl
  · split
    · rfl
    · split <;> rfl
    · rfl

theorem length_body_single_le {name : String} {operand : Operand} {offset : Nat}
    {rest body : Bytes} (h : (single name operand offset rest).body = some body) :
    body.length ≤ rest.length := by
  cases operand with
  | nested =>
    simp only [single] at h
    split at h
    · rename_i hn
      cases h
      exact Expression.length_nestedAt_le hn
    · cases h
  | none => cases h
  | page => cases h
  | _ => simp only [single, body_plain] at h; cases h

/-- The body of an instruction is part of the bytes behind its opcode. -/
theorem length_body_le {b : UInt8} {offset : Nat} {rest body : Bytes}
    (h : (ofByte b offset rest).body = some body) : body.length ≤ rest.length := by
  unfold ofByte at h
  split at h
  · unfold ofOpcode at h
    split at h
    · rw [body_paged] at h; cases h
    · exact length_body_single_le h
  · cases h

end ListingLine

namespace Expression

/-- The lines from an offset on, given the bytes there. -/
def listFrom (depth offset : Nat) : Bytes → String
  | [] => ""
  | b :: rest =>
    let line := ListingLine.ofByte b (offset + 1) rest
    let head := String.ofList (List.replicate (2 * depth) ' ') ++ ListingLine.place offset ++
      "  " ++ line.text ++ "\n"
    let inner := match h : line.body with
      | some body =>
        have : body.length ≤ rest.length := ListingLine.length_body_le h
        listFrom (depth + 1) 0 body
      | none => ""
    head ++ inner ++ listFrom depth (offset + 1 + line.size) (rest.drop line.size)
  termination_by code => code.length
  decreasing_by
    all_goals simp only [List.length_cons, List.length_drop]; omega

/-- **The listing of an expression.** -/
def listing (code : Expression) : String := listFrom 0 0 code

end Expression
end TickScript
