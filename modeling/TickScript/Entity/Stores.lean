import TickScript.Entity.Basic
import TickScript.Bytecode.Opcode
import TickScript.Save.Data
import TickScript.Text.Lower

/-! # The stores of an entity

    Scripts keep numbers in four arrays of fixed size and in a table of names.  An index outside
    an array reads and writes nothing and gives `failed`.  Names are looked up in lower case, and
    an absent name reads as zero.
-/

namespace TickScript

/-- How a store changes: the new number replaces the old one or is added to it. -/
inductive UpdateMode where
  | set
  | add
  deriving DecidableEq

namespace Variables

/-- The index as a place of an array. -/
def place? (n : Nat) (index : Int32) : Option (Fin n) :=
  if h : 0 ≤ index ∧ index.toInt.toNat < n then some ⟨index.toInt.toNat, h.2⟩ else none

/-- Reads a place of an array. -/
def readArray (array : Vector α n) (toValue : α → Value) (index : Int32) : Value :=
  match place? n index with
  | some i => toValue array[i]
  | none => .failed

/-- **Reads a variable.** -/
def read (vs : Variables) (bank : VariableBank) (index : Int32) : Value :=
  match bank with
  | .ints => readArray vs.ints .ofInt32 index
  | .systemInts => readArray vs.systemInts .ofInt32 index
  | .singles => readArray vs.singles .ofSingle index
  | .systemSingles => readArray vs.systemSingles .ofSingle index

/-- The number that an update leaves behind. -/
def updated [Add α] (mode : UpdateMode) (old new : α) : α :=
  match mode with
  | .set => new
  | .add => old + new

/-- Updates a place of an array; the result is the number written. -/
def updateArray [Add α] (array : Vector α n) (toValue : α → Value) (mode : UpdateMode)
    (index : Int32) (x : α) : Vector α n × Value :=
  match place? n index with
  | some i => (array.set i (updated mode array[i] x), toValue (updated mode array[i] x))
  | none => (array, .failed)

/-- **Updates a variable.**  Integer arrays take the integer view of the value, the others its
    single view; the result is the number written. -/
def update (vs : Variables) (mode : UpdateMode) (bank : VariableBank) (index : Int32)
    (v : Value) : Variables × Value :=
  match bank with
  | .ints =>
    let r := updateArray vs.ints .ofInt32 mode index v.toInt32
    ({ vs with ints := r.1 }, r.2)
  | .systemInts =>
    let r := updateArray vs.systemInts .ofInt32 mode index v.toInt32
    ({ vs with systemInts := r.1 }, r.2)
  | .singles =>
    let r := updateArray vs.singles .ofSingle mode index v.toSingle
    ({ vs with singles := r.1 }, r.2)
  | .systemSingles =>
    let r := updateArray vs.systemSingles .ofSingle mode index v.toSingle
    ({ vs with systemSingles := r.1 }, r.2)

end Variables

namespace Entity

/-- Updates a variable of the entity. -/
def updateVariable (e : Entity) (mode : UpdateMode) (bank : VariableBank) (index : Int32)
    (v : Value) : Entity × Value :=
  let r := e.vars.update mode bank index v
  ({ e with vars := r.1 }, r.2)

/-! ## Named numbers -/

/-- The number under a name. -/
def named (e : Entity) (name : String) : Single :=
  (e.names.get? (Text.lower name)).getD .zero

/-- **Updates a named number**; the result is the number written. -/
def updateNamed (e : Entity) (mode : UpdateMode) (name : String) (x : Single) :
    Entity × Single :=
  let new := Variables.updated mode (e.named name) x
  ({ e with names := e.names.insert (Text.lower name) new }, new)

/-! ## Saving -/

/-- The store of a kind. -/
def capture (e : Entity) : SaveKind → SaveData
  | .names => .names e.names
  | .ints => .ints e.vars.ints.toList
  | .floats => .floats e.vars.singles.toList

/-- The leading places take the values, as many as both sides have. -/
def overlay (v : Vector α n) (values : List α) : Vector α n :=
  Vector.ofFn fun i => values[i.val]?.getD v[i]

/-- **Writes save data back.**  Names are replaced, arrays overlaid. -/
def restore (e : Entity) : SaveData → Entity
  | .names t => { e with names := t }
  | .ints vs => { e with vars := { e.vars with ints := overlay e.vars.ints vs } }
  | .floats vs =>
    { e with vars := { e.vars with singles := overlay e.vars.singles vs } }

end Entity
end TickScript
