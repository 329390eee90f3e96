import TickScript.Settings.Basic
import TickScript.Document.Lines
import TickScript.Document.Writer
import TickScript.Text.Utf8
import TickScript.Files.Tree

/-! # Settings files

    A settings file has a table for each section and a key for each setting.  Everything in it
    has to be known: an unknown key, a value of the wrong kind and a number out of range make the
    whole file malformed.  The first fault counts, in the order in which the file is written.
-/

namespace TickScript

/-! ## Values

    A reader of a value answers with the place of a fault. -/

namespace Item

/-- The fault of a value that is not of the right kind. -/
def refuse {α : Type} (i : Item) : Except Nat α := .error i.left

/-- What a value means, if it means anything. -/
def asked {α : Type} (i : Item) : Option α → Except Nat α
  | some a => .ok a
  | none => i.refuse

/-- A whole number below a bound. -/
def below (i : Item) (bound : Nat) : Except Nat Nat :=
  match i.value with
  | .number n => i.asked (if 0 ≤ n ∧ n < bound then some n.toNat else none)
  | _ => i.refuse

/-- A number of 32 bits. -/
def word (i : Item) : Except Nat UInt32 := UInt32.ofNat <$> i.below UInt32.size

/-- A number of 64 bits, read as a signed one. -/
def size (i : Item) : Except Nat Nat := i.below (UInt64.size / 2)

def text (i : Item) : Except Nat String :=
  match i.value with
  | .text s => .ok s
  | _ => i.refuse

/-- A list of numbers of 32 bits. -/
def words (i : Item) : Except Nat (List UInt32) :=
  match i.value with
  | .list _ items => items.mapM word
  | _ => i.refuse

end Item

/-- The choice that a word names, in lower case only. -/
def PowSetting.ofWord? (word : String) : Option PowSetting :=
  [automatic, current, legacy].find? fun p => p.word == word

/-- Nothing: an empty list or table.  A table that only lies on the way to others is not empty,
    and the fault is then that of the value around it. -/
def Item.nothingIn (around i : Item) : Except Nat Unit :=
  match i.value with
  | .list _ [] | .table _ [] => .ok ()
  | .table .path _ | .table .dotted _ => around.refuse
  | _ => i.refuse

/-- A choice of bit order: its word, or a table with the word as its only key and nothing under
    it. -/
def Item.powSetting (i : Item) : Except Nat PowSetting :=
  match i.value with
  | .text word => i.asked (PowSetting.ofWord? word)
  | .table _ [(word, content)] =>
    match PowSetting.ofWord? word.value with
    | some p => do
      i.nothingIn content
      return p
    | none => .error word.left
  | _ => i.refuse

/-! ## Sections

    A section is read key by key: `assign` changes what was read so far, and refuses a key that
    it does not know. -/

/-- **Reads a section** from a table, or from a list that gives the values of all keys in order;
    further items of the list mean nothing. -/
def Item.section {α : Type} (keys : List String) (assign : α → Key → Item → Except Nat α)
    (start : α) (i : Item) : Except Nat α :=
  match i.value with
  | .table _ entries => entries.foldlM (fun s e => assign s e.1 e.2) start
  | .list _ items => do
    let s ← (keys.zip items).foldlM (fun s e => assign s ⟨e.2.left, e.1⟩ e.2) start
    if items.length < keys.length then i.refuse else return s
  | _ => i.refuse

namespace RuntimeSection

def keys : List String := ["max_state_changes_per_tick", "max_loop_iterations", "stack_capacity"]

def assign (r : RuntimeSection) (key : Key) (i : Item) : Except Nat RuntimeSection :=
  match key.value with
  | "max_state_changes_per_tick" => return { r with maxStateChanges := some (← i.word) }
  | "max_loop_iterations" => return { r with maxLoopIterations := some (← i.word) }
  | "stack_capacity" => return { r with stackCapacity := some (← i.size) }
  | _ => .error key.left

def ofItem : Item → Except Nat RuntimeSection := Item.section keys assign ⟨none, none, none⟩

end RuntimeSection

namespace CompatSection

def keys : List String := ["pow_bit_order", "current_pow_majors"]

def assign (c : CompatSection) (key : Key) (i : Item) : Except Nat CompatSection :=
  match key.value with
  | "pow_bit_order" => return { c with powBitOrder := some (← i.powSetting) }
  | "current_pow_majors" => return { c with currentPowMajors := some (← i.words) }
  | _ => .error key.left

def ofItem : Item → Except Nat CompatSection := Item.section keys assign ⟨none, none⟩

end CompatSection

namespace StorageSection

def keys : List String := ["save_dir"]

def assign (_ : StorageSection) (key : Key) (i : Item) : Except Nat StorageSection :=
  match key.value with
  | "save_dir" => return ⟨some (← i.text)⟩
  | _ => .error key.left

def ofItem : Item → Except Nat StorageSection := Item.section keys assign ⟨none⟩

end StorageSection

namespace LoggingSection

def keys : List String := ["filter"]

def assign (_ : LoggingSection) (key : Key) (i : Item) : Except Nat LoggingSection :=
  match key.value with
  | "filter" => return ⟨some (← i.text)⟩
  | _ => .error key.left

def ofItem : Item → Except Nat LoggingSection := Item.section keys assign ⟨none⟩

end LoggingSection

namespace Settings

/-! ## Reading -/

def assign (s : Settings) (key : Key) (i : Item) : Except Nat Settings :=
  match key.value with
  | "runtime" => return { s with runtime := some (← RuntimeSection.ofItem i) }
  | "compat" => return { s with compat := some (← CompatSection.ofItem i) }
  | "storage" => return { s with storage := some (← StorageSection.ofItem i) }
  | "logging" => return { s with logging := some (← LoggingSection.ofItem i) }
  | _ => .error key.left

/-- **The settings in a document**, which may hold nothing else. -/
def ofDocument (d : Document) : Except Nat Settings :=
  d.foldlM (fun s e => assign s e.1 e.2) empty

/-- **The settings that a text spells.** -/
def ofText (text : String) : Except Position Settings :=
  ((Document.ofText text).bind ofDocument).mapError (Position.ofLeft text.toList)

/-- What is said of content that is no UTF-8. -/
def notUtf8 : String := "stream did not contain valid UTF-8"

/-- **The settings of a file**, given what reading it gave.  They are valid. -/
def ofFile (path : String) (content : Except FileFault Bytes) : Except SettingsFault Settings :=
  match content with
  | .error .notFound => .error (.notFound path)
  | .error f => .error (.unreadable f.message)
  | .ok bytes =>
    match Utf8.decode? bytes with
    | none => .error (.unreadable notUtf8)
    | some text =>
      match ofText text with
      | .error position => .error (.malformed path position)
      | .ok s => do
        s.validate
        return s

/-! ## Writing -/

/-- A line for a setting, if it is set. -/
def entry (key : String) (write : α → String) (setting : Option α) : List (String × String) :=
  (setting.map fun a => (key, write a)).toList

/-- A number of 32 bits. -/
def wordText (n : UInt32) : String := toString n.toNat

def runtimeText (r : RuntimeSection) : String :=
  Document.sectionText "runtime" <|
    entry "max_state_changes_per_tick" wordText r.maxStateChanges ++
    entry "max_loop_iterations" wordText r.maxLoopIterations ++
    entry "stack_capacity" toString r.stackCapacity

def compatText (c : CompatSection) : String :=
  Document.sectionText "compat" <|
    entry "pow_bit_order" (fun p => Document.quote p.word) c.powBitOrder ++
    entry "current_pow_majors" (fun majors => Document.listText (majors.map wordText))
      c.currentPowMajors

def storageText (s : StorageSection) : String :=
  Document.sectionText "storage" (entry "save_dir" Document.quote s.saveDir)

def loggingText (l : LoggingSection) : String :=
  Document.sectionText "logging" (entry "filter" Document.quote l.filter)

/-- **The document of the settings**: the sections that are present, with what they set. -/
def toText (s : Settings) : String :=
  Document.sectionsText <|
    (s.runtime.map runtimeText).toList ++ (s.compat.map compatText).toList ++
    (s.storage.map storageText).toList ++ (s.logging.map loggingText).toList

end Settings
end TickScript
