import TickScript.Effect.Transition

/-! # Save files

    An entity's store is written to a file of the save directory or read back from one.  A path
    that leaves the directory, an unknown kind of store and a file that does not exist change
    nothing; a file that cannot be used is a fault.
-/

namespace TickScript.Effect

namespace SaveTag

/-- The path, as text. -/
@[match_pattern] def path : UInt8 := 0
@[match_pattern] def kind : UInt8 := 1

end SaveTag

/-- **What saving or loading asks for.** -/
structure SavePlan where
  path : String
  kind : Int32

/-- One record of saving or loading. -/
def saveRecord (r : ArgRecord) : Visiting SavePlan Unit := do
  match r.tag with
  | SaveTag.path =>
    let s ← Visiting.text r
    Visiting.revise fun p => { p with path := s }
  | SaveTag.kind =>
    let n ← Visiting.int r
    Visiting.revise fun p => { p with kind := n }
  | _ => pure ()

/-- The file and the kind of store that a plan names, if it names any. -/
def SavePlan.resolve? (p : SavePlan) (saveDir : String) : Option (String × SaveKind) :=
  match SaveKind.ofCode? p.kind, SaveDirectory.resolve saveDir p.path with
  | some kind, .ok path => some (path, kind)
  | _, _ => none

/-- Acts on the file and the kind of store that the records name. -/
def withSaveFile (origin : EntityId) (args : ArgBlock)
    (act : EntityId → String → SaveKind → Act Unit) : Act Unit :=
  afterVisit origin args (⟨"", 0⟩ : SavePlan) saveRecord fun t p => do
    match p.resolve? (← Act.machine).saveDir with
    | some (path, kind) => act t.id path kind
    | none => pure ()

/-- **Saves a store** of the target. -/
def saveFile (origin : EntityId) (args : ArgBlock) : Act Unit :=
  withSaveFile origin args fun id path kind => do
    let data := (← Act.entity id).capture kind
    let s ← get
    let (files, result) := SaveDirectory.write s.files path data
    set { s with files := files }
    Act.ofExcept (result.mapError .save)

/-- **Loads a store** of the target.  The file must hold that kind of store. -/
def loadFile (origin : EntityId) (args : ArgBlock) : Act Unit :=
  withSaveFile origin args fun id path kind => do
    match SaveDirectory.read (← get).files path with
    | .error f => throw (.save f)
    | .ok none => pure ()
    | .ok (some data) =>
      if data.kind = kind then Act.update id fun e => e.restore data
      else throw (.save (.kindMismatch kind data.kind))

end TickScript.Effect
