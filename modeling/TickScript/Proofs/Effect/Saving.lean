import TickScript.Proofs.Effect.Composed
import TickScript.Proofs.Effect.Records
import TickScript.Proofs.Files.Tree
import TickScript.Proofs.Save.Damage

/-! # Saving and loading

    A save file brings one store from one entity to another.  Whatever happens in between, as long
    as it does not happen to the file, loading makes the store of the target what it was when it was
    saved, and changes nothing else (`saved_store_is_loaded`).

    Both effects first visit their records, which evaluates expressions.  A load that fails has done
    nothing but that: the target is changed last, when path, file, format and kind are known to be
    right.
-/

namespace TickScript

/-! ## One store -/

namespace Entity

variable {kind : SaveKind}

/-- **The entity with one store of another one.** -/
def withStore (e : Entity) (kind : SaveKind) (other : Entity) : Entity :=
  match kind with
  | .names => { e with names := other.names }
  | .ints => { e with vars := { e.vars with ints := other.vars.ints } }
  | .floats => { e with vars := { e.vars with singles := other.vars.singles } }

/-- Values for all places replace all of them. -/
theorem overlay_toList {n : Nat} {α : Type} (v values : Vector α n) :
    overlay v values.toList = values := by
  apply Vector.ext
  intro i inside
  have listed : values.toList[i]? = some values[i] := by simp [inside]
  rw [overlay, Vector.getElem_ofFn, listed, Option.getD_some]

theorem kind_capture (e : Entity) (kind : SaveKind) : (e.capture kind).kind = kind := by
  cases kind <;> rfl

/-- **What was captured is restored.** -/
theorem restore_capture (e other : Entity) (kind : SaveKind) :
    e.restore (other.capture kind) = e.withStore kind other := by
  cases kind with
  | names => rfl
  | ints => simp only [capture, restore, withStore, overlay_toList]
  | floats => simp only [capture, restore, withStore, overlay_toList]

/-- The arrays are short enough for the format. -/
theorem fits_capture {e : Entity} (names : kind = .names → SaveData.Fits (.names e.names)) :
    SaveData.Fits (e.capture kind) := by
  cases kind with
  | names => exact names rfl
  | ints => exact ⟨by simp [capture, SaveData.size], fun _ same => nomatch same⟩
  | floats => exact ⟨by simp [capture, SaveData.size], fun _ same => nomatch same⟩

end Entity

/-- **Data that were written are read**, from every tree with the same file. -/
theorem SaveDirectory.read_of_write {files made later : FileTree} {path : String} {data : SaveData}
    (fits : data.Fits) (written : write files path data = (made, .ok ()))
    (same : later.read [] path = made.read [] path) : read later path = .ok (some data) := by
  have written : files.write [] path data.toBytes = (made, .ok ()) := by
    unfold write at written
    cases result : files.write [] path data.toBytes with
    | mk t outcome =>
      rw [result] at written
      cases outcome with
      | error f => cases written
      | ok _ =>
        cases written
        rfl
  have content := same.trans (FileTree.read_of_write written)
  have spelt : SaveData.ofBytes data.toBytes = .ok data := SaveData.ofBytes_eq_ok_iff.mpr
    ⟨_, [], SaveData.spells_toBytes fits, (List.append_nil _).symm⟩
  rw [read, content, decode, spelt]
  rfl

namespace Effect

variable {origin id : EntityId} {args : ArgBlock} {s t : Scene} {p : SavePlan} {full : String}
  {kind : SaveKind}

/-! ## What the records ask for -/

/-- **What the records ask for**, if nothing stops their visit, and of whom.  Saving and loading
    have the same records. -/
def Asks (origin : EntityId) (args : ArgBlock) (s t : Scene) (id : EntityId) (p : SavePlan) :
    Prop :=
  ∃ w, visitBlock origin args (⟨"", 0⟩ : SavePlan) Visiting.redirect
    (fun r => do saveRecord r; return true) s = .ok (true, w) t ∧ w.target.id = id ∧ w.plan = p

/-- **They name a file and a kind of store.** -/
def Names (origin : EntityId) (args : ArgBlock) (s t : Scene) (id : EntityId) (full : String)
    (kind : SaveKind) : Prop :=
  ∃ p, Asks origin args s t id p ∧ p.resolve? s.machine.saveDir = some (full, kind)

/-- So far expressions are evaluated, and nothing else is done. -/
theorem Asks.evaluations (asks : Asks origin args s t id p) :
    ∃ codes, codes.Sublist ((ArgBlock.read args).records.flatMap ArgRecord.expressions) ∧
      Evaluations origin codes s t := by
  obtain ⟨w, visited, -, -⟩ := asks
  exact (loadFileVisitor origin).evaluations_of_visit visited

theorem Asks.evaluated (asks : Asks origin args s t id p) : s.Evaluated t := by
  obtain ⟨codes, -, evaluations⟩ := asks.evaluations
  exact evaluations.evaluated

/-- **What is done then.** -/
theorem Asks.run_eq (asks : Asks origin args s t id p)
    (act : EntityId → String → SaveKind → Act Unit) :
    withSaveFile origin args act s = (match p.resolve? s.machine.saveDir with
      | some (path, kind) => act id path kind
      | none => pure ()) t := by
  -- the directory is looked up behind the visit, which does not move it
  have same := asks.evaluated.saveDir
  obtain ⟨w, visited, rfl, rfl⟩ := asks
  rw [← same]
  exact bind_of_ok visited

theorem Names.run_eq (names : Names origin args s t id full kind)
    (act : EntityId → String → SaveKind → Act Unit) :
    (withSaveFile origin args act >>= fun _ => pure false : Act Bool) s =
      (act id full kind >>= fun _ => pure false : Act Bool) t := by
  obtain ⟨p, asks, resolved⟩ := names
  show EStateM.bind _ _ s = EStateM.bind _ _ t
  rw [EStateM.bind, asks.run_eq, resolved]
  rfl

/-! ## Saving -/

/-- **What is left to do** once a file is named: the target must be there, and the file is written
    before it is known whether that failed. -/
theorem Names.save_eq (names : Names origin args s t id full kind) :
    EffectKind.saveFile.run origin args s = (Act.entity id >>= fun e =>
      Act.onFiles (fun files => (SaveDirectory.write files full (e.capture kind)).swap) >>=
        fun result => Act.ofExcept (result.mapError .save) >>= fun _ => pure false :
          Act Bool) t := by
  refine (names.run_eq _).trans ?_
  rw [bind_assoc]
  rfl

/-- **A save that ends well** has written the store, and has done nothing else. -/
theorem Names.save_iff {stop : Bool} {u : Scene} (names : Names origin args s t id full kind) :
    EffectKind.saveFile.run origin args s = .ok stop u ↔
      ∃ e files, t.roster.get? id = some e ∧
        SaveDirectory.write t.files full (e.capture kind) = (files, .ok ()) ∧
        stop = false ∧ u = { t with files } := by
  rw [names.save_eq]
  constructor
  · intro ended
    obtain ⟨e, present, rest⟩ := exists_of_entity_bind ended
    refine ⟨e, (SaveDirectory.write t.files full (e.capture kind)).1, present, ?_⟩
    obtain ⟨result, v, first, rest⟩ := exists_of_bind rest
    obtain ⟨_, x, outcome, last⟩ := exists_of_bind rest
    cases first
    cases last
    -- the report of the write is its result
    rw [Prod.fst_swap] at outcome
    cases written : (SaveDirectory.write t.files full (e.capture kind)).2 with
    | error f =>
      rw [written] at outcome
      cases outcome
    | ok _ =>
      rw [written] at outcome
      cases outcome
      exact ⟨Prod.ext rfl written, rfl, rfl⟩
  · rintro ⟨e, files, present, written, rfl, rfl⟩
    rw [bind_of_ok (entity_of_get? present)]
    have wrote :
        Act.onFiles (fun files => (SaveDirectory.write files full (e.capture kind)).swap) t =
          .ok (.ok ()) { t with files } := by
      rw [Act.onFiles, written]
      rfl
    rw [bind_of_ok wrote]
    rfl

/-! ## Loading -/

/-- **What is left to do** once a file is named depends on what is read there. -/
theorem Names.load_eq (names : Names origin args s t id full kind)
    {found : Except SaveFault (Option SaveData)}
    (read : SaveDirectory.read s.files full = found) :
    EffectKind.loadFile.run origin args s = ((match found with
      | .error f => throw (.save f)
      | .ok none => pure ()
      | .ok (some data) =>
        if data.kind = kind then Act.update id fun e => e.restore data
        else throw (.save (.kindMismatch kind data.kind))) >>= fun _ => pure false :
          Act Bool) t := by
  have same : t.files = s.files := by
    obtain ⟨p, asks, -⟩ := names
    exact asks.evaluated.files
  subst read
  rw [← same]
  exact names.run_eq _

/-- A store of the right kind is written to the target. -/
theorem Names.load_of_data (names : Names origin args s t id full kind) {data : SaveData}
    (read : SaveDirectory.read s.files full = .ok (some data)) (right : data.kind = kind)
    (live : t.roster.isLive id) :
    EffectKind.loadFile.run origin args s = .ok false (t.modify id fun e => e.restore data) := by
  obtain ⟨e, present⟩ := Roster.isLive_iff.mp live
  rw [names.load_eq read]
  dsimp only
  rw [if_pos right, bind_of_ok (update_of_get? _ present)]
  rfl

/-- No store is loaded from anything else, and the scene stays as the visit has left it. -/
theorem Names.load_of_missing (names : Names origin args s t id full kind)
    (missing : s.files.read [] full = .error .notFound) :
    EffectKind.loadFile.run origin args s = .ok false t := by
  have read : SaveDirectory.read s.files full = .ok none := by
    rw [SaveDirectory.read, missing]
    rfl
  rw [names.load_eq read]
  rfl

theorem Names.load_of_fault (names : Names origin args s t id full kind) {f : FileFault}
    (fault : s.files.read [] full = .error f) (present : f ≠ .notFound) :
    EffectKind.loadFile.run origin args s = .error (.save (.file f)) t := by
  have read : SaveDirectory.read s.files full = .error (.file f) := by
    rw [SaveDirectory.read, fault]
    cases f <;> first | rfl | exact absurd rfl present
  rw [names.load_eq read]
  rfl

theorem Names.load_of_damaged (names : Names origin args s t id full kind) {b : Bytes}
    (content : s.files.read [] full = .ok b) (damaged : SaveData.Damaged kind b) :
    ∃ f, EffectKind.loadFile.run origin args s = .error (.save f) t := by
  have read : SaveDirectory.read s.files full = some <$> SaveData.ofBytes b := by
    rw [SaveDirectory.read, content]
    rfl
  -- damage shows while the content is read, or when the kinds are compared
  cases decoded : SaveData.ofBytes b with
  | error f =>
    rw [decoded] at read
    rw [names.load_eq read]
    exact ⟨f, rfl⟩
  | ok data =>
    have wrong := damaged.kind_ne decoded
    rw [decoded] at read
    rw [names.load_eq read]
    refine ⟨.kindMismatch kind data.kind, ?_⟩
    show ((if data.kind = kind then _ else throw _) >>= _ : Act Bool) t = _
    rw [if_neg wrong]
    rfl

/-- Records may name no file and no kind of store. -/
theorem Asks.load_of_unnamed (asks : Asks origin args s t id p)
    (unnamed : SaveDirectory.stays p.path = false ∨ SaveKind.ofCode? p.kind = none) :
    EffectKind.loadFile.run origin args s = .ok false t := by
  have unresolved : p.resolve? s.machine.saveDir = none := by
    unfold SavePlan.resolve? SaveDirectory.resolve
    rcases unnamed with leaves | unknown
    · rw [leaves]
      cases SaveKind.ofCode? p.kind <;> rfl
    · rw [unknown]
  have run : loadFile origin args s = .ok () t := by
    refine (asks.run_eq _).trans ?_
    rw [unresolved]
    rfl
  exact bind_of_ok run

/-! ## From one entity to another -/

/-- **What was saved is loaded, and a load that fails changes nothing.**

    A save that ends well leaves a file.  As long as its content is the same, whatever else has
    happened, loading replaces the store of the target, bit for bit, and leaves everything else as
    the visit of the records has left it.

    A load with a bad path, of no file or of a damaged one leaves everything so, too. -/
theorem saved_store_is_loaded (asks : Asks origin args s t id p) :
    (∃ codes, codes.Sublist ((ArgBlock.read args).records.flatMap ArgRecord.expressions) ∧
      Evaluations origin codes s t) ∧
    (∀ full kind stop s₁, p.resolve? s.machine.saveDir = some (full, kind) →
      EffectKind.saveFile.run origin args s = .ok stop s₁ →
      stop = false ∧ s₁ = { t with files := s₁.files } ∧ ∃ e, t.roster.get? id = some e ∧
        ((kind = .names → SaveData.Fits (.names e.names)) →
          ∀ origin' args' s₂ t₂ id', Names origin' args' s₂ t₂ id' full kind →
            s₂.files.read [] full = s₁.files.read [] full → t₂.roster.isLive id' →
            EffectKind.loadFile.run origin' args' s₂ =
              .ok false (t₂.modify id' fun e' => e'.withStore kind e))) ∧
    (SaveDirectory.stays p.path = false ∨ SaveKind.ofCode? p.kind = none →
      EffectKind.loadFile.run origin args s = .ok false t) ∧
    ∀ full kind, p.resolve? s.machine.saveDir = some (full, kind) →
      (s.files.read [] full = .error .notFound →
        EffectKind.loadFile.run origin args s = .ok false t) ∧
      (∀ f, s.files.read [] full = .error f → f ≠ .notFound →
        EffectKind.loadFile.run origin args s = .error (.save (.file f)) t) ∧
      ∀ b, s.files.read [] full = .ok b → SaveData.Damaged kind b →
        ∃ f, EffectKind.loadFile.run origin args s = .error (.save f) t := by
  refine ⟨asks.evaluations, ?_, asks.load_of_unnamed, ?_⟩
  · intro full kind stop s₁ resolved ended
    have names : Names origin args s t id full kind := ⟨p, asks, resolved⟩
    obtain ⟨e, files, present, written, rfl, rfl⟩ := names.save_iff.mp ended
    refine ⟨rfl, rfl, e, present, ?_⟩
    intro short origin' args' s₂ t₂ id' names' same live
    -- whatever has become of the roster since, the file holds what was captured
    have read := SaveDirectory.read_of_write (Entity.fits_capture short) written same
    rw [names'.load_of_data read (e.kind_capture kind) live]
    simp only [Entity.restore_capture]
  · intro full kind resolved
    have names : Names origin args s t id full kind := ⟨p, asks, resolved⟩
    refine ⟨names.load_of_missing, ?_, ?_⟩
    · intro f fault present
      exact names.load_of_fault fault present
    · intro b content damaged
      exact names.load_of_damaged content damaged

/-! ## A small file -/

/-- Records that name the file `a` and the integers. -/
def integersInA : List ArgRecord := [⟨SaveTag.path, [[0x61]]⟩, ⟨SaveTag.kind, [Expression.int 1]⟩]

/-- The records of a lone player, whatever its files. -/
theorem asks_integersInA (files : FileTree) :
    ∃ t : Scene, Asks 0 (ArgBlock.ofRecords integersInA) { Scene.lone with files } t 0 ⟨"a", 1⟩ ∧
      t.roster = Scene.lone.roster ∧ t.files = files := by
  have encodable : ∀ r ∈ integersInA, r.Encodable := by decide
  obtain ⟨w, t, passes, target, plan, rest⟩ : ∃ w, ∃ t : Scene,
      (loadFileVisitor 0).Passes { Scene.lone with files } integersInA w t ∧
        w.target.id = 0 ∧ w.plan = ⟨"a", 1⟩ ∧ t.roster = Scene.lone.roster ∧ t.files = files :=
    ⟨_, _, rfl, rfl, rfl, rfl, rfl⟩
  exact ⟨t, ⟨w, passes.finishes encodable, target, plan⟩, rest⟩

theorem saves_integersInA {t : Scene}
    (asks : Asks 0 (ArgBlock.ofRecords integersInA) Scene.lone t 0 ⟨"a", 1⟩)
    (roster : t.roster = Scene.lone.roster) (files : t.files = .empty) :
    ∃ s₁, EffectKind.saveFile.run 0 (ArgBlock.ofRecords integersInA) Scene.lone = .ok false s₁ := by
  obtain ⟨e, made, present, written⟩ : ∃ e made, Scene.lone.roster.get? 0 = some e ∧
      SaveDirectory.write .empty "a" (e.capture .ints) = (made, .ok ()) := ⟨_, _, rfl, rfl⟩
  have names : Names 0 (ArgBlock.ofRecords integersInA) Scene.lone t 0 "a" .ints := ⟨_, asks, rfl⟩
  refine ⟨{ t with files := made }, names.save_iff.mpr ⟨e, made, ?_, ?_, rfl, rfl⟩⟩
  · rw [roster, present]
  · rw [files, written]

/-- A player saves its integers and loads them.  It loads nothing from a file that is not there, and
    an empty file is a fault. -/
theorem saved_store_is_loaded_lone :
    let args := ArgBlock.ofRecords integersInA
    let broken := { Scene.lone with files := FileTree.empty.put ["a"] (.file []) }
    (∃ t s₁ e, ∃ t₂ : Scene, Asks 0 args Scene.lone t 0 ⟨"a", 1⟩ ∧
      EffectKind.saveFile.run 0 args Scene.lone = .ok false s₁ ∧
      EffectKind.loadFile.run 0 args { Scene.lone with files := s₁.files } =
        .ok false (t₂.modify 0 fun e' => e'.withStore .ints e) ∧
      EffectKind.loadFile.run 0 args Scene.lone = .ok false t) ∧
    ∃ t f, EffectKind.loadFile.run 0 args broken = .error (.save f) t := by
  intro args broken
  obtain ⟨t, asks, roster, files⟩ := asks_integersInA .empty
  obtain ⟨s₁, ended⟩ := saves_integersInA asks roster files
  obtain ⟨t₂, asks₂, roster₂, -⟩ := asks_integersInA s₁.files
  obtain ⟨t₃, asks₃, -⟩ := asks_integersInA broken.files
  obtain ⟨-, saved, -, missing⟩ := saved_store_is_loaded asks
  obtain ⟨-, -, -, damaged⟩ := saved_store_is_loaded asks₃
  obtain ⟨-, -, e, present, loads⟩ := saved "a" .ints false s₁ rfl ended
  have live : t₂.roster.isLive 0 := by
    rw [roster₂]
    rfl
  have again :=
    loads nofun 0 args { Scene.lone with files := s₁.files } t₂ 0 ⟨_, asks₂, rfl⟩ rfl live
  have empty : broken.files.read [] "a" = .ok [] := rfl
  obtain ⟨f, fault⟩ := (damaged "a" .ints rfl).2.2 [] empty (.magic (by decide))
  exact ⟨⟨t, s₁, e, t₂, asks, ended, again, (missing "a" .ints rfl).1 rfl⟩, t₃, f, fault⟩

end Effect
end TickScript
