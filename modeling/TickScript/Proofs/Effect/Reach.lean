import TickScript.Proofs.Effect.Saving
import TickScript.Proofs.Effect.Within
import TickScript.Proofs.Entity.Reach

/-! # Which named numbers scripts can reach

    Scripts store named numbers by expressions and by an effect, which write names in lower case;
    and they load whole tables from files, which keep the names of the file.  So the entries of an
    entity that cannot be reached are the strays of the last table that was loaded into it, whatever
    has been stored since (`NameHistory.reaches_iff_lowercase`).
-/

namespace TickScript

open Effect (Asks Names)

variable {id origin : EntityId} {args : ArgBlock} {s t : Scene}

/-! ## Ends of actions -/

/-- **The scene that an action leaves**, however it ends. -/
def Act.left {α : Type} (x : Act α) (s : Scene) : Scene :=
  match x s with
  | .ok _ t | .error _ t => t

theorem Ends.left {α : Type} {x : Act α} {P : Scene → Prop}
    (h : Ends x s (fun _ t => P t) fun _ t => P t) : P (x.left s) := by
  unfold Ends at h
  unfold Act.left
  split at h
  case h_1 run => rwa [run]
  case h_2 run => rwa [run]

/-! ## Stores -/

/-- The stray entries of an entity, if it is live. -/
def Roster.strays (r : Roster) (id : EntityId) : Option (String → Option Single) :=
  (r.get? id).map fun e => e.names.strays

theorem Roster.strays_modify {r : Roster} {other : EntityId} {f : Entity → Entity}
    (same : ∀ e, r.get? other = some e → (f e).names.strays = e.names.strays) :
    (r.modify other f).strays id = r.strays id :=
  map_get?_modify _ same

namespace Footprint

/-- **The stray entries of an entity stay as they are.** -/
def strays (id : EntityId) : Footprint Scene := fixing fun s => s.roster.strays id

theorem allowsExpressions_strays (id : EntityId) :
    (fixing fun b : Bench => b.roster.strays id).AllowsExpressions True where
  operands _ _ := rfl
  profile _ _ _ := rfl
  random _ _ _ := rfl
  updateVariable _ _ e _ _ _ _ present := Roster.strays_modify fun _ present' => by
    cases present.symm.trans present'
    rfl
  updateNamed _ _ e mode name x present := Roster.strays_modify fun _ present' => by
    cases present.symm.trans present'
    exact e.strays_updateNamed mode name x

/-- **Expressions leave strays alone**, whatever they store and for whom. -/
theorem keeps_evaluate_strays (code : Expression) (origin : EntityId) :
    (strays id).Keeps (Act.evaluate code origin) := by
  intro s
  have kept := (allowsExpressions_strays id).eval (Act.context s.machine) s.machine.budget code
    origin s.bench
  exact ends_evaluate (kept.mono (fun _ _ same => same) fun _ _ same => same)

/-- **The effect that stores a named number leaves strays alone.** -/
theorem keeps_mapSet_strays (origin : EntityId) (args : ArgBlock) :
    (strays id).Keeps (EffectKind.mapSet.run origin args) := by
  refine (keeps_afterVisit keeps_evaluate_strays (fun r => ?_) fun t p => ?_).bind fun _ => .pure _
  · split
    · exact (Visiting.Within.text r).bind fun _ => .revise _
    · exact (Visiting.Within.single keeps_evaluate_strays r).bind fun _ => .revise _
    · exact (Visiting.Within.int keeps_evaluate_strays r).bind fun _ => .revise _
    · exact .pure _
  · refine .ite (.pure _) (keeps_update fun s => Roster.strays_modify fun e _ => ?_)
    exact e.strays_updateNamed p.mode p.name p.value

end Footprint

/-! ## Loading -/

/-- Arrays that are written back leave the named numbers alone. -/
theorem Entity.names_restore {data : SaveData} (e : Entity) (h : ∀ table, data ≠ .names table) :
    (e.restore data).names = e.names := by
  cases data with
  | names table => exact absurd rfl (h table)
  | ints _ => rw [restore]
  | floats _ => rw [restore]

/-- Only a table that is written back to the entity itself changes its strays. -/
theorem Roster.strays_restore {r : Roster} {other : EntityId} {data : SaveData}
    (apart : id = other → ∀ table, data ≠ .names table) :
    (r.modify other fun e => e.restore data).strays id = r.strays id := by
  by_cases here : id = other
  · refine strays_modify fun e _ => ?_
    rw [e.names_restore (apart here)]
  · rw [strays, get?_modify, if_neg here, strays]

/-- **A load of a table into an entity**: the records name the entity and a file with that table. -/
def Loads (origin : EntityId) (args : ArgBlock) (s : Scene) (id : EntityId) (table : NameTable) :
    Prop :=
  ∃ t full, Names origin args s t id full .names ∧
    SaveDirectory.read s.files full = .ok (some (.names table))

theorem within_saveRecord (r : ArgRecord) :
    Visiting.Within (Footprint.strays id) (Effect.saveRecord r) := by
  unfold Effect.saveRecord
  split
  · exact (Visiting.Within.text r).bind fun _ => .revise _
  · exact (Visiting.Within.int Footprint.keeps_evaluate_strays r).bind fun _ => .revise _
  · exact .pure _

/-- Records leave strays alone. -/
theorem Effect.Asks.strays {other : EntityId} {p : Effect.SavePlan}
    (asks : Asks origin args s t other p) (id : EntityId) :
    t.roster.strays id = s.roster.strays id := by
  obtain ⟨w, visited, -, -⟩ := asks
  have kept : (Footprint.strays id).Keeps (visitBlock origin args (⟨"", 0⟩ : Effect.SavePlan)
      Visiting.redirect fun r => do Effect.saveRecord r; return true) :=
    Footprint.keeps_visitBlock (.redirect Footprint.keeps_evaluate_strays)
      fun r => (within_saveRecord r).bind fun _ => .pure _
  exact kept.ok visited

theorem Effect.Names.strays {other : EntityId} {full : String} {kind : SaveKind}
    (names : Names origin args s t other full kind) (id : EntityId) :
    t.roster.strays id = s.roster.strays id := by
  obtain ⟨p, asks, -⟩ := names
  exact asks.strays id

/-- **A table that is loaded replaces the named numbers of the entity**, if it is live. -/
theorem Loads.exists_left {table : NameTable} (loads : Loads origin args s id table) :
    ∃ t : Scene, t.roster.strays id = s.roster.strays id ∧
      ((EffectKind.loadFile.run origin args).left s).roster.get? id =
        (t.roster.get? id).map fun e => { e with names := table } := by
  obtain ⟨t, full, names, read⟩ := loads
  refine ⟨t, names.strays id, ?_⟩
  cases present : t.roster.get? id with
  | some e =>
    have live : t.roster.isLive id := Roster.isLive_iff.mpr ⟨e, present⟩
    rw [Act.left, names.load_of_data read rfl live]
    exact get?_modify_of_get? _ present
  | none =>
    have missing : EffectKind.loadFile.run origin args s = .error (.missingEntity id) t := by
      rw [names.load_eq read]
      exact bind_of_error (bind_of_error (entity_of_none present))
    rw [Act.left, missing]
    exact present

/-- It brings its own strays, and no others remain. -/
theorem Loads.strays {table : NameTable} (loads : Loads origin args s id table) :
    ((EffectKind.loadFile.run origin args).left s).roster.strays id =
      (s.roster.strays id).map fun _ => table.strays := by
  obtain ⟨t, same, left⟩ := loads.exists_left
  rw [← same, Roster.strays, left, Roster.strays, Option.map_map, Option.map_map]
  rfl

/-- Data that are no table for the entity leave its strays alone. -/
theorem Effect.Names.strays_restore {other : EntityId} {full : String} {kind : SaveKind}
    {data : SaveData} (names : Names origin args s t other full kind)
    (read : SaveDirectory.read s.files full = .ok (some data)) (right : data.kind = kind)
    (nothing : ∀ table, ¬ Loads origin args s id table) :
    (t.roster.modify other fun e => e.restore data).strays id = t.roster.strays id := by
  refine Roster.strays_restore fun here table isTable => ?_
  subst here isTable right
  exact nothing table ⟨t, full, names, read⟩

/-- **Strays stay if no table is loaded into the entity**, whatever else is. -/
theorem strays_of_not_loads (nothing : ∀ table, ¬ Loads origin args s id table) :
    ((EffectKind.loadFile.run origin args).left s).roster.strays id = s.roster.strays id := by
  have ends : Ends (Effect.loadFile origin args) s
      (fun _ t => (Footprint.strays id).allows s t) fun _ t => (Footprint.strays id).allows s t := by
    unfold Effect.loadFile Effect.withSaveFile
    refine Footprint.ends_afterVisit Footprint.keeps_evaluate_strays within_saveRecord
      (fun _ kept => kept) (fun _ _ kept => kept) ?_
    intro w t kept visited
    have asks : Asks origin args s t w.target.id w.plan := ⟨w, visited, rfl, rfl⟩
    refine Ends.step (a := t.machine) (t := t) rfl ?_
    rw [asks.evaluated.saveDir]
    cases resolved : w.plan.resolve? s.machine.saveDir with
    | none => exact kept
    | some found =>
      refine Ends.step (a := t) (t := t) rfl ?_
      rw [asks.evaluated.files]
      cases read : SaveDirectory.read s.files found.1 with
      | error f => exact kept
      | ok content =>
        cases content with
        | none => exact kept
        | some data =>
          show Ends (if data.kind = found.2 then _ else _) t _ _
          split
          case isFalse => exact kept
          case isTrue right =>
            have names : Names origin args s t w.target.id found.1 found.2 := ⟨_, asks, resolved⟩
            exact ends_update (fun _ _ => (names.strays_restore read right nothing).trans kept) kept
  have run : Ends (EffectKind.loadFile.run origin args) s
      (fun _ t => (Footprint.strays id).allows s t) fun _ t => (Footprint.strays id).allows s t :=
    Ends.bind ends
  exact run.left

/-! ## Histories -/

/-- **One step of a history**, with the table that it loads into the entity, if it does.  Expressions
    and effects are those of anybody, and they may fail. -/
inductive NameStep (id : EntityId) (s : Scene) : Option NameTable → Scene → Prop where
  | evaluate (code : Expression) (origin : EntityId) :
      NameStep id s none ((Act.evaluate code origin).left s)
  | mapSet (origin : EntityId) (args : ArgBlock) :
      NameStep id s none ((EffectKind.mapSet.run origin args).left s)
  /-- Files change in any way. -/
  | files (files : FileTree) : NameStep id s none { s with files }
  | load {table : NameTable} (origin : EntityId) (args : ArgBlock)
      (loads : Loads origin args s id table) :
      NameStep id s (some table) ((EffectKind.loadFile.run origin args).left s)
  /-- A load brings nothing, or no table, or nothing for this entity. -/
  | pass (origin : EntityId) (args : ArgBlock) (nothing : ∀ table, ¬ Loads origin args s id table) :
      NameStep id s none ((EffectKind.loadFile.run origin args).left s)

/-- Every load is a step. -/
theorem NameStep.exists_loaded (id origin : EntityId) (args : ArgBlock) (s : Scene) :
    ∃ loaded, NameStep id s loaded ((EffectKind.loadFile.run origin args).left s) := by
  by_cases loads : ∃ table, Loads origin args s id table
  · obtain ⟨table, loads⟩ := loads
    exact ⟨_, .load origin args loads⟩
  · exact ⟨_, .pass origin args fun table loaded => loads ⟨table, loaded⟩⟩

/-- **Steps one after the other**, with the last table that was loaded into the entity. -/
inductive NameHistory (id : EntityId) (s : Scene) : Option NameTable → Scene → Prop where
  | start : NameHistory id s none s
  | step {last loaded : Option NameTable} {t u : Scene} (before : NameHistory id s last t)
      (next : NameStep id t loaded u) : NameHistory id s (loaded.or last) u

variable {last loaded : Option NameTable}

/-- **Only loads change strays.** -/
theorem NameStep.strays (step : NameStep id s loaded t) :
    t.roster.strays id = (s.roster.strays id).map fun old => loaded.elim old NameTable.strays := by
  have unchanged (same : t.roster.strays id = s.roster.strays id) :
      t.roster.strays id = (s.roster.strays id).map fun old => old := by
    rw [same, Option.map_id']
  cases step with
  | evaluate code origin => exact unchanged (Footprint.keeps_evaluate_strays code origin s).left
  | mapSet origin args => exact unchanged (Footprint.keeps_mapSet_strays origin args s).left
  | files => exact unchanged rfl
  | load origin args loads => exact loads.strays
  | pass origin args nothing => exact unchanged (strays_of_not_loads nothing)

theorem NameHistory.strays (history : NameHistory id s last t) :
    t.roster.strays id = (s.roster.strays id).map fun old => last.elim old NameTable.strays := by
  -- on the steps: a table that is loaded hides what was loaded before
  induction history with
  | start => exact Option.map_id'.symm
  | @step last loaded t u before next ih =>
    rw [next.strays, ih, Option.map_map]
    cases loaded <;> rfl

/-- **An entry is reached exactly if its name is in lower case**, and the entries that are not are
    those of the last table that was loaded.

    A new entity has no named numbers.  Whatever expressions and effects then store, and whatever
    tables are loaded from whatever files, what is stored under a name in lower case is read and
    updated by that name.  The other entries are the strays of the last table that was loaded into
    the entity.  So everything is reached if and only if that table, if there is one, has names in
    lower case only. -/
theorem NameHistory.reaches_iff_lowercase {e₀ : Entity} (history : NameHistory id s last t)
    (present : s.roster.get? id = some e₀) (new : e₀.names = .empty) :
    ∃ e, t.roster.get? id = some e ∧
      (∀ name x, e.names.get? name = some x → (e.Reaches name x ↔ Text.lower name = name)) ∧
      (∀ name, Text.lower name ≠ name → e.names.get? name = last.bind (·.get? name)) ∧
      ((∀ name x, e.names.get? name = some x → e.Reaches name x) ↔
        ∀ table ∈ last, table.Lowercase) := by
  have strays := history.strays
  rw [Roster.strays, Roster.strays, present, Option.map_some, Option.map_some, new] at strays
  obtain ⟨e, live, same⟩ := Option.map_eq_some_iff.mp strays
  have reached (name : String) (x : Single) (stored : e.names.get? name = some x) :=
    Entity.reaches_iff stored
  refine ⟨e, live, reached, ?_, ?_⟩
  -- before the first load there are no strays, and none in an empty table
  · intro name high
    have stray := congrFun same name
    rw [NameTable.strays_of_ne _ high] at stray
    rw [stray]
    cases last with
    | none => exact NameTable.strays_of_ne _ high
    | some table => exact table.strays_of_ne high
  · have lowercase : (∀ name x, e.names.get? name = some x → e.Reaches name x) ↔
        e.names.Lowercase :=
      forall_congr' fun name => forall_congr' fun x => forall_congr' fun stored =>
        reached name x stored
    rw [lowercase, NameTable.lowercase_iff, same]
    cases last with
    | none =>
      refine iff_of_true (NameTable.lowercase_iff.mp nofun) nofun
    | some table =>
      simp only [Option.elim_some, Option.mem_some_iff, forall_eq', NameTable.lowercase_iff]

/-! ## A small file -/

/-- A table of one number. -/
def oneNamed (name : String) : NameTable := NameTable.empty.insert name .one

theorem fits_oneNamed (name : String) (short : (Utf8.encode name).length < Nat.pow 256 4) :
    SaveData.Fits (.names (oneNamed name)) where
  size := Nat.one_lt_two_pow (n := 32) (by decide)
  names := by
    rintro _ ⟨⟩ e h
    obtain rfl := List.mem_singleton.mp h
    exact short

/-- Records that name the file `m` and the named numbers. -/
def namesInM : List ArgRecord :=
  [⟨Effect.SaveTag.path, [[0x6d]]⟩, ⟨Effect.SaveTag.kind, [Expression.int 0]⟩]

/-- A lone player with a table in that file. -/
def Scene.withTable (table : NameTable) : Scene :=
  { Scene.lone with files := FileTree.empty.put ["m"] (.file (SaveData.names table).toBytes) }

theorem loads_namesInM {table : NameTable} (fits : SaveData.Fits (.names table)) :
    Loads 0 (ArgBlock.ofRecords namesInM) (Scene.withTable table) 0 table := by
  have encodable : ∀ r ∈ namesInM, r.Encodable := by decide
  obtain ⟨w, t, passes, target, plan⟩ : ∃ w, ∃ t : Scene,
      (Effect.loadFileVisitor 0).Passes (Scene.withTable table) namesInM w t ∧
        w.target.id = 0 ∧ w.plan = ⟨"m", 0⟩ := ⟨_, _, rfl, rfl, rfl⟩
  have content : (Scene.withTable table).files.read [] "m" =
      .ok (SaveData.names table).toBytes := rfl
  have spelt : SaveData.ofBytes (SaveData.names table).toBytes = .ok (.names table) :=
    SaveData.ofBytes_eq_ok_iff.mpr ⟨_, [], SaveData.spells_toBytes fits, (List.append_nil _).symm⟩
  refine ⟨t, "m", ⟨_, ⟨w, passes.finishes encodable, target, plan⟩, rfl⟩, ?_⟩
  rw [SaveDirectory.read, content, SaveDirectory.decode, spelt]
  rfl

/-- The player loads the table. -/
theorem history_of_table {table : NameTable} (fits : SaveData.Fits (.names table)) :
    ∃ t e, NameHistory 0 Scene.lone (some table) t ∧ t.roster.get? 0 = some e ∧
      e.names = table := by
  have loads := loads_namesInM fits
  obtain ⟨t, same, left⟩ := loads.exists_left
  have live : t.roster.strays 0 = some NameTable.empty.strays := same.trans rfl
  obtain ⟨e, present, -⟩ := Option.map_eq_some_iff.mp live
  rw [present] at left
  exact ⟨_, _, .step (.step .start (.files _)) (.load 0 _ loads), left, rfl⟩

/-- A table with a name in lower case is loaded, and the effect stores another number. -/
theorem NameHistory.reaches_iff_lowercase_loaded :
    ∃ last t e₀, NameHistory 0 Scene.lone last t ∧ Scene.lone.roster.get? 0 = some e₀ ∧
      e₀.names = .empty ∧ ∃ e, t.roster.get? 0 = some e ∧
        ∀ name x, e.names.get? name = some x → e.Reaches name x := by
  obtain ⟨t, -, loaded, -⟩ := history_of_table (fits_oneNamed "foo" (by decide))
  have history := loaded.step (.mapSet 0 (ArgBlock.ofRecords [⟨Effect.NameTag.name, [[0x46]]⟩]))
  have lowercase : ∀ table ∈ some (oneNamed "foo"), table.Lowercase := by
    rintro _ ⟨⟩ name x stored
    rw [oneNamed, NameTable.get?_insert] at stored
    split at stored
    case isTrue same =>
      subst same
      decide +kernel
    case isFalse => cases stored
  obtain ⟨e, present, -, -, reached⟩ := reaches_iff_lowercase history rfl rfl
  exact ⟨_, _, _, history, rfl, rfl, e, present, reached.mpr lowercase⟩

/-- **A capital letter in a file puts a number out of reach**: it reads as zero, and an update makes
    another entry. -/
theorem loaded_name_out_of_reach :
    ∃ t e₀ e, NameHistory 0 Scene.lone (some (oneNamed "Foo")) t ∧
      Scene.lone.roster.get? 0 = some e₀ ∧ e₀.names = .empty ∧ t.roster.get? 0 = some e ∧
      e.names.get? "Foo" = some .one ∧ e.named "Foo" = .zero ∧
      (e.updateNamed .set "Foo" .one).1.names.entries = [("Foo", .one), ("foo", .one)] := by
  obtain ⟨t, e, history, present, names⟩ := history_of_table (fits_oneNamed "Foo" (by decide))
  have stored : (e.updateNamed .set "Foo" .one).1.names =
      e.names.insert (Text.lower "Foo") .one := rfl
  refine ⟨t, _, e, history, rfl, rfl, present, ?_, ?_, ?_⟩
  · rw [names]
    rfl
  · rw [Entity.named, names]
    decide +kernel
  · rw [stored, names]
    decide +kernel

end TickScript
