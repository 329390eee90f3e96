import TickScript.Proofs.NameTable
import TickScript.Proofs.Scene
import TickScript.Proofs.Eval.Footprint

/-! # Expressions write to stores only

    However an expression ends, with a value or with a fault, it leaves a roster of the same
    entities, each with all of its fields but its stores: the variables, whose arrays have their
    sizes in their types, and the named numbers, of which names may be added and none is lost.
    Clock, round and the counters of handles and script ids stay, and so does the machine, up to
    the operand stack and the profile.  Random numbers may have been drawn.

    The argument is one footprint: what an expression may do to a roster are draws and updates of
    stores, and both stay within it.
-/

namespace TickScript

/-! ## Entities -/

/-- The entity with its stores emptied; two entities agree here if all other fields do. -/
def Entity.withoutStores (e : Entity) : Entity := { e with vars := .zero, names := .empty }

/-- **Only the stores differ**, and no name is lost. -/
structure Entity.StoresChanged (e e' : Entity) : Prop where
  others : e'.withoutStores = e.withoutStores
  names : ∀ name, (e.names.get? name).isSome → (e'.names.get? name).isSome

namespace Entity.StoresChanged

variable {e e' e'' : Entity}

theorem refl (e : Entity) : e.StoresChanged e := ⟨rfl, fun _ known => known⟩

theorem trans (h : e.StoresChanged e') (h' : e'.StoresChanged e'') : e.StoresChanged e'' :=
  ⟨h'.others.trans h.others, fun name known => h'.names name (h.names name known)⟩

theorem updateVariable (e : Entity) (mode : UpdateMode) (bank : VariableBank) (index : Int32)
    (v : Value) : e.StoresChanged (e.updateVariable mode bank index v).1 :=
  ⟨rfl, fun _ known => known⟩

theorem updateNamed (e : Entity) (mode : UpdateMode) (name : String) (x : Single) :
    e.StoresChanged (e.updateNamed mode name x).1 :=
  ⟨rfl, fun _ known => NameTable.isSome_get?_insert known⟩

end Entity.StoresChanged

/-! ## Rosters -/

/-- **The same entities are live, and only their stores differ.** -/
structure Roster.StoresChanged (r r' : Roster) : Prop where
  live : r'.runOrder = r.runOrder
  nextHandle : r'.nextHandle = r.nextHandle
  nextScriptId : r'.nextScriptId = r.nextScriptId
  gameTime : r'.gameTime = r.gameTime
  roundState : r'.roundState = r.roundState
  entities : ∀ id e, r.get? id = some e → ∃ e', r'.get? id = some e' ∧ e.StoresChanged e'

namespace Roster.StoresChanged

variable {r r' r'' : Roster}

/-- Rosters with the same entities. -/
theorem of_entries (entries : r'.entries = r.entries) (nextHandle : r'.nextHandle = r.nextHandle)
    (nextScriptId : r'.nextScriptId = r.nextScriptId) (gameTime : r'.gameTime = r.gameTime)
    (roundState : r'.roundState = r.roundState) : r.StoresChanged r' where
  live := congrArg handles entries
  nextHandle := nextHandle
  nextScriptId := nextScriptId
  gameTime := gameTime
  roundState := roundState
  entities := by
    intro id e present
    have same : r'.get? id = r.get? id := by
      unfold Roster.get?
      rw [entries]
    exact ⟨e, same.trans present, .refl e⟩

theorem refl (r : Roster) : r.StoresChanged r := of_entries rfl rfl rfl rfl rfl

theorem trans (h : r.StoresChanged r') (h' : r'.StoresChanged r'') : r.StoresChanged r'' where
  live := h'.live.trans h.live
  nextHandle := h'.nextHandle.trans h.nextHandle
  nextScriptId := h'.nextScriptId.trans h.nextScriptId
  gameTime := h'.gameTime.trans h.gameTime
  roundState := h'.roundState.trans h.roundState
  entities := by
    intro id e present
    obtain ⟨e', present', first⟩ := h.entities id e present
    obtain ⟨e'', present'', second⟩ := h'.entities id e' present'
    exact ⟨e'', present'', first.trans second⟩

theorem random (r : Roster) (low high : Int32) : r.StoresChanged (r.random low high).2 :=
  of_entries rfl rfl rfl rfl rfl

/-- A write to the stores of one entity. -/
theorem modify {id : EntityId} {e e' : Entity} (present : r.get? id = some e)
    (changed : e.StoresChanged e') : r.StoresChanged (r.modify id fun _ => e') where
  live := runOrder_modify _
  nextHandle := rfl
  nextScriptId := rfl
  gameTime := rfl
  roundState := rfl
  entities := by
    intro other x present'
    rw [get?_modify, present']
    by_cases here : other = id
    · rw [if_pos here]
      rw [here, present] at present'
      obtain rfl : e = x := Option.some.inj present'
      exact ⟨e', rfl, changed⟩
    · rw [if_neg here]
      exact ⟨x, rfl, .refl x⟩

/-- What does not depend on stores is seen of everybody as before. -/
theorem map_get? {γ : Type} {view : Entity → γ}
    (unseen : ∀ e : Entity, view e.withoutStores = view e) (h : r.StoresChanged r')
    (id : EntityId) : (r'.get? id).map view = (r.get? id).map view := by
  cases present : r.get? id with
  | some e =>
    obtain ⟨e', present', changed⟩ := h.entities id e present
    have same : view e' = view e := by
      rw [← unseen e', changed.others, unseen e]
    rw [present', Option.map_some, Option.map_some, same]
  | none =>
    -- nobody new is live
    have absent : ¬ r'.isLive id := by
      rw [isLive_iff_mem_runOrder, h.live, ← isLive_iff_mem_runOrder, isLive, present]
      exact Bool.false_ne_true
    rw [isLive, Bool.not_eq_true, Option.isSome_eq_false_iff, Option.isNone_iff_eq_none] at absent
    rw [absent, Option.map_none]

end Roster.StoresChanged

/-! ## Expressions -/

namespace Footprint

/-- **Changes of stores**, and draws. -/
def stores : Footprint Bench where
  allows b b' := b.roster.StoresChanged b'.roster
  refl b := .refl b.roster
  trans h h' := h.trans h'

theorem allowsExpressions_stores : stores.AllowsExpressions True where
  operands b _ := .refl b.roster
  profile _ b _ := .refl b.roster
  random b low high := .random b.roster low high
  updateVariable _ _ _ mode bank index v present :=
    .modify present (.updateVariable _ mode bank index v)
  updateNamed _ _ _ mode name x present := .modify present (.updateNamed _ mode name x)

end Footprint

/-- **What the evaluation of an expression leaves as it is**, and what becomes of the roster. -/
structure Scene.Evaluated (s t : Scene) : Prop where
  windows : t.machine.windows = s.machine.windows
  signal : t.machine.signal = s.machine.signal
  strings : t.machine.strings = s.machine.strings
  powOrder : t.machine.powOrder = s.machine.powOrder
  loopLimit : t.machine.loopLimit = s.machine.loopLimit
  saveDir : t.machine.saveDir = s.machine.saveDir
  budget : t.machine.budget = s.machine.budget
  files : t.files = s.files
  console : t.console = s.console
  memory : t.memory = s.memory
  roster : s.roster.StoresChanged t.roster

theorem Scene.evaluated_withBench {s : Scene} {b : Bench} (h : s.roster.StoresChanged b.roster) :
    s.Evaluated (s.withBench b) :=
  ⟨rfl, rfl, rfl, rfl, rfl, rfl, rfl, rfl, rfl, rfl, h⟩

namespace Scene.Evaluated

variable {s t u : Scene}

theorem refl (s : Scene) : s.Evaluated s :=
  ⟨rfl, rfl, rfl, rfl, rfl, rfl, rfl, rfl, rfl, rfl, .refl s.roster⟩

theorem trans (h : s.Evaluated t) (h' : t.Evaluated u) : s.Evaluated u where
  windows := h'.windows.trans h.windows
  signal := h'.signal.trans h.signal
  strings := h'.strings.trans h.strings
  powOrder := h'.powOrder.trans h.powOrder
  loopLimit := h'.loopLimit.trans h.loopLimit
  saveDir := h'.saveDir.trans h.saveDir
  budget := h'.budget.trans h.budget
  files := h'.files.trans h.files
  console := h'.console.trans h.console
  memory := h'.memory.trans h.memory
  roster := h.roster.trans h'.roster

end Scene.Evaluated

/-- What evaluations change of a scene. -/
def Footprint.evaluations : Footprint Scene where
  allows := Scene.Evaluated
  refl := .refl
  trans h h' := h.trans h'

theorem Footprint.keeps_evaluations (code : Expression) (id : EntityId) :
    evaluations.Keeps (Act.evaluate code id) := by
  intro s
  have kept := allowsExpressions_stores.eval (Act.context s.machine) s.machine.budget code id
    s.bench
  exact ends_evaluate (kept.mono (fun _ _ changed => Scene.evaluated_withBench changed)
    fun _ _ changed => Scene.evaluated_withBench changed)

/-- **An expression changes nothing but stores**, whatever its bytes, for whomever it is
    evaluated, and however it ends. -/
theorem Act.evaluate_changes_stores_only (code : Expression) (id : EntityId) (s : Scene) :
    Ends (Act.evaluate code id) s (fun _ t => s.Evaluated t) fun _ t => s.Evaluated t := by
  have kept := Footprint.allowsExpressions_stores.eval (Act.context s.machine) s.machine.budget
    code id s.bench
  refine ends_evaluate (kept.mono ?_ ?_)
  · intro v b changed
    exact Scene.evaluated_withBench changed
  · intro f b changed
    exact Scene.evaluated_withBench changed

end TickScript
