import Mathlib.Tactic.Choose
import TickScript.Settings.Loader

/-! # Layers of settings

    Settings stand in sections, and a section may be absent, empty or filled in part.  `Choices`
    are the seven settings without their sections.  Seen as choices, all layers are alike: a later
    one overrides an earlier one setting by setting.

        settings merged into others      choices_merge
        variables of the environment     choices_apply

    Whether settings are valid is decided by their choices, one by one, and so a layer of valid
    choices over another one is valid.  Loading checks the topmost layer, whatever surrounds the
    program answers (`returns_ofFile`, `returns_ofDirectory`).
-/

namespace TickScript

/-! ## Choices -/

/-- **What is set**, whatever section it stands in. -/
@[ext] structure Choices where
  maxStateChanges : Option UInt32
  maxLoopIterations : Option UInt32
  stackCapacity : Option Nat
  powBitOrder : Option PowSetting
  currentPowMajors : Option (List UInt32)
  saveDir : Option String
  logFilter : Option String
  deriving DecidableEq

/-- The choices of settings. -/
def Settings.choices (s : Settings) : Choices where
  maxStateChanges := s.runtime.bind (·.maxStateChanges)
  maxLoopIterations := s.runtime.bind (·.maxLoopIterations)
  stackCapacity := s.runtime.bind (·.stackCapacity)
  powBitOrder := s.compat.bind (·.powBitOrder)
  currentPowMajors := s.compat.bind (·.currentPowMajors)
  saveDir := s.storage.bind (·.saveDir)
  logFilter := s.logging.bind (·.filter)

namespace Choices

variable {c d : Choices}

/-- Settings with these choices, all sections present. -/
def settings (c : Choices) : Settings where
  runtime := some ⟨c.maxStateChanges, c.maxLoopIterations, c.stackCapacity⟩
  compat := some ⟨c.powBitOrder, c.currentPowMajors⟩
  storage := some ⟨c.saveDir⟩
  logging := some ⟨c.logFilter⟩

@[simp] theorem choices_settings (c : Choices) : c.settings.choices = c := rfl

/-! ## One layer over another -/

/-- **The later choices**, and the earlier ones where those leave something open. -/
def overriding (later earlier : Choices) : Choices where
  maxStateChanges := later.maxStateChanges.or earlier.maxStateChanges
  maxLoopIterations := later.maxLoopIterations.or earlier.maxLoopIterations
  stackCapacity := later.stackCapacity.or earlier.stackCapacity
  powBitOrder := later.powBitOrder.or earlier.powBitOrder
  currentPowMajors := later.currentPowMajors.or earlier.currentPowMajors
  saveDir := later.saveDir.or earlier.saveDir
  logFilter := later.logFilter.or earlier.logFilter

theorem overriding_assoc (a b c : Choices) :
    (c.overriding b).overriding a = c.overriding (b.overriding a) := by
  simp only [overriding, Option.or_assoc]

@[simp] theorem overriding_self (c : Choices) : c.overriding c = c := by
  simp only [overriding, Option.or_self]

@[simp] theorem overriding_empty (c : Choices) : c.overriding Settings.empty.choices = c := by
  simp [overriding, Settings.choices, Settings.empty]

@[simp] theorem empty_overriding (c : Choices) : Settings.empty.choices.overriding c = c := by
  simp [overriding, Settings.choices, Settings.empty]

/-! ## Validity -/

/-- **Choices within their ranges.** -/
structure Valid (c : Choices) : Prop where
  stateChanges : c.maxStateChanges ≠ some 0
  loopIterations : c.maxLoopIterations ≠ some 0
  saveDir : c.saveDir ≠ some ""
  logFilter : ∀ filter, c.logFilter = some filter → ∃ x ∈ filter.toList, Text.isBlank x = false

/-- What holds of two settings holds of the one that counts. -/
theorem of_or {α : Type} {P : Option α → Prop} {a b : Option α} (later : P a) (earlier : P b) :
    P (a.or b) := by
  cases a with
  | none => exact earlier
  | some x => exact later

/-- **A layer within the ranges over another one** is within the ranges. -/
theorem Valid.overriding (later : c.Valid) (earlier : d.Valid) : (c.overriding d).Valid where
  stateChanges := of_or (P := (· ≠ some 0)) later.stateChanges earlier.stateChanges
  loopIterations := of_or (P := (· ≠ some 0)) later.loopIterations earlier.loopIterations
  saveDir := of_or (P := (· ≠ some "")) later.saveDir earlier.saveDir
  logFilter := of_or (P := fun set => ∀ filter : String, set = some filter →
    ∃ x ∈ filter.toList, Text.isBlank x = false) later.logFilter earlier.logFilter

end Choices

namespace Settings

variable {s t : Settings}

theorem check_eq_none_iff {α : Type} {c : Prop} [Decidable c] {a : α} {x : Option α} :
    (if c then some a else x) = none ↔ ¬ c ∧ x = none := by
  by_cases fails : c
  · simp [fails]
  · simp [fails]

/-- **Validity is a matter of choices.** -/
theorem validate_eq_ok_iff : s.validate = .ok () ↔ s.choices.Valid := by
  have passes : s.validate = .ok () ↔ s.firstInvalid = none := by
    unfold validate
    cases s.firstInvalid <;> simp
  have blank : ¬ (s.logging.bind (·.filter)).any (fun f => f.toList.all Text.isBlank) = true ↔
      ∀ filter, s.choices.logFilter = some filter →
        ∃ x ∈ filter.toList, Text.isBlank x = false := by
    show ¬ s.choices.logFilter.any (fun f => f.toList.all Text.isBlank) = true ↔ _
    cases s.choices.logFilter <;> simp
  rw [passes, firstInvalid, check_eq_none_iff, check_eq_none_iff, check_eq_none_iff,
    check_eq_none_iff, blank]
  constructor
  · rintro ⟨changes, loops, dir, filter, -⟩
    exact ⟨changes, loops, dir, filter⟩
  · exact fun valid =>
      ⟨valid.stateChanges, valid.loopIterations, valid.saveDir, valid.logFilter, rfl⟩

/-- A limit of valid settings is positive, whether it is set or the default. -/
theorem limits_of_validate (valid : s.validate = .ok ()) :
    1 ≤ s.maxStateChanges.toNat ∧ 1 ≤ s.maxLoopIterations.toNat := by
  have choices := validate_eq_ok_iff.mp valid
  have positive {set : Option UInt32} {default : UInt32} (nonzero : set ≠ some 0)
      (given : 1 ≤ default.toNat) : 1 ≤ (set.getD default).toNat := by
    cases set with
    | none => exact given
    | some n =>
      refine Nat.pos_of_ne_zero fun zero => nonzero ?_
      exact congrArg some (UInt32.toNat_inj.mp zero)
  exact ⟨positive choices.stateChanges (by decide), positive choices.loopIterations (by decide)⟩

/-! ## Merging -/

/-- **Merging overrides setting by setting.** -/
theorem choices_merge (s later : Settings) :
    (s.merge later).choices = later.choices.overriding s.choices := by
  obtain ⟨runtime, compat, storage, logging⟩ := s
  obtain ⟨runtime', compat', storage', logging'⟩ := later
  -- each setting depends on one section of either side, which may be absent
  apply Choices.ext
  case maxStateChanges | maxLoopIterations | stackCapacity =>
    cases runtime <;> cases runtime' <;> simp [merge, choices, Choices.overriding, runtimeSection]
  case powBitOrder | currentPowMajors =>
    cases compat <;> cases compat' <;> simp [merge, choices, Choices.overriding, compatSection]
  case saveDir =>
    simp only [merge, choices, Choices.overriding]
    cases storage'.bind (·.saveDir) <;> rfl
  case logFilter =>
    simp only [merge, choices, Choices.overriding]
    cases logging'.bind (·.filter) <;> rfl

/-! ## Overriding one setting

    What the environment does to settings is to override some of them, one after the other. -/

def setSaveDir (s : Settings) (dir : String) : Settings := { s with storage := some ⟨some dir⟩ }

def setLogFilter (s : Settings) (filter : String) : Settings :=
  { s with logging := some ⟨some filter⟩ }

def setPowBitOrder (s : Settings) (p : PowSetting) : Settings :=
  { s with compat := some { s.compatSection with powBitOrder := some p } }

def setMaxLoopIterations (s : Settings) (limit : UInt32) : Settings :=
  { s with runtime := some { s.runtimeSection with maxLoopIterations := some limit } }

/-- Overrides a setting if there is something to override it with. -/
def setSome {α : Type} (set : Settings → α → Settings) (s : Settings) : Option α → Settings
  | none => s
  | some a => set s a

section

variable (s : Settings)

theorem choices_setSaveDir (dir : Option String) : (setSome setSaveDir s dir).choices =
    { s.choices with saveDir := dir.or s.choices.saveDir } := by
  cases dir <;> rfl

theorem choices_setLogFilter (filter : Option String) : (setSome setLogFilter s filter).choices =
    { s.choices with logFilter := filter.or s.choices.logFilter } := by
  cases filter <;> rfl

theorem choices_setPowBitOrder (p : Option PowSetting) : (setSome setPowBitOrder s p).choices =
    { s.choices with powBitOrder := p.or s.choices.powBitOrder } := by
  obtain ⟨runtime, compat, storage, logging⟩ := s
  cases p <;> cases compat <;> rfl

theorem choices_setMaxLoopIterations (limit : Option UInt32) :
    (setSome setMaxLoopIterations s limit).choices =
      { s.choices with maxLoopIterations := limit.or s.choices.maxLoopIterations } := by
  obtain ⟨runtime, compat, storage, logging⟩ := s
  cases limit <;> cases runtime <;> rfl

end

end Settings

/-! ## The environment -/

namespace Overrides

open Settings (setSome setSaveDir setLogFilter setPowBitOrder setMaxLoopIterations)

/-- **What the variables set**, if their texts can be read. -/
def choices (o : Overrides) : Except SettingsFault Choices := do
  let order ← o.powBitOrder.mapM PowSetting.ofText
  let limit ← o.maxLoopIterations.mapM readLimit
  return { Settings.empty.choices with
    powBitOrder := order, maxLoopIterations := limit
    saveDir := o.saveDir, logFilter := o.logFilter }

/-- Both texts are read, then four settings are overridden. -/
theorem apply_eq (o : Overrides) (s : Settings) : o.apply s = (do
    let order ← o.powBitOrder.mapM PowSetting.ofText
    let limit ← o.maxLoopIterations.mapM readLimit
    let under := setSome setLogFilter (setSome setSaveDir s o.saveDir) o.logFilter
    return setSome setMaxLoopIterations (setSome setPowBitOrder under order) limit) := by
  obtain ⟨dir, filter, order, limit⟩ := o
  cases order with
  | none =>
    cases limit with
    | none => cases dir <;> cases filter <;> rfl
    | some text =>
      simp only [apply, Option.mapM_some]
      cases readLimit text with
      | error f => rfl
      | ok n => cases dir <;> cases filter <;> rfl
  | some word =>
    simp only [apply, Option.mapM_some]
    cases PowSetting.ofText word with
    | error f => rfl
    | ok p =>
      cases limit with
      | none => cases dir <;> cases filter <;> rfl
      | some text =>
        simp only [Option.mapM_some]
        cases readLimit text with
        | error f => rfl
        | ok n => cases dir <;> cases filter <;> rfl

/-- **The environment is one more layer**, and where it cannot be read, it says why. -/
theorem choices_apply (o : Overrides) (s : Settings) :
    (o.apply s).map Settings.choices = o.choices.map (·.overriding s.choices) := by
  rw [apply_eq, choices]
  cases o.powBitOrder.mapM PowSetting.ofText with
  | error f => rfl
  | ok order =>
    cases o.maxLoopIterations.mapM readLimit with
    | error f => rfl
    | ok limit =>
      refine congrArg Except.ok ?_
      dsimp only
      rw [Settings.choices_setMaxLoopIterations, Settings.choices_setPowBitOrder,
        Settings.choices_setLogFilter, Settings.choices_setSaveDir]
      simp [Choices.overriding, Settings.choices, Settings.empty]

end Overrides

/-! ## Loading -/

section

variable {m : Type → Type} [Monad m] {α β : Type}

/-- **Whatever the action returns has a property**: it is an action on values that have it. -/
def Returns (p : α → Prop) (x : m α) : Prop := ∃ y : m {a // p a}, Subtype.val <$> y = x

variable [LawfulMonad m] {p : α → Prop}

theorem Returns.pure {a : α} (h : p a) : Returns p (Pure.pure a : m α) :=
  ⟨Pure.pure ⟨a, h⟩, by simp⟩

/-- Only what is returned last matters. -/
theorem Returns.last {x : m β} {f : β → m α} (h : ∀ b, Returns p (f b)) : Returns p (x >>= f) := by
  choose y same using h
  refine ⟨x >>= y, ?_⟩
  rw [map_bind]
  exact congrArg (x >>= ·) (funext same)

namespace LoadedSettings

/-- **What is loaded, if anything is, can be used.** -/
def Usable (r : Except SettingsFault LoadedSettings) : Prop :=
  ∀ c, r = .ok c → c.settings.validate = .ok () ∧
    1 ≤ c.settings.maxLoopIterations.toNat ∧ 1 ≤ c.settings.maxStateChanges.toNat

theorem usable_finish (overrides : Overrides) (source : Option String) (s : Settings) :
    Usable (finish overrides source s) := by
  intro c finished
  unfold finish at finished
  cases applied : overrides.apply s with
  | error f =>
    rw [applied] at finished
    cases finished
  | ok t =>
    rw [applied] at finished
    have checked : (t.validate >>= fun _ => Pure.pure ⟨t, source⟩) = .ok c := finished
    cases valid : t.validate with
    | error f =>
      rw [valid] at checked
      cases checked
    | ok _ =>
      rw [valid] at checked
      cases checked
      obtain ⟨changes, loops⟩ := Settings.limits_of_validate valid
      exact ⟨valid, loops, changes⟩

theorem returns_ofFile (files : FileAccess m) (overrides : Overrides) (path : String) :
    Returns Usable (ofFile files overrides path) := by
  refine .last fun content => .pure ?_
  intro c loaded
  cases read : Settings.ofFile path content with
  | error f =>
    rw [read] at loaded
    cases loaded
  | ok s =>
    rw [read] at loaded
    exact usable_finish overrides (some path) s c loaded

theorem returns_ofDirectory (files : FileAccess m) (overrides : Overrides) (dir : String) :
    Returns Usable (ofDirectory files overrides dir) := by
  refine .last fun found => ?_
  cases found with
  | none => exact .pure (usable_finish overrides none .empty)
  | some path => exact returns_ofFile files overrides path

end LoadedSettings
end

/-! ## All layers -/

/-- **Layers of settings override setting by setting.**  Merging is associative, changes nothing
    when repeated and has the empty settings as identity, and it keeps settings valid.  The
    environment does what settings would do that are merged and set what its variables set.  What
    is loaded is valid, with limits of at least one. -/
theorem Settings.layers_override {m : Type → Type} [Monad m] [LawfulMonad m] :
    (∀ a b : Settings, (a.merge b).choices = b.choices.overriding a.choices) ∧
    (∀ a b c : Settings, ((a.merge b).merge c).choices = (a.merge (b.merge c)).choices) ∧
    (∀ a : Settings, (a.merge a).choices = a.choices ∧
      (a.merge .empty).choices = a.choices ∧ (Settings.empty.merge a).choices = a.choices) ∧
    (∀ a b : Settings, a.validate = .ok () → b.validate = .ok () → (a.merge b).validate = .ok ()) ∧
    (∀ (o : Overrides) c, o.choices = .ok c → (∃ e : Settings, e.choices = c) ∧
      ∀ e s : Settings, e.choices = c →
        ∃ t, o.apply s = .ok t ∧ t.choices = (s.merge e).choices) ∧
    ∀ (files : FileAccess m) (overrides : Overrides) (place : String),
      Returns LoadedSettings.Usable (LoadedSettings.ofFile files overrides place) ∧
      Returns LoadedSettings.Usable (LoadedSettings.ofDirectory files overrides place) := by
  refine ⟨choices_merge, fun a b c => ?_, fun a => ⟨?_, ?_, ?_⟩, fun a b valid valid' => ?_,
    fun o c read => ⟨⟨c.settings, c.choices_settings⟩, fun e s sets => ?_⟩,
    fun files overrides place => ⟨LoadedSettings.returns_ofFile files overrides place,
      LoadedSettings.returns_ofDirectory files overrides place⟩⟩
  · rw [choices_merge, choices_merge, choices_merge, choices_merge, Choices.overriding_assoc]
  · rw [choices_merge, Choices.overriding_self]
  · rw [choices_merge, Choices.empty_overriding]
  · rw [choices_merge, Choices.overriding_empty]
  · rw [validate_eq_ok_iff] at valid valid' ⊢
    rw [choices_merge]
    exact valid'.overriding valid
  · have layered := o.choices_apply s
    rw [read] at layered
    cases applied : o.apply s with
    | error f =>
      rw [applied] at layered
      cases layered
    | ok t =>
      rw [applied] at layered
      refine ⟨t, rfl, ?_⟩
      rw [choices_merge, sets]
      exact Except.ok.inj layered

/-- Two partly filled layers, an environment with all four variables, and a file. -/
theorem Settings.layers_override_partly :
    let a : Settings := ⟨some ⟨some 3, some 9, none⟩, none, some ⟨none⟩, none⟩
    let b : Settings :=
      ⟨some ⟨none, some 7, some 8⟩, some ⟨none, some [2]⟩, none, some ⟨some "warn"⟩⟩
    let o : Overrides := ⟨some "saves", some "debug", some "LEGACY", some "+5"⟩
    let files : FileAccess Id :=
      ⟨fun _ => .ok "[runtime]\nmax_loop_iterations = 10\n".toUTF8.toList, fun _ => true⟩
    a.validate = .ok () ∧ b.validate = .ok () ∧ (a.merge b).validate = .ok () ∧
    (a.merge b).choices = ⟨some 3, some 7, some 8, none, some [2], none, some "warn"⟩ ∧
    (∃ c, o.choices = .ok c ∧ ∃ t, o.apply a = .ok t ∧ t.choices = (a.merge c.settings).choices) ∧
    ∃ c, LoadedSettings.ofDirectory files o "d" = .ok c ∧ c.settings.validate = .ok () ∧
      c.settings.maxLoopIterations = 5 := by
  intro a b o files
  obtain ⟨merged, -, -, valid, environment, loaders⟩ := layers_override (m := Id)
  have validA : a.validate = .ok () := by rfl
  have validB : b.validate = .ok () := by rfl
  have read : o.choices.isOk = true := by decide +kernel
  refine ⟨validA, validB, valid a b validA validB, merged a b, ?_, ?_⟩
  · cases result : o.choices with
    | error f =>
      rw [result] at read
      cases read
    | ok c => exact ⟨c, rfl, (environment o c result).2 _ a c.choices_settings⟩
  · obtain ⟨y, same⟩ := (loaders files o "d").2
    have loaded : (LoadedSettings.ofDirectory files o "d").toOption.map
        (fun c => c.settings.maxLoopIterations) = some 5 := by
      decide +kernel
    cases result : LoadedSettings.ofDirectory files o "d" with
    | error f =>
      rw [result] at loaded
      cases loaded
    | ok c =>
      rw [result] at loaded
      exact ⟨c, rfl, (y.2 c (same.trans result)).1, Option.some.inj loaded⟩

end TickScript
