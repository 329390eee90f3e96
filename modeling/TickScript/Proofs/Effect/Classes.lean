import Mathlib.Data.List.Induction
import TickScript.Proofs.Effect.Composed
import TickScript.Proofs.Effect.Records

/-! # Classes of states

    The records of the effect say numbers, and a number that is a code of a posture, of an intent
    or of physics puts that in force.  Which code a number stands for is a matter of reading: taken
    exactly, a number stands for itself, but the effect takes its low byte.

        number    99    4           260         -248
        exactly   -     in the air  -           -
        low byte  -     in the air  in the air  lying

    However the effect ends, the classes of every entity are what the words addressed to it make of
    them one after the other, each by its low byte (`ClassChange.classes_by_low_byte`).  That is
    what they make of them exactly, as long as no word is an alias, a number that is no code
    although its low byte is one.
-/

namespace TickScript

/-! ## Classes -/

/-- **The classes of a state**: posture, intent with the one before, and physics. -/
structure Classes where
  stateType : StateType
  moveType : MoveType
  previousMoveType : MoveType
  physics : Physics
  deriving DecidableEq

def Entity.classes (e : Entity) : Classes :=
  ⟨e.state.stateType, e.state.moveType, e.state.previousMoveType, e.state.physics⟩

namespace Effect

/-- What a record of the effect is about. -/
inductive ClassKind where
  | stateType
  | moveType
  | physics
  deriving DecidableEq

namespace ClassKind

def tag : ClassKind → UInt8
  | stateType => StateTypeTag.stateType
  | moveType => StateTypeTag.moveType
  | physics => StateTypeTag.physics

/-- **The codes there are.** -/
def codes : ClassKind → List Int
  | moveType => [1, 2, 4]
  | _ => [1, 2, 4, 8]

end ClassKind

/-- Whatever has this number as its code. -/
def codedBy {α : Type} (all : List α) (code : α → Nat) (n : Int) : Option α :=
  all.find? fun a => (code a : Int) == n

theorem codedBy_eq_none {α : Type} {all : List α} {code : α → Nat} {n : Int}
    (unknown : n ∉ all.map fun a => (code a : Int)) : codedBy all code n = none := by
  refine List.find?_eq_none.mpr fun a member => ?_
  simp only [beq_iff_eq]
  rintro rfl
  exact unknown (List.mem_map_of_mem member)

end Effect

open Effect (ClassKind codedBy codedBy_eq_none)

def StateType.coded? (n : Int) : Option StateType :=
  codedBy [.standing, .crouching, .air, .lying] StateType.code n

def MoveType.coded? (n : Int) : Option MoveType :=
  codedBy [.idle, .attack, .beingHit] MoveType.code n

def Physics.coded? (n : Int) : Option Physics :=
  codedBy [.standing, .crouching, .air, .none] Physics.code n

/-- **What a code makes of the classes**; a number that is no code changes nothing.  An intent that
    is replaced becomes the one before. -/
def Classes.set (c : Classes) (kind : ClassKind) (n : Int) : Classes :=
  match kind with
  | .stateType =>
    match StateType.coded? n with
    | some t => { c with stateType := t }
    | none => c
  | .moveType =>
    match MoveType.coded? n with
    | some t => { c with moveType := t, previousMoveType := c.moveType }
    | none => c
  | .physics =>
    match Physics.coded? n with
    | some p => { c with physics := p }
    | none => c

theorem Classes.set_of_not_mem {kind : ClassKind} {n : Int} (unknown : n ∉ kind.codes)
    (c : Classes) : c.set kind n = c := by
  cases kind with
  | stateType =>
    have none : StateType.coded? n = none := codedBy_eq_none unknown
    simp only [Classes.set, none]
  | moveType =>
    have none : MoveType.coded? n = none := codedBy_eq_none unknown
    simp only [Classes.set, none]
  | physics =>
    have none : Physics.coded? n = none := codedBy_eq_none unknown
    simp only [Classes.set, none]

/-! ## Low bytes -/

theorem StateType.ofCode?_eq (b : UInt8) : ofCode? b = coded? b.toNat := by
  have all : ∀ n : Fin 256, ofCode? (UInt8.ofNat n) = coded? (n : Nat) := by decide +kernel
  simpa using all ⟨b.toNat, b.toNat_lt⟩

theorem MoveType.ofCode?_eq (b : UInt8) : ofCode? b = coded? b.toNat := by
  have all : ∀ n : Fin 256, ofCode? (UInt8.ofNat n) = coded? (n : Nat) := by decide +kernel
  simpa using all ⟨b.toNat, b.toNat_lt⟩

theorem Physics.ofCode?_eq (b : UInt8) : ofCode? b = coded? b.toNat := by
  have all : ∀ n : Fin 256, ofCode? (UInt8.ofNat n) = coded? (n : Nat) := by decide +kernel
  simpa using all ⟨b.toNat, b.toNat_lt⟩

/-- **All entities change their classes like this**, and nobody comes or goes. -/
def Roster.Reclassed (change : EntityId → Classes → Classes) (r r' : Roster) : Prop :=
  ∀ id, (r'.get? id).map Entity.classes = (r.get? id).map fun e => change id e.classes

namespace Roster.Reclassed

variable {r r' r'' : Roster} {f g : EntityId → Classes → Classes} {id : EntityId}

/-- Classes are not in the stores. -/
theorem of_storesChanged (h : r.StoresChanged r') : r.Reclassed (fun _ c => c) r' :=
  h.map_get? fun _ => rfl

theorem trans (h : r.Reclassed f r') (h' : r'.Reclassed g r'') :
    r.Reclassed (fun id c => g id (f id c)) r'' := by
  intro id
  have first := congrArg (Option.map (g id)) (h id)
  rw [Option.map_map, Option.map_map] at first
  exact (h' id).trans first

theorem congr (h : r.Reclassed f r') (same : ∀ id c, f id c = g id c) : r.Reclassed g r' := by
  intro id
  rw [h id]
  simp only [same]

theorem isLive_iff (h : r.Reclassed f r') : r'.isLive id ↔ r.isLive id := by
  have kept := congrArg Option.isSome (h id)
  rw [Option.isSome_map, Option.isSome_map] at kept
  exact Bool.eq_iff_iff.mp kept

/-- Only one entity is changed. -/
theorem modify {change : Entity → Entity} {g : Classes → Classes}
    (changes : ∀ e, (change e).classes = g e.classes) :
    r.Reclassed (fun other c => if other = id then g c else c) (r.modify id change) := by
  intro other
  rw [get?_modify]
  by_cases here : other = id
  · rw [if_pos here, Option.map_map]
    simp only [here, if_true]
    exact congrArg (Option.map · _) (funext changes)
  · simp only [here, if_false]

end Roster.Reclassed

theorem ArgRecord.Leaves.reclassed {r : ArgRecord} {origin : EntityId} {s t : Scene}
    (left : r.Leaves origin s t) : s.roster.Reclassed (fun _ c => c) t.roster :=
  .of_storesChanged (left.within fun code =>
    Footprint.keeps_evaluations code origin : s.Evaluated t).roster

theorem ArgRecord.Gives.reclassed {r : ArgRecord} {origin : EntityId} {s t : Scene} {v : Value}
    (given : r.Gives origin s v t) : s.roster.Reclassed (fun _ c => c) t.roster :=
  given.leaves.reclassed

namespace Effect

/-- The low byte of a number is what is left of it when it is divided by 256. -/
theorem toNat_lowByte (n : Int32) : ((lowByte n).toNat : Int) = n.toInt % 256 := by
  have low : (lowByte n).toNat = n.toUInt32.toNat % 256 := by simp [lowByte]
  have signed : n.toInt = n.toUInt32.toBitVec.toInt := rfl
  have unsigned : n.toUInt32.toBitVec.toNat = n.toUInt32.toNat := rfl
  have word : n.toUInt32.toNat < 2 ^ 32 := n.toUInt32.toNat_lt
  rw [low, signed, BitVec.toInt_eq_toNat_bmod, unsigned, Int.bmod_def]
  omega

variable {origin : EntityId} {r : ArgRecord} {rs : List ArgRecord} {args : ArgBlock}
  {s t u : Scene} {w x : Visit Unit} {v : Value}

/-! ## Words -/

namespace ClassChange

/-- **What a record says.** -/
inductive Word where
  | number (kind : ClassKind) (n : Int32)
  | redirect (id : EntityId)
  | other

/-- Whom the next words are addressed to. -/
def Word.aim (aim : EntityId) : Word → EntityId
  | redirect id => id
  | _ => aim

/-- **What a word makes of classes** if numbers are read like this. -/
def Word.apply (read : Int32 → Int) (c : Classes) : Word → Classes
  | number kind n => c.set kind (read n)
  | _ => c

/-- The low byte of a number. -/
def byLowByte (n : Int32) : Int := n.toInt % 256

/-- **A number that is no code although its low byte is one.** -/
def Word.IsAlias : Word → Prop
  | number kind n => n.toInt ∉ kind.codes ∧ byLowByte n ∈ kind.codes
  | _ => False

/-- Whom the last redirect leads to. -/
def lastAim (aim : EntityId) (words : List Word) : EntityId := words.foldl Word.aim aim

/-- **The words that are addressed to an entity.** -/
def addressed (id : EntityId) : (aim : EntityId) → List Word → List Word
  | _, [] => []
  | aim, word :: rest =>
    let later := addressed id (word.aim aim) rest
    if id = aim then word :: later else later

theorem addressed_concat (id aim : EntityId) (words : List Word) (word : Word) :
    addressed id aim (words ++ [word]) =
      addressed id aim words ++ if id = lastAim aim words then [word] else [] := by
  induction words generalizing aim with
  | nil => rfl
  | cons first rest ih =>
    have aims : lastAim aim (first :: rest) = lastAim (first.aim aim) rest := rfl
    simp only [List.cons_append, addressed, ih, aims]
    by_cases here : id = aim
    · rw [if_pos here, if_pos here, List.cons_append]
    · rw [if_neg here, if_neg here]

/-- **What words make of the classes of an entity.** -/
def hear (read : Int32 → Int) (origin : EntityId) (words : List Word) (id : EntityId)
    (c : Classes) : Classes :=
  (addressed id origin words).foldl (Word.apply read) c

theorem hear_concat (read : Int32 → Int) (words : List Word) (word : Word) (id : EntityId)
    (c : Classes) : hear read origin (words ++ [word]) id c =
      if id = lastAim origin words then word.apply read (hear read origin words id c)
      else hear read origin words id c := by
  unfold hear
  rw [addressed_concat]
  by_cases here : id = lastAim origin words
  · rw [if_pos here, if_pos here, List.foldl_append]
    rfl
  · rw [if_neg here, if_neg here, List.append_nil]

theorem Word.apply_byLowByte {word : Word} (exact : ¬ word.IsAlias) (c : Classes) :
    word.apply byLowByte c = word.apply Int32.toInt c := by
  cases word with
  | number kind n =>
    by_cases code : n.toInt ∈ kind.codes
    · have small : byLowByte n = n.toInt := by
        have bounds : ∀ k ∈ kind.codes, 0 ≤ k ∧ k < 256 := by cases kind <;> decide
        obtain ⟨low, high⟩ := bounds _ code
        exact Int.emod_eq_of_lt low high
      simp only [apply, small]
    · have unknown : byLowByte n ∉ kind.codes := fun known => exact ⟨code, known⟩
      simp only [apply, Classes.set_of_not_mem code, Classes.set_of_not_mem unknown]
  | redirect id => rfl
  | other => rfl

/-- **Without an alias low bytes are as good as numbers.** -/
theorem hear_byLowByte {words : List Word} (exact : ∀ word ∈ words, ¬ word.IsAlias)
    (id : EntityId) (c : Classes) :
    hear byLowByte origin words id c = hear Int32.toInt origin words id c := by
  unfold hear
  induction words generalizing origin c with
  | nil => rfl
  | cons word rest ih =>
    obtain ⟨first, others⟩ := List.forall_mem_cons.mp exact
    by_cases here : id = origin
    · simp only [addressed, here, if_true, List.foldl_cons, word.apply_byLowByte first]
      rw [← here]
      exact ih others _
    · simp only [addressed, here, if_false]
      exact ih others c

/-! ## One record -/

/-- A record says a word in a scene: its argument is evaluated there. -/
inductive Says (origin : EntityId) (s : Scene) (r : ArgRecord) : Word → Prop
  | number {kind : ClassKind} {v : Value} {t : Scene} (tag : r.tag = kind.tag)
      (given : r.Gives origin s v t) : Says origin s r (.number kind v.toInt32)
  | redirect {v : Value} {t : Scene} {id : EntityId} (tag : r.tag = redirectTag)
      (given : r.Gives origin s v t) (named : t.roster.withScriptId v.toInt32 = some id) :
      Says origin s r (.redirect id)
  | other (unknown : ∀ kind : ClassKind, r.tag ≠ kind.tag) (plain : r.tag ≠ redirectTag) :
      Says origin s r .other

/-- A redirect finds nobody. -/
def Misses (origin : EntityId) (s : Scene) (r : ArgRecord) : Prop :=
  r.tag = redirectTag ∧
    ∃ v t, r.Gives origin s v t ∧ t.roster.withScriptId v.toInt32 = none

/-- A record has no value: there is no argument, or its evaluation fails. -/
def Unreadable (origin : EntityId) (s : Scene) (r : ArgRecord) : Prop :=
  (r.tag = redirectTag ∨ ∃ kind : ClassKind, r.tag = kind.tag) ∧ ∀ v t, ¬ r.Gives origin s v t

/-- **A record is heard**: its word changes the classes of the target, or moves the target. -/
structure Hears (origin : EntityId) (r : ArgRecord) (w : Visit Unit) (s : Scene) (x : Visit Unit)
    (t : Scene) (word : Word) : Prop where
  said : Says origin s r word
  aim : x.target.id = word.aim w.target.id
  live : s.roster.isLive origin → t.roster.isLive x.target.id
  classes : s.roster.Reclassed
    (fun id c => if id = w.target.id then word.apply byLowByte c else c) t.roster

/-- **What becomes of a record**: it is heard, or it is a redirect that finds nobody. -/
def Handled (origin : EntityId) (r : ArgRecord) (w : Visit Unit) (s : Scene)
    (y : Bool × Visit Unit) (t : Scene) : Prop :=
  (y.1 = true → ∃ word, Hears origin r w s y.2 t word) ∧
    (y.1 = false → Misses origin s r ∧ s.roster.Reclassed (fun _ c => c) t.roster)

theorem Handled.of_hears {word : Word} (heard : Hears origin r w s x t word) :
    Handled origin r w s (true, x) t :=
  ⟨fun _ => ⟨word, heard⟩, nofun⟩

/-- **What a record can fail at**: it has no value, or the origin is not live. -/
def Stuck (origin : EntityId) (s : Scene) (r : ArgRecord) : Prop :=
  Unreadable origin s r ∨ ¬ s.roster.isLive origin

/-- What becomes of a record that fails. -/
def Failed (origin : EntityId) (r : ArgRecord) (s : Scene) (_ : Fault) (t : Scene) : Prop :=
  Stuck origin s r ∧ s.roster.Reclassed (fun _ c => c) t.roster

/-- An origin that is live has a live target. -/
def Aimed (w : Visit Unit) (s : Scene) : Prop :=
  s.roster.isLive w.target.origin → s.roster.isLive w.target.id

/-- Behind a number that is in no way a code nothing is left to do. -/
theorem handled_of_unknown {kind : ClassKind} (tag : r.tag = kind.tag)
    (given : r.Gives w.target.origin s v t) (aimed : Aimed w s)
    (unknown : ∀ c : Classes, c.set kind (byLowByte v.toInt32) = c) :
    Handled w.target.origin r w s (true, w) t := by
  have still (known : s.roster.isLive w.target.origin) : t.roster.isLive w.target.id :=
    given.reclassed.isLive_iff.mpr (aimed known)
  refine .of_hears ⟨.number tag given, rfl, still, ?_⟩
  refine given.reclassed.congr fun id c => ?_
  rw [Word.apply, unknown, ite_self]

/-- **A code that is put in force** changes the target. -/
theorem ends_change {kind : ClassKind} {change : Entity → Entity} (tag : r.tag = kind.tag)
    (given : r.Gives w.target.origin s v t) (aimed : Aimed w s)
    (changes : ∀ e, (change e).classes = e.classes.set kind (byLowByte v.toInt32)) :
    Ends ((Visiting.updateTarget change : Visiting Unit Unit).run w) t
      (fun y u => Handled w.target.origin r w s (true, y.2) u) (Failed w.target.origin r s) := by
  have changed : t.roster.Reclassed (fun id c => if id = w.target.id then
      c.set kind (byLowByte v.toInt32) else c) (t.modify w.target.id change).roster :=
    .modify changes
  -- a target that is gone is not the target of a live origin
  by_cases still : t.roster.isLive w.target.id
  · obtain ⟨e, present⟩ := Roster.isLive_iff.mp still
    exact Ends.of_run (Visiting.run_updateTarget change present)
      (.of_hears ⟨.number tag given, rfl, fun _ => changed.isLive_iff.mpr still,
        given.reclassed.trans changed⟩)
  · have gone : ¬ s.roster.isLive w.target.origin := fun known =>
      still (given.reclassed.isLive_iff.mpr (aimed known))
    exact Ends.bind (ends_update
      (fun e present => absurd (Roster.isLive_iff.mpr ⟨e, present⟩) still)
      ⟨.inr gone, given.reclassed⟩)

/-- A record about classes has a value, or it fails. -/
theorem ends_number {kind : ClassKind} {k : Int32 → Visiting Unit Unit} (tag : r.tag = kind.tag)
    (acts : ∀ v t, r.Gives w.target.origin s v t → Ends ((k v.toInt32).run w) t
      (fun y u => Handled w.target.origin r w s (true, y.2) u) (Failed w.target.origin r s)) :
    Ends ((do k (← Visiting.int r) : Visiting Unit Unit).run w) s
      (fun y u => Handled w.target.origin r w s (true, y.2) u) (Failed w.target.origin r s) := by
  by_cases readable : ∃ v t, r.Gives w.target.origin s v t
  · obtain ⟨v, t, given⟩ := readable
    exact Ends.step (Visiting.run_int given) (acts v t given)
  · have unreadable : Unreadable w.target.origin s r :=
      ⟨.inr ⟨kind, tag⟩, fun v t given => readable ⟨v, t, given⟩⟩
    exact Ends.bind (Visiting.ends_int (fun v t given => absurd ⟨v, t, given⟩ readable)
      fun f t left => ⟨.inl unreadable, left.reclassed⟩)

theorem stateType_byLowByte (n : Int32) :
    StateType.coded? (byLowByte n) = StateType.ofCode? (lowByte n) := by
  rw [StateType.ofCode?_eq, toNat_lowByte, byLowByte]

theorem moveType_byLowByte (n : Int32) :
    MoveType.coded? (byLowByte n) = MoveType.ofCode? (lowByte n) := by
  rw [MoveType.ofCode?_eq, toNat_lowByte, byLowByte]

theorem physics_byLowByte (n : Int32) :
    Physics.coded? (byLowByte n) = Physics.ofCode? (lowByte n) := by
  rw [Physics.ofCode?_eq, toNat_lowByte, byLowByte]

/-- A record that is no redirect. -/
theorem ends_record (plain : r.tag ≠ redirectTag) (aimed : Aimed w s) :
    Ends (((stateTypeSetVisitor origin).record r).run w) s (Handled w.target.origin r w s)
      (Failed w.target.origin r s) := by
  refine Ends.bind ?_
  -- the cases are those of the action, before it is run
  change Ends (StateT.run _ w) s _ _
  split
  case h_1 tag =>
    have tag : r.tag = ClassKind.stateType.tag := tag
    refine ends_number tag fun v t given => ?_
    have coded := stateType_byLowByte v.toInt32
    cases read : StateType.ofCode? (lowByte v.toInt32) with
    | none =>
      exact handled_of_unknown tag given aimed fun c => by simp only [Classes.set, coded, read]
    | some class' =>
      exact ends_change tag given aimed fun e => by
        simp only [Classes.set, coded, read, Entity.classes]
  case h_2 tag =>
    have tag : r.tag = ClassKind.moveType.tag := tag
    refine ends_number tag fun v t given => ?_
    have coded := moveType_byLowByte v.toInt32
    cases read : MoveType.ofCode? (lowByte v.toInt32) with
    | none =>
      exact handled_of_unknown tag given aimed fun c => by simp only [Classes.set, coded, read]
    | some class' =>
      exact ends_change tag given aimed fun e => by
        simp only [Classes.set, coded, read, Entity.classes, Entity.setMoveType]
  case h_3 tag =>
    have tag : r.tag = ClassKind.physics.tag := tag
    refine ends_number tag fun v t given => ?_
    have coded := physics_byLowByte v.toInt32
    cases read : Physics.ofCode? (lowByte v.toInt32) with
    | none =>
      exact handled_of_unknown tag given aimed fun c => by simp only [Classes.set, coded, read]
    | some class' =>
      exact ends_change tag given aimed fun e => by
        simp only [Classes.set, coded, read, Entity.classes]
  case h_4 notState notMove notPhysics =>
    have unknown (kind : ClassKind) : r.tag ≠ kind.tag := by
      cases kind <;> assumption
    have still : s.roster.Reclassed
        (fun id c => if id = w.target.id then Word.other.apply byLowByte c else c) s.roster :=
      fun id => by simp [Word.apply]
    exact .of_hears ⟨.other unknown plain, rfl, aimed, still⟩

/-- A redirect moves the target to somebody who is live. -/
theorem ends_redirected (tag : r.tag = redirectTag) :
    Ends ((Visiting.redirect r).run w) s (Handled w.target.origin r w s)
      (Failed w.target.origin r s) := by
  by_cases readable : ∃ v t, r.Gives w.target.origin s v t
  · obtain ⟨v, t, given⟩ := readable
    refine Ends.step (Visiting.run_int given) (Visiting.ends_roster ?_)
    cases named : t.roster.withScriptId v.toInt32 with
    | none => exact ⟨nofun, fun _ => ⟨⟨tag, v, t, given, named⟩, given.reclassed⟩⟩
    | some id =>
      have live : t.roster.isLive id := Roster.isLive_of_find? (fun _ member => member) named
      -- the ratio of the scales needs the origin, which nobody has checked before
      by_cases known : t.roster.isLive w.target.origin
      · obtain ⟨e, present⟩ := Roster.isLive_iff.mp known
        obtain ⟨chosen, there⟩ := Roster.isLive_iff.mp live
        refine Ends.bind (Ends.bind (Ends.of_run (entity_of_get? present) ?_))
        refine Ends.bind (Ends.bind (Ends.of_run (entity_of_get? there) ?_))
        refine .of_hears ⟨.redirect tag given named, rfl, fun _ => live, ?_⟩
        exact given.reclassed.congr fun other c => (ite_self c).symm
      · have gone : ¬ s.roster.isLive w.target.origin := known ∘ given.reclassed.isLive_iff.mpr
        exact Ends.bind (Ends.bind (ends_entity
          (fun e present => absurd (Roster.isLive_iff.mpr ⟨e, present⟩) known)
          ⟨.inr gone, given.reclassed⟩))
  · have unreadable : Unreadable w.target.origin s r :=
      ⟨.inl tag, fun v t given => readable ⟨v, t, given⟩⟩
    exact Visiting.ends_redirect (fun v t given _ => absurd ⟨v, t, given⟩ readable)
      (fun v t _ _ given _ => absurd ⟨v, t, given⟩ readable)
      fun f t left => ⟨.inl unreadable, left.reclassed⟩

/-- **What becomes of one record.** -/
theorem ends_handle (aimed : Aimed w s) :
    Ends (((stateTypeSetVisitor origin).handle r).run w) s (Handled w.target.origin r w s)
      (Failed w.target.origin r s) := by
  by_cases tag : r.tag = redirectTag
  · rw [Visitor.handle, if_pos tag]
    exact ends_redirected tag
  · rw [Visitor.handle, if_neg tag]
    exact ends_record tag aimed

/-! ## All records -/

/-- **What the records of a visit say**, each in the scene that those before it have left. -/
inductive Said (origin : EntityId) (s : Scene) : List ArgRecord → List Word → Prop
  | nil : Said origin s [] []
  | concat {rs : List ArgRecord} {words : List Word} {r : ArgRecord} {word : Word}
      {w : Visit Unit} {t : Scene} (before : Said origin s rs words)
      (passes : (stateTypeSetVisitor origin).Passes s rs w t) (last : Says origin t r word) :
      Said origin s (rs ++ [r]) (words ++ [word])

/-- **A visit hears its records one after the other.** -/
theorem hears_of_passes (passes : (stateTypeSetVisitor origin).Passes s rs w t) :
    ∃ words, Said origin s rs words ∧ w.target.id = lastAim origin words ∧ Aimed w t ∧
      s.roster.Reclassed (hear byLowByte origin words) t.roster := by
  -- at the end: the last record finds what those before it have left
  induction rs using List.reverseRecOn generalizing w t with
  | nil =>
    obtain ⟨rfl, rfl⟩ := Visitor.passes_nil.mp passes
    exact ⟨[], .nil, rfl, id, .of_storesChanged (.refl t.roster)⟩
  | append_singleton rs r ih =>
    obtain ⟨x, u, before, handled⟩ := Visitor.passes_concat.mp passes
    obtain ⟨words, said, aim, aimed, classes⟩ := ih before
    obtain ⟨word, heard⟩ := ((ends_handle aimed).ok handled).1 rfl
    rw [before.origin_eq] at heard
    refine ⟨words ++ [word], .concat said before heard.said, ?_, fun known => ?_, ?_⟩
    · rw [heard.aim, aim, lastAim, lastAim, List.foldl_append]
      rfl
    · rw [passes.origin_eq] at known
      exact heard.live (heard.classes.isLive_iff.mp known)
    · refine (classes.trans heard.classes).congr fun id c => ?_
      rw [hear_concat, aim]

/-- **The words that are heard** in a block: those of all records, or of those before a redirect
    that finds nobody. -/
inductive Heard (origin : EntityId) (args : ArgBlock) (s : Scene) (words : List Word) : Prop
  | whole (said : Said origin s (ArgBlock.read args).records words)
      (wellFormed : (ArgBlock.read args).malformedAt = none)
  | stopped {before later : List ArgRecord} {r : ArgRecord} {w : Visit Unit} {t : Scene}
      (split : (ArgBlock.read args).records = before ++ r :: later)
      (said : Said origin s before words)
      (passes : (stateTypeSetVisitor origin).Passes s before w t) (misses : Misses origin t r)

/-- **The words that are heard before a fault**: of a record that is stuck, or of the end of a
    block that is malformed. -/
inductive HeardUpTo (origin : EntityId) (args : ArgBlock) (s : Scene) (words : List Word) : Prop
  | malformed (said : Said origin s (ArgBlock.read args).records words)
      (malformed : (ArgBlock.read args).malformedAt.isSome)
  | stuck {before later : List ArgRecord} {r : ArgRecord} {w : Visit Unit} {t : Scene}
      (split : (ArgBlock.read args).records = before ++ r :: later)
      (said : Said origin s before words)
      (passes : (stateTypeSetVisitor origin).Passes s before w t)
      (stuck : Stuck origin t r)

/-- **The classes of all entities are what words make of them**, each number read by its low byte:
    without an alias, that is each number read exactly. -/
structure SetBy (origin : EntityId) (words : List Word) (r r' : Roster) : Prop where
  byLowByte : r.Reclassed (hear byLowByte origin words) r'
  exactly : (∀ word ∈ words, ¬ word.IsAlias) → r.Reclassed (hear Int32.toInt origin words) r'

theorem SetBy.of_reclassed {words : List Word} {r r' : Roster}
    (classes : r.Reclassed (hear ClassChange.byLowByte origin words) r') :
    SetBy origin words r r' where
  byLowByte := classes
  exactly exact := classes.congr fun id c => hear_byLowByte exact id c

/-- What is heard of some records, and of one more whose word changes nothing. -/
theorem setBy_of_last {rs : List ArgRecord}
    (passes : (stateTypeSetVisitor origin).Passes s rs w t) :
    Aimed w t ∧ ∀ {u : Scene}, t.roster.Reclassed (fun _ c => c) u.roster →
      ∃ words, Said origin s rs words ∧ SetBy origin words s.roster u.roster := by
  obtain ⟨words, said, -, aimed, classes⟩ := hears_of_passes passes
  exact ⟨aimed, fun aside => ⟨words, said, .of_reclassed (classes.trans aside)⟩⟩

/-- Nothing is left to do behind the visit, and so nothing can fail there. -/
theorem visit_error {f : Fault} (ended : EffectKind.stateTypeSet.run origin args s = .error f t) :
    visitBlock origin args ((stateTypeSetVisitor origin).plan s.roster)
      (stateTypeSetVisitor origin).redirect (stateTypeSetVisitor origin).record s = .error f t := by
  rw [(stateTypeSetVisitor origin).runs] at ended
  cases visited : visitBlock origin args ((stateTypeSetVisitor origin).plan s.roster)
      (stateTypeSetVisitor origin).redirect (stateTypeSetVisitor origin).record s with
  | ok y u =>
    rw [bind_of_ok visited] at ended
    cases ended
  | error f' u =>
    rw [bind_of_error visited] at ended
    cases ended
    rfl

/-- **Classes are set by the low bytes of numbers.**  An effect that ends well lets its origin go
    on, and has heard all its records or those before a redirect that finds nobody.  It fails at
    nothing but a record that has no value, an origin that is not live, or the end of a malformed
    block.  In each case the classes of every entity are what the words that were heard and
    addressed to it make of them in order, each number read by its low byte; and if no number is
    an alias, each read exactly. -/
theorem classes_by_low_byte :
    Ends (EffectKind.stateTypeSet.run origin args) s
      (fun stop t => stop = false ∧
        ∃ words, Heard origin args s words ∧ SetBy origin words s.roster t.roster)
      fun _ t => ∃ words, HeardUpTo origin args s words ∧ SetBy origin words s.roster t.roster := by
  unfold Ends
  split
  case h_1 stop t ended =>
    obtain ⟨finished, w, u, visited, rest⟩ := (stateTypeSetVisitor origin).exists_of_run ended
    cases rest
    refine ⟨rfl, ?_⟩
    rcases Visitor.exists_of_visit visited with
      ⟨-, finishes⟩ | ⟨before, r, later, x, u, -, split, passes, stops⟩
    · obtain ⟨passes, wellFormed⟩ := Visitor.finishes_iff.mp finishes
      obtain ⟨words, said, set⟩ := (setBy_of_last passes).2 (.of_storesChanged (.refl _))
      exact ⟨words, .whole said wellFormed, set⟩
    · obtain ⟨aimed, heard⟩ := setBy_of_last passes
      obtain ⟨misses, aside⟩ := ((ends_handle aimed).ok stops).2 rfl
      obtain ⟨words, said, set⟩ := heard aside
      exact ⟨words, .stopped split said passes (passes.origin_eq ▸ misses), set⟩
  case h_2 f t ended =>
    rcases Visitor.exists_of_visit_error (visit_error ended) with
      ⟨w, passes, malformed⟩ | ⟨before, r, later, x, u, split, passes, fails⟩
    · obtain ⟨words, said, set⟩ := (setBy_of_last passes).2 (.of_storesChanged (.refl _))
      exact ⟨words, .malformed said malformed, set⟩
    · obtain ⟨aimed, heard⟩ := setBy_of_last passes
      obtain ⟨stuck, aside⟩ := (ends_handle aimed).error fails
      obtain ⟨words, said, set⟩ := heard aside
      exact ⟨words, .stuck split said passes (passes.origin_eq ▸ stuck), set⟩

/-- A posture, an intent, and a number that is no code in any way. -/
theorem classes_by_low_byte_unknown :
    let args := ArgBlock.ofRecords [⟨StateTypeTag.stateType, [Expression.int 4]⟩,
      ⟨StateTypeTag.moveType, [Expression.int 2]⟩, ⟨StateTypeTag.physics, [Expression.int 99]⟩]
    ∃ t words,
      EffectKind.stateTypeSet.run 0 args Scene.lone = .ok false t ∧
      Heard 0 args Scene.lone words ∧ SetBy 0 words Scene.lone.roster t.roster ∧
      (t.roster.get? 0).map Entity.classes = some ⟨.air, .attack, .idle, .standing⟩ := by
  intro args
  have runs : Ends (EffectKind.stateTypeSet.run 0 args) Scene.lone
      (fun _ t => (t.roster.get? 0).map Entity.classes = some ⟨.air, .attack, .idle, .standing⟩)
      fun _ _ => False := by
    decide +kernel
  obtain ⟨stop, t, ended, classes⟩ := runs.exists_ok
  obtain ⟨rfl, words, heard, set⟩ := classes_by_low_byte.ok ended
  exact ⟨t, words, ended, heard, set, classes⟩

/-- **An alias is taken for a code**: 260 is none, but its low byte is that of the air. -/
theorem alias_taken_for_code :
    let args := ArgBlock.ofRecords [⟨StateTypeTag.stateType, [Expression.int 260]⟩]
    let words := [Word.number .stateType 260]
    Heard 0 args Scene.lone words ∧
      (Scene.lone.roster.get? 0).map (fun e => hear Int32.toInt 0 words 0 e.classes) =
        some ⟨.standing, .idle, .idle, .standing⟩ ∧
      Ends (EffectKind.stateTypeSet.run 0 args) Scene.lone
        (fun stop t => stop = false ∧
          (t.roster.get? 0).map Entity.classes = some ⟨.air, .idle, .idle, .standing⟩)
        fun _ _ => False := by
  intro args words
  let r : ArgRecord := ⟨StateTypeTag.stateType, [Expression.int 260]⟩
  have read : ArgBlock.read args = ⟨[r], none⟩ := ArgBlock.read_ofRecords (by decide)
  have given : r.Gives 0 Scene.lone (.int 260) Scene.lone := ⟨_, rfl, rfl⟩
  have tag : r.tag = ClassKind.stateType.tag := rfl
  have said : Said 0 Scene.lone [r] words := .concat .nil rfl (.number tag given)
  refine ⟨.whole ?_ ?_, ?_, ?_⟩
  · rwa [read]
  · rw [read]
  · decide +kernel
  · decide +kernel

end ClassChange
end Effect
end TickScript
