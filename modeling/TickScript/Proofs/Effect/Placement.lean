import Mathlib.Data.List.Induction
import TickScript.Proofs.Effect.Helpers
import TickScript.Proofs.Effect.Records

/-! # Where a helper is placed

    A helper is spawned at the first record of its block, under the entity that is the target then,
    and it is placed when the visit ends, at the entity that is the target by then.  In between,
    every record says something:

        stateno, facing   the last one counts
        pos               the last one counts, for each of the coordinates; it is converted with
                          the ratio of the last redirect before it
        redirect          the last one is whom the helper is placed at, the first one is whom it is
                          spawned under if it is the first record
        all others        something about the helper that has nothing to do with its place

    The visit hears these words (`Effect.hears_of_passes`), and it moves nobody.  So a helper is
    placed as its words say, but relative to whoever the last redirect leads to, and that is the
    parent as long as no redirect follows the first record (`Effect.helper_placed`).
-/

namespace TickScript

/-! ## Stances -/

/-- **Where an entity stands and as what**: its position, whether it is a helper, and whose. -/
def Entity.stance (e : Entity) : Space × Single × Bool × Option EntityId :=
  (e.pos, e.facing, e.isHelper, e.parent)

/-- **The same entities are live, with the same stances.** -/
structure Roster.Stays (r r' : Roster) : Prop where
  order : r'.runOrder = r.runOrder
  nextHandle : r'.nextHandle = r.nextHandle
  stances : ∀ id, (r'.get? id).map Entity.stance = (r.get? id).map Entity.stance

namespace Roster.Stays

variable {r r' r'' : Roster}

theorem refl (r : Roster) : r.Stays r := ⟨rfl, rfl, fun _ => rfl⟩

theorem trans (h : r.Stays r') (h' : r'.Stays r'') : r.Stays r'' where
  order := h'.order.trans h.order
  nextHandle := h'.nextHandle.trans h.nextHandle
  stances id := (h'.stances id).trans (h.stances id)

/-- Nothing of a stance is in the stores. -/
theorem of_storesChanged (h : r.StoresChanged r') : r.Stays r' where
  order := h.live
  nextHandle := h.nextHandle
  stances := h.map_get? fun _ => rfl

theorem modify {id : EntityId} {f : Entity → Entity} (same : ∀ e, (f e).stance = e.stance) :
    r.Stays (r.modify id f) where
  order := runOrder_modify f
  nextHandle := rfl
  stances _ := map_get?_modify Entity.stance fun e _ => same e

end Roster.Stays

theorem ArgRecord.Gives.stays {r : ArgRecord} {origin : EntityId} {s t : Scene} {v : Value}
    (given : r.Gives origin s v t) : s.roster.Stays t.roster :=
  .of_storesChanged (given.leaves.within fun code =>
    Footprint.keeps_evaluations code origin : s.Evaluated t).roster

theorem ArgRecord.GivesPair.stays {r : ArgRecord} {origin : EntityId} {s t : Scene} {x : Single}
    {y : Option Single} (given : r.GivesPair origin s x y t) : s.roster.Stays t.roster := by
  cases given with
  | alone first _ => exact first.stays
  | both first _ evaluated =>
    have second : Scene.Evaluated _ t := (Footprint.keeps_evaluations _ origin).ok evaluated
    exact first.stays.trans (.of_storesChanged second.roster)

namespace Effect

variable {origin h parent : EntityId} {r : ArgRecord} {rs : List ArgRecord} {args : ArgBlock}
  {s t u : Scene} {w x : Visit HelperPlan}

/-! ## Words -/

/-- **What a record says about a new helper.** -/
inductive Word where
  | state (n : Int32)
  | offset (x : Single) (y : Option Single)
  | facing (n : Int32)
  | redirect (id : EntityId) (ratio : Single)
  | other

namespace Word

def state? : Word → Option Int32
  | state n => some n
  | _ => none

def facing? : Word → Option Int32
  | facing n => some n
  | _ => none

def redirect? : Word → Option (EntityId × Single)
  | redirect id ratio => some (id, ratio)
  | _ => none

end Word

/-- A record says a word in a scene: its arguments are evaluated there. -/
inductive Says (origin : EntityId) (s : Scene) (r : ArgRecord) : Word → Prop
  | state {v : Value} {t : Scene} (tag : r.tag = HelperTag.stateNo)
      (given : r.Gives origin s v t) : Says origin s r (.state v.toInt32)
  | offset {x : Single} {y : Option Single} {t : Scene} (tag : r.tag = HelperTag.pos)
      (given : r.GivesPair origin s x y t) : Says origin s r (.offset x y)
  | facing {v : Value} {t : Scene} (tag : r.tag = HelperTag.facing)
      (given : r.Gives origin s v t) : Says origin s r (.facing v.toInt32)
  | redirect {v : Value} {t : Scene} {id : EntityId} {e chosen : Entity}
      (tag : r.tag = redirectTag) (given : r.Gives origin s v t)
      (named : t.roster.withScriptId v.toInt32 = some id)
      (present : t.roster.get? origin = some e) (there : t.roster.get? id = some chosen) :
      Says origin s r (.redirect id (e.localScale / chosen.localScale))
  | other (tag : r.tag ∉ [HelperTag.stateNo, HelperTag.pos, HelperTag.facing, redirectTag]) :
      Says origin s r .other

/-! ## What all words say together -/

/-- The last state, zero if there is none. -/
def lastState (words : List Word) : Int32 := (words.filterMap Word.state?).getLast?.getD 0

/-- The last facing, forwards if there is none. -/
def lastFacing (words : List Word) : Int32 := (words.filterMap Word.facing?).getLast?.getD 1

/-- Whom the last redirect leads to and the ratio that it puts in force; the origin with a ratio of
    one if there is none. -/
def lastAim (origin : EntityId) (words : List Word) : EntityId × Single :=
  (words.filterMap Word.redirect?).getLast?.getD (origin, .one)

/-- Whom the helper is spawned under: a redirect counts if it is the first word. -/
def spawner (origin : EntityId) : List Word → EntityId
  | .redirect id _ :: _ => id
  | _ => origin

/-- The offsets that are said, each converted with the ratio in force. -/
def offsetsFrom (ratio : Single) : List Word → List (Single × Option Single)
  | [] => []
  | .redirect _ ratio' :: rest => offsetsFrom ratio' rest
  | .offset x y :: rest => (x * ratio, y.map (· * ratio)) :: offsetsFrom ratio rest
  | _ :: rest => offsetsFrom ratio rest

/-- The last offset along each axis, zero if there is none. -/
def offset (words : List Word) : Plane where
  x := ((offsetsFrom .one words).map (·.1)).getLast?.getD .zero
  y := ((offsetsFrom .one words).filterMap (·.2)).getLast?.getD .zero

/-- **An entity is placed relative to another one** as the words say. -/
structure PlacedAt (near : Entity) (words : List Word) (e : Entity) : Prop where
  x : e.pos.x = near.pos.x + (offset words).x * near.facing
  y : e.pos.y = near.pos.y + (offset words).y
  facing : e.facing = if lastFacing words < 0 then -near.facing else near.facing
  pending : e.pending = some (.plain (lastState words))

/-! ## Hearing -/

/-- **What a visit makes of a word.** -/
def hear (w : Visit HelperPlan) : Word → Visit HelperPlan
  | .state n => { w with plan := { w.plan with state := n } }
  | .offset x y =>
    let old := w.plan.offset.y
    { w with plan := { w.plan with
      offset := ⟨x * w.target.ratio, (y.map (· * w.target.ratio)).getD old⟩ } }
  | .facing n => { w with plan := { w.plan with facing := n } }
  | .redirect id ratio => w.aim id ratio
  | .other => w

/-- The visit before the first record. -/
def opening (origin : EntityId) : Visit HelperPlan := ⟨.start origin, ⟨none, 0, .zero, 1⟩⟩

/-- The visit of a helper that has a handle. -/
def withHelper (h : EntityId) (w : Visit HelperPlan) : Visit HelperPlan :=
  { w with plan := { w.plan with spawned := some h } }

/-- What is heard does not depend on when the helper was spawned. -/
theorem hear_withHelper (h : EntityId) (w : Visit HelperPlan) (word : Word) :
    hear (withHelper h w) word = withHelper h (hear w word) := by
  cases word <;> rfl

@[simp] theorem hear_spawned (w : Visit HelperPlan) (word : Word) :
    (hear w word).plan.spawned = w.plan.spawned := by
  cases word <;> rfl

/-- The ratio in force behind some words is that of the last redirect among them. -/
theorem offsetsFrom_concat (id : EntityId) (ratio : Single) (words : List Word) (word : Word) :
    offsetsFrom ratio (words ++ [word]) = offsetsFrom ratio words ++
      offsetsFrom ((words.filterMap Word.redirect?).getLast?.getD (id, ratio)).2 [word] := by
  induction words generalizing id ratio with
  | nil => rfl
  | cons first rest ih =>
    cases first with
    | redirect id' ratio' =>
      have redirects : (Word.redirect id' ratio' :: rest).filterMap Word.redirect? =
          (id', ratio') :: rest.filterMap Word.redirect? := rfl
      rw [redirects, List.getLast?_cons]
      exact ih id' ratio'
    | offset x y => exact congrArg (_ :: ·) (ih id ratio)
    | state n => exact ih id ratio
    | facing n => exact ih id ratio
    | other => exact ih id ratio

/-- **What a visit has heard in the end** is what all words say together. -/
theorem heard_eq (origin h : EntityId) (words : List Word) :
    words.foldl hear (withHelper h (opening origin)) =
      ⟨⟨origin, (lastAim origin words).1, (lastAim origin words).2⟩,
        ⟨some h, lastState words, offset words, lastFacing words⟩⟩ := by
  induction words using List.reverseRecOn with
  | nil => rfl
  | append_singleton words word ih =>
    rw [List.foldl_append, ih]
    simp only [lastAim, lastState, lastFacing, offset, offsetsFrom_concat origin,
      List.map_append, List.filterMap_append]
    cases word with
    | offset x y => cases y <;> simp [hear, offsetsFrom, Word.state?, Word.facing?, Word.redirect?]
    | _ => simp [hear, Visit.aim, offsetsFrom, Word.state?, Word.facing?, Word.redirect?]

/-- A coordinate that is not said again is kept, converted with the ratio of its own record. -/
example (x y z ratio : Single) :
    offset [.offset x (some y), .redirect 1 ratio, .offset z none] = ⟨z * ratio, y * .one⟩ := rfl

/-! ## One record -/

/-- **A record is heard** by the visit of a helper that exists. -/
structure Hears (origin : EntityId) (r : ArgRecord) (word : Word) (w : Visit HelperPlan)
    (s : Scene) (x : Visit HelperPlan) (t : Scene) : Prop where
  said : Says origin s r word
  heard : x = hear w word
  stays : s.roster.Stays t.roster

/-- A redirect finds nobody. -/
def Misses (origin : EntityId) (s : Scene) (r : ArgRecord) : Prop :=
  r.tag = redirectTag ∧
    ∃ v t, r.Gives origin s v t ∧ t.roster.withScriptId v.toInt32 = none

/-- A redirect is followed to somebody. -/
inductive Follows (origin : EntityId) (r : ArgRecord) (w : Visit HelperPlan) (s : Scene) :
    Visit HelperPlan → Scene → Prop
  | mk {v : Value} {t : Scene} {id : EntityId} {e chosen : Entity}
      (tag : r.tag = redirectTag) (given : r.Gives origin s v t)
      (named : t.roster.withScriptId v.toInt32 = some id)
      (present : t.roster.get? origin = some e) (there : t.roster.get? id = some chosen) :
      Follows origin r w s (w.aim id (e.localScale / chosen.localScale)) t

theorem Follows.hears (follows : Follows origin r w s x t) :
    ∃ word, Hears origin r word w s x t := by
  obtain ⟨tag, given, named, present, there⟩ := follows
  exact ⟨_, .redirect tag given named present there, rfl, given.stays⟩

theorem ends_updateHelper {f : Entity → Entity} {done : Unit × Visit HelperPlan → Scene → Prop}
    (same : ∀ e, (f e).stance = e.stance) (stays : ∀ t, s.roster.Stays t.roster → done ((), w) t) :
    Ends ((updateHelper f).run w) s done fun _ _ => True := by
  obtain ⟨target, spawned, state, offset, facing⟩ := w
  cases spawned with
  | none => exact stays s (.refl s.roster)
  | some h => exact Ends.bind (ends_update (fun e _ => stays _ (.modify same)) trivial)

/-- A record that is no redirect. -/
theorem hears_helperRecord (plain : r.tag ≠ redirectTag) (here : w.target.origin = origin) :
    Ends ((helperRecord r).run w) s (fun y t => ∃ word, Hears origin r word w s y.2 t)
      fun _ _ => True := by
  subst here
  have aside {tag : UInt8} {t : Scene} (is : r.tag = tag)
      (other : tag ∉ [HelperTag.stateNo, HelperTag.pos, HelperTag.facing, redirectTag])
      (stays : s.roster.Stays t.roster) :
      ∃ word, Hears w.target.origin r word w s w t := ⟨.other, .other (is ▸ other), rfl, stays⟩
  have fault (f : Fault) (t : Scene) (_ : r.Leaves w.target.origin s t) : True := trivial
  unfold helperRecord
  split
  case h_1 tag =>
    refine Ends.bind (Visiting.ends_text fun name => ?_)
    exact ends_updateHelper (fun _ => rfl) fun t => aside tag (by decide)
  case h_2 tag =>
    refine Ends.bind (Visiting.ends_int (fun v t given => ?_) fault)
    exact ends_updateHelper (fun _ => rfl) fun u stays =>
      aside tag (by decide) (given.stays.trans stays)
  case h_3 tag =>
    exact Ends.bind (Visiting.ends_int (fun v t given =>
      ⟨.state v.toInt32, .state tag given, rfl, given.stays⟩) fault)
  case h_4 tag =>
    exact Ends.bind (Ends.bind (Visiting.ends_pair fun x y t given =>
      ⟨.offset x y, .offset tag given, rfl, given.stays⟩))
  case h_5 tag =>
    exact Ends.bind (Visiting.ends_int (fun v t given =>
      ⟨.facing v.toInt32, .facing tag given, rfl, given.stays⟩) fault)
  case h_6 tag =>
    refine Ends.bind (Ends.bind (Visiting.ends_pair fun x y t given => ?_))
    exact ends_updateHelper (fun _ => rfl) fun u stays =>
      aside tag (by decide) (given.stays.trans stays)
  case h_7 tag =>
    exact Ends.bind (Visiting.ends_bool (fun v t given =>
      aside tag (by decide) given.stays) fault)
  case h_8 notState notPos notFacing _ _ =>
    refine ⟨.other, .other ?_, rfl, .refl s.roster⟩
    simp only [List.mem_cons, List.not_mem_nil, or_false, not_or]
    exact ⟨notState, notPos, notFacing, plain⟩

/-- A redirect is followed, or it finds nobody and does nothing else. -/
theorem ends_redirect_heard (tag : r.tag = redirectTag) (here : w.target.origin = origin) :
    Ends ((Visiting.redirect r).run w) s
      (fun y t => (y.1 = true → Follows origin r w s y.2 t) ∧
        (y.1 = false → Misses origin s r ∧ y.2 = w ∧ s.roster.Stays t.roster))
      fun _ _ => True := by
  subst here
  refine Visiting.ends_redirect_of_scales (fun v t given missed => ⟨nofun, fun _ => ?_⟩)
    (fun v t id e chosen given named present there => ⟨fun _ => ?_, nofun⟩) fun _ _ _ => trivial
  · exact ⟨⟨tag, v, t, given, missed⟩, rfl, given.stays⟩
  · exact .mk tag given named present there

/-! ## Spawning -/

/-- **One helper was spawned**: it stands where its parent stands, and all others stay. -/
structure Spawned (parent : EntityId) (r r' : Roster) : Prop where
  spawned : ∃ p, r.get? parent = some p ∧
    (r'.get? r.nextHandle).map Entity.stance = some (p.pos, p.facing, true, some parent)
  order : r'.runOrder = r.runOrder ++ [r.nextHandle]
  others : ∀ id, id ≠ r.nextHandle →
    (r'.get? id).map Entity.stance = (r.get? id).map Entity.stance

namespace Spawned

variable {among among' among'' : Roster}

theorem of_spawnHelper {name : String} {result : Roster × EntityId}
    (success : among.spawnHelper parent name = some result) :
    result.2 = among.nextHandle ∧ Spawned parent among result.1 := by
  obtain ⟨p, root, present, -, -, rfl⟩ := Roster.Lineage.of_spawnHelper success
  refine ⟨rfl, ⟨p, present, ?_⟩, ?_, fun id other => ?_⟩
  · rw [Roster.get?_insert, if_pos rfl]
    rfl
  · show handles (among.entries ++ [_]) = _
    simp [handles, Roster.runOrder]
  · rw [Roster.get?_insert, if_neg (Ne.symm other)]

/-- Nothing happens behind it. -/
theorem and_stays (h : Spawned parent among among') (stays : among'.Stays among'') :
    Spawned parent among among'' where
  spawned := by
    obtain ⟨p, present, stance⟩ := h.spawned
    exact ⟨p, present, (stays.stances _).trans stance⟩
  order := stays.order.trans h.order
  others id other := (stays.stances id).trans (h.others id other)

/-- Nothing happens before it. -/
theorem of_stays (stays : among.Stays among') (h : Spawned parent among' among'') :
    Spawned parent among among'' where
  spawned := by
    obtain ⟨p, present, stance⟩ := h.spawned
    have same := stays.stances parent
    rw [present] at same
    obtain ⟨p', present', alike⟩ := Option.map_eq_some_iff.mp same.symm
    simp only [Entity.stance, Prod.mk.injEq] at alike
    rw [stays.nextHandle] at stance
    exact ⟨p', present', by rw [stance, alike.1, alike.2.1]⟩
  order := by rw [h.order, stays.order, stays.nextHandle]
  others id other := by
    rw [← stays.nextHandle] at other
    exact (h.others id other).trans (stays.stances id)

end Spawned

/-- The scene behind the attempt to spawn a helper. -/
def spawnScene (id : EntityId) (s : Scene) : Scene :=
  { s with roster := (spawnedUnder id s.roster).2 }

/-- A helper that exists is not spawned again. -/
theorem ensureSpawned_of_isSome (known : w.plan.spawned.isSome) :
    ensureSpawned.run w s = .ok (true, w) s := by
  show (if w.plan.spawned.isSome then pure true else spawn :
    Visiting HelperPlan Bool).run w s = _
  rw [if_pos known]
  rfl

theorem ends_ensureSpawned {done : Bool × Visit HelperPlan → Scene → Prop}
    (unknown : w.plan.spawned = none)
    (fails : s.roster.spawnHelper w.target.id helperName = none → done (false, w) s)
    (succeeds : Spawned w.target.id s.roster (spawnScene w.target.id s).roster →
      done (true, withHelper s.roster.nextHandle w) (spawnScene w.target.id s)) :
    Ends (ensureSpawned.run w) s done fun _ _ => True := by
  show Ends ((if w.plan.spawned.isSome then pure true else spawn :
    Visiting HelperPlan Bool).run w) s done _
  rw [unknown]
  show Ends (spawn.run w) s done _
  rw [spawn_run]
  refine Ends.step (a := (spawnedUnder w.target.id s.roster).1)
    (t := spawnScene w.target.id s) rfl ?_
  unfold spawnScene spawnedUnder at succeeds ⊢
  cases success : s.roster.spawnHelper w.target.id helperName with
  | none => exact fails success
  | some result =>
    obtain ⟨handle, spawned⟩ := Spawned.of_spawnHelper success
    rw [success] at succeeds
    have ended := succeeds spawned
    rw [← handle] at ended
    exact ended

/-! ## The first record and the others -/

/-- The scene in which a record is evaluated: the helper is spawned before all that is said about
    it, but behind a redirect. -/
def readyFor (r : ArgRecord) (w : Visit HelperPlan) (s : Scene) : Scene :=
  if r.tag = redirectTag ∨ w.plan.spawned.isSome then s else spawnScene w.target.id s

theorem hear_target {word : Word} (said : Says origin s r word) (plain : r.tag ≠ redirectTag) :
    (hear w word).target = w.target := by
  cases said with
  | redirect tag => exact absurd tag plain
  | _ => rfl

/-- **A later record** is heard, or it is a redirect that finds nobody. -/
theorem hears_of_handle (known : w.plan.spawned.isSome) (here : w.target.origin = origin) :
    Ends (((helperVisitor origin).handle r).run w) s
      (fun y t => (y.1 = true → ∃ word, Hears origin r word w s y.2 t) ∧
        (y.1 = false → Misses origin s r ∧ y.2 = w ∧ s.roster.Stays t.roster))
      fun _ _ => True := by
  by_cases tag : r.tag = redirectTag
  · rw [Visitor.handle, if_pos tag]
    refine Ends.bind ((ends_redirect_heard tag here).mono (fun y t heard => ?_) fun _ _ _ => ?_)
    · obtain ⟨goOn, x⟩ := y
      cases goOn with
      | false => exact ⟨nofun, heard.2⟩
      | true =>
        obtain ⟨word, said, rfl, stays⟩ := (heard.1 rfl).hears
        have still : (hear w word).plan.spawned.isSome := by
          rw [hear_spawned]
          exact known
        exact Ends.of_run (ensureSpawned_of_isSome still)
          ⟨fun _ => ⟨word, said, rfl, stays⟩, nofun⟩
    · trivial
  · rw [Visitor.handle, if_neg tag]
    refine Ends.step (ensureSpawned_of_isSome known) (Ends.bind ?_)
    refine (hears_helperRecord tag here).mono (fun y t heard => ?_) fun _ _ _ => trivial
    exact ⟨fun _ => heard, nofun⟩

/-- **Why no helper is spawned**: there is no record, or the first one is a redirect that finds
    nobody, or whom the helper would be spawned under can have no more of them. -/
inductive Barren (origin : EntityId) (s : Scene) : List ArgRecord → Prop
  | empty : Barren origin s []
  | missed {r : ArgRecord} {later : List ArgRecord} (misses : Misses origin s r) :
      Barren origin s (r :: later)
  | refused {r : ArgRecord} {later : List ArgRecord} (plain : r.tag ≠ redirectTag)
      (refusal : s.roster.spawnHelper origin helperName = none) : Barren origin s (r :: later)
  | refusedThere {r : ArgRecord} {later : List ArgRecord} {w : Visit HelperPlan} {t : Scene}
      (follows : Follows origin r (opening origin) s w t)
      (refusal : t.roster.spawnHelper w.target.id helperName = none) :
      Barren origin s (r :: later)

/-- **The first record** spawns the helper and is heard, or no helper is spawned at all. -/
theorem first_of_handle (origin : EntityId) (r : ArgRecord) (s : Scene) :
    Ends (((helperVisitor origin).handle r).run (opening origin)) s
      (fun y t => (y.1 = true → ∃ word, Says origin (readyFor r (opening origin) s) r word ∧
          y.2 = withHelper s.roster.nextHandle (hear (opening origin) word) ∧
          Spawned (hear (opening origin) word).target.id s.roster t.roster) ∧
        (y.1 = false → y.2.plan.spawned = none ∧ s.roster.Stays t.roster ∧
          ∀ later, Barren origin s (r :: later)))
      fun _ _ => True := by
  by_cases tag : r.tag = redirectTag
  · have ready : readyFor r (opening origin) s = s := if_pos (.inl tag)
    rw [Visitor.handle, if_pos tag, ready]
    refine Ends.bind ((ends_redirect_heard tag rfl).mono (fun y t heard => ?_) fun _ _ _ => ?_)
    · obtain ⟨goOn, x⟩ := y
      cases goOn with
      | false =>
        obtain ⟨misses, rfl, stays⟩ := heard.2 rfl
        exact ⟨nofun, fun _ => ⟨rfl, stays, fun later => .missed misses⟩⟩
      | true =>
        -- the redirect has been heard by the time the helper is spawned
        have follows := heard.1 rfl
        obtain ⟨word, said, rfl, stays⟩ := follows.hears
        have still : (hear (opening origin) word).plan.spawned = none := hear_spawned _ word
        refine ends_ensureSpawned still (fun refusal => ⟨nofun, fun _ => ?_⟩) fun spawned => ?_
        · exact ⟨still, stays, fun later => .refusedThere follows refusal⟩
        · refine ⟨fun _ => ⟨word, said, ?_, .of_stays stays spawned⟩, nofun⟩
          rw [stays.nextHandle]
    · trivial
  · have ready : readyFor r (opening origin) s = spawnScene origin s := by
      refine if_neg ?_
      rintro (redirects | known)
      · exact tag redirects
      · cases known
    rw [Visitor.handle, if_neg tag, ready]
    refine Ends.bind (ends_ensureSpawned rfl (fun refusal => ?_) fun spawned => ?_)
    · exact ⟨nofun, fun _ => ⟨rfl, .refl s.roster, fun later => .refused tag refusal⟩⟩
    · -- the helper is there before anything is heard
      have told := hears_helperRecord (w := withHelper s.roster.nextHandle (opening origin))
        (s := spawnScene origin s) tag rfl
      refine Ends.bind (told.mono (fun y t heard => ?_) fun _ _ _ => trivial)
      obtain ⟨word, said, heard, stays⟩ := heard
      refine ⟨fun _ => ⟨word, said, heard.trans (hear_withHelper _ _ word), ?_⟩, nofun⟩
      rw [hear_target said tag]
      exact spawned.and_stays stays

/-! ## All records -/

/-- **The words of some records**, each said in the scene in which the visit gets to it. -/
inductive Said (origin : EntityId) (s : Scene) : List ArgRecord → List Word → Prop
  | nil : Said origin s [] []
  | concat {rs : List ArgRecord} {words : List Word} {r : ArgRecord} {word : Word}
      {w : Visit HelperPlan} {t : Scene} (said : Said origin s rs words)
      (passes : (helperVisitor origin).Passes s rs w t)
      (last : Says origin (readyFor r w t) r word) : Said origin s (rs ++ [r]) (words ++ [word])

theorem spawner_concat {words : List Word} (nonempty : words ≠ []) (word : Word) :
    spawner origin (words ++ [word]) = spawner origin words := by
  cases words with
  | nil => exact absurd rfl nonempty
  | cons first rest => cases first <;> rfl

theorem spawner_singleton (origin : EntityId) (word : Word) :
    (hear (opening origin) word).target.id = spawner origin [word] := by
  cases word <;> rfl

/-- **All records are heard.** -/
theorem hears_of_passes (passes : (helperVisitor origin).Passes s rs w t) :
    (rs = [] ∧ w = opening origin ∧ t = s) ∨
      ∃ words, words ≠ [] ∧ Said origin s rs words ∧
        w = words.foldl hear (withHelper s.roster.nextHandle (opening origin)) ∧
        Spawned (spawner origin words) s.roster t.roster := by
  -- on the records from the front: the first one spawns the helper, the others find it there
  induction rs using List.reverseRecOn generalizing w t with
  | nil =>
    obtain ⟨rfl, rfl⟩ := Visitor.passes_nil.mp passes
    exact .inl ⟨rfl, rfl, rfl⟩
  | append_singleton rs r ih =>
    obtain ⟨x, u, before, handled⟩ := Visitor.passes_concat.mp passes
    right
    rcases ih before with ⟨rfl, rfl, rfl⟩ | ⟨words, nonempty, said, heard, spawned⟩
    · obtain ⟨word, last, rfl, spawned⟩ := ((first_of_handle origin r u).ok handled).1 rfl
      refine ⟨[word], nofun, .concat .nil before last, ?_, ?_⟩
      · exact (hear_withHelper _ _ word).symm
      · rwa [← spawner_singleton]
    · have known : x.plan.spawned.isSome := by
        rw [heard, heard_eq]
        rfl
      obtain ⟨word, last, rfl, stays⟩ :=
        ((hears_of_handle known before.origin_eq).ok handled).1 rfl
      have ready : readyFor r x u = u := if_pos (.inr known)
      rw [← ready] at last
      refine ⟨words ++ [word], by simp, .concat said before last, ?_, ?_⟩
      · rw [List.foldl_append, ← heard]
        rfl
      · rw [spawner_concat nonempty]
        exact spawned.and_stays stays

/-- Which records are redirects shows in the words. -/
theorem Says.redirects {word : Word} (said : Says origin s r word) :
    word.redirect?.isSome = (r.tag == redirectTag) := by
  cases said with
  | redirect tag =>
    rw [tag]
    rfl
  | state tag | offset tag | facing tag =>
    rw [tag]
    rfl
  | other tag =>
    simp only [List.mem_cons, List.not_mem_nil, or_false, not_or] at tag
    simp [Word.redirect?, tag.2.2.2]

theorem Said.redirects {words : List Word} (said : Said origin s rs words) :
    words.map (·.redirect?.isSome) = rs.map (·.tag == redirectTag) := by
  induction said with
  | nil => rfl
  | concat _ _ last ih =>
    rw [List.map_append, List.map_append, ih]
    exact congrArg (fun b => _ ++ [b]) last.redirects

/-- **The words that are heard** in a block: those of all records, or of those before a redirect
    that finds nobody. -/
inductive Heard (origin : EntityId) (args : ArgBlock) (s : Scene) (words : List Word) : Prop
  | whole (said : Said origin s (ArgBlock.read args).records words)
      (wellFormed : (ArgBlock.read args).malformedAt = none)
  | stopped {before later : List ArgRecord} {r : ArgRecord} {w : Visit HelperPlan} {t : Scene}
      (split : (ArgBlock.read args).records = before ++ r :: later)
      (said : Said origin s before words) (passes : (helperVisitor origin).Passes s before w t)
      (misses : Misses origin t r)

/-- **How the visit of a helper ends**: nobody was spawned, or one helper whose words were heard. -/
theorem hears_of_visit {finished : Bool}
    (visited : visitBlock origin args ((helperVisitor origin).plan s.roster)
      (helperVisitor origin).redirect (helperVisitor origin).record s = .ok (finished, w) t) :
    (w.plan.spawned = none ∧ s.roster.Stays t.roster ∧
        Barren origin s (ArgBlock.read args).records) ∨
      ∃ words, Heard origin args s words ∧
        w = words.foldl hear (withHelper s.roster.nextHandle (opening origin)) ∧
        Spawned (spawner origin words) s.roster t.roster := by
  rcases Visitor.exists_of_visit visited with
    ⟨-, finishes⟩ | ⟨before, r, later, x, u, -, split, passes, stops⟩
  · obtain ⟨passes, wellFormed⟩ := Visitor.finishes_iff.mp finishes
    rcases hears_of_passes passes with ⟨none, rfl, rfl⟩ | ⟨words, -, said, heard, spawned⟩
    · rw [none]
      exact .inl ⟨rfl, .refl _, .empty⟩
    · exact .inr ⟨words, .whole said wellFormed, heard, spawned⟩
  · rcases hears_of_passes passes with ⟨rfl, rfl, rfl⟩ | ⟨words, -, said, heard, spawned⟩
    · obtain ⟨unknown, stays, barren⟩ := ((first_of_handle origin r u).ok stops).2 rfl
      rw [split]
      exact .inl ⟨unknown, stays, barren later⟩
    · -- once the helper is there, only a redirect that finds nobody stops the visit
      have known : x.plan.spawned.isSome := by
        rw [heard, heard_eq]
        rfl
      obtain ⟨misses, rfl, stays⟩ := ((hears_of_handle known passes.origin_eq).ok stops).2 rfl
      exact .inr ⟨words, .stopped split said passes misses, heard, spawned.and_stays stays⟩

/-- Without a redirect behind the first record none is heard behind the first word. -/
theorem Heard.front {words : List Word} (heard : Heard origin args s words)
    (front : ∀ r ∈ (ArgBlock.read args).records.tail, r.tag ≠ redirectTag) :
    ∀ word ∈ words.tail, word.redirect? = none := by
  obtain ⟨rs, said, part⟩ : ∃ rs, Said origin s rs words ∧
      ∀ r ∈ rs.tail, r ∈ (ArgBlock.read args).records.tail := by
    cases heard with
    | whole said _ => exact ⟨_, said, fun _ member => member⟩
    | @stopped before later r _ _ split said _ _ =>
      refine ⟨before, said, fun x member => ?_⟩
      rw [split, List.tail_append_of_ne_nil (List.ne_nil_of_mem (List.mem_of_mem_tail member))]
      exact List.mem_append_left _ member
  intro word member
  have same := congrArg List.tail said.redirects
  rw [← List.map_tail, ← List.map_tail] at same
  have shown : word.redirect?.isSome ∈ rs.tail.map (·.tag == redirectTag) := by
    rw [← same]
    exact List.mem_map_of_mem member
  obtain ⟨r, among, tag⟩ := List.mem_map.mp shown
  have other : (r.tag == redirectTag) = false := beq_eq_false_iff_ne.mpr (front r (part r among))
  rw [other] at tag
  simpa using tag.symm

/-! ## Placing -/

/-- Whom a helper is placed at: whoever the last redirect leads to.  A helper that is redirected to
    itself stands where its parent stands. -/
def landmark (origin h : EntityId) (words : List Word) : EntityId :=
  if (lastAim origin words).1 = h then spawner origin words else (lastAim origin words).1

/-- Without a redirect behind the first record, the helper is placed at its parent. -/
theorem landmark_eq_spawner {words : List Word}
    (front : ∀ word ∈ words.tail, word.redirect? = none) :
    landmark origin h words = spawner origin words := by
  have aim : (lastAim origin words).1 = spawner origin words := by
    cases words with
    | nil => rfl
    | cons first rest =>
      have others : rest.filterMap Word.redirect? = [] := List.filterMap_eq_nil_iff.mpr front
      have redirects : (first :: rest).filterMap Word.redirect? = first.redirect?.toList := by
        rw [List.filterMap_cons, others]
        cases first <;> rfl
      rw [lastAim, redirects]
      cases first <;> rfl
  unfold landmark
  rw [aim, ite_self]

/-- What is found at the landmark when the visit is over is what stood there before. -/
theorem exists_landmark {words : List Word} {near : Entity} {r r' : Roster}
    (spawned : Spawned (spawner origin words) r r')
    (there : r'.get? (lastAim origin words).1 = some near) :
    ∃ before, r.get? (landmark origin r.nextHandle words) = some before ∧
      before.pos = near.pos ∧ before.facing = near.facing := by
  unfold landmark
  by_cases self : (lastAim origin words).1 = r.nextHandle
  · -- the helper itself, which stands where its parent stands
    rw [if_pos self]
    rw [self] at there
    obtain ⟨p, present, stance⟩ := spawned.spawned
    rw [there, Option.map_some, Option.some_inj] at stance
    simp only [Entity.stance, Prod.mk.injEq] at stance
    exact ⟨p, present, stance.1.symm, stance.2.1.symm⟩
  · rw [if_neg self]
    have stays := spawned.others _ self
    rw [there] at stays
    obtain ⟨before, present, stance⟩ := Option.map_eq_some_iff.mp stays.symm
    simp only [Entity.stance, Prod.mk.injEq] at stance
    exact ⟨before, present, stance.1, stance.2.1⟩

/-- **One helper was spawned and placed**: `e` under `p`, relative to `near`.  All others stay. -/
structure Placed (origin : EntityId) (words : List Word) (r r' : Roster) (p near e : Entity) :
    Prop where
  order : r'.runOrder = r.runOrder ++ [r.nextHandle]
  others : ∀ id, id ≠ r.nextHandle →
    (r'.get? id).map Entity.stance = (r.get? id).map Entity.stance
  parent : r.get? (spawner origin words) = some p
  landmark : r.get? (landmark origin r.nextHandle words) = some near
  present : r'.get? r.nextHandle = some e
  isHelper : e.isHelper
  under : e.parent = some (spawner origin words)
  placed : PlacedAt near words e

/-- **A helper that was spawned is placed** when the visit is over. -/
theorem placed_of_spawned {finished stop : Bool} {words : List Word}
    (heard : w = words.foldl hear (withHelper s.roster.nextHandle (opening origin)))
    (spawned : Spawned (spawner origin words) s.roster u.roster)
    (ended : (helperVisitor origin).finish finished w u = .ok stop t) :
    stop = false ∧ ∃ p near e, Placed origin words s.roster t.roster p near e := by
  obtain ⟨p, parent, stance⟩ := spawned.spawned
  obtain ⟨e, present, stands⟩ := Option.map_eq_some_iff.mp stance
  simp only [Entity.stance, Prod.mk.injEq] at stands
  rw [heard_eq] at heard
  subst heard
  -- the landmark and then the helper are looked up, and both are there
  obtain ⟨⟨⟩, v, ended, rest⟩ := exists_of_bind ended
  cases rest
  obtain ⟨near, there, ended⟩ := exists_of_entity_bind ended
  rw [update_of_get? _ present] at ended
  cases ended
  obtain ⟨before, found, pos, facing⟩ := exists_landmark spawned there
  let plan : HelperPlan :=
    ⟨some s.roster.nextHandle, lastState words, offset words, lastFacing words⟩
  refine ⟨rfl, p, before, plan.place near e, ?_⟩
  exact {
    order := (Roster.runOrder_modify _).trans spawned.order
    others := by
      intro id other
      rw [← spawned.others id other]
      exact congrArg _ ((Roster.get?_modify _).trans (if_neg other))
    parent := parent
    landmark := found
    present := get?_modify_of_get? _ present
    isHelper := stands.2.2.1
    under := stands.2.2.2
    placed := by
      constructor
      · rw [pos, facing]
        rfl
      · rw [pos]
        rfl
      · rw [facing]
        rfl
      · rfl }

/-! ## Helpers -/

/-- **Where a helper is placed.**  If the effect ends well, one helper was spawned, unless there is
    a reason for which nobody is, and then nobody has moved.  Its parent is the origin, or whoever a
    redirect in the first record leads to.  It is placed as the words of its block say, relative to
    whoever the last redirect leads to, and asks for the last state.  So it is placed relative to
    its parent as long as no redirect follows the first record. -/
theorem helper_placed {stop : Bool} (ended : EffectKind.helper.run origin args s = .ok stop t) :
    stop = false ∧
      ((Barren origin s (ArgBlock.read args).records ∧ s.roster.Stays t.roster) ∨
      ∃ words p near e, Heard origin args s words ∧
        Placed origin words s.roster t.roster p near e ∧
        ((∀ r ∈ (ArgBlock.read args).records.tail, r.tag ≠ redirectTag) → PlacedAt p words e)) := by
  obtain ⟨finished, w, u, visited, rest⟩ := Visitor.exists_of_run (v := helperVisitor origin) ended
  rcases hears_of_visit visited with ⟨unknown, stays, barren⟩ | ⟨words, heard, all, spawned⟩
  · obtain ⟨target, spawned, state, offset, facing⟩ := w
    subst unknown
    cases rest
    exact ⟨rfl, .inl ⟨barren, stays⟩⟩
  · obtain ⟨goes, p, near, e, placed⟩ := placed_of_spawned all spawned rest
    refine ⟨goes, .inr ⟨words, p, near, e, heard, placed, fun front => ?_⟩⟩
    -- the landmark is the parent, and so the helper is placed relative to it
    have same := placed.landmark
    rw [landmark_eq_spawner (heard.front front), placed.parent] at same
    obtain rfl : p = near := Option.some.inj same
    exact placed.placed

/-- A record that moves the helper ten ahead. -/
def tenAhead : ArgRecord := ⟨HelperTag.pos, [Expression.int 10]⟩

/-- A redirect to the second of two entities, which face each other. -/
def atSecond : ArgRecord := ⟨redirectTag, [Expression.int 57]⟩

/-- Behind a redirect that comes first, the helper is placed at its parent. -/
theorem helper_placed_behind_redirect :
    ∃ t, EffectKind.helper.run 0 (ArgBlock.ofRecords [atSecond, tenAhead]) Scene.duo =
        .ok false t ∧
      ∃ words p e, Heard 0 (ArgBlock.ofRecords [atSecond, tenAhead]) Scene.duo words ∧
        Scene.duo.roster.get? 1 = some p ∧ t.roster.get? 2 = some e ∧ e.parent = some 1 ∧
        PlacedAt p words e := by
  let v := helperVisitor 0
  have encodable : ∀ r ∈ [atSecond, tenAhead], r.Encodable := by decide
  obtain ⟨w, u, t, e, passes, finish, order, present, parent⟩ : ∃ w u t e,
      v.Passes Scene.duo [atSecond, tenAhead] w u ∧ v.finish true w u = .ok false t ∧
      t.roster.runOrder = [0, 1, 2] ∧ t.roster.get? 2 = some e ∧ e.parent = some 1 :=
    ⟨_, _, _, _, rfl, rfl, rfl, rfl, rfl⟩
  have ended := (passes.finishes encodable).run_eq.trans finish
  refine ⟨t, ended, ?_⟩
  rcases (helper_placed ended).2 with ⟨-, stays⟩ | ⟨words, p, near, e', heard, placed, front⟩
  · -- there are three entities now
    rw [stays.order] at order
    cases order
  · rw [ArgBlock.read_ofRecords encodable] at front
    obtain rfl : e = e' := Option.some.inj (present.symm.trans placed.present)
    have spawner := placed.parent
    rw [← Option.some.inj (parent.symm.trans placed.under)] at spawner
    exact ⟨words, p, e, heard, spawner, present, parent, front (by decide)⟩

/-- **A helper is placed away from its parent** if a redirect follows: ten ahead of the second
    entity, which faces the first one, although the first one is its parent. -/
theorem helper_placed_elsewhere :
    ∃ t words p e, EffectKind.helper.run 0 (ArgBlock.ofRecords [tenAhead, atSecond]) Scene.duo =
        .ok false t ∧
      Heard 0 (ArgBlock.ofRecords [tenAhead, atSecond]) Scene.duo words ∧
      Scene.duo.roster.get? 0 = some p ∧ t.roster.get? 2 = some e ∧ e.parent = some 0 ∧
      p.pos.x + (offset words).x * p.facing = .ofInt32 10 ∧ e.pos.x = -.ofInt32 10 ∧
      ¬ PlacedAt p words e := by
  let v := helperVisitor 0
  have encodable : ∀ r ∈ [tenAhead, atSecond], r.Encodable := by decide
  obtain ⟨words, p, said, parent, ahead⟩ : ∃ words p,
      Said 0 Scene.duo [tenAhead, atSecond] words ∧ Scene.duo.roster.get? 0 = some p ∧
      p.pos.x + (offset words).x * p.facing = .ofInt32 10 := by
    have first : Said 0 Scene.duo [tenAhead] _ :=
      .concat .nil rfl (.offset rfl (.alone ⟨_, rfl, rfl⟩ rfl))
    exact ⟨_, _, .concat first rfl (.redirect rfl ⟨_, rfl, rfl⟩ rfl rfl rfl), rfl, by decide⟩
  obtain ⟨w, u, t, e, passes, finish, present, under, behind⟩ : ∃ w u t e,
      v.Passes Scene.duo [tenAhead, atSecond] w u ∧ v.finish true w u = .ok false t ∧
      t.roster.get? 2 = some e ∧ e.parent = some 0 ∧ e.pos.x = -.ofInt32 10 :=
    ⟨_, _, _, _, rfl, rfl, rfl, rfl, by decide⟩
  have heard : Heard 0 (ArgBlock.ofRecords [tenAhead, atSecond]) Scene.duo words := by
    refine .whole ?_ ?_
    · rwa [ArgBlock.read_ofRecords encodable]
    · rw [ArgBlock.read_ofRecords encodable]
  refine ⟨t, words, p, e, (passes.finishes encodable).run_eq.trans finish, heard, parent, present,
    under, ahead, behind, fun placed => ?_⟩
  -- it would have to stand on both sides
  have both : (-.ofInt32 10 : Single) = .ofInt32 10 := behind.symm.trans (placed.x.trans ahead)
  exact absurd both (by decide)

end Effect
end TickScript
