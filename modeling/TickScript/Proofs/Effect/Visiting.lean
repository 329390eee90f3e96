import TickScript.Effect.Target
import TickScript.Proofs.Roster.Deeds
import TickScript.Proofs.Scene

/-! # What visits are made of

    Effects touch the machine only through the expressions that they evaluate, and the roster only
    by deeds; beside that they read and write files, and print.  `Act.Composed` is the predicate of
    actions that are made of these.  Whatever is kept by each kind of action and by
    sequences is kept by every effect, by induction on it.

    The step that runs when a state is entered is made of fewer kinds of actions: its only deeds
    are edits, and it does not print.  So the predicate has a parameter, which says whether the
    others are among the kinds.

    This module carries the predicate through the actions that effects are written in.  A visit
    has a state of its own, its target and its plan; `Visiting.Composed` is the predicate for every
    such state.  It also says that the visit stays with its origin: a redirect chooses another
    target, but expressions are evaluated for the same entity from the first record to the last.
-/

namespace TickScript

variable {σ α β γ : Type}

/-! ## Actions on one part of the scene -/

namespace Act

/-- Reads and changes the roster. -/
def onRoster (g : Roster → γ × Roster) : Act γ := fun s =>
  .ok (g s.roster).1 { s with roster := (g s.roster).2 }

/-- Reads and changes the files. -/
def onFiles (g : FileTree → γ × FileTree) : Act γ := fun s =>
  .ok (g s.files).1 { s with files := (g s.files).2 }

/-- **Made of the actions of effects**; without `all`, of those among them that read, evaluate
    expressions and edit entities. -/
inductive Composed (all : Prop) : {α : Type} → Act α → Prop
  | pure {α : Type} (a : α) : Composed all (Pure.pure a)
  | throw {α : Type} (f : Fault) : Composed all (throw f : Act α)
  | bind {α β : Type} {x : Act α} {f : α → Act β} (first : Composed all x)
      (rest : ∀ a, Composed all (f a)) : Composed all (x >>= f)
  /-- What follows a look at the machine does not depend on the profile. -/
  | machine {α : Type} {f : Machine → Act α} (blind : ∀ m p, f { m with profile := p } = f m)
      (rest : ∀ m, Composed all (f m)) : Composed all (Act.machine >>= f)
  | evaluate (code : Expression) (id : EntityId) : Composed all (Act.evaluate code id)
  | roster : Composed all Act.roster
  | update (id : EntityId) {f : Entity → Entity} (edited : ∀ e : Entity, e.Edited (f e)) :
      Composed all (Act.update id f)
  | onRoster (among : all) {γ : Type} {g : Roster → γ × Roster}
      (deeds : ∀ r : Roster, r.Deeds (g r).2) : Composed all (Act.onRoster g)
  | onFiles (among : all) {γ : Type} (g : FileTree → γ × FileTree) : Composed all (Act.onFiles g)
  | print (among : all) (playerNo : Nat) (line : String) : Composed all (Act.print playerNo line)

namespace Composed

variable {all : Prop} {x y : Act α}

theorem ofExcept (x : Except Fault α) : Composed all (Act.ofExcept x) := by
  cases x with
  | ok a => exact .pure a
  | error f => exact .throw f

theorem entity (id : EntityId) : Composed all (Act.entity id) :=
  roster.bind fun r => ofExcept (r.get id)

theorem ite {c : Prop} [Decidable c] (hx : Composed all x) (hy : Composed all y) :
    Composed all (if c then x else y) := by
  split
  · exact hx
  · exact hy

theorem random (among : all) (a b : Int32) : Composed all (Act.random a b) :=
  onRoster among (g := fun r => r.random a b) fun _ => .single (.random a b)

end Composed
end Act

/-! ## Visits -/

/-- **A visit is composed**, whatever its target and its plan, and stays with its origin. -/
structure Visiting.Composed (x : Visiting σ α) : Prop where
  acts : ∀ v, Act.Composed True (x.run v)
  origin : ∀ v s, Ends (x.run v) s (fun r _ => r.2.target.origin = v.target.origin) fun _ _ => True

namespace Visiting.Composed

variable {x y : Visiting σ α} {f : α → Visiting σ β}

theorem pure (a : α) : Composed (Pure.pure a : Visiting σ α) := ⟨fun _ => .pure _, fun _ _ => rfl⟩

theorem bind (hx : Composed x) (hf : ∀ a, Composed (f a)) : Composed (x >>= f) where
  acts v := (hx.acts v).bind fun r => (hf r.1).acts r.2
  origin v s := by
    refine Ends.bind ((hx.origin v s).mono (fun r t first => ?_) fun _ _ _ => trivial)
    exact ((hf r.1).origin r.2 t).mono (fun _ _ second => second.trans first) fun _ _ _ => trivial

theorem get : Composed (get : Visiting σ (Visit σ)) := ⟨fun _ => .pure _, fun _ _ => rfl⟩

theorem modify {g : Visit σ → Visit σ} (kept : ∀ v, (g v).target.origin = v.target.origin) :
    Composed (modify g : Visiting σ PUnit) :=
  ⟨fun _ => .pure _, fun v _ => kept v⟩

/-- An action of scenes inside a visit. -/
theorem lift {a : Act α} (h : Act.Composed True a) : Composed (liftM a : Visiting σ α) :=
  ⟨fun _ => h.bind fun _ => .pure _, fun _ _ => Ends.last fun _ _ => rfl⟩

theorem ite {c : Prop} [Decidable c] (hx : Composed x) (hy : Composed y) :
    Composed (if c then x else y) := by
  split
  · exact hx
  · exact hy

theorem mapM {f : α → Visiting σ β} (h : ∀ a, Composed (f a)) (items : List α) :
    Composed (items.mapM f) := by
  induction items with
  | nil => exact pure _
  | cons a rest ih =>
    rw [List.mapM_cons]
    exact bind (h a) fun _ => bind ih fun _ => pure _

theorem machine {f : Machine → Visiting σ α} (blind : ∀ m p, f { m with profile := p } = f m)
    (rest : ∀ m, Composed (f m)) : Composed (liftM Act.machine >>= f) where
  acts v := by
    have run : Act.Composed True (Act.machine >>= fun m => (f m).run v) :=
      .machine (fun m p => by rw [blind m p]) fun m => (rest m).acts v
    exact run
  origin v s := by
    have run : (liftM Act.machine >>= f : Visiting σ α).run v s = (f s.machine).run v s := rfl
    have ended := (rest s.machine).origin v s
    unfold Ends at ended ⊢
    rwa [run]

theorem revise (g : σ → σ) : Composed (Visiting.revise g) := modify fun _ => rfl

theorem target : Composed (Visiting.target : Visiting σ Target) := bind get fun _ => pure _

theorem plan : Composed (Visiting.plan : Visiting σ σ) := bind get fun _ => pure _

theorem targetEntity : Composed (Visiting.targetEntity : Visiting σ Entity) :=
  bind target fun t => lift (.entity t.id)

/-! ## Arguments -/

section

variable (r : ArgRecord)

theorem text : Composed (Visiting.text r : Visiting σ String) :=
  bind (lift (.ofExcept _)) fun _ => pure _

theorem evaluate (code : Expression) : Composed (Visiting.evaluate code : Visiting σ Value) :=
  get.bind fun v => .lift (.evaluate code v.target.origin)

theorem argument (n : Nat) : Composed (Visiting.argument r n : Visiting σ Value) :=
  bind (.lift (.ofExcept _)) fun code => evaluate code

theorem argument? (n : Nat) : Composed (Visiting.argument? r n : Visiting σ (Option Value)) := by
  unfold Visiting.argument?
  split
  · exact (evaluate _).bind fun _ => .pure _
  · exact .pure _

theorem int : Composed (Visiting.int r : Visiting σ Int32) := (argument r 0).bind fun _ => .pure _

theorem single : Composed (Visiting.single r : Visiting σ Single) :=
  (argument r 0).bind fun _ => .pure _

theorem bool : Composed (Visiting.bool r : Visiting σ Bool) := (argument r 0).bind fun _ => .pure _

theorem pair : Composed (Visiting.pair r : Visiting σ (Single × Option Single)) :=
  (single r).bind fun _ => (argument? r 1).bind fun _ => .pure _

theorem updateTarget {f : Entity → Entity} (edited : ∀ e : Entity, e.Edited (f e)) :
    Composed (Visiting.updateTarget f : Visiting σ Unit) :=
  target.bind fun t => .lift (.update t.id edited)

/-- Another target for the same origin. -/
theorem follow (id : EntityId) : Composed (do
    let t ← Visiting.target
    let origin ← Act.entity t.origin
    let chosen ← Act.entity id
    MonadStateOf.modifyGet fun v : Visit σ => ((),
      { v with target := { t with id := id, ratio := origin.localScale / chosen.localScale } })
    return true : Visiting σ Bool) where
  acts v :=
    ((Act.Composed.entity v.target.origin).bind fun _ => .pure _).bind fun _ =>
      ((Act.Composed.entity id).bind fun _ => .pure _).bind fun _ => .pure _
  origin _ _ := Ends.last fun _ _ => Ends.last fun _ _ => rfl

theorem redirect : Composed (Visiting.redirect r : Visiting σ Bool) := by
  refine (int r).bind fun scriptId => (lift .roster).bind fun roster => ?_
  cases roster.withScriptId scriptId with
  | none => exact .pure _
  | some id => exact follow id

end

theorem visitRecords {visit : ArgRecord → Visiting σ Bool} (visited : ∀ r, Composed (visit r))
    (records : List ArgRecord) : Composed (ArgBlock.visitRecords visit records) := by
  induction records with
  | nil => exact .pure _
  | cons r rest ih => exact (visited r).bind fun _ => .ite ih (.pure _)

/-! ## Targets of the attacker -/

theorem redirectSelection (r : ArgRecord) :
    Composed (Selection.redirect r : Visiting (Selection σ) Bool) :=
  (redirect r).bind fun _ => .ite
    ((lift .roster).bind fun _ => target.bind fun _ => (revise _).bind fun _ => .pure _)
    (.pure _)

theorem narrow (r : ArgRecord) : Composed (Selection.narrow r : Visiting (Selection σ) Bool) :=
  plan.bind fun _ => .ite (.pure _)
    ((int r).bind fun _ => (lift .roster).bind fun _ => target.bind fun _ =>
      (revise _).bind fun _ => .pure _)

theorem each {act : List EntityId → Visiting (Selection σ) Unit}
    (acted : ∀ ids, Composed (act ids)) : Composed (Selection.each act) :=
  plan.bind fun _ => .ite (.pure _) ((acted _).bind fun _ => .pure _)

/-- The same change of several entities. -/
theorem updateAll {f : Entity → Entity} (ids : List EntityId)
    (edited : ∀ e : Entity, e.Edited (f e)) :
    Composed (ids.forM (fun t => Act.update t f) : Visiting σ PUnit) := by
  induction ids with
  | nil => exact .pure _
  | cons id rest ih => exact (lift (.update id edited)).bind fun _ => ih

end Visiting.Composed

/-! ## Visits of blocks -/

/-- **A visit is composed** if both of its handlers are. -/
theorem composed_visitBlock {visit redirect : ArgRecord → Visiting σ Bool}
    (redirected : ∀ r, Visiting.Composed (redirect r)) (visited : ∀ r, Visiting.Composed (visit r))
    (origin : EntityId) (args : ArgBlock) (plan : σ) :
    Act.Composed True (visitBlock origin args plan redirect visit) := by
  have handled (r : ArgRecord) :
      Visiting.Composed (if r.tag = redirectTag then redirect r else visit r) :=
    .ite (redirected r) (visited r)
  have walked : Visiting.Composed (ArgBlock.walk args fun r =>
      if r.tag = redirectTag then redirect r else visit r) := by
    refine (Visiting.Composed.visitRecords handled _).bind fun finished => .ite ?_ (.pure _)
    cases (ArgBlock.read args).malformedAt with
    | none => exact .pure _
    | some offset => exact .lift (.throw _)
  exact walked.acts _

end TickScript
