import TickScript.Proofs.Effect.Records
import TickScript.Proofs.Eval.Counted

/-! # Actions that land on one entity

    Evaluating an expression without instructions on stores changes no entity, and changing the
    target of a visit changes no other one.  So an action of a visit that is made of these lands on
    the target, and stays with it: `Visiting.Lands` has a rule for each way to build one.

    A redirect chooses the target and changes nobody (`Visiting.Leads`).  What follows it within the
    visit lands on the entity that it leads to.
-/

namespace TickScript

/-! ## Everybody else -/

/-- **Only one entity is changed**, and the same entities are live. -/
structure Roster.ChangesOnly (id : EntityId) (r r' : Roster) : Prop where
  live : r'.runOrder = r.runOrder
  others : ∀ other, other ≠ id → r'.get? other = r.get? other

namespace Roster.ChangesOnly

variable {id : EntityId} {r r' r'' : Roster}

theorem of_entries (same : r'.entries = r.entries) : r.ChangesOnly id r' where
  live := congrArg handles same
  others other _ := by rw [get?, get?, same]

theorem trans (h : r.ChangesOnly id r') (h' : r'.ChangesOnly id r'') : r.ChangesOnly id r'' where
  live := h'.live.trans h.live
  others other ne := (h'.others other ne).trans (h.others other ne)

theorem modify (f : Entity → Entity) : r.ChangesOnly id (r.modify id f) where
  live := runOrder_modify f
  others other ne := by rw [get?_modify, if_neg ne]

end Roster.ChangesOnly

namespace Footprint

variable {id : EntityId} {s t : Scene}

/-- **The changes of one entity**, as long as no instruction on stores is counted. -/
def landing (id : EntityId) : Footprint Scene :=
  uncounted (·.machine.profile)
    { allows := fun s t => s.roster.ChangesOnly id t.roster
      refl := fun _ => .of_entries rfl
      trans := .trans }

theorem landing_of_changesOnly (machine : t.machine = s.machine)
    (only : s.roster.ChangesOnly id t.roster) : (landing id).allows s t :=
  uncounted_of_same (congrArg Machine.profile machine) only

theorem keeps_evaluate_landing (code : Expression) (origin : EntityId) :
    (landing id).Keeps (Act.evaluate code origin) := by
  intro s
  have lands {b : Bench} (spares : Eval.sparing.allows s.bench b) :
      (landing id).allows s (s.withBench b) := by
    intro enabled
    obtain ⟨enabled', before⟩ := spares enabled
    refine ⟨enabled', fun none => ?_⟩
    exact ⟨(before none).1, .of_entries (before none).2⟩
  have spared : Eval.sparing.Keeps
      (Eval.eval (Act.context s.machine) s.machine.budget code origin) :=
    Eval.keeps_eval_sparing s.machine.budget code origin
  exact ends_evaluate ((spared s.bench).mono (fun _ _ => lands) fun _ _ => lands)

theorem keeps_update_landing (f : Entity → Entity) : (landing id).Keeps (Act.update id f) :=
  keeps_update fun _ => landing_of_changesOnly rfl (.modify f)

theorem keeps_random_landing (low high : Int32) : (landing id).Keeps (Act.random low high) :=
  fun _ => landing_of_changesOnly rfl (.of_entries rfl)

end Footprint

namespace Visiting

open Footprint (landing)

variable {σ α β : Type}

/-! ## Actions of visits -/

/-- **An action lands on the target**, which stays the target. -/
def Lands (x : Visiting σ α) : Prop :=
  ∀ v s, Ends (x.run v) s
    (fun r t => r.2.target.id = v.target.id ∧ (landing v.target.id).allows s t)
    fun _ t => (landing v.target.id).allows s t

namespace Lands

variable {x y : Visiting σ α} {f : α → Visiting σ β}

theorem pure (a : α) : Lands (Pure.pure a : Visiting σ α) := fun _ s => ⟨rfl, Footprint.refl _ s⟩

theorem bind (hx : Lands x) (hf : ∀ a, Lands (f a)) : Lands (x >>= f) := by
  intro v s
  refine Ends.bind ((hx v s).mono (fun r t first => ?_) fun _ _ first => first)
  obtain ⟨target, lands⟩ := first
  -- the rest has the same target, and so the same footprint
  have rest := hf r.1 r.2 t
  rw [target] at rest
  refine rest.mono (fun _ _ second => ?_) fun _ _ => Footprint.trans _ lands
  exact ⟨second.1, Footprint.trans _ lands second.2⟩

theorem ite {c : Prop} [Decidable c] (hx : Lands x) (hy : Lands y) :
    Lands (if c then x else y) := by
  by_cases holds : c
  · rw [if_pos holds]
    exact hx
  · rw [if_neg holds]
    exact hy

/-- An action of scenes inside a visit. -/
theorem lift {a : Act α} (h : ∀ id, (landing id).Keeps a) : Lands (liftM a : Visiting σ α) := by
  intro v s
  refine Ends.bind ((h v.target.id s).mono (fun a t lands => ?_) fun _ _ lands => lands)
  exact ⟨rfl, lands⟩

theorem revise (g : σ → σ) : Lands (Visiting.revise g) := fun _ s => ⟨rfl, Footprint.refl _ s⟩

theorem target : Lands (Visiting.target : Visiting σ Target) :=
  fun _ s => ⟨rfl, Footprint.refl _ s⟩

theorem plan : Lands (Visiting.plan : Visiting σ σ) := fun _ s => ⟨rfl, Footprint.refl _ s⟩

theorem roster : Lands (liftM Act.roster : Visiting σ Roster) :=
  lift fun _ => Footprint.keeps_roster

theorem machine : Lands (liftM Act.machine : Visiting σ Machine) :=
  lift fun _ => Footprint.keeps_machine

theorem entity (id : EntityId) : Lands (liftM (Act.entity id) : Visiting σ Entity) :=
  lift fun _ => Footprint.keeps_entity id

theorem ofExcept (x : Except Fault α) : Lands (liftM (Act.ofExcept x) : Visiting σ α) :=
  lift fun _ => Footprint.keeps_ofExcept x

theorem targetEntity : Lands (Visiting.targetEntity : Visiting σ Entity) :=
  target.bind fun t => entity t.id

/-- A change of the target. -/
theorem updateTarget (f : Entity → Entity) : Lands (Visiting.updateTarget f : Visiting σ Unit) := by
  intro v s
  have kept : (landing v.target.id).Keeps (Act.update v.target.id f) :=
    Footprint.keeps_update_landing f
  exact Ends.bind ((kept s).mono (fun _ _ lands => ⟨rfl, lands⟩) fun _ _ lands => lands)

theorem mapM {f : α → Visiting σ β} (h : ∀ a, Lands (f a)) (items : List α) :
    Lands (items.mapM f) := by
  induction items with
  | nil => exact pure _
  | cons a rest ih =>
    rw [List.mapM_cons]
    exact bind (h a) fun _ => bind ih fun _ => pure _

theorem visitRecords {visit : ArgRecord → Visiting σ Bool} {records : List ArgRecord}
    (visited : ∀ r ∈ records, Lands (visit r)) : Lands (ArgBlock.visitRecords visit records) := by
  induction records with
  | nil => exact pure _
  | cons r rest ih =>
    obtain ⟨first, others⟩ := List.forall_mem_cons.mp visited
    exact first.bind fun _ => ite (ih others) (pure _)

/-! ## Arguments -/

/-- Expressions are evaluated for the origin, whoever the target is. -/
theorem evaluate (code : Expression) : Lands (Visiting.evaluate code : Visiting σ Value) :=
  fun v s => lift (fun _ => Footprint.keeps_evaluate_landing code v.target.origin) v s

section

variable (r : ArgRecord)

theorem argument (n : Nat) : Lands (Visiting.argument r n : Visiting σ Value) :=
  (ofExcept _).bind fun code => evaluate code

theorem argument? (n : Nat) : Lands (Visiting.argument? r n : Visiting σ (Option Value)) := by
  unfold Visiting.argument?
  cases r.expressions[n]? with
  | some code => exact (evaluate code).bind fun _ => pure _
  | none => exact pure _

theorem int : Lands (Visiting.int r : Visiting σ Int32) := (argument r 0).bind fun _ => pure _

theorem single : Lands (Visiting.single r : Visiting σ Single) :=
  (argument r 0).bind fun _ => pure _

theorem bool : Lands (Visiting.bool r : Visiting σ Bool) := (argument r 0).bind fun _ => pure _

theorem pair : Lands (Visiting.pair r : Visiting σ (Single × Option Single)) :=
  (single r).bind fun _ => (argument? r 1).bind fun _ => pure _

theorem text : Lands (Visiting.text r : Visiting σ String) := (ofExcept _).bind fun _ => pure _

end

end Lands

/-! ## Redirects -/

variable {r : ArgRecord} {w : Visit σ} {x : Visiting σ Bool}

/-- **A redirect leads to its entity**: started in the visit, it makes that entity the target, and
    changes nobody else. -/
def Leads (r : ArgRecord) (w : Visit σ) (x : Visiting σ Bool) : Prop :=
  ∀ s v u id, r.Gives w.target.origin s v u → u.roster.withScriptId v.toInt32 = some id →
    Ends (x.run w) s (fun y t => y.2.target.id = id ∧ (landing id).allows s t)
      fun _ t => (landing id).allows s t

namespace Leads

theorem redirect (r : ArgRecord) (w : Visit σ) : Leads r w (Visiting.redirect r) := by
  intro s v u id given found
  have left {t : Scene} (left : r.Leaves w.target.origin s t) : (landing id).allows s t :=
    left.within fun code => Footprint.keeps_evaluate_landing code _
  refine ends_redirect ?_ ?_ ?_
  · intro v' t given' missed
    obtain ⟨rfl, rfl⟩ := given.unique given'
    rw [found] at missed
    cases missed
  · intro v' t id' ratio given' found'
    obtain ⟨rfl, rfl⟩ := given.unique given'
    obtain rfl : id = id' := Option.some.inj (found.symm.trans found')
    exact ⟨rfl, left given.leaves⟩
  · exact fun _ _ => left

/-- What follows a redirect lands where it leads to. -/
theorem bind {f : Bool → Visiting σ Bool} (first : Leads r w x) (rest : ∀ a, Lands (f a)) :
    Leads r w (x >>= f) := by
  intro s v u id given found
  refine Ends.bind ((first s v u id given found).mono (fun y t left => ?_) fun _ _ lands => lands)
  obtain ⟨rfl, lands⟩ := left
  refine (rest y.1 y.2 t).mono (fun _ _ second => ?_) fun _ _ => Footprint.trans _ lands
  exact ⟨second.1, Footprint.trans _ lands second.2⟩

end Leads
end Visiting
end TickScript
