import TickScript.Proofs.Effect.Visiting

/-! # Visits within a footprint

    A visit of records that only reads stays within every footprint that the evaluation of
    expressions stays within, also if it fails.  What is left to show of an effect that acts once is
    that its act stays within the footprint (`Footprint.keeps_afterVisit`), or how the act ends
    behind a visit that nothing stopped (`Footprint.ends_afterVisit`).
-/

namespace TickScript

variable {F : Footprint Scene} {σ α β : Type}

/-- **The action stays within the footprint**, whatever target and plan. -/
def Visiting.Within (F : Footprint Scene) (x : Visiting σ α) : Prop := ∀ v, F.Keeps (x.run v)

namespace Visiting.Within

variable {x y : Visiting σ α} {f : α → Visiting σ β}

theorem pure (a : α) : Within F (Pure.pure a : Visiting σ α) := fun _ => .pure _

theorem bind (hx : Within F x) (hf : ∀ a, Within F (f a)) : Within F (x >>= f) :=
  fun v => (hx v).bind fun r => hf r.1 r.2

theorem ite {c : Prop} [Decidable c] (hx : Within F x) (hy : Within F y) :
    Within F (if c then x else y) := by
  split
  · exact hx
  · exact hy

/-- An action of scenes inside a visit. -/
theorem lift {a : Act α} (h : F.Keeps a) : Within F (liftM a : Visiting σ α) :=
  fun _ => h.bind fun _ => .pure _

theorem modify (g : Visit σ → Visit σ) : Within F (modify g : Visiting σ PUnit) := fun _ => .pure _

theorem revise (g : σ → σ) : Within F (Visiting.revise g) := modify _

theorem target : Within F (Visiting.target : Visiting σ Target) := fun _ => .pure _

theorem text (r : ArgRecord) : Within F (Visiting.text r : Visiting σ String) :=
  (lift (Footprint.keeps_ofExcept _)).bind fun _ => pure _

theorem visitRecords {visit : ArgRecord → Visiting σ Bool} (visited : ∀ r, Within F (visit r))
    (records : List ArgRecord) : Within F (ArgBlock.visitRecords visit records) := by
  induction records with
  | nil => exact pure _
  | cons r rest ih => exact (visited r).bind fun _ => ite ih (pure _)

/-! ## Arguments -/

section

variable (evaluate : ∀ code id, F.Keeps (Act.evaluate code id)) (r : ArgRecord)

include evaluate

theorem argument (n : Nat) : Within F (Visiting.argument r n : Visiting σ Value) :=
  (lift (Footprint.keeps_ofExcept _)).bind fun code v =>
    lift (evaluate code v.target.origin) v

theorem int : Within F (Visiting.int r : Visiting σ Int32) :=
  (argument evaluate r 0).bind fun _ => pure _

theorem single : Within F (Visiting.single r : Visiting σ Single) :=
  (argument evaluate r 0).bind fun _ => pure _

theorem redirect : Within F (Visiting.redirect r : Visiting σ Bool) := by
  refine (int evaluate r).bind fun scriptId => (lift Footprint.keeps_roster).bind fun among => ?_
  cases among.withScriptId scriptId with
  | none => exact pure _
  | some id =>
    exact target.bind fun t => (lift (Footprint.keeps_entity t.origin)).bind fun _ =>
      (lift (Footprint.keeps_entity id)).bind fun _ => (modify _).bind fun _ => pure _

end

end Visiting.Within

namespace Footprint

open Visiting (Within)

variable {origin : EntityId} {args : ArgBlock} {plan : σ}

/-- **A visit stays within the footprint** if both of its handlers do. -/
theorem keeps_visitBlock {redirect visit : ArgRecord → Visiting σ Bool}
    (redirected : ∀ r, Within F (redirect r)) (visited : ∀ r, Within F (visit r)) :
    F.Keeps (visitBlock origin args plan redirect visit) := by
  have walked : Within F (ArgBlock.walk args fun r =>
      if r.tag = redirectTag then redirect r else visit r) := by
    refine (Within.visitRecords (fun r => .ite (redirected r) (visited r)) _).bind fun _ =>
      .ite ?_ (.pure _)
    cases (ArgBlock.read args).malformedAt with
    | none => exact .pure _
    | some offset => exact .lift (.throw _)
  exact walked _

section

variable (evaluate : ∀ code id, F.Keeps (Act.evaluate code id))
  {visit : ArgRecord → Visiting σ Unit} (visited : ∀ r, Within F (visit r))
  {act : Target → σ → Act Unit}

include evaluate visited

/-- **An effect that acts once** does so behind a visit that nothing stopped; whatever else happens,
    it stays within the footprint. -/
theorem ends_afterVisit {s : Scene} {done : Unit → Scene → Prop} {failed : Fault → Scene → Prop}
    (quiet : ∀ t, F.allows s t → done () t) (fault : ∀ f t, F.allows s t → failed f t)
    (acts : ∀ w t, F.allows s t → visitBlock origin args plan Visiting.redirect
      (fun r => do visit r; return true) s = .ok (true, w) t →
        Ends (act w.target w.plan) t done failed) :
    Ends (afterVisit origin args plan visit act) s done failed := by
  have within : F.Keeps (visitBlock origin args plan Visiting.redirect
      fun r => do visit r; return true) :=
    keeps_visitBlock (.redirect evaluate) fun r => (visited r).bind fun _ => .pure _
  -- a visit that fails or is stopped has no act behind it
  cases run : visitBlock origin args plan Visiting.redirect
      (fun r => do visit r; return true) s with
  | error f t =>
    have failing : afterVisit origin args plan visit act s = .error f t := bind_of_error run
    rw [Ends, failing]
    exact fault f t (within.error run)
  | ok result t =>
    obtain ⟨finished, w⟩ := result
    refine Ends.step run ?_
    cases finished with
    | true => exact acts w t (within.ok run) run
    | false => exact quiet t (within.ok run)

theorem keeps_afterVisit (acts : ∀ t p, F.Keeps (act t p)) :
    F.Keeps (afterVisit origin args plan visit act) := by
  intro s
  refine ends_afterVisit evaluate visited (fun _ kept => kept) (fun _ _ kept => kept) ?_
  intro w t kept _
  exact (acts w.target w.plan t).mono (fun _ _ => F.trans kept) fun _ _ => F.trans kept

end

end Footprint
end TickScript
