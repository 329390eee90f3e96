import TickScript.Proofs.Effect.Helpers

/-! # Redirects to nobody

    A redirect names its target by script id.  If nobody who is live has that id, the visit stops:
    nothing of what follows in the block is looked at, and what the effect would do at its end is
    not done.  So effects that act once only have evaluated the expressions that they met.

    Two effects differ.  A new helper exists from the first record on, and it is placed even so;
    and a projectile is redirected by the first record only.
-/

namespace TickScript

/-- **A redirect to nobody.**  Its script id is evaluated for the origin, from the scene `t` to the
    scene `u`, and nobody who is live then has it. -/
structure ArgRecord.Misses (r : ArgRecord) (origin : EntityId) (t u : Scene) : Prop where
  isRedirect : r.tag = redirectTag
  nobody : ∃ code value, r.expressions[0]? = some code ∧ Act.evaluate code origin t = .ok value u ∧
    ∀ id e, u.roster.get? id = some e → e.id ≠ value.toInt32

namespace ArgRecord.Misses

variable {r : ArgRecord} {origin : EntityId} {t u : Scene} {σ : Type} {w : Visit σ}

/-- The visit keeps its target. -/
theorem redirect (misses : r.Misses origin t u) (here : w.target.origin = origin) :
    (Visiting.redirect r).run w t = .ok (false, w) u := by
  obtain ⟨-, code, value, first, evaluated, nobody⟩ := misses
  have expression : r.expression 0 = .ok code := by
    rw [ArgRecord.expression, first]
  have argument : (Visiting.argument r 0).run w t = .ok (value, w) u := by
    rw [Visiting.argument, expression]
    show (Act.evaluate code w.target.origin >>= fun value => pure (value, w)) t = _
    rw [here, bind_of_ok evaluated]
    rfl
  have scriptId : (Visiting.int r).run w t = .ok (value.toInt32, w) u := by
    rw [Visiting.int, StateT.run_bind, bind_of_ok argument]
    rfl
  have roster : (liftM Act.roster : Visiting σ Roster).run w u = .ok (u.roster, w) u := rfl
  rw [Visiting.redirect, StateT.run_bind, bind_of_ok scriptId, StateT.run_bind, bind_of_ok roster,
    Roster.withScriptId_eq_none nobody]
  rfl

/-- So it is with redirects that do more if they find somebody. -/
theorem guarded (misses : r.Misses origin t u) (here : w.target.origin = origin)
    {x : Visiting σ Bool} :
    (do if ← Visiting.redirect r then x else return false : Visiting σ Bool).run w t =
      .ok (false, w) u := by
  rw [StateT.run_bind, bind_of_ok (misses.redirect here)]
  rfl

end ArgRecord.Misses

namespace EffectKind

variable {kind : EffectKind} {origin : EntityId} {s t u : Scene} {rs : List ArgRecord}
  {r : ArgRecord}

/-- **A redirect to nobody stops the visit** and leaves it as it is. -/
theorem stops_of_misses (kind : EffectKind) (redirects : kind ≠ .printToConsole)
    (anywhere : kind ≠ .projectile) (misses : r.Misses origin t u)
    {w : Visit (kind.visitor origin).Plan} (here : w.target.origin = origin) :
    ((kind.visitor origin).handle r).run w t = .ok (false, w) u := by
  rw [Visitor.handle, if_pos misses.isRedirect]
  cases kind with
  | printToConsole => exact absurd rfl redirects
  | projectile => exact absurd rfl anywhere
  | changeState source => exact misses.guarded here
  | helper => exact misses.guarded here
  | targetState | targetFacing | targetDrop | targetVelocity op | targetLifeAdd | targetPowerAdd =>
    exact misses.guarded here
  | _ => exact misses.redirect here

/-- A projectile asks first whether the record is the first one. -/
theorem projectile_stops_of_misses (misses : r.Misses origin t u)
    {w : Visit (visitor origin .projectile).Plan} (here : w.target.origin = origin)
    (first : w.plan.first = true) :
    ∃ x, ((visitor origin .projectile).handle r).run w t = .ok (false, x) u := by
  refine ⟨{ w with plan := { w.plan with first := false } }, ?_⟩
  rw [Visitor.handle, if_pos misses.isRedirect]
  show (if w.plan.first then do
      Visiting.revise fun p => { p with first := false }
      Visiting.redirect r
    else return true : Visiting Effect.ProjectilePlan Bool).run w t = _
  rw [if_pos first]
  exact misses.redirect here

/-- If the visit was stopped, all that the effect does at its end is left undone. -/
theorem finish_stopped (kind : EffectKind) (placed : kind ≠ .helper)
    (w : Visit (kind.visitor origin).Plan) : (kind.visitor origin).finish false w = pure false := by
  cases kind with
  | helper => exact absurd rfl placed
  | _ => rfl

/-- An effect that acts once has only evaluated expressions when its visit is stopped. -/
theorem evaluations_of_stopped (late : kind.actsLate = true) :
    ∀ {w x : Visit (kind.visitor origin).Plan}, (kind.visitor origin).Passes s rs w t →
      ((kind.visitor origin).handle r).run w t = .ok (false, x) u →
        ∃ codes, codes.Sublist ((rs ++ [r]).flatMap ArgRecord.expressions) ∧
          Evaluations origin codes s u := by
  obtain ⟨v, same⟩ := exists_late late origin
  rw [← same]
  intro w x passes stops
  exact LateVisitor.evaluations_of_stopped passes stops

/-- **A redirect to nobody silences the rest of an effect**, of every kind but the one without
    redirects.  Behind records that the visit passes, and a redirect record that misses, any bytes
    may follow: the effect ends in the same scene and does not stop its origin.  That scene is the
    one in which the redirect has missed, except that a new helper is placed.  An effect that acts
    once has done no more than evaluate some expressions of the records up to the redirect, in
    their order.  A projectile follows a redirect in its first record only. -/
theorem missed_redirect_silences (kind : EffectKind) (redirects : kind ≠ .printToConsole)
    (encodable : ∀ x ∈ rs ++ [r], x.Encodable) {w : Visit (kind.visitor origin).Plan}
    (passes : (kind.visitor origin).Passes s rs w t) (misses : r.Misses origin t u)
    (first : kind = .projectile → rs = []) :
    ∃ x, (∀ suffix, kind.run origin (ArgBlock.ofRecords (rs ++ [r]) ++ suffix) s = .ok false x) ∧
      (kind ≠ .helper → x = u) ∧
      (kind.actsLate = true → ∃ codes,
        codes.Sublist ((rs ++ [r]).flatMap ArgRecord.expressions) ∧
          Evaluations origin codes s x) := by
  have here := passes.origin_eq
  -- however the visit is stopped, the rest of the block is not looked at
  have silent {x : Visit (kind.visitor origin).Plan}
      (stops : ((kind.visitor origin).handle r).run w t = .ok (false, x) u) {y : Scene}
      (ends : (kind.visitor origin).finish false x u = .ok false y) (suffix : Bytes) :
      kind.run origin (ArgBlock.ofRecords (rs ++ [r]) ++ suffix) s = .ok false y :=
    (Visitor.run_of_stopped encodable passes stops suffix).trans ends
  by_cases isHelper : kind = .helper
  · -- what was spawned is placed, and that cannot fail
    subst isHelper
    have stops := stops_of_misses .helper nofun nofun misses here
    have placeable : Effect.Placeable w u :=
      (Effect.KeepsPlaceable.handle r origin w t (Effect.placeable_of_passes passes)).ok stops
    obtain ⟨x, placed⟩ := Effect.finish_of_placeable origin placeable false
    exact ⟨x, silent stops placed, fun other => absurd rfl other, nofun⟩
  · -- the others leave undone what they do at their end
    obtain ⟨x, stops⟩ :
        ∃ x, ((kind.visitor origin).handle r).run w t = .ok (false, x) u := by
      by_cases fires : kind = .projectile
      · -- no record came before the redirect
        subst fires
        obtain rfl : rs = [] := first rfl
        have begun : w.plan.first = true := by
          cases passes
          rfl
        exact projectile_stops_of_misses misses here begun
      · exact ⟨w, stops_of_misses kind redirects fires misses here⟩
    have undone : (kind.visitor origin).finish false x u = .ok false u := by
      rw [finish_stopped kind isHelper]
      rfl
    refine ⟨u, silent stops undone, fun _ => rfl, ?_⟩
    intro late
    exact evaluations_of_stopped late passes stops

/-- A record for the number of a state, which keeps it in a variable. -/
def keepSeven : ArgRecord :=
  ⟨Effect.StateTag.value, [Expression.int 0 ++ Expression.int 7 ++ Expression.store (.set .ints)]⟩

/-- A redirect record. -/
def toNobody : ArgRecord := ⟨redirectTag, [Expression.int 99]⟩

/-- The state is not requested, whatever follows; the variable was set. -/
theorem missed_redirect_silences_present :
    ∃ w t u x, (visitor 0 (.changeState .present)).Passes Scene.lone [keepSeven] w t ∧
      toNobody.Misses 0 t u ∧
      (∀ suffix, run 0 (ArgBlock.ofRecords [keepSeven, toNobody] ++ suffix) (.changeState .present)
        Scene.lone = .ok false x) ∧
      (x.roster.get? 0).map (fun e => (e.pending, e.vars.read .ints 0)) = some (none, .int 7) := by
  have encodable : ∀ x ∈ [keepSeven] ++ [toNobody], x.Encodable := by
    intro x member
    have either : x = keepSeven ∨ x = toNobody := by simpa using member
    rcases either with rfl | rfl
    · exact ⟨by decide, by decide⟩
    · exact ⟨by decide, by decide⟩
  have nobody {r : Roster} {scriptId : Int32} (others : ∀ x ∈ r.entries, x.2.id ≠ scriptId) :
      ∀ id e, r.get? id = some e → e.id ≠ scriptId :=
    fun id e present => others (id, e) (Roster.get?_eq_some_iff.mp present)
  have reached : ∃ w t u, (visitor 0 (.changeState .present)).Passes Scene.lone [keepSeven] w t ∧
      toNobody.Misses 0 t u ∧
      (u.roster.get? 0).map (fun e => (e.pending, e.vars.read .ints 0)) = some (none, .int 7) :=
    ⟨_, _, _, rfl, ⟨rfl, _, _, rfl, rfl, nobody (by decide +kernel)⟩, by decide +kernel⟩
  obtain ⟨w, t, u, passes, misses, kept⟩ := reached
  obtain ⟨x, silent, same, -⟩ :=
    missed_redirect_silences (.changeState .present) nofun encodable passes misses nofun
  obtain rfl : x = u := same nofun
  exact ⟨w, t, x, x, passes, misses, silent, kept⟩

end EffectKind
end TickScript
