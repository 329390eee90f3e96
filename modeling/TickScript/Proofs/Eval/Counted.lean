import TickScript.Proofs.Eval.Footprint
import TickScript.Proofs.Machine.Profile

/-! # Expressions without instructions on stores

    Only the instructions of one page write to entities.  An enabled profile counts each of them
    before it is executed.  So if none has been counted at the end of an expression, whichever end
    it is, the expression has changed no entity (`Eval.keeps_eval_sparing`).

    For a sequence of actions this is an argument backwards: what has not been counted at the end
    has not been counted before.
-/

namespace TickScript

namespace Footprint

variable {σ : Type} {profile : σ → Profile} {F : Footprint σ} {s t : σ}

/-- **A footprint as long as no instruction on stores is counted.**  The profile stays enabled, and
    if no such instruction has been counted afterwards, then none was before, and the change is
    within the footprint. -/
def uncounted (profile : σ → Profile) (F : Footprint σ) : Footprint σ where
  allows s t := (profile s).enabled = true → (profile t).enabled = true ∧
    ((profile t).count (.page .stores) = 0 →
      (profile s).count (.page .stores) = 0 ∧ F.allows s t)
  refl s enabled := ⟨enabled, fun none => ⟨none, F.refl s⟩⟩
  trans := by
    intro s t u first second enabled
    obtain ⟨enabled', before⟩ := first enabled
    obtain ⟨enabled'', after⟩ := second enabled'
    refine ⟨enabled'', fun none => ?_⟩
    obtain ⟨none', last⟩ := after none
    obtain ⟨none'', early⟩ := before none'
    exact ⟨none'', F.trans early last⟩

/-- A change beside the counts. -/
theorem uncounted_of_same (same : profile t = profile s) (within : F.allows s t) :
    (uncounted profile F).allows s t := by
  intro enabled
  rw [same]
  exact ⟨enabled, fun none => ⟨none, within⟩⟩

end Footprint

namespace Eval

variable {F : Footprint Bench} {α : Type} {ctx : EvalContext}

theorem keeps_record_uncounted (looks : ∀ b b' : Bench, b'.roster = b.roster → F.allows b b')
    (o : Opcode) : (Footprint.uncounted (·.profile) F).Keeps (Eval.record o) := by
  refine .modify fun b enabled => ⟨?_, fun none => ⟨?_, looks _ _ rfl⟩⟩
  · rw [Profile.enabled_record]
    exact enabled
  · exact ((Profile.count_record_eq_zero enabled _).mp none).1

/-- **What is composed without writes** stays within a footprint that allows looks, as long as
    nothing is counted.  With writes it has to allow everything. -/
theorem Composed.keeps_uncounted {stores spends counts : Prop} {x : Eval α}
    (built : x.Composed stores spends counts fun _ => True)
    (looks : ∀ b b' : Bench, b'.roster.entries = b.roster.entries → F.allows b b')
    (writes : stores → ∀ b b', F.allows b b') :
    (Footprint.uncounted (·.profile) F).Keeps x := by
  have operands (b : Bench) (stack : Stack) :
      (Footprint.uncounted (·.profile) F).allows b { b with stack := stack } :=
    Footprint.uncounted_of_same rfl (looks _ _ rfl)
  have write (among : stores) (id : EntityId) (f : Entity → Entity) :
      (Footprint.uncounted (·.profile) F).Keeps (Eval.update id f) :=
    .modify fun b => Footprint.uncounted_of_same rfl (writes among _ _)
  induction built with
  | pure a => exact .pure a
  | throw _ => exact .throw _
  | bind _ _ first rest => exact first.bind rest
  | roster => exact Footprint.Keeps.roster
  | top => exact Footprint.Keeps.top
  | pop _ rest => exact (Footprint.Keeps.pop operands).bind fun v => rest v trivial
  | push _ => exact .modify fun b => operands b _
  | onStack _ _ => exact .onStack operands _
  | random low high => exact fun b => Footprint.uncounted_of_same rfl (looks _ _ rfl)
  | record _ o => exact keeps_record_uncounted (fun b b' same => looks b b' (by rw [same])) o
  | recordFailedRedirect _ =>
    refine .modify fun b enabled => ?_
    obtain ⟨same, counts⟩ := b.profile.recordFailedRedirect_apart
    exact ⟨same.trans enabled, fun none => ⟨(counts _).symm.trans none, looks _ _ rfl⟩⟩
  | storeVariable among current mode bank v =>
    exact (Footprint.Keeps.entity current).bind fun _ => (Footprint.Keeps.pop operands).bind
      fun _ => (write among current _).bind fun _ => .modify fun b => operands b _
  | storeNamed among ctx code offset current mode v =>
    exact (Footprint.Keeps.entity current).bind fun _ => (Footprint.Keeps.ofExcept _).bind
      fun _ => (Footprint.Keeps.ofExcept _).bind fun _ => (write among current _).bind
        fun _ => .modify fun b => operands b _

/-- **The changes of no entity**, as long as no instruction on stores is counted. -/
def sparing : Footprint Bench :=
  Footprint.uncounted (·.profile) (.fixing fun b : Bench => b.roster.entries)

/-- An instruction on stores is counted, and whatever it does then, that is not taken back. -/
theorem keeps_stores_sparing (code : Expression) (offset : Nat) (current origin : EntityId) :
    sparing.Keeps (do
      Eval.record (.page .stores)
      Eval.instruction ctx code offset current origin (.page .stores)) := by
  intro b
  have built : (Eval.instruction ctx code offset current origin (.page .stores)).Composed True
      False True fun _ => True :=
    .instruction .trivial (fun _ _ => trivial) code offset current origin _ (fun _ => trivial)
      fun _ _ => trivial
  have counts : (Footprint.uncounted (·.profile) (.fixing fun _ : Bench => ())).Keeps
      (Eval.instruction ctx code offset current origin (.page .stores)) :=
    built.keeps_uncounted (fun _ _ _ => rfl) fun _ _ _ => rfl
  let counted : Bench := { b with profile := b.profile.record (.page .stores) b.stack.length }
  have spares {t : Bench}
      (goesOn : (Footprint.uncounted (·.profile) (.fixing fun _ : Bench => ())).allows counted t) :
      sparing.allows b t := by
    intro enabled
    obtain ⟨enabled', before⟩ := goesOn ((Profile.enabled_record _ _ _).trans enabled)
    refine ⟨enabled', fun none => ?_⟩
    have record := (before none).1
    exact absurd rfl ((Profile.count_record_eq_zero enabled _).mp record).2
  refine Ends.step (a := ()) (t := counted) rfl ?_
  exact (counts counted).mono (fun _ _ => spares) fun _ _ => spares

theorem keeps_dispatch_sparing (code : Expression) (offset : Nat) (current origin : EntityId)
    (byte : UInt8) : sparing.Keeps (Eval.dispatch ctx code offset current origin byte) := by
  unfold Eval.dispatch
  split
  case h_1 => exact .throw _
  case h_2 o _ =>
    by_cases page : o = .page .stores
    · rw [page]
      exact keeps_stores_sparing code (offset + 1) current origin
    · have built : (Eval.instruction ctx code (offset + 1) current origin o).Composed False
          False True fun _ => True :=
        .instruction .trivial (fun _ _ => trivial) code (offset + 1) current origin o page
          fun _ _ => trivial
      exact (keeps_record_uncounted (fun _ _ same => congrArg Roster.entries same) o).bind fun _ =>
        built.keeps_uncounted (fun _ _ same => same) False.elim

theorem keeps_runFrom_sparing (origin : EntityId) (budget : Nat) (code : Expression) (offset : Nat)
    (current : EntityId) : sparing.Keeps (Eval.runFrom ctx origin budget code offset current) := by
  -- on the budget, as for every property of runs
  induction budget generalizing origin code offset current with
  | zero => exact .ite (.throw _) (.pure _)
  | succ budget ih =>
    rw [Eval.runFrom]
    cases code[offset]? with
    | none => exact .pure _
    | some byte =>
      refine (keeps_dispatch_sparing code offset current origin byte).bind fun next => ?_
      cases next with
      | goto next current => exact ih origin code next current
      | call body entity next current =>
        exact (ih entity body 0 entity).bind fun _ => ih origin code next current

/-- **Every expression** changes no entity, as long as no instruction on stores is counted. -/
theorem keeps_eval_sparing (budget : Nat) (code : Expression) (id : EntityId) :
    sparing.Keeps (Eval.eval ctx budget code id) :=
  (keeps_runFrom_sparing id budget code 0 id).bind fun _ =>
    .pop fun _ _ => Footprint.uncounted_of_same rfl rfl

end Eval
end TickScript
