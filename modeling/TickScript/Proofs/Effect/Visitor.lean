import TickScript.Effect.Basic
import TickScript.Proofs.Arguments.Walk
import TickScript.Proofs.Effect.Reads

/-! # Effects as visits

    Every effect visits its argument block and then does what is left to do.  A `Visitor` for an
    effect says how: what the visit starts with, its two handlers, and its end.  It carries the
    proofs that the effect is this visit, and that all of it is composed of the actions of effects.

    A `LateVisitor` is one whose handlers only read.  Whatever the effect does, it does at the end.

    A record that stops a visit hides what follows it in the block (`Visitor.run_of_stopped`); a
    late visitor has evaluated expressions by then, and done nothing else
    (`LateVisitor.evaluations_of_stopped`).
-/

namespace TickScript

open Visiting (Composed Reads)

/-- **How an effect visits its arguments.** -/
structure Visitor (origin : EntityId) (run : ArgBlock → Act Bool) where
  Plan : Type
  /-- The plan of the first record. -/
  plan : Roster → Plan
  redirect : ArgRecord → Visiting Plan Bool
  record : ArgRecord → Visiting Plan Bool
  /-- What is done after the visit; whether no record stopped it. -/
  finish : Bool → Visit Plan → Act Bool
  runs : ∀ args s, run args s =
    (visitBlock origin args (plan s.roster) redirect record >>= fun x => finish x.1 x.2) s
  redirects : ∀ r, Composed (redirect r)
  records : ∀ r, Composed (record r)
  finishes : ∀ finished v, Act.Composed True (finish finished v)

/-- **A visitor that acts at the end only.** -/
structure LateVisitor (origin : EntityId) (run : ArgBlock → Act Bool) extends
    Visitor origin run where
  redirectReads : ∀ r, Reads r.expressions (redirect r)
  recordReads : ∀ r, Reads r.expressions (record r)

namespace Visitor

variable {origin : EntityId} {run : ArgBlock → Act Bool}

/-- **The effect is composed** of the actions of effects. -/
theorem composed (v : Visitor origin run) (args : ArgBlock) : Act.Composed True (run args) := by
  -- the plan of the first record may depend on the roster
  have whole : run args = (do
      let r ← Act.roster
      let x ← visitBlock origin args (v.plan r) v.redirect v.record
      v.finish x.1 x.2) := by
    funext s
    exact v.runs args s
  rw [whole]
  exact Act.Composed.roster.bind fun r =>
    (composed_visitBlock v.redirects v.records origin args _).bind fun x => v.finishes x.1 x.2

/-! ## Stopped visits -/

/-- One record of the visit. -/
def handle (v : Visitor origin run) (r : ArgRecord) : Visiting v.Plan Bool :=
  if r.tag = redirectTag then v.redirect r else v.record r

/-- **The visit passes some records**: none of them stops it or fails. -/
def Passes (v : Visitor origin run) (s : Scene) (rs : List ArgRecord) (w : Visit v.Plan)
    (t : Scene) : Prop :=
  (ArgBlock.visitRecords v.handle rs).run ⟨Target.start origin, v.plan s.roster⟩ s = .ok (true, w) t

theorem composed_handle (v : Visitor origin run) (r : ArgRecord) : Composed (v.handle r) :=
  .ite (v.redirects r) (v.records r)

variable {v : Visitor origin run} {s t u : Scene} {w x : Visit v.Plan} {rs : List ArgRecord}
  {r : ArgRecord}

/-- Whatever the records, the origin is the entity that runs the effect. -/
theorem Passes.origin_eq (passes : v.Passes s rs w t) : w.target.origin = origin :=
  ((Composed.visitRecords v.composed_handle rs).origin _ s).ok passes

/-- The same records are passed in one way. -/
theorem Passes.unique (passes : v.Passes s rs w t) (passes' : v.Passes s rs x u) :
    w = x ∧ t = u := by
  unfold Passes at passes passes'
  cases passes.symm.trans passes'
  exact ⟨rfl, rfl⟩

theorem passes_nil :
    v.Passes s [] w t ↔ w = ⟨Target.start origin, v.plan s.roster⟩ ∧ t = s := by
  constructor
  · intro passes
    cases passes
    exact ⟨rfl, rfl⟩
  · rintro ⟨rfl, rfl⟩
    rfl

/-- The last record is passed if those before it are. -/
theorem passes_concat :
    v.Passes s (rs ++ [r]) w t ↔
      ∃ x u, v.Passes s rs x u ∧ (v.handle r).run x u = .ok (true, w) t := by
  have last (x : Visit v.Plan) (u : Scene) :
      (ArgBlock.visitRecords v.handle [r]).run x u = .ok (true, w) t ↔
        (v.handle r).run x u = .ok (true, w) t := by
    show ((v.handle r).run x >>= fun p => (if p.1 then pure true else pure false :
      Visiting v.Plan Bool).run p.2) u = _ ↔ _
    cases run : (v.handle r).run x u with
    | error f y => rw [bind_of_error run]
    | ok p y =>
      obtain ⟨goOn, x'⟩ := p
      rw [bind_of_ok run]
      cases goOn <;> rfl
  unfold Passes
  rw [ArgBlock.visitRecords_append_eq, StateT.run_bind]
  constructor
  · intro run
    obtain ⟨⟨goOn, x⟩, u, first, rest⟩ := exists_of_bind run
    cases goOn with
    | true => exact ⟨x, u, first, (last x u).mp rest⟩
    | false => cases rest
  · rintro ⟨x, u, first, rest⟩
    rw [bind_of_ok first]
    exact (last x u).mpr rest

/-- **Nothing stops the visit of a block.** -/
def Finishes (v : Visitor origin run) (s : Scene) (args : ArgBlock) (w : Visit v.Plan) (t : Scene) :
    Prop :=
  visitBlock origin args (v.plan s.roster) v.redirect v.record s = .ok (true, w) t

/-- It passes all records of a block that is well formed. -/
theorem finishes_iff {args : ArgBlock} :
    v.Finishes s args w t ↔
      v.Passes s (ArgBlock.read args).records w t ∧ (ArgBlock.read args).malformedAt = none := by
  show (ArgBlock.walk args v.handle).run _ s = _ ↔ _
  unfold Passes
  rw [ArgBlock.walk, StateT.run_bind]
  constructor
  · intro run
    obtain ⟨⟨goOn, x⟩, u, first, rest⟩ := exists_of_bind run
    cases goOn with
    | false => cases rest
    | true =>
      cases malformed : (ArgBlock.read args).malformedAt with
      | some offset =>
        rw [malformed] at rest
        cases rest
      | none =>
        rw [malformed] at rest
        cases rest
        exact ⟨first, rfl⟩
  · rintro ⟨first, wellFormed⟩
    rw [bind_of_ok first, wellFormed]
    rfl

theorem Passes.finishes (passes : v.Passes s rs w t) (encodable : ∀ x ∈ rs, x.Encodable) :
    v.Finishes s (ArgBlock.ofRecords rs) w t := by
  rw [finishes_iff, ArgBlock.read_ofRecords encodable]
  exact ⟨passes, rfl⟩

theorem Finishes.unique {args : ArgBlock} (finishes : v.Finishes s args w t)
    (finishes' : v.Finishes s args x u) : w = x ∧ t = u := by
  unfold Finishes at finishes finishes'
  cases finishes.symm.trans finishes'
  exact ⟨rfl, rfl⟩

/-- **An effect that ends well** has visited its block, and has done what was left to do. -/
theorem exists_of_run {args : ArgBlock} {b : Bool} (ended : run args s = .ok b t) :
    ∃ finished w u, visitBlock origin args (v.plan s.roster) v.redirect v.record s =
      .ok (finished, w) u ∧ v.finish finished w u = .ok b t := by
  rw [v.runs] at ended
  obtain ⟨⟨finished, w⟩, u, visited, rest⟩ := exists_of_bind ended
  exact ⟨finished, w, u, visited, rest⟩

/-- **What is left to do** behind a visit that nothing stops. -/
theorem Finishes.run_eq {args : ArgBlock} (finishes : v.Finishes s args w t) :
    run args s = v.finish true w t := by
  unfold Finishes at finishes
  rw [v.runs, bind_of_ok finishes]

/-- A visit ends at the record that stops it, whatever records follow. -/
theorem visitRecords_of_stopped (passes : v.Passes s rs w t)
    (stops : (v.handle r).run w t = .ok (false, x) u) (later : List ArgRecord) :
    (ArgBlock.visitRecords v.handle (rs ++ r :: later)).run
      ⟨Target.start origin, v.plan s.roster⟩ s = .ok (false, x) u := by
  rw [ArgBlock.visitRecords_append_eq, StateT.run_bind, bind_of_ok passes]
  show (v.handle r >>= fun goOn => _).run w t = _
  rw [StateT.run_bind, bind_of_ok stops]
  rfl

/-- Of records whose visit was stopped, one stopped it, and those before it were passed. -/
theorem exists_of_visitRecords {records : List ArgRecord}
    (visited : (ArgBlock.visitRecords v.handle records).run w s = .ok (false, x) t) :
    ∃ before r later y u, records = before ++ r :: later ∧
      (ArgBlock.visitRecords v.handle before).run w s = .ok (true, y) u ∧
      (v.handle r).run y u = .ok (false, x) t := by
  induction records generalizing w s with
  | nil => cases visited
  | cons r rest ih =>
    obtain ⟨⟨goOn, y⟩, u, handled, others⟩ := exists_of_bind visited
    cases goOn with
    | false =>
      cases others
      exact ⟨[], r, rest, w, s, rfl, rfl, handled⟩
    | true =>
      obtain ⟨before, r', later, z, u', rfl, passed, stops⟩ := ih others
      exact ⟨r :: before, r', later, z, u', rfl, (bind_of_ok handled).trans passed, stops⟩

/-- **A visit that ends well** finishes, or one of the records stops it. -/
theorem exists_of_visit {args : ArgBlock} {finished : Bool}
    (visited : visitBlock origin args (v.plan s.roster) v.redirect v.record s =
      .ok (finished, w) t) :
    (finished = true ∧ v.Finishes s args w t) ∨
      ∃ before r later x u, finished = false ∧
        (ArgBlock.read args).records = before ++ r :: later ∧
        v.Passes s before x u ∧ (v.handle r).run x u = .ok (false, w) t := by
  cases finished with
  | true => exact .inl ⟨rfl, visited⟩
  | false =>
    have walked : (ArgBlock.walk args v.handle).run ⟨Target.start origin, v.plan s.roster⟩ s =
        .ok (false, w) t := visited
    rw [ArgBlock.walk, StateT.run_bind] at walked
    obtain ⟨⟨goOn, y⟩, u, met, rest⟩ := exists_of_bind walked
    cases goOn with
    | false =>
      cases rest
      obtain ⟨before, r, later, x, u, split, passes, stops⟩ := exists_of_visitRecords met
      exact .inr ⟨before, r, later, x, u, rfl, split, passes, stops⟩
    | true =>
      -- a visit of all records finishes, or fails at what is malformed
      cases malformed : (ArgBlock.read args).malformedAt with
      | some offset =>
        rw [malformed] at rest
        cases rest
      | none =>
        rw [malformed] at rest
        cases rest

/-- Of records whose visit failed, one failed, and those before it were passed. -/
theorem exists_of_visitRecords_error {records : List ArgRecord} {f : Fault}
    (visited : (ArgBlock.visitRecords v.handle records).run w s = .error f t) :
    ∃ before r later y u, records = before ++ r :: later ∧
      (ArgBlock.visitRecords v.handle before).run w s = .ok (true, y) u ∧
      (v.handle r).run y u = .error f t := by
  induction records generalizing w s with
  | nil => cases visited
  | cons r rest ih =>
    have visited : ((v.handle r).run w >>= fun p => (if p.1 then
        ArgBlock.visitRecords v.handle rest else pure false : Visiting v.Plan Bool).run p.2) s =
        .error f t := visited
    cases handled : (v.handle r).run w s with
    | error f' t' =>
      rw [bind_of_error handled] at visited
      cases visited
      exact ⟨[], r, rest, w, s, rfl, rfl, handled⟩
    | ok p u =>
      obtain ⟨goOn, y⟩ := p
      rw [bind_of_ok handled] at visited
      cases goOn with
      | false => cases visited
      | true =>
        obtain ⟨before, r', later, z, u', rfl, passed, fails⟩ := ih visited
        exact ⟨r :: before, r', later, z, u', rfl, (bind_of_ok handled).trans passed, fails⟩

/-- **A visit that fails** fails at one of the records, or behind all of them at what is
    malformed. -/
theorem exists_of_visit_error {args : ArgBlock} {f : Fault}
    (visited : visitBlock origin args (v.plan s.roster) v.redirect v.record s = .error f t) :
    (∃ w, v.Passes s (ArgBlock.read args).records w t ∧
        (ArgBlock.read args).malformedAt.isSome) ∨
      ∃ before r later x u, (ArgBlock.read args).records = before ++ r :: later ∧
        v.Passes s before x u ∧ (v.handle r).run x u = .error f t := by
  have walked : (ArgBlock.walk args v.handle).run ⟨Target.start origin, v.plan s.roster⟩ s =
      .error f t := visited
  rw [ArgBlock.walk, StateT.run_bind] at walked
  cases met : (ArgBlock.visitRecords v.handle (ArgBlock.read args).records).run
      ⟨Target.start origin, v.plan s.roster⟩ s with
  | error f' t' =>
    rw [bind_of_error met] at walked
    cases walked
    exact .inr (exists_of_visitRecords_error met)
  | ok p u =>
    obtain ⟨goOn, y⟩ := p
    rw [bind_of_ok met] at walked
    cases goOn with
    | false => cases walked
    | true =>
      cases malformed : (ArgBlock.read args).malformedAt with
      | none =>
        rw [malformed] at walked
        cases walked
      | some offset =>
        rw [malformed] at walked
        cases walked
        exact .inl ⟨y, met, rfl⟩

/-- **What stops a visit hides the rest of the block**, whether that is well formed or not. -/
theorem run_of_stopped (encodable : ∀ x ∈ rs ++ [r], x.Encodable) (passes : v.Passes s rs w t)
    (stops : (v.handle r).run w t = .ok (false, x) u) (suffix : Bytes) :
    run (ArgBlock.ofRecords (rs ++ [r]) ++ suffix) s = v.finish false x u := by
  let args := ArgBlock.ofRecords (rs ++ [r]) ++ suffix
  -- the records up to the one that stops are read whatever follows them
  obtain ⟨later, records⟩ : ∃ later, (ArgBlock.read args).records = rs ++ r :: later := by
    have read := congrArg ArgBlock.Reading.records (ArgBlock.readFrom_append 0 encodable suffix)
    rw [List.append_assoc] at read
    exact ⟨_, read⟩
  have visited : visitBlock origin args (v.plan s.roster) v.redirect v.record s =
      .ok (false, x) u := by
    show (ArgBlock.walk args v.handle).run _ s = _
    rw [ArgBlock.walk, records, StateT.run_bind,
      bind_of_ok (visitRecords_of_stopped passes stops later)]
    rfl
  rw [v.runs, bind_of_ok visited]

end Visitor

namespace LateVisitor

variable {origin : EntityId} {run : ArgBlock → Act Bool}

theorem reads_handle (v : LateVisitor origin run) (r : ArgRecord) :
    Reads r.expressions (v.handle r) :=
  .ite (v.redirectReads r) (v.recordReads r)

theorem reads_visitRecords (v : LateVisitor origin run) (rs : List ArgRecord) :
    Reads (rs.flatMap ArgRecord.expressions) (ArgBlock.visitRecords v.handle rs) := by
  induction rs with
  | nil => exact .pure _
  | cons r rest ih => exact (v.reads_handle r).bind fun goOn => .ite ih (.pure _)

/-- **A visit only evaluates expressions** of the records, each at most once and in their order. -/
theorem evaluations_of_visit (v : LateVisitor origin run) {args : ArgBlock} {s t : Scene}
    {finished : Bool} {w : Visit v.Plan}
    (visited : visitBlock origin args (v.plan s.roster) v.redirect v.record s =
      .ok (finished, w) t) :
    ∃ codes, codes.Sublist ((ArgBlock.read args).records.flatMap ArgRecord.expressions) ∧
      Evaluations origin codes s t := by
  have reads := (v.reads_visitRecords (ArgBlock.read args).records).evaluations
    ⟨Target.start origin, v.plan s.roster⟩ s
  rcases Visitor.exists_of_visit visited with
    ⟨-, finishes⟩ | ⟨before, r, later, x, u, rfl, split, passes, stops⟩
  · exact reads.ok (Visitor.finishes_iff.mp finishes).1
  · have stopped := Visitor.visitRecords_of_stopped passes stops later
    rw [← split] at stopped
    exact reads.ok stopped

/-- **A visit that is stopped has evaluated expressions**, and done nothing else. -/
theorem evaluations_of_stopped {v : LateVisitor origin run} {s t u : Scene} {w x : Visit v.Plan}
    {rs : List ArgRecord} {r : ArgRecord} (passes : v.Passes s rs w t)
    (stops : (v.handle r).run w t = .ok (false, x) u) :
    ∃ codes, codes.Sublist ((rs ++ [r]).flatMap ArgRecord.expressions) ∧
      Evaluations origin codes s u :=
  ((v.reads_visitRecords (rs ++ [r])).evaluations _ s).ok
    (Visitor.visitRecords_of_stopped passes stops [])

end LateVisitor

/-! ## Ways to visit -/

section

variable {origin : EntityId} {σ : Type} {plan : σ} {redirect record : ArgRecord → Visiting σ Bool}

namespace Visitor

/-- An effect that may stop its origin. -/
def block {finish : Bool × Visit σ → Act Bool} (redirects : ∀ r, Composed (redirect r))
    (records : ∀ r, Composed (record r)) (finishes : ∀ x, Act.Composed True (finish x)) :
    Visitor origin fun args => visitBlock origin args plan redirect record >>= finish where
  Plan := σ
  plan _ := plan
  redirect := redirect
  record := record
  finish finished v := finish (finished, v)
  runs _ _ := rfl
  redirects := redirects
  records := records
  finishes finished v := finishes (finished, v)

/-- An effect that never stops its origin. -/
def ending {finish : Bool × Visit σ → Act Unit} (redirects : ∀ r, Composed (redirect r))
    (records : ∀ r, Composed (record r)) (finishes : ∀ x, Act.Composed True (finish x)) :
    Visitor origin fun args => do
      visitBlock origin args plan redirect record >>= finish
      return false where
  Plan := σ
  plan _ := plan
  redirect := redirect
  record := record
  finish finished v := do
    finish (finished, v)
    return false
  runs _ s := congrFun (bind_assoc _ _ _) s
  redirects := redirects
  records := records
  finishes finished v := (finishes (finished, v)).bind fun _ => .pure _

/-- An effect without an end. -/
def plain (redirects : ∀ r, Composed (redirect r)) (records : ∀ r, Composed (record r)) :
    Visitor origin fun args => do
      visitBlock origin args plan redirect record >>= fun _ => pure ()
      return false :=
  ending redirects records fun _ => .pure _

/-- An effect that acts record by record. -/
def each {visit : ArgRecord → Visiting Unit Unit} (visited : ∀ r, Composed (visit r)) :
    Visitor origin fun args => do
      eachRecord origin args visit
      return false :=
  plain Composed.redirect fun r => (visited r).bind fun _ => .pure _

/-- An effect on the attacker's targets. -/
def targets {visit : ArgRecord → Visiting (Selection σ) Bool}
    {finish : Bool × Visit (Selection σ) → Act Unit} (visited : ∀ r, Composed (visit r))
    (finishes : ∀ x, Act.Composed True (finish x)) :
    Visitor origin fun args => do
      visitTargets origin args plan visit >>= finish
      return false where
  Plan := Selection σ
  plan r := ⟨r.targetsWith origin (-1), plan⟩
  redirect := Selection.redirect
  record := visit
  finish finished v := do
    finish (finished, v)
    return false
  runs _ s := by
    show ((visitTargets origin _ plan visit >>= finish) >>= fun _ => pure false) s = _
    rw [bind_assoc]
    rfl
  redirects := Composed.redirectSelection
  records := visited
  finishes finished v := (finishes (finished, v)).bind fun _ => .pure _

end Visitor

namespace LateVisitor

def block {finish : Bool × Visit σ → Act Bool} (redirects : ∀ r, Reads r.expressions (redirect r))
    (records : ∀ r, Reads r.expressions (record r))
    (finishes : ∀ x, Act.Composed True (finish x)) :
    LateVisitor origin fun args => visitBlock origin args plan redirect record >>= finish where
  toVisitor :=
    .block (fun r => (redirects r).toComposed) (fun r => (records r).toComposed) finishes
  redirectReads := redirects
  recordReads := records

def ending {finish : Bool × Visit σ → Act Unit} (redirects : ∀ r, Reads r.expressions (redirect r))
    (records : ∀ r, Reads r.expressions (record r))
    (finishes : ∀ x, Act.Composed True (finish x)) :
    LateVisitor origin fun args => do
      visitBlock origin args plan redirect record >>= finish
      return false where
  toVisitor :=
    .ending (fun r => (redirects r).toComposed) (fun r => (records r).toComposed) finishes
  redirectReads := redirects
  recordReads := records

/-- An effect on the attacker's targets, or on the attacker itself because of them. -/
def targets {visit : ArgRecord → Visiting (Selection σ) Bool}
    {finish : Bool × Visit (Selection σ) → Act Unit}
    (records : ∀ r, Reads r.expressions (visit r))
    (finishes : ∀ x, Act.Composed True (finish x)) :
    LateVisitor origin fun args => do
      visitTargets origin args plan visit >>= finish
      return false where
  toVisitor := .targets (fun r => (records r).toComposed) finishes
  redirectReads r := (Reads.redirect r).next fun _ => .ite
    (Reads.roster.next fun _ => Reads.target.next fun _ => (Reads.revise _).next fun _ => .pure _)
    (.pure _)
  recordReads := records

/-- An effect that acts once. -/
def after {visit : ArgRecord → Visiting σ Unit} {act : Target → σ → Act Unit}
    (reads : ∀ r, Reads r.expressions (visit r)) (acts : ∀ t p, Act.Composed True (act t p)) :
    LateVisitor origin fun args => do
      afterVisit origin args plan visit act
      return false :=
  ending Reads.redirect (fun r => (reads r).next fun _ => .pure _)
    fun _ => .ite (acts _ _) (.pure _)

end LateVisitor

end

end TickScript
