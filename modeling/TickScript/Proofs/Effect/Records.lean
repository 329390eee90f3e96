import TickScript.Proofs.Effect.Visitor
import TickScript.Proofs.Eval.Stores

/-! # What records give to a visit

    A record gives a value to the visit: its first expression, evaluated for the origin.  The
    readers of arguments end with a view of that value and leave the visit as it is.

        int, bool     one view each
        pair          a view of the first value, and of the second one if there is one
        text          the first expression itself, which is not evaluated
        redirect      the target is whoever has the value as script id, if there is such one

    What a visit passes can be taken apart at its last record (`Visitor.passes_concat`), so what
    the records make of target and plan is an induction over them from the front.
-/

namespace TickScript

variable {σ α : Type} {r : ArgRecord} {w : Visit σ} {s t u : Scene} {origin : EntityId}

/-- **The value of a record**: that of its first expression, evaluated for the origin. -/
def ArgRecord.Gives (r : ArgRecord) (origin : EntityId) (s : Scene) (v : Value) (t : Scene) :
    Prop :=
  ∃ code, r.expressions[0]? = some code ∧ Act.evaluate code origin s = .ok v t

/-- One record gives one value. -/
theorem ArgRecord.Gives.unique {v v' : Value} {t' : Scene} (h : r.Gives origin s v t)
    (h' : r.Gives origin s v' t') : v = v' ∧ t = t' := by
  obtain ⟨code, first, evaluated⟩ := h
  obtain ⟨code', first', evaluated'⟩ := h'
  obtain rfl : code = code' := Option.some.inj (first.symm.trans first')
  cases evaluated.symm.trans evaluated'
  exact ⟨rfl, rfl⟩

/-- **The numbers of a record**: one, or two. -/
inductive ArgRecord.GivesPair (r : ArgRecord) (origin : EntityId) (s : Scene) :
    Single → Option Single → Scene → Prop
  | alone {v : Value} {t : Scene} (first : r.Gives origin s v t)
      (last : r.expressions[1]? = none) : GivesPair r origin s v.toSingle none t
  | both {v v' : Value} {t u : Scene} {code : Expression} (first : r.Gives origin s v t)
      (second : r.expressions[1]? = some code)
      (evaluated : Act.evaluate code origin t = .ok v' u) :
      GivesPair r origin s v.toSingle (some v'.toSingle) u

/-- **What a record leaves** when it is evaluated, or when there is nothing to evaluate. -/
def ArgRecord.Leaves (r : ArgRecord) (origin : EntityId) (s t : Scene) : Prop :=
  t = s ∨ ∃ code, r.expressions[0]? = some code ∧
    Ends (Act.evaluate code origin) s (fun _ u => u = t) fun _ u => u = t

theorem ArgRecord.Gives.leaves {v : Value} (h : r.Gives origin s v t) : r.Leaves origin s t := by
  obtain ⟨code, first, evaluated⟩ := h
  refine .inr ⟨code, first, ?_⟩
  rw [Ends, evaluated]

/-- It stays within every footprint of evaluations. -/
theorem ArgRecord.Leaves.within {F : Footprint Scene} (left : r.Leaves origin s t)
    (evaluates : ∀ code, F.Keeps (Act.evaluate code origin)) : F.allows s t := by
  rcases left with rfl | ⟨code, -, left⟩
  · exact F.refl t
  · have kept := left.and (evaluates code s)
    unfold Ends at kept
    split at kept
    · exact kept.1 ▸ kept.2
    · exact kept.1 ▸ kept.2

theorem Evaluations.evaluated {codes : List Expression} (h : Evaluations origin codes s t) :
    s.Evaluated t := by
  induction h with
  | nil s => exact .refl s
  | cons run _ ih => exact ((Footprint.keeps_evaluations _ _).ok run).trans ih

/-- The visit with another target. -/
def Visit.aim (w : Visit σ) (id : EntityId) (ratio : Single) : Visit σ :=
  { w with target := { w.target with id := id, ratio := ratio } }

namespace Visiting

/-! ## Arguments -/

/-- A record that has a value gives it. -/
theorem run_int {v : Value} (given : r.Gives w.target.origin s v t) :
    (int r).run w s = .ok (v.toInt32, w) t := by
  obtain ⟨code, first, evaluated⟩ := given
  have argument : (argument r 0).run w s = .ok (v, w) t := by
    unfold Visiting.argument ArgRecord.expression
    rw [first]
    exact bind_of_ok evaluated
  exact bind_of_ok argument

/-- The first argument of a record is its value. -/
theorem ends_argument {done : Value × Visit σ → Scene → Prop} {failed : Fault → Scene → Prop}
    (given : ∀ v t, r.Gives w.target.origin s v t → done (v, w) t)
    (fault : ∀ f t, r.Leaves w.target.origin s t → failed f t) :
    Ends ((argument r 0).run w) s done failed := by
  unfold argument ArgRecord.expression
  cases first : r.expressions[0]? with
  | none => exact fault _ s (.inl rfl)
  | some code =>
    -- the expression is there, so all that can happen is that its evaluation fails
    show Ends (Act.evaluate code w.target.origin >>= fun v => pure (v, w)) s done failed
    cases evaluated : Act.evaluate code w.target.origin s with
    | ok v t => exact Ends.step evaluated (given v t ⟨code, first, evaluated⟩)
    | error f t =>
      rw [Ends, bind_of_error evaluated]
      exact fault f t (.inr ⟨code, first, by rw [Ends, evaluated]⟩)

theorem ends_int {done : Int32 × Visit σ → Scene → Prop} {failed : Fault → Scene → Prop}
    (given : ∀ v t, r.Gives w.target.origin s v t → done (v.toInt32, w) t)
    (fault : ∀ f t, r.Leaves w.target.origin s t → failed f t) :
    Ends ((int r).run w) s done failed :=
  Ends.bind (ends_argument given fault)

theorem ends_bool {done : Bool × Visit σ → Scene → Prop} {failed : Fault → Scene → Prop}
    (given : ∀ v t, r.Gives w.target.origin s v t → done (v.toBool, w) t)
    (fault : ∀ f t, r.Leaves w.target.origin s t → failed f t) :
    Ends ((bool r).run w) s done failed :=
  Ends.bind (ends_argument given fault)

theorem ends_value {code : Expression} {done : Value × Visit σ → Scene → Prop}
    (given : ∀ v t, Act.evaluate code w.target.origin s = .ok v t → done (v, w) t) :
    Ends ((evaluate code).run w) s done fun _ _ => True := by
  show Ends (Act.evaluate code w.target.origin >>= fun v => pure (v, w)) s done _
  cases evaluated : Act.evaluate code w.target.origin s with
  | ok v t => exact Ends.step evaluated (given v t evaluated)
  | error f t =>
    rw [Ends, bind_of_error evaluated]
    trivial

/-- An expression that is there is evaluated. -/
theorem ends_argument? {n : Nat} {done : Option Value × Visit σ → Scene → Prop}
    (absent : r.expressions[n]? = none → done (none, w) s)
    (given : ∀ code v t, r.expressions[n]? = some code →
      Act.evaluate code w.target.origin s = .ok v t → done (some v, w) t) :
    Ends ((argument? r n).run w) s done fun _ _ => True := by
  unfold argument?
  cases found : r.expressions[n]? with
  | none => exact absent found
  | some code => exact Ends.bind (ends_value fun v t => given code v t found)

/-- One number or two, each a view of its value. -/
theorem ends_pair {done : (Single × Option Single) × Visit σ → Scene → Prop}
    (given : ∀ x y t, r.GivesPair w.target.origin s x y t → done ((x, y), w) t) :
    Ends ((pair r).run w) s done fun _ _ => True := by
  refine Ends.bind (Ends.bind (ends_argument (fun v t first => ?_) fun _ _ _ => trivial))
  refine Ends.bind (ends_argument? (fun last => ?_) fun code v' u second evaluated => ?_)
  · exact given _ _ t (.alone first last)
  · exact given _ _ u (.both first second evaluated)

/-- The text of a record is there, or the visit fails. -/
theorem ends_text {done : String × Visit σ → Scene → Prop} (given : ∀ text, done (text, w) s) :
    Ends ((text r).run w) s done fun _ _ => True := by
  unfold text ArgRecord.expression
  cases r.expressions[0]? with
  | none => trivial
  | some code => exact given _

/-- A target that is there is changed. -/
theorem run_updateTarget {e : Entity} (f : Entity → Entity)
    (present : s.roster.get? w.target.id = some e) :
    (updateTarget f : Visiting σ Unit).run w s = .ok ((), w) (s.modify w.target.id f) :=
  bind_of_ok (update_of_get? f present)

/-! ## Redirects -/

/-- A look at the roster does nothing. -/
theorem ends_roster {k : Roster → Visiting σ α} {done : α × Visit σ → Scene → Prop}
    {failed : Fault → Scene → Prop} (h : Ends ((k s.roster).run w) s done failed) :
    Ends ((do k (← Act.roster) : Visiting σ α).run w) s done failed := h

/-- **A redirect moves the target** to whoever has the value of the record as script id, and the
    ratio to that of the scales. -/
theorem ends_redirect_of_scales {done : Bool × Visit σ → Scene → Prop}
    {failed : Fault → Scene → Prop}
    (missed : ∀ v t, r.Gives w.target.origin s v t → t.roster.withScriptId v.toInt32 = none →
      done (false, w) t)
    (found : ∀ v t id e chosen, r.Gives w.target.origin s v t →
      t.roster.withScriptId v.toInt32 = some id → t.roster.get? w.target.origin = some e →
      t.roster.get? id = some chosen → done (true, w.aim id (e.localScale / chosen.localScale)) t)
    (fault : ∀ f t, r.Leaves w.target.origin s t → failed f t) :
    Ends ((redirect r).run w) s done failed := by
  refine Ends.bind (ends_int (fun v t given => ?_) fault)
  refine ends_roster ?_
  cases named : t.roster.withScriptId v.toInt32 with
  | none => exact missed v t given named
  | some id =>
    -- both entities are looked up for the ratio of their scales
    have absent (f : Fault) : failed f t := fault f t given.leaves
    refine Ends.bind (Ends.bind (ends_entity (fun e present => ?_) (absent _)))
    refine Ends.bind (Ends.bind (ends_entity (fun chosen there => ?_) (absent _)))
    exact found v t id e chosen given named present there

/-- Whatever the scales are. -/
theorem ends_redirect {done : Bool × Visit σ → Scene → Prop} {failed : Fault → Scene → Prop}
    (missed : ∀ v t, r.Gives w.target.origin s v t → t.roster.withScriptId v.toInt32 = none →
      done (false, w) t)
    (found : ∀ v t id ratio, r.Gives w.target.origin s v t →
      t.roster.withScriptId v.toInt32 = some id → done (true, w.aim id ratio) t)
    (fault : ∀ f t, r.Leaves w.target.origin s t → failed f t) :
    Ends ((redirect r).run w) s done failed :=
  ends_redirect_of_scales missed
    (fun v t id _ _ given named _ _ => found v t id _ given named) fault

end Visiting
end TickScript
