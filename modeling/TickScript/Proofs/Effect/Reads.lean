import TickScript.Proofs.Effect.Visiting

/-! # Visits that only read

    Many effects only read while they visit their records, and act when the visit is over.  Until
    then nothing happens but that expressions of the records are evaluated for the origin.

    `Visiting.Reads es x` says so of an action of a visit: what it makes of the scene is what
    evaluating some of the expressions `es` makes of it, each at most once and in their order.
    The expressions of a sequence of actions are those of its parts, one list behind the other.
-/

namespace TickScript

variable {σ α β : Type}

/-! ## Evaluations -/

/-- **Expressions evaluated one after the other** for an entity, and what that makes of a scene. -/
inductive Evaluations (origin : EntityId) : List Expression → Scene → Scene → Prop
  | nil (s : Scene) : Evaluations origin [] s s
  | cons {code : Expression} {codes : List Expression} {v : Value} {s t u : Scene}
      (first : Act.evaluate code origin s = .ok v t) (rest : Evaluations origin codes t u) :
      Evaluations origin (code :: codes) s u

theorem Evaluations.append {origin : EntityId} {codes codes' : List Expression} {s t u : Scene}
    (first : Evaluations origin codes s t) (second : Evaluations origin codes' t u) :
    Evaluations origin (codes ++ codes') s u := by
  induction first with
  | nil s => exact second
  | cons run _ ih => exact .cons run (ih second)

/-! ## Reading -/

/-- **The action only reads**: it evaluates some of the expressions, and revises its plan. -/
structure Visiting.Reads (es : List Expression) (x : Visiting σ α) : Prop extends
    Visiting.Composed x where
  evaluations : ∀ v s, Ends (x.run v) s
    (fun _ t => ∃ codes, codes.Sublist es ∧ Evaluations v.target.origin codes s t) fun _ _ => True

namespace Visiting.Reads

variable {x y : Visiting σ α} {f : α → Visiting σ β} {es es' : List Expression}

theorem mono (h : Reads es x) (part : es.Sublist es') : Reads es' x where
  toComposed := h.toComposed
  evaluations v s := by
    refine (h.evaluations v s).mono (fun _ t read => ?_) fun _ _ _ => trivial
    obtain ⟨codes, among, evaluated⟩ := read
    exact ⟨codes, among.trans part, evaluated⟩

theorem bind (hx : Reads es x) (hf : ∀ a, Reads es' (f a)) : Reads (es ++ es') (x >>= f) where
  toComposed := hx.toComposed.bind fun a => (hf a).toComposed
  evaluations v s := by
    -- the rest evaluates for the same origin
    have both := (hx.origin v s).and (hx.evaluations v s)
    refine Ends.bind (both.mono (fun r t first => ?_) fun _ _ _ => trivial)
    obtain ⟨origin, codes, among, evaluated⟩ := first
    refine ((hf r.1).evaluations r.2 t).mono (fun _ u second => ?_) fun _ _ _ => trivial
    obtain ⟨codes', among', evaluated'⟩ := second
    rw [origin] at evaluated'
    exact ⟨codes ++ codes', among.append among', evaluated.append evaluated'⟩

/-- Nothing is read by what follows. -/
theorem next (hx : Reads es x) (hf : ∀ a, Reads [] (f a)) : Reads es (x >>= f) := by
  have all := hx.bind hf
  rwa [List.append_nil] at all

/-- Nothing was read before. -/
theorem after (hx : Reads [] x) (hf : ∀ a, Reads es (f a)) : Reads es (x >>= f) := hx.bind hf

/-- What leaves the scene as it is reads nothing. -/
theorem of_still (composed : x.Composed)
    (still : ∀ v s, Ends (x.run v) s (fun _ t => t = s) fun _ _ => True) : Reads es x where
  toComposed := composed
  evaluations v s := by
    refine (still v s).mono (fun _ t same => ?_) fun _ _ _ => trivial
    rw [same]
    exact ⟨[], List.nil_sublist es, .nil s⟩

theorem pure (a : α) : Reads es (Pure.pure a : Visiting σ α) :=
  of_still (.pure a) fun _ _ => rfl

theorem ite {c : Prop} [Decidable c] (hx : Reads es x) (hy : Reads es y) :
    Reads es (if c then x else y) := by
  by_cases holds : c
  · rw [if_pos holds]
    exact hx
  · rw [if_neg holds]
    exact hy

/-- A look at the scene. -/
theorem look {a : Act α} (composed : Act.Composed True a) (still : (Footprint.fixing id).Keeps a) :
    Reads es (liftM a : Visiting σ α) :=
  of_still (.lift composed) fun _ _ => Ends.bind (still.still (fun _ => rfl) fun _ => trivial)

theorem roster : Reads es (liftM Act.roster : Visiting σ Roster) :=
  look .roster Footprint.keeps_roster

theorem entity (id : EntityId) : Reads es (liftM (Act.entity id) : Visiting σ Entity) :=
  look (.entity id) (Footprint.keeps_entity id)

theorem ofExcept (x : Except Fault α) : Reads es (liftM (Act.ofExcept x) : Visiting σ α) :=
  look (.ofExcept x) (Footprint.keeps_ofExcept x)

theorem revise (g : σ → σ) : Reads es (Visiting.revise g) :=
  of_still (.revise g) fun _ _ => rfl

theorem target : Reads es (Visiting.target : Visiting σ Target) := of_still .target fun _ _ => rfl

theorem plan : Reads es (Visiting.plan : Visiting σ σ) := of_still .plan fun _ _ => rfl

/-! ## Arguments -/

theorem take_one_of_getElem? {n : Nat} {code : Expression} (found : es[n]? = some code) :
    (es.drop n).take 1 = [code] := by
  obtain ⟨inside, rfl⟩ := List.getElem?_eq_some_iff.mp found
  rw [List.drop_eq_getElem_cons inside]
  rfl

/-- An expression is evaluated. -/
theorem evaluate (code : Expression) :
    Reads [code] (Visiting.evaluate code : Visiting σ Value) where
  toComposed := .evaluate code
  evaluations v s := by
    have run : (Visiting.evaluate code : Visiting σ Value).run v s =
        (Act.evaluate code v.target.origin >>= fun value => Pure.pure (value, v)) s := rfl
    unfold Ends
    rw [run]
    cases evaluated : Act.evaluate code v.target.origin s with
    | ok value t =>
      rw [bind_of_ok evaluated]
      exact ⟨[code], List.Sublist.refl _, .cons evaluated (.nil t)⟩
    | error f t =>
      rw [bind_of_error evaluated]
      trivial

section

variable (r : ArgRecord)

theorem argument (n : Nat) :
    Reads ((r.expressions.drop n).take 1) (Visiting.argument r n : Visiting σ Value) := by
  unfold Visiting.argument ArgRecord.expression
  cases found : r.expressions[n]? with
  | none => exact of_still (.bind (.lift (.throw _)) fun _ => .evaluate _) fun _ _ => trivial
  | some code =>
    rw [take_one_of_getElem? found]
    exact evaluate code

theorem argument? (n : Nat) :
    Reads ((r.expressions.drop n).take 1) (Visiting.argument? r n : Visiting σ (Option Value)) := by
  unfold Visiting.argument?
  cases found : r.expressions[n]? with
  | none => exact pure _
  | some code =>
    rw [take_one_of_getElem? found]
    exact (evaluate code).next fun _ => pure _

/-- The first argument is the first expression. -/
theorem first : Reads r.expressions (Visiting.argument r 0 : Visiting σ Value) :=
  (argument r 0).mono (List.take_sublist 1 r.expressions)

theorem int : Reads r.expressions (Visiting.int r : Visiting σ Int32) :=
  (first r).next fun _ => pure _

theorem single : Reads r.expressions (Visiting.single r : Visiting σ Single) :=
  (first r).next fun _ => pure _

theorem bool : Reads r.expressions (Visiting.bool r : Visiting σ Bool) :=
  (first r).next fun _ => pure _

/-- One argument and then another one. -/
theorem two {x : Visiting σ α} {f : α → Visiting σ β}
    (first : Reads ((r.expressions.drop 0).take 1) x)
    (second : ∀ a, Reads ((r.expressions.drop 1).take 1) (f a)) :
    Reads r.expressions (x >>= f) := by
  -- together they are the first two expressions
  have front : (r.expressions.drop 0).take 1 ++ (r.expressions.drop 1).take 1 =
      r.expressions.take 2 := List.take_add.symm
  have both := first.bind second
  rw [front] at both
  exact both.mono (List.take_sublist 2 r.expressions)

theorem pair : Reads r.expressions (Visiting.pair r : Visiting σ (Single × Option Single)) :=
  two r ((argument r 0).next fun _ => pure _) fun _ => (argument? r 1).next fun _ => pure _

theorem text : Reads es (Visiting.text r : Visiting σ String) := (ofExcept _).after fun _ => pure _

/-! ## Redirects -/

/-- A redirect evaluates a script id. -/
theorem redirect : Reads r.expressions (Visiting.redirect r : Visiting σ Bool) := by
  refine (int r).next fun scriptId => roster.after fun among => ?_
  cases among.withScriptId scriptId with
  | none => exact pure _
  | some id =>
    -- what follows looks at both entities and changes the target
    refine of_still (.follow id) fun v s => Ends.bind (Ends.bind ?_)
    refine (Footprint.keeps_entity v.target.origin).still (fun _ => ?_) fun _ => trivial
    refine Ends.bind (Ends.bind ?_)
    exact (Footprint.keeps_entity id).still (fun _ => rfl) fun _ => trivial

end

end Visiting.Reads
end TickScript
