import TickScript.Proofs.Effect.Composed
import TickScript.Proofs.Effect.Records
import TickScript.Proofs.Number.Nearest
import TickScript.Proofs.Value.Integers

/-! # Life that is added unscaled

    Two effects add life: one to its target, one to all targets that are selected.  Damage may be
    scaled by attack and defence; healing never is, nor is an amount that is absolute.

    An amount that is not scaled passes through a single on its way, which has 24 digits.  So what
    is added is the nearest amount of that many digits (`life_addLife`): the amount itself up to
    `2 ^ 24`, and one that is off by 64 at most beyond.  It is then added like an integer without
    bounds: that the sum saturates makes no difference, as life ends between zero and its maximum.
-/

namespace TickScript

/-! ## The rule -/

namespace Entity

/-- **Life and its maximum are in their bounds.** -/
structure LifeBounded (e : Entity) : Prop where
  one : 1 ≤ e.lifeMax
  nonneg : 0 ≤ e.life
  most : e.life ≤ e.lifeMax

instance (e : Entity) : Decidable e.LifeBounded :=
  decidable_of_iff (1 ≤ e.lifeMax ∧ 0 ≤ e.life ∧ e.life ≤ e.lifeMax)
    ⟨fun ⟨one, nonneg, most⟩ => ⟨one, nonneg, most⟩, fun h => ⟨h.one, h.nonneg, h.most⟩⟩

/-- **The life that an amount leads to**, in integers without bounds: the sum, raised to one if a
    living entity may not be killed, and moved between zero and the maximum. -/
def lifeAfter (e : Entity) (kill : Bool) (amount : Int) : Int :=
  let sum := e.life.toInt + amount
  max 0 (min (if !kill && 0 < e.life then max 1 sum else sum) e.lifeMax.toInt)

/-- The least life that an amount can lead to. -/
def leastLife (e : Entity) (kill : Bool) : Int := if !kill && 0 < e.life then 1 else 0

/-- **The amount does not matter**: there is one life only that it can lead to, or both amounts
    lead to the least one, or both to the maximum. -/
def Levels (e : Entity) (kill : Bool) (a b : Int) : Prop :=
  e.lifeMax.toInt ≤ e.leastLife kill ∨ e.life.toInt + max a b ≤ e.leastLife kill ∨
    e.lifeMax.toInt ≤ e.life.toInt + min a b

variable {e : Entity}

theorem LifeBounded.toInt (h : e.LifeBounded) :
    1 ≤ e.lifeMax.toInt ∧ 0 ≤ e.life.toInt ∧ e.life.toInt ≤ e.lifeMax.toInt :=
  ⟨Int32.le_iff_toInt_le.mp h.one, Int32.le_iff_toInt_le.mp h.nonneg,
    Int32.le_iff_toInt_le.mp h.most⟩

/-- Life ends between two bounds. -/
theorem lifeAfter_eq (h : e.LifeBounded) (kill : Bool) (amount : Int) :
    e.lifeAfter kill amount =
      max (e.leastLife kill) (min (e.life.toInt + amount) e.lifeMax.toInt) := by
  obtain ⟨one, nonneg, most⟩ := h.toInt
  unfold lifeAfter leastLife
  dsimp only
  split <;> omega

theorem lifeAfter_eq_iff (h : e.LifeBounded) (kill : Bool) (a b : Int) :
    e.lifeAfter kill a = e.lifeAfter kill b ↔ a = b ∨ e.Levels kill a b := by
  obtain ⟨one, nonneg, most⟩ := h.toInt
  have least : e.leastLife kill ≤ e.lifeMax.toInt := by
    unfold leastLife
    split <;> omega
  rw [lifeAfter_eq h, lifeAfter_eq h, Levels]
  omega

/-- Amounts that are near lead to lives that are as near. -/
theorem lifeAfter_near (kill : Bool) {a b d : Int} (near : |a - b| ≤ d) :
    |e.lifeAfter kill a - e.lifeAfter kill b| ≤ d := by
  rw [abs_le] at near ⊢
  unfold lifeAfter
  dsimp only
  split <;> omega

/-! ## Saturation -/

theorem toInt_limited {most : Int32} (nonneg : 0 ≤ most.toInt) (n : Int32) :
    (limited most n).toInt = max 0 (min n.toInt most.toInt) := by
  have zero : (0 : Int32).toInt = 0 := rfl
  unfold limited
  split
  case isTrue below =>
    have below := Int32.lt_iff_toInt_lt.mp below
    omega
  case isFalse above =>
    have above := Int32.lt_iff_toInt_lt.not.mp above
    split
    case isTrue beyond =>
      have beyond := Int32.lt_iff_toInt_lt.mp beyond
      omega
    case isFalse within =>
      have within := Int32.lt_iff_toInt_lt.not.mp within
      omega

/-- **Sums that saturate** lead to the same life as those that do not. -/
theorem toInt_life_of_saturating (h : e.LifeBounded) (kill : Bool) (amount : Int) {sum : Int32}
    (saturated : sum = saturatingAdd e.life (Int32.ofIntClamp amount)) :
    (e.setLife (if !kill && 0 < e.life && sum < 1 then 1 else sum)).life.toInt =
      e.lifeAfter kill amount := by
  obtain ⟨one, nonneg, most⟩ := h.toInt
  have value : sum.toInt = max (-2 ^ 31) (min (e.life.toInt +
      max (-2 ^ 31) (min amount (2 ^ 31 - 1))) (2 ^ 31 - 1)) := by
    rw [saturated, saturatingAdd, toInt_ofIntClamp, toInt_ofIntClamp]
  have top : e.lifeMax.toInt < 2 ^ 31 := e.lifeMax.toInt_lt
  have raised : (if !kill && 0 < e.life && sum < 1 then (1 : Int32) else sum).toInt =
      if !kill && 0 < e.life then max 1 sum.toInt else sum.toInt := by
    have one : (1 : Int32).toInt = 1 := rfl
    by_cases spared : (!kill && 0 < e.life) = true
    · rw [spared, if_pos rfl, Bool.true_and]
      by_cases below : sum < 1
      · rw [if_pos (decide_eq_true below)]
        have below := Int32.lt_iff_toInt_lt.mp below
        omega
      · rw [decide_eq_false below, if_neg Bool.false_ne_true]
        have above := Int32.lt_iff_toInt_lt.not.mp below
        omega
    · rw [Bool.not_eq_true] at spared
      rw [spared, Bool.false_and, if_neg Bool.false_ne_true, if_neg Bool.false_ne_true]
  show (limited e.lifeMax _).toInt = _
  rw [toInt_limited (by omega), raised, lifeAfter]
  split <;> omega

end Entity

/-! ## Changes of many entities -/

/-- The scene after a change of some entities, one after the other. -/
def Scene.modifyAll (s : Scene) (ids : List EntityId) (f : Entity → Entity) : Scene :=
  ids.foldl (fun t id => t.modify id f) s

/-- **Each entity is changed as often as it is named.** -/
theorem Scene.get?_modifyAll (s : Scene) (ids : List EntityId) (f : Entity → Entity)
    (id : EntityId) :
    (s.modifyAll ids f).roster.get? id = (s.roster.get? id).map f^[ids.count id] := by
  induction ids generalizing s with
  | nil => exact Option.map_id'.symm
  | cons first rest ih =>
    show ((s.modify first f).modifyAll rest f).roster.get? id = _
    rw [ih, Scene.modify, Roster.get?_modify]
    by_cases same : id = first
    · subst same
      rw [if_pos rfl, List.count_cons_self, Option.map_map, Function.iterate_succ]
    · rw [if_neg same, List.count_cons_of_ne (Ne.symm same)]

/-- Everybody who is named must be live. -/
theorem run_updateAll {σ : Type} {w : Visit σ} {s : Scene} {ids : List EntityId}
    {f : Entity → Entity} (live : ∀ id ∈ ids, (s.roster.get? id).isSome) :
    (ids.forM fun id => (liftM (Act.update id f) : Visiting σ Unit)).run w s =
      .ok ((), w) (s.modifyAll ids f) := by
  induction ids generalizing s with
  | nil => rfl
  | cons first rest ih =>
    obtain ⟨here, others⟩ := List.forall_mem_cons.mp live
    obtain ⟨e, present⟩ := Option.isSome_iff_exists.mp here
    have changed : (liftM (Act.update first f) : Visiting σ Unit).run w s =
        .ok ((), w) (s.modify first f) := bind_of_ok (update_of_get? f present)
    refine (bind_of_ok changed).trans (ih fun id among => ?_)
    have still : (s.modify first f).roster.get? id = _ := s.get?_modifyAll [first] f id
    rw [still, Option.isSome_map]
    exact others id among

namespace Effect

/-! ## Amounts that are not scaled -/

variable {p : LifePlan} {attackMul : Single} {n : Int32} {e : Entity}

/-- **An unscaled amount** is rounded to 24 digits, and added. -/
theorem life_addLife (unscaled : p.absolute = true ∨ 0 ≤ n) (h : e.LifeBounded) :
    (addLife p attackMul n e).life.toInt = e.lifeAfter p.kill (nearest n.toInt) := by
  have plain : (!p.absolute && (Single.ofInt32 n).lt .zero) = false := by
    rcases unscaled with absolute | heal
    · rw [absolute]
      rfl
    · rw [Single.lt_zero_ofInt32 heal, Bool.and_false]
  refine Entity.toInt_life_of_saturating h p.kill _ ?_
  rw [plain, if_neg Bool.false_ne_true, Single.toInt32_ofInt32]

/-- **What an unscaled amount makes of an entity.** -/
structure Adds (kill : Bool) (amount : Int32) (e e' : Entity) : Prop where
  alone : e' = { e with life := e'.life }
  bounded : e'.LifeBounded
  life : e'.life.toInt = e.lifeAfter kill (nearest amount.toInt)
  exact_iff : e'.life.toInt = e.lifeAfter kill amount.toInt ↔
    nearest amount.toInt = amount.toInt ∨ e.Levels kill (nearest amount.toInt) amount.toInt
  near : |e'.life.toInt - e.lifeAfter kill amount.toInt| ≤ 64

/-- An amount of few digits is added exactly. -/
theorem Adds.exact_of_le {kill : Bool} {amount : Int32} {e e' : Entity} (h : Adds kill amount e e')
    (few : amount.toInt.natAbs ≤ 2 ^ 24) : e'.life.toInt = e.lifeAfter kill amount.toInt :=
  h.exact_iff.mpr (.inl (nearest_of_le few))

theorem adds_addLife (unscaled : p.absolute = true ∨ 0 ≤ n) (h : e.LifeBounded) :
    Adds p.kill n e (addLife p attackMul n e) := by
  have life : (addLife p attackMul n e).life.toInt = e.lifeAfter p.kill (nearest n.toInt) :=
    life_addLife unscaled h
  have range : n.toInt.natAbs ≤ 2 ^ 31 := by
    have least := n.le_toInt
    have most := n.toInt_lt
    omega
  have bounds : 0 ≤ (addLife p attackMul n e).life ∧ (addLife p attackMul n e).life ≤ e.lifeMax :=
    Entity.limited_bounds (Int32.le_trans h.nonneg h.most) _
  exact {
    alone := rfl
    bounded := ⟨h.one, bounds.1, bounds.2⟩
    life := life
    exact_iff := by rw [life, Entity.lifeAfter_eq_iff h]
    near := by
      rw [life]
      exact Entity.lifeAfter_near _ (nearest_near range) }

/-! ## Value records -/

variable {r : ArgRecord} {s u : Scene} {v : Value}

/-- A value record in the visit to one target. -/
theorem run_lifeAdd {origin : EntityId} {w : Visit LifePlan} (tag : r.tag = LifeTag.value)
    (given : r.Gives w.target.origin s v u) (live : (u.roster.get? w.target.id).isSome) :
    ((lifeAddVisitor origin).handle r).run w s =
      .ok (true, w) (u.modify w.target.id (addLife w.plan .one v.toInt32)) := by
  obtain ⟨e, present⟩ := Option.isSome_iff_exists.mp live
  obtain ⟨tag', expressions⟩ := r
  obtain rfl : tag' = LifeTag.value := tag
  let f := addLife w.plan .one v.toInt32
  have rest : (do
      let p ← Visiting.plan
      Visiting.updateTarget (addLife p .one v.toInt32)
      return true : Visiting LifePlan Bool).run w u = .ok (true, w) (u.modify w.target.id f) :=
    bind_of_ok (Visiting.run_updateTarget f present)
  exact (bind_of_ok (Visiting.run_int given)).trans rest

/-- A value record in the visit to the targets that are selected. -/
theorem run_targetLifeAdd {origin : EntityId} {w : Visit (Selection LifePlan)} {e : Entity}
    (tag : r.tag = TargetLifeTag.value) (given : r.Gives w.target.origin s v u)
    (named : w.plan.ids ≠ []) (attacker : u.roster.get? w.target.id = some e)
    (live : ∀ id ∈ w.plan.ids, (u.roster.get? id).isSome) :
    ((targetLifeAddVisitor origin).handle r).run w s =
      .ok (true, w) (u.modifyAll w.plan.ids (addLife w.plan.plan e.attackMul v.toInt32)) := by
  obtain ⟨tag', expressions⟩ := r
  obtain rfl : tag' = TargetLifeTag.value := tag
  let f := addLife w.plan.plan e.attackMul v.toInt32
  have known : (Visiting.targetEntity : Visiting (Selection LifePlan) Entity).run w u =
      .ok (e, w) u := bind_of_ok (entity_of_get? attacker)
  have rest : (do
      let p := (← Visiting.plan).plan
      let attacker ← Visiting.targetEntity
      w.plan.ids.forM fun t => Act.update t (addLife p attacker.attackMul v.toInt32) :
      Visiting (Selection LifePlan) Unit).run w u = .ok ((), w) (u.modifyAll w.plan.ids f) :=
    (bind_of_ok known).trans (run_updateAll live)
  have some : w.plan.ids.isEmpty = false := List.isEmpty_eq_false_iff.mpr named
  have acts : (do
      let n ← Visiting.int ⟨TargetLifeTag.value, expressions⟩
      let p := (← Visiting.plan).plan
      let attacker ← Visiting.targetEntity
      w.plan.ids.forM fun t => Act.update t (addLife p attacker.attackMul n) :
      Visiting (Selection LifePlan) Unit).run w s = .ok ((), w) (u.modifyAll w.plan.ids f) :=
    (bind_of_ok (Visiting.run_int given)).trans rest
  show (if w.plan.ids.isEmpty then _ else _ : Visiting (Selection LifePlan) Bool).run w s = _
  rw [some, if_neg Bool.false_ne_true]
  exact bind_of_ok acts

/-- **A value record** of one of the two effects, met by a visit. -/
inductive ValueRecord (origin : EntityId) (r : ArgRecord) where
  /-- Life is added to the target. -/
  | single (w : Visit LifePlan) (tag : r.tag = LifeTag.value)
  /-- Life is added to all targets that are selected. -/
  | selected (w : Visit (Selection LifePlan)) (tag : r.tag = TargetLifeTag.value)

namespace ValueRecord

variable {origin : EntityId}

/-- Target of the visit; for the second effect, the attacker. -/
def target : ValueRecord origin r → Target
  | single w _ => w.target
  | selected w _ => w.target

def plan : ValueRecord origin r → LifePlan
  | single w _ => w.plan
  | selected w _ => w.plan.plan

/-- Those whose life it adds to. -/
def ids : ValueRecord origin r → List EntityId
  | single w _ => [w.target.id]
  | selected w _ => w.plan.ids

/-- What the effect does with the record, and whether the visit goes on. -/
def handle : ValueRecord origin r → Act Bool
  | single w _ => Prod.fst <$> ((lifeAddVisitor origin).handle r).run w
  | selected w _ => Prod.fst <$> ((targetLifeAddVisitor origin).handle r).run w

/-- **Life is added**, to each as often as it is named. -/
theorem handle_eq (x : ValueRecord origin r) (given : r.Gives x.target.origin s v u)
    (named : x.ids ≠ []) (live : ∀ id ∈ x.target.id :: x.ids, (u.roster.get? id).isSome) :
    ∃ attackMul, x.handle s =
      .ok true (u.modifyAll x.ids (addLife x.plan attackMul v.toInt32)) := by
  obtain ⟨here, others⟩ := List.forall_mem_cons.mp live
  cases x with
  | single w tag => exact ⟨.one, bind_of_ok (run_lifeAdd tag given here)⟩
  | selected w tag =>
    obtain ⟨e, attacker⟩ := Option.isSome_iff_exists.mp here
    exact ⟨e.attackMul, bind_of_ok (run_targetLifeAdd tag given named attacker others)⟩

/-- A record of minus five. -/
def fiveLess : ArgRecord := ⟨LifeTag.value, [Expression.int (-5)]⟩

/-- **Unscaled life changes.**  A value record that heals, or whose amount is absolute, adds life to
    everybody it names, as often as it names them, and changes nobody else.  Of an amount of more
    than 24 digits it adds the nearest one that has no more of them.  So the new life is as if
    computed in unbounded integers, if the amount is its own nearest one or does not matter, and
    off by 64 at most if not. -/
theorem adds_nearest (x : ValueRecord origin r) (given : r.Gives x.target.origin s v u)
    (named : x.ids ≠ []) (live : ∀ id ∈ x.target.id :: x.ids, (u.roster.get? id).isSome)
    (unscaled : x.plan.absolute = true ∨ 0 ≤ v.toInt32) :
    ∃ add t, x.handle s = .ok true t ∧
      (∀ id, t.roster.get? id = (u.roster.get? id).map add^[x.ids.count id]) ∧
      ∀ e : Entity, e.LifeBounded → Adds x.plan.kill v.toInt32 e (add e) := by
  obtain ⟨attackMul, handled⟩ := x.handle_eq given named live
  exact ⟨_, _, handled, fun id => u.get?_modifyAll x.ids _ id,
    fun e bounded => adds_addLife unscaled bounded⟩

/-- Five less, whatever the defence. -/
theorem adds_nearest_absolute :
    let x : ValueRecord 0 fiveLess := single ⟨.start 0, ⟨true, true⟩⟩ rfl
    ∃ u, fiveLess.Gives 0 Scene.duo (.int (-5)) u ∧ ∃ add t, x.handle Scene.duo = .ok true t ∧
      (∀ id, t.roster.get? id = (u.roster.get? id).map add^[[0].count id]) ∧
      ∀ e : Entity, e.LifeBounded → Adds true (-5) e (add e) := by
  intro x
  obtain ⟨u, given, same⟩ : ∃ u, fiveLess.Gives 0 Scene.duo (.int (-5)) u ∧
      u.roster = Scene.duo.roster := ⟨_, ⟨_, rfl, rfl⟩, rfl⟩
  have live : ∀ id ∈ [0, 0], (u.roster.get? id).isSome := by
    rw [same]
    decide
  exact ⟨u, given, adds_nearest x given (by decide) live (.inl rfl)⟩

end ValueRecord

/-- A player whose life may be large. -/
def sturdy : Scene := Scene.duo.modify 0 fun e => { e with lifeMax := 20000000 }

/-- A heal of 25 digits, the last of them a one. -/
def longHeal : ArgRecord := ⟨LifeTag.value, [Expression.int 16777217]⟩

/-- **The last digit is lost**: what is added is one less than the record says. -/
theorem adds_one_less :
    ∃ e t, sturdy.roster.get? 0 = some e ∧ e.LifeBounded ∧
      EffectKind.lifeAdd.run 0 (ArgBlock.ofRecords [longHeal]) sturdy = .ok false t ∧
      e.lifeAfter true 16777217 = 16778217 ∧
      (t.roster.get? 0).map (·.life) = some 16778216 := by
  let v := lifeAddVisitor 0
  have encodable : ∀ r ∈ [longHeal], r.Encodable := by decide
  obtain ⟨e, present, bounded, claimed⟩ : ∃ e, sturdy.roster.get? 0 = some e ∧ e.LifeBounded ∧
      e.lifeAfter true 16777217 = 16778217 := ⟨_, rfl, by decide, by decide⟩
  obtain ⟨w, u, t, passes, finish, life⟩ : ∃ w u t,
      v.Passes sturdy [longHeal] w u ∧ v.finish true w u = .ok false t ∧
        (t.roster.get? 0).map (·.life) = some 16778216 := ⟨_, _, _, rfl, rfl, by decide⟩
  exact ⟨e, t, present, bounded, (passes.finishes encodable).run_eq.trans finish, claimed, life⟩

end Effect
end TickScript
