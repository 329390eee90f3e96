import Mathlib.Tactic.FieldSimp
import Mathlib.Tactic.LinearCombination
import Mathlib.Tactic.NormNum
import Mathlib.Tactic.Ring
import TickScript.Proofs.Eval.Redirect
import TickScript.Proofs.Roster.Roles
import TickScript.Proofs.Value.Sums

/-! # Distances and scales

    Every entity has coordinates of its own, in a scale of its own.  Where somebody else stands can
    be asked in two ways:

        read      a redirect to somebody, and a read of the coordinate: it is converted from their
                  scale to that of the entity that asks
        distance  one instruction: the coordinates of both are subtracted as they are

    The first way has the scales in it and the second has not, so the distance is the difference of
    the coordinates that are read, as long as both stand in one scale, and otherwise only if the
    other one stands at zero or there is no direction to measure in (`distance_agrees_iff`).

    Singles are compared as the rational numbers they stand for, where all operations that take part
    are exact.
-/

namespace TickScript

open Expression (Holds)

namespace Single

/-- **The number that a finite pattern stands for.** -/
def toRat (s : Single) : ℚ := s.scaled.signedMantissa * (2 : ℚ) ^ s.scaled.exponent

/-- **An exact result**: it is finite, and it is the number. -/
structure Exact (s : Single) (q : ℚ) : Prop where
  finite : s.isFinite
  value : s.toRat = q

/-- An exact result is pushed as it is. -/
theorem Exact.ofSingle {s : Single} {q : ℚ} (h : s.Exact q) : Value.ofSingle s = .float s :=
  Value.ofSingle_of_number (isNaN_of_isFinite h.finite)

end Single

/-- The role of a landmark. -/
def Landmark.role : Landmark → Role
  | .parent => .parent
  | .root => .root
  | .nearestEnemy => .nearestEnemy

namespace Axis

/-- The coordinate along an axis. -/
def coordinate : Axis → Coordinate
  | .x => .posX
  | .y => .posY

/-- The place of an entity along an axis, in its own scale. -/
def place (axis : Axis) (e : Entity) : Single := axis.coordinate.read e

/-- The direction in which a distance is measured: where the entity faces, or downwards. -/
def direction (axis : Axis) (e : Entity) : ℚ :=
  match axis with
  | .x => e.facing.toRat
  | .y => 1

end Axis

/-- **All operations are exact** by which an entity learns where another one stands. -/
structure Measured (e other : Entity) (ratio : Single) (axis : Axis) : Prop where
  factor : ratio.Exact (other.localScale.toRat / e.localScale.toRat)
  converted : (axis.place other * ratio).Exact ((axis.place other).toRat * ratio.toRat)
  own : (axis.place e * .one).Exact (axis.place e).toRat
  difference : (axis.place other - axis.place e).Exact
    ((axis.place other).toRat - (axis.place e).toRat)
  directed : (Eval.separation e other axis).Exact
    ((axis.place other - axis.place e).toRat * axis.direction e)
  whole : (Eval.separation e other axis * .one).Exact (Eval.separation e other axis).toRat

namespace Eval

variable {ctx : EvalContext} {id current origin other : EntityId} {r : Roster} {e o : Entity}
  {ratio : Single} {mark : Landmark} {axis : Axis} {stack : Stack} {profile : Profile}
  {budget : Nat}

/-! ## What the instructions push -/

theorem scaleRatio_of_ok (known : r.scaleRatio current origin = .ok ratio) :
    scaleRatio current origin ⟨stack, profile, r⟩ = .ok ratio ⟨stack, profile, r⟩ := by
  have seen : roster ⟨stack, profile, r⟩ = .ok r ⟨stack, profile, r⟩ := rfl
  rw [scaleRatio, bind_of_ok seen, known]
  rfl

/-- A coordinate is pushed after it was converted. -/
theorem instruction_coordinate {code : Expression} {offset : Nat} {c : Coordinate}
    (known : r.scaleRatio current origin = .ok ratio) (present : r.get? current = some e) :
    instruction ctx code offset current origin (.coordinate c) ⟨stack, profile, r⟩ =
      .ok (.goto offset origin) ⟨.ofSingle (c.read e * ratio) :: stack, profile, r⟩ := by
  have pushed : pushScaled current origin c.read ⟨stack, profile, r⟩ =
      .ok () ⟨.ofSingle (c.read e * ratio) :: stack, profile, r⟩ := by
    rw [pushScaled, bind_of_ok (scaleRatio_of_ok known), bind_of_ok (entity_of_get? present)]
    rfl
  exact bind_of_ok pushed

/-- A distance to somebody who is there is pushed without being converted for the entity itself. -/
theorem instruction_distance {code : Expression} {offset : Nat}
    (held : Holds code offset [(ExtendedOp.distance mark axis).toByte])
    (found : mark.resolve r id = some other) (present : r.get? id = some e)
    (there : r.get? other = some o) :
    instruction ctx code offset id id (.page .extended) ⟨stack, profile, r⟩ =
      .ok (.goto (offset + 1) id)
        ⟨.ofSingle (separation e o axis * .one) :: stack, profile, r⟩ := by
  have measured : distance id id mark axis ⟨stack, profile, r⟩ =
      .ok () ⟨.ofSingle (separation e o axis * .one) :: stack, profile, r⟩ := by
    have seen : roster ⟨stack, profile, r⟩ = .ok r ⟨stack, profile, r⟩ := rfl
    have same : r.scaleRatio id id = .ok .one := if_pos rfl
    refine (bind_of_ok seen).trans ?_
    rw [found]
    exact (bind_of_ok (scaleRatio_of_ok same)).trans ((bind_of_ok (entity_of_get? present)).trans
      ((bind_of_ok (entity_of_get? there)).trans rfl))
  have operation : extendedOp ctx code offset id id ⟨stack, profile, r⟩ =
      .ok (offset + 1) ⟨.ofSingle (separation e o axis * .one) :: stack, profile, r⟩ := by
    simp only [extendedOp, held.uint8At]
    refine (bind_of_ok (a := (ExtendedOp.distance mark axis).toByte)
      (t := (⟨stack, profile, r⟩ : Bench)) rfl).trans ?_
    rw [ExtendedOp.ofByte?_toByte]
    exact (bind_of_ok measured).trans rfl
  exact (bind_of_ok operation).trans rfl

/-- Landmarks take no selector, and so a redirect to one leaves the stack alone. -/
theorem instruction_landmark {code : Expression} {offset : Nat}
    (found : mark.resolve r id = some other) (present : r.get? id = some e) :
    instruction ctx code offset id id (.redirect mark.role) ⟨stack, profile, r⟩ =
      .ok (.goto (offset + 4) other) ⟨stack, profile, r⟩ := by
  have live : r.isLive id := Roster.isLive_iff.mpr ⟨e, present⟩
  have resolved : r.resolve id (Value.int 0).toInt32 mark.role = some other := by
    cases mark <;> exact found
  have unselected : mark.role.operands (.int 0) stack = stack := by
    cases mark <;> rfl
  have run : instruction ctx code offset id id (.redirect mark.role)
      ⟨mark.role.operands (.int 0) stack, profile, r⟩ =
        .ok (.goto (offset + 4) other) ⟨stack, profile, r⟩ := redirect_some live resolved
  rwa [unselected] at run

/-! ## Three evaluations -/

/-- An entity reads its own coordinate. -/
theorem eval_own (ctx : EvalContext) (axis : Axis) (present : r.get? id = some e)
    (enough : 2 ≤ budget) (stack : Stack) (profile : Profile) :
    ∃ profile', eval ctx budget (Expression.op (.coordinate axis.coordinate)) id
      ⟨stack, profile, r⟩ = .ok (.ofSingle (axis.place e * .one)) ⟨stack, profile', r⟩ := by
  have same : r.scaleRatio id id = .ok .one := if_pos rfl
  have step : Arrives ctx id (Expression.op (.coordinate axis.coordinate)) 1
      ⟨0, id, ⟨stack, profile, r⟩⟩ _ :=
    Arrives.instruction (Holds.whole _) (instruction_coordinate same present)
  exact ⟨_, step.eval (by omega)⟩

/-- An entity reads the coordinate of a landmark through a redirect. -/
theorem eval_converted (ctx : EvalContext) (axis : Axis) (found : mark.resolve r id = some other)
    (present : r.get? id = some e) (there : r.get? other = some o)
    (known : r.scaleRatio other id = .ok ratio) (enough : 2 ≤ budget) (stack : Stack)
    (profile : Profile) :
    ∃ profile', eval ctx budget (Expression.redirectInline (.redirect mark.role)
        (Expression.op (.coordinate axis.coordinate))) id ⟨stack, profile, r⟩ =
      .ok (.ofSingle (axis.place o * ratio)) ⟨stack, profile', r⟩ := by
  let read := Expression.op (.coordinate axis.coordinate)
  let code := Expression.redirectInline (.redirect mark.role) read
  let profile' := (Bench.counted ⟨stack, profile, r⟩ (.redirect mark.role)).profile
  have opcode : Holds code 0 ((Opcode.redirect mark.role).toByte :: (read.lengthBytes ++ read)) :=
    Holds.whole code
  have bound : Arrives ctx id code 1 ⟨0, id, ⟨stack, profile, r⟩⟩ ⟨5, other, ⟨stack, profile', r⟩⟩ :=
    Arrives.instruction opcode (instruction_landmark found present)
  have converted : Arrives ctx id code 1 ⟨5, other, ⟨stack, profile', r⟩⟩ _ :=
    Arrives.instruction opcode.tail.right (instruction_coordinate known there)
  exact ⟨_, (bound.trans converted).eval enough⟩

/-- An entity measures a distance. -/
theorem eval_distance (ctx : EvalContext) (axis : Axis) (found : mark.resolve r id = some other)
    (present : r.get? id = some e) (there : r.get? other = some o) (enough : 2 ≤ budget)
    (stack : Stack) (profile : Profile) :
    ∃ profile', eval ctx budget (Expression.extended (.distance mark axis)) id
      ⟨stack, profile, r⟩ =
        .ok (.ofSingle (separation e o axis * .one)) ⟨stack, profile', r⟩ := by
  have whole := Holds.whole (Expression.extended (.distance mark axis))
  have opcode : Holds (Expression.extended (.distance mark axis)) 0
      ((Opcode.page .extended).toByte :: [(ExtendedOp.distance mark axis).toByte]) := whole
  have step : Arrives ctx id (Expression.extended (.distance mark axis)) 1
      ⟨0, id, ⟨stack, profile, r⟩⟩ _ :=
    Arrives.instruction opcode (instruction_distance opcode.tail found present there)
  exact ⟨_, step.eval (by omega)⟩

/-! ## The two ways -/

/-- **The distance has no scale in it.** -/
theorem toRat_distance (h : Measured e o ratio axis) :
    (separation e o axis * .one).toRat =
      ((axis.place o).toRat - (axis.place e).toRat) * axis.direction e :=
  calc (separation e o axis * .one).toRat
      = (separation e o axis).toRat := h.whole.value
    _ = (axis.place o - axis.place e).toRat * axis.direction e := h.directed.value
    _ = ((axis.place o).toRat - (axis.place e).toRat) * axis.direction e := by
        rw [h.difference.value]

/-- **The difference of what is read has both scales in it.** -/
theorem toRat_difference (h : Measured e o ratio axis) :
    (axis.place o * ratio).toRat - (axis.place e * .one).toRat =
      (axis.place o).toRat * (o.localScale.toRat / e.localScale.toRat) - (axis.place e).toRat := by
  rw [h.converted.value, h.factor.value, h.own.value]

/-- When a difference does not notice that one side is converted. -/
theorem difference_eq_iff {a b direction s t : ℚ} (positive : 0 < s) :
    (b - a) * direction = (b * (t / s) - a) * direction ↔
      s = t ∨ b = 0 ∨ direction = 0 := by
  have nonzero : s ≠ 0 := ne_of_gt positive
  constructor
  · intro same
    have product : b * direction * (s - t) = 0 := by
      field_simp at same
      linear_combination same
    rcases mul_eq_zero.mp product with either | scales
    · exact .inr (mul_eq_zero.mp either)
    · exact .inl (sub_eq_zero.mp scales)
  · rintro (rfl | rfl | rfl)
    · rw [div_self nonzero, mul_one]
    · ring
    · ring

/-- **The two ways to measure a distance.**  An entity asks how far its parent, its root or its
    nearest enemy is, and it reads the coordinate of that landmark and its own, all of it exactly.
    All three have results.  The distance is the difference of the coordinates in the scales in
    which the two entities stand, taken in the direction of the axis.  So it is the difference of
    what is read exactly if both have the same scale, or the landmark is at zero, or there is no
    direction. -/
theorem distance_agrees_iff (ctx : EvalContext) (mark : Landmark) (axis : Axis)
    (found : mark.resolve r id = some other) (present : r.get? id = some e)
    (there : r.get? other = some o) (known : r.scaleRatio other id = .ok ratio)
    (positive : 0 < e.localScale.toRat) (measured : Measured e o ratio axis) (enough : 2 ≤ budget)
    (stack : Stack) (profile : Profile) :
    ∃ distance converted own : Single,
      (∃ profile', eval ctx budget (Expression.extended (.distance mark axis)) id
        ⟨stack, profile, r⟩ = .ok (.float distance) ⟨stack, profile', r⟩) ∧
      (∃ profile', eval ctx budget (Expression.redirectInline (.redirect mark.role)
          (Expression.op (.coordinate axis.coordinate))) id
        ⟨stack, profile, r⟩ = .ok (.float converted) ⟨stack, profile', r⟩) ∧
      (∃ profile', eval ctx budget (Expression.op (.coordinate axis.coordinate)) id
        ⟨stack, profile, r⟩ = .ok (.float own) ⟨stack, profile', r⟩) ∧
      distance.toRat = ((axis.place o).toRat - (axis.place e).toRat) * axis.direction e ∧
      (distance.toRat = (converted.toRat - own.toRat) * axis.direction e ↔
        e.localScale.toRat = o.localScale.toRat ∨ (axis.place o).toRat = 0 ∨
          axis.direction e = 0) := by
  have distance := eval_distance ctx axis found present there enough stack profile
  have converted := eval_converted ctx axis found present there known enough stack profile
  have own := eval_own ctx axis present enough stack profile
  rw [measured.whole.ofSingle] at distance
  rw [measured.converted.ofSingle] at converted
  rw [measured.own.ofSingle] at own
  refine ⟨_, _, _, distance, converted, own, toRat_distance measured, ?_⟩
  rw [toRat_distance measured, toRat_difference measured]
  exact difference_eq_iff positive

/-! ## Two scales -/

def two : Single := ⟨0x40000000⟩
def eight : Single := ⟨0x41000000⟩
def ten : Single := ⟨0x41200000⟩
def twenty : Single := ⟨0x41a00000⟩

theorem exact_of_scaled {s : Single} {m : Nat} {k : Int} {q : ℚ} (finite : s.isFinite)
    (scaled : s.scaled = ⟨false, m, k⟩) (value : (m : ℚ) * 2 ^ k = q) : s.Exact q := by
  refine ⟨finite, ?_⟩
  rw [Single.toRat, scaled, ← value]
  rfl

theorem exact_one : Single.one.Exact 1 :=
  exact_of_scaled (m := 0x800000) (k := -23) (by decide) (by decide) (by norm_num)

theorem exact_two : two.Exact 2 :=
  exact_of_scaled (m := 0x800000) (k := -22) (by decide) (by decide) (by norm_num)

theorem exact_eight : eight.Exact 8 :=
  exact_of_scaled (m := 0x800000) (k := -20) (by decide) (by decide) (by norm_num)

theorem exact_ten : ten.Exact 10 :=
  exact_of_scaled (m := 0xa00000) (k := -20) (by decide) (by decide) (by norm_num)

theorem exact_twenty : twenty.Exact 20 :=
  exact_of_scaled (m := 0xa00000) (k := -19) (by decide) (by decide) (by norm_num)

/-- Player one stands at two in the scale of one, and player two at ten in the scale of two. -/
def apart : Roster :=
  ((((Roster.ofSeed 0).addPlayer 1 "").1.addPlayer 2 "").1.modify 0 fun e =>
    { e with pos := { e.pos with x := two } }).modify 1 fun e =>
      { e with localScale := two, pos := { e.pos with x := ten } }

def near : Entity := (apart.get? 0).get (by decide)
def far : Entity := (apart.get? 1).get (by decide)

theorem get?_near : apart.get? 0 = some near := (Option.some_get _).symm
theorem get?_far : apart.get? 1 = some far := (Option.some_get _).symm

theorem nearestEnemy_near : Landmark.nearestEnemy.resolve apart 0 = some 1 := by
  have only : apart.opponentsByDistance 0 = [(1, far)] := by
    have enemies : apart.opponents 0 = [(1, far)] := by decide
    exact List.perm_singleton.mp (enemies ▸ Roster.opponentsByDistance_perm get?_near)
  rw [Landmark.resolve, Roster.nearestEnemy, Roster.enemyNear, only]
  rfl

theorem scales_apart : near.localScale = .one ∧ far.localScale = two := by decide

theorem places_apart : Axis.x.place near = two ∧ Axis.x.place far = ten := by decide

theorem direction_near : Axis.x.direction near = 1 := by
  have facing : near.facing = .one := by decide
  rw [Axis.direction, facing, exact_one.value]

theorem scaleRatio_apart : apart.scaleRatio 1 0 = .ok two := by decide

theorem measured_apart : Measured near far two .x := by
  have results : ten * two = twenty ∧ two * .one = two ∧ ten - two = eight ∧
      separation near far .x = eight ∧ eight * .one = eight := by decide
  obtain ⟨converted, own, difference, directed, whole⟩ := results
  constructor
  · rw [scales_apart.1, scales_apart.2, exact_one.value, exact_two.value]
    exact ⟨exact_two.finite, by rw [exact_two.value]; norm_num⟩
  · rw [places_apart.2, converted, exact_ten.value, exact_two.value]
    exact ⟨exact_twenty.finite, by rw [exact_twenty.value]; norm_num⟩
  · rw [places_apart.1, own]
    exact ⟨exact_two.finite, rfl⟩
  · rw [places_apart.1, places_apart.2, difference, exact_ten.value, exact_two.value]
    exact ⟨exact_eight.finite, by rw [exact_eight.value]; norm_num⟩
  · rw [places_apart.1, places_apart.2, directed, difference, direction_near]
    exact ⟨exact_eight.finite, by rw [exact_eight.value]; norm_num⟩
  · rw [directed, whole]
    exact ⟨exact_eight.finite, rfl⟩

/-- The scales differ, nobody is at zero, and so the two ways to measure disagree. -/
theorem distance_agrees_iff_apart :
    Landmark.nearestEnemy.resolve apart 0 = some 1 ∧
      apart.get? 0 = some near ∧ apart.get? 1 = some far ∧
      apart.scaleRatio 1 0 = .ok two ∧ 0 < near.localScale.toRat ∧ Measured near far two .x ∧
      ∃ distance converted own : Single, distance.toRat = 8 ∧
        distance.toRat ≠ (converted.toRat - own.toRat) * Axis.x.direction near := by
  have positive : 0 < near.localScale.toRat := by
    rw [scales_apart.1, exact_one.value]
    norm_num
  obtain ⟨distance, converted, own, -, -, -, value, agrees⟩ :=
    distance_agrees_iff ⟨.empty, .empty, .current⟩ .nearestEnemy .x nearestEnemy_near get?_near
      get?_far scaleRatio_apart positive measured_apart (Nat.le_refl 2) [] .off
  rw [places_apart.1, places_apart.2, direction_near, exact_ten.value, exact_two.value] at value
  refine ⟨nearestEnemy_near, get?_near, get?_far, scaleRatio_apart, positive, measured_apart,
    distance, converted, own, by rw [value]; norm_num, fun same => ?_⟩
  -- none of the three reasons for an agreement is there
  have reasons := agrees.mp same
  rw [scales_apart.1, scales_apart.2, places_apart.2, direction_near, exact_one.value,
    exact_two.value, exact_ten.value] at reasons
  norm_num at reasons

/-- **Scales are ignored**: the enemy is read at twenty and the entity at two, but the distance
    between them is eight. -/
theorem distance_ignores_scales :
    let ctx : EvalContext := ⟨.empty, .empty, .current⟩
    (∃ profile', eval ctx 2 (Expression.extended (.distance .nearestEnemy .x)) 0
      ⟨[], .off, apart⟩ = .ok (.float eight) ⟨[], profile', apart⟩) ∧
    (∃ profile', eval ctx 2 (Expression.redirectInline (.redirect .nearestEnemy)
        (Expression.op (.coordinate .posX))) 0
      ⟨[], .off, apart⟩ = .ok (.float twenty) ⟨[], profile', apart⟩) ∧
    (∃ profile', eval ctx 2 (Expression.op (.coordinate .posX)) 0
      ⟨[], .off, apart⟩ = .ok (.float two) ⟨[], profile', apart⟩) ∧
    near.facing = .one ∧ eight.toRat ≠ (twenty.toRat - two.toRat) * Single.one.toRat := by
  intro ctx
  have distance := eval_distance ctx .x nearestEnemy_near get?_near get?_far (Nat.le_refl 2) [] .off
  have converted := eval_converted ctx .x nearestEnemy_near get?_near get?_far scaleRatio_apart
    (Nat.le_refl 2) [] .off
  have own := eval_own ctx .x get?_near (Nat.le_refl 2) [] .off
  have eights : Value.ofSingle (separation near far .x * .one) = .float eight := by decide
  have twenties : Value.ofSingle (Axis.x.place far * two) = .float twenty := by decide
  have twos : Value.ofSingle (Axis.x.place near * .one) = .float two := by decide
  rw [eights] at distance
  rw [twenties] at converted
  rw [twos] at own
  refine ⟨distance, converted, own, by decide, ?_⟩
  rw [exact_eight.value, exact_twenty.value, exact_two.value, exact_one.value]
  norm_num

end Eval
end TickScript
