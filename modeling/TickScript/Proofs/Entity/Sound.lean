import TickScript.Entity.Stores

/-! # Sound entities

    The vitals of an entity have bounds: life and power stay between zero and their maximum, and
    the element of an animation counts from one.  Only three functions write them, and each moves
    what it is given into the bounds first, so they keep an entity sound whatever they are given.
    All else that is done to an entity leaves its vitals alone.
-/

namespace TickScript.Entity

/-- **The vitals**, which have bounds. -/
def vitals (e : Entity) : Int32 × Int32 × Int32 × Int32 × Int32 :=
  (e.life, e.lifeMax, e.power, e.powerMax, e.animElem)

/-- **A sound entity**: its vitals are within their bounds, and its arrays have their sizes. -/
structure Sound (e : Entity) : Prop where
  lifeMax : 0 ≤ e.lifeMax
  powerMax : 0 ≤ e.powerMax
  life : 0 ≤ e.life ∧ e.life ≤ e.lifeMax
  power : 0 ≤ e.power ∧ e.power ≤ e.powerMax
  animElem : 1 ≤ e.animElem
  sizes : e.vars.ints.toList.length = 60 ∧ e.vars.singles.toList.length = 40 ∧
    e.vars.systemInts.toList.length = 5 ∧ e.vars.systemSingles.toList.length = 5

/-- The sizes of the arrays are in their types. -/
theorem sizes (e : Entity) :
    e.vars.ints.toList.length = 60 ∧ e.vars.singles.toList.length = 40 ∧
      e.vars.systemInts.toList.length = 5 ∧ e.vars.systemSingles.toList.length = 5 :=
  ⟨Vector.length_toList, Vector.length_toList, Vector.length_toList, Vector.length_toList⟩

instance (e : Entity) : Decidable e.Sound :=
  decidable_of_iff
    (0 ≤ e.lifeMax ∧ 0 ≤ e.powerMax ∧ (0 ≤ e.life ∧ e.life ≤ e.lifeMax) ∧
      (0 ≤ e.power ∧ e.power ≤ e.powerMax) ∧ 1 ≤ e.animElem)
    ⟨fun ⟨lifeMax, powerMax, life, power, animElem⟩ =>
        ⟨lifeMax, powerMax, life, power, animElem, e.sizes⟩,
      fun sound => ⟨sound.lifeMax, sound.powerMax, sound.life, sound.power, sound.animElem⟩⟩

/-- A number that is moved into the bounds is within them. -/
theorem limited_bounds {most : Int32} (nonneg : 0 ≤ most) (n : Int32) :
    0 ≤ limited most n ∧ limited most n ≤ most := by
  unfold limited
  split
  case isTrue => exact ⟨Int32.le_refl 0, nonneg⟩
  case isFalse positive =>
    split
    case isTrue => exact ⟨nonneg, Int32.le_refl most⟩
    case isFalse below => exact ⟨Int32.not_lt.mp positive, Int32.not_lt.mp below⟩

namespace Sound

variable {e e' : Entity}

/-- Soundness is a matter of the vitals. -/
theorem of_vitals (sound : e.Sound) (same : e'.vitals = e.vitals) : e'.Sound := by
  obtain ⟨life, lifeMax, power, powerMax, animElem⟩ :
      e'.life = e.life ∧ e'.lifeMax = e.lifeMax ∧ e'.power = e.power ∧
        e'.powerMax = e.powerMax ∧ e'.animElem = e.animElem := by
    simpa only [vitals, Prod.mk.injEq] using same
  refine ⟨?_, ?_, ?_, ?_, ?_, Entity.sizes e'⟩
  · rw [lifeMax]; exact sound.lifeMax
  · rw [powerMax]; exact sound.powerMax
  · rw [life, lifeMax]; exact sound.life
  · rw [power, powerMax]; exact sound.power
  · rw [animElem]; exact sound.animElem

theorem fresh (id : Int32) (playerNo : Nat) (name : String) :
    (Entity.fresh id playerNo name).Sound := by
  have blank : (Entity.fresh 0 0 "").Sound := by decide
  exact blank.of_vitals rfl

/-! ## The three functions that write vitals -/

theorem setLife (sound : e.Sound) (n : Int32) : (e.setLife n).Sound :=
  { sound with life := limited_bounds sound.lifeMax n }

theorem setPower (sound : e.Sound) (n : Int32) : (e.setPower n).Sound :=
  { sound with power := limited_bounds sound.powerMax n }

theorem setAnim (sound : e.Sound) (anim elem : Int32) : (e.setAnim anim elem).Sound := by
  have bounded : 1 ≤ if elem < 1 then 1 else elem := by
    split
    case isTrue => exact Int32.le_refl 1
    case isFalse least => exact Int32.not_lt.mp least
  exact { sound with animElem := bounded }

end Sound
end TickScript.Entity
