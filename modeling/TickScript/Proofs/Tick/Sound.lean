import TickScript.Proofs.Roster.Sound
import TickScript.Proofs.Tick.Turn

/-! # Vitals stay within their bounds

    In a sound roster life and power are between zero and their maximum and elements of animations
    count from one.  Deeds keep a roster sound, and what a turn does beyond deeds, putting its
    entity into another state and letting its time pass, does not concern vitals.  So whatever is
    run, and however it ends, a sound roster stays sound (`vitals_stay_bounded`).
-/

namespace TickScript

namespace Footprint

/-- **Changes that keep a sound roster sound.** -/
def sound : Footprint Scene := keeping fun s => s.roster.Sound

theorem free_sound : sound.Free where
  aside {s t} _ same all := by
    show t.roster.Sound
    rwa [same]
  deed _ _ deed all := Roster.Sound.deed all deed

theorem allowsTurns_sound (id : EntityId) : sound.AllowsTurns id where
  toFree := free_sound
  request _ _ all := Roster.Sound.modify all fun _ _ sound => sound.of_vitals rfl
  age _ all := Roster.Sound.modify all fun _ _ sound => sound.of_vitals rfl

end Footprint

theorem Engine.sound_tick {g : Engine} {s : Scene} (all : s.roster.Sound) :
    (g.tick s).2.roster.Sound :=
  Footprint.allows_steps Footprint.allowsTurns_sound s.roster.runOrder _ s all

/-- **A sound roster stays sound** under every evaluation of an expression, every controller, every
    entry of a state, every run of a program and every tick, whatever the bytes and the files are,
    and also if a fault ends them.  Helpers that are spawned are sound from the start. -/
theorem vitals_stay_bounded {s : Scene} (all : s.roster.Sound) :
    let soundly {α : Type} (x : Act α) : Prop :=
      Ends x s (fun _ t => t.roster.Sound) fun _ t => t.roster.Sound
    (∀ code id, soundly (Act.evaluate code id)) ∧
    (∀ (c : Controller) id, soundly (c.run id)) ∧
    (∀ (p : StateProgram) id, soundly (p.enter id)) ∧
    (∀ (p : StateProgram) id, soundly (p.run id)) ∧
    (∀ (g : Engine) id q, soundly (g.enter id q)) ∧
    (∀ (g : Engine) id, soundly (g.turn id)) ∧
    ∀ g : Engine, (g.tick s).2.roster.Sound := by
  have free := Footprint.free_sound
  have turns := Footprint.allowsTurns_sound
  refine ⟨fun code id => ?_, fun c id => ?_, fun p id => ?_, fun p id => ?_, fun g id q => ?_,
    fun g id => ?_, fun g => ?_⟩
  · exact Footprint.keeps_keeping.mp (free.evaluate code id) s all
  · exact Footprint.keeps_keeping.mp (free.allowsPrograms.controller id c) s all
  · exact Footprint.keeps_keeping.mp (free.allowsEntries.enter id p) s all
  · exact Footprint.keeps_keeping.mp (free.run p id) s all
  · exact Footprint.keeps_keeping.mp ((turns id).enter q) s all
  · exact Footprint.keeps_keeping.mp (turns id).turn s all
  · exact Engine.sound_tick all

/-- A player spawns a helper, loses all its life and more, gains the greatest power, and then runs
    into a byte that is no opcode. -/
def Engine.reckless : Engine :=
  let value (n : Int32) := ArgBlock.ofRecords [⟨Effect.valueTag, [Expression.int n]⟩]
  let harm := ArgBlock.ofRecords [⟨Effect.LifeTag.value, [Expression.int Int32.minValue]⟩]
  let body : List Controller :=
    [.effect .helper (.ofRecords [⟨Effect.HelperTag.facing, [Expression.int 1]⟩]),
      .effect .lifeAdd harm, .effect (.vital .powerAdd) (value Int32.maxValue), .evaluate [0xff]]
  let p : StateProgram := ⟨0, none, none, none, .ofRecords [], .plain body, 0, 0, 0⟩
  (Engine.ofSettings .empty).addLibrary 1 ((Library.empty .empty 1).insert p)

/-- The turn is aborted, the helper is there, and both are sound. -/
theorem vitals_stay_bounded_reckless :
    Scene.lone.roster.Sound ∧ (Engine.reckless.tick Scene.lone).2.roster.Sound ∧
    (Engine.reckless.tick Scene.lone).1.aborted = [⟨0, 0, 1, .unknownOpcode 0xff 0⟩] ∧
    (Engine.reckless.tick Scene.lone).2.roster.entries.map (fun x => (x.2.life, x.2.power)) =
      [(0, 3000), (1000, 0)] := by
  have all : Scene.lone.roster.Sound := by decide +kernel
  obtain ⟨-, -, -, -, -, -, ticks⟩ := vitals_stay_bounded all
  exact ⟨all, ticks Engine.reckless, by decide +kernel, by decide +kernel⟩

end TickScript
