import TickScript.Proofs.Roster.Directory
import TickScript.Proofs.Roster.Roles

/-! # The order of the enemies

    An entity asks for its enemies by their places, counted from zero.  They stand in order of
    their handles, the older one first, and this says nothing about the numbers of their players:

        by player       exactly if the players of the enemies ascend with their handles
        added in order  if every player that is added has a greater number than the players that
                        are there, roots ascend (`RootsAscend`), and nothing else that happens to
                        the roster disturbs them
-/

namespace TickScript

/-- Whether an entity can be an enemy: a living root of another side. -/
def Entity.opposes (x e : Entity) : Prop :=
  x.isHelper = false ∧ x.teamSide ≠ e.teamSide ∧ 0 < x.life

/-- What makes a root: whose it is, and whether it is a helper. -/
def Entity.standing (e : Entity) : Nat × Bool := (e.playerNo, e.isHelper)

namespace Roster

variable {r r' : Roster} {id a b : EntityId} {e ea eb : Entity} {i j : Int32} {seed : UInt64}

/-! ## Places -/

/-- The place at which something was found, as a natural number. -/
theorem place_of_nth? {α : Type} {items : List α} {n : Int32} {x : α} (h : nth? items n = some x) :
    ∃ place : Nat, n.toInt = place ∧ items[place]? = some x := by
  unfold nth? at h
  split at h
  · rename_i nonneg
    have value : 0 ≤ n.toInt := Int32.le_iff_toInt_le.mp nonneg
    exact ⟨n.toInt.toNat, (Int.toNat_of_nonneg value).symm, h⟩
  · cases h

/-- A place that fits a signed word can be asked for. -/
theorem nth?_ofNat {α : Type} {items : List α} {place : Nat} (fits : place < Nat.pow 2 31) :
    nth? items (Int32.ofNat place) = items[place]? := by
  have value : (Int32.ofNat place).toInt = place := Int32.toInt_ofNat_of_lt fits
  have nonneg : 0 ≤ Int32.ofNat place := by
    rw [Int32.le_iff_toInt_le, value]
    exact Int.natCast_nonneg place
  rw [nth?, if_pos nonneg, value, Int.toNat_natCast]

/-- **A relation of enemies by place** is the relation of the list of enemies. -/
theorem enemy_pairwise {before : EntityId → EntityId → Prop}
    (ordered : (handles (r.opponents id)).Pairwise before) (less : i < j)
    (first : r.enemy id i = some a) (second : r.enemy id j = some b) : before a b := by
  rw [enemy, map_nth?] at first second
  obtain ⟨m, atM, first⟩ := place_of_nth? first
  obtain ⟨n, atN, second⟩ := place_of_nth? second
  have places : m < n := by
    have := Int32.lt_iff_toInt_lt.mp less
    omega
  obtain ⟨inside, rfl⟩ := List.getElem?_eq_some_iff.mp first
  obtain ⟨inside', rfl⟩ := List.getElem?_eq_some_iff.mp second
  exact List.pairwise_iff_getElem.mp ordered m n inside inside' places

/-- **Every two enemies can be asked for**, the older one at a smaller place, as long as their
    number fits a signed word. -/
theorem exists_places (few : r.numEnemies id ≤ Nat.pow 2 31) (older : a < b)
    (one : a ∈ handles (r.opponents id)) (other : b ∈ handles (r.opponents id)) :
    ∃ i j, i < j ∧ r.enemy id i = some a ∧ r.enemy id j = some b := by
  have ordered : (handles (r.opponents id)).Pairwise (· < ·) :=
    List.pairwise_map.mpr (r.opponents_ordered id)
  have bound : (handles (r.opponents id)).length ≤ Nat.pow 2 31 := by
    rw [handles, List.length_map]
    exact few
  obtain ⟨m, inside, rfl⟩ := List.mem_iff_getElem.mp one
  obtain ⟨n, inside', rfl⟩ := List.mem_iff_getElem.mp other
  -- the list ascends, and so the older one stands in front
  have places : m < n := by
    refine Nat.lt_of_not_le fun behind => ?_
    rcases Nat.lt_or_eq_of_le behind with less | rfl
    · exact Nat.lt_asymm older (List.pairwise_iff_getElem.mp ordered n m inside' inside less)
    · exact Nat.lt_irrefl _ older
  have fitsM : m < Nat.pow 2 31 := Nat.lt_of_lt_of_le inside bound
  have fitsN : n < Nat.pow 2 31 := Nat.lt_of_lt_of_le inside' bound
  refine ⟨Int32.ofNat m, Int32.ofNat n, ?_, ?_, ?_⟩
  · rw [Int32.lt_iff_toInt_lt, Int32.toInt_ofNat_of_lt fitsM, Int32.toInt_ofNat_of_lt fitsN]
    exact Int.ofNat_lt.mpr places
  · rw [enemy, map_nth?]
    exact (nth?_ofNat fitsM).trans (List.getElem?_eq_getElem inside)
  · rw [enemy, map_nth?]
    exact (nth?_ofNat fitsN).trans (List.getElem?_eq_getElem inside')

/-! ## Players in order -/

/-- **The enemies stand in order of their players.** -/
def EnemiesByPlayer (r : Roster) (id : EntityId) : Prop :=
  ∀ i j a b ea eb, i < j → r.enemy id i = some a → r.enemy id j = some b →
    r.get? a = some ea → r.get? b = some eb → ea.playerNo < eb.playerNo

/-- **Roots ascend**: the younger one has the greater player number. -/
def RootsAscend (r : Roster) : Prop :=
  ∀ a b ea eb, a < b → r.get? a = some ea → r.get? b = some eb →
    ea.isHelper = false → eb.isHelper = false → ea.playerNo < eb.playerNo

/-- **One change of a roster in order**: the player of a root that is new has a greater number than
    those that are there. -/
def StepInOrder (r r' : Roster) : Prop :=
  r.Step r' ∧ ∀ a b ea eb, r.get? a = some ea → ea.isHelper = false →
    r.get? b = none → r'.get? b = some eb → eb.isHelper = false → ea.playerNo < eb.playerNo

/-- What is found after an entity was added is the new one, or was there. -/
theorem origin_insert (present : (r.insert e).get? b = some eb) :
    (b = r.nextHandle ∧ r.get? b = none) ∨ r.get? b = some eb := by
  rw [get?_insert] at present
  split at present
  · rename_i new
    refine .inl ⟨new.symm, ?_⟩
    cases found : r.get? b with
    | none => rfl
    | some old => exact absurd new (Nat.ne_of_gt (lt_nextHandle found))
  · exact .inr present

/-- What is found after a removal was there, and may have been orphaned. -/
theorem origin_destroy {recursive : Bool} (present : (r.destroy id recursive).1.get? b = some eb) :
    ∃ old, r.get? b = some old ∧ eb.standing = old.standing := by
  cases recursive with
  | true =>
    have kept : (r.destroyAll id).get? b = some eb := present
    rw [get?_destroyAll] at kept
    split at kept
    · cases kept
    · exact ⟨eb, kept, rfl⟩
  | false =>
    have kept : (r.destroyOne id).get? b = some eb := present
    rw [get?_destroyOne] at kept
    split at kept
    · cases kept
    · obtain ⟨old, there, rfl⟩ := Option.map_eq_some_iff.mp kept
      refine ⟨old, there, ?_⟩
      split <;> rfl

/-- **Nobody changes players, and nobody becomes a root or stops being one**: after a step an entity
    is new, or it stands as it stood. -/
theorem Step.origin (step : r.Step r') (present : r'.get? b = some eb) :
    (b = r.nextHandle ∧ r.get? b = none) ∨
      ∃ old, r.get? b = some old ∧ eb.standing = old.standing := by
  cases step with
  | addPlayer playerNo name => exact (origin_insert present).imp_right fun there => ⟨eb, there, rfl⟩
  | spawnHelper success =>
    obtain ⟨parent, root, -, -, -, rfl⟩ := Lineage.of_spawnHelper success
    exact (origin_insert present).imp_right fun there => ⟨eb, there, rfl⟩
  | destroy other recursive => exact .inr (origin_destroy present)
  | random low high => exact .inr ⟨eb, present, rfl⟩
  | advance => exact .inr ⟨eb, present, rfl⟩
  | edit other f same =>
    rw [get?_modify] at present
    split at present
    · rename_i here
      obtain ⟨old, there, rfl⟩ := Option.map_eq_some_iff.mp present
      have identity := same old (here ▸ there)
      simp only [Entity.identity, Prod.mk.injEq] at identity
      exact .inr ⟨old, there, Prod.ext identity.2.1 identity.2.2.1⟩
    · exact .inr ⟨eb, present, rfl⟩

/-- **Roots go on ascending** when a change is in order. -/
theorem RootsAscend.step (h : r.RootsAscend) (step : r.StepInOrder r') : r'.RootsAscend := by
  intro a b ea eb older presentA presentB rootA rootB
  have standing {x old : Entity} (same : x.standing = old.standing) :
      x.playerNo = old.playerNo ∧ x.isHelper = old.isHelper := Prod.mk.inj same
  rcases step.1.origin presentA with ⟨rfl, -⟩ | ⟨oldA, thereA, sameA⟩
  · -- nothing is younger than the newest
    rcases step.1.origin presentB with ⟨rfl, -⟩ | ⟨oldB, thereB, -⟩
    · exact absurd older (Nat.lt_irrefl _)
    · exact absurd older (Nat.lt_asymm (lt_nextHandle thereB))
  · obtain ⟨playerA, helperA⟩ := standing sameA
    have wasRootA : oldA.isHelper = false := helperA ▸ rootA
    rw [playerA]
    rcases step.1.origin presentB with ⟨-, new⟩ | ⟨oldB, thereB, sameB⟩
    · exact step.2 a b oldA eb thereA wasRootA new presentB rootB
    · obtain ⟨playerB, helperB⟩ := standing sameB
      rw [playerB]
      exact h a b oldA oldB older thereA thereB wasRootA (helperB ▸ rootB)

/-- **Along a run in order roots ascend.** -/
theorem rootsAscend_of_steps (run : Relation.ReflTransGen StepInOrder (ofSeed seed) r) :
    r.RootsAscend := by
  induction run with
  | refl =>
    intro a b ea eb older present
    cases present
  | tail _ step ih => exact ih.step step

/-! ## The order of the enemies -/

theorem enemy_opposes (present : r.get? id = some e) (found : r.enemy id i = some a)
    (there : r.get? a = some ea) : ea.opposes e := by
  rw [enemy, map_nth?] at found
  obtain ⟨ea', there', enemy⟩ := (mem_opponents_iff present).mp (mem_of_nth? found)
  obtain rfl : ea = ea' := Option.some.inj (there.symm.trans there')
  exact enemy

/-- **The enemies stand in order of their handles**, which is the order in which they were added:
    the one at the smaller place is the older one.  As long as they can be counted in a signed word,
    they stand in order of their players exactly if the players of all enemies ascend with the
    handles.  They do if every player came in after the players with smaller numbers, whatever else
    happened to the roster in between. -/
theorem enemies_by_handle (present : r.get? id = some e) :
    (∀ i j a b, i < j → r.enemy id i = some a → r.enemy id j = some b → a < b) ∧
    (r.numEnemies id ≤ Nat.pow 2 31 →
      (r.EnemiesByPlayer id ↔ ∀ a b ea eb, a < b → r.get? a = some ea → r.get? b = some eb →
        ea.opposes e → eb.opposes e → ea.playerNo < eb.playerNo)) ∧
    ∀ seed, Relation.ReflTransGen StepInOrder (ofSeed seed) r → r.EnemiesByPlayer id := by
  have byHandle (i j : Int32) (a b : EntityId) (less : i < j) (first : r.enemy id i = some a)
      (second : r.enemy id j = some b) : a < b :=
    enemy_pairwise (List.pairwise_map.mpr (r.opponents_ordered id)) less first second
  refine ⟨byHandle, fun few => ⟨fun byPlayer => ?_, fun ascend => ?_⟩, fun seed run => ?_⟩
  · intro a b ea eb older thereA thereB opposesA opposesB
    obtain ⟨i, j, less, first, second⟩ := exists_places few older
      ((mem_opponents_iff present).mpr ⟨ea, thereA, opposesA⟩)
      ((mem_opponents_iff present).mpr ⟨eb, thereB, opposesB⟩)
    exact byPlayer i j a b ea eb less first second thereA thereB
  · intro i j a b ea eb less first second thereA thereB
    exact ascend a b ea eb (byHandle i j a b less first second) thereA thereB
      (enemy_opposes present first thereA) (enemy_opposes present second thereB)
  · intro i j a b ea eb less first second thereA thereB
    exact rootsAscend_of_steps run a b ea eb (byHandle i j a b less first second) thereA thereB
      (enemy_opposes present first thereA).1 (enemy_opposes present second thereB).1

/-- A player comes in behind players with smaller numbers. -/
theorem stepInOrder_addPlayer {playerNo : Nat} {name : String}
    (greater : ∀ x ∈ r.roots, x.2.playerNo < playerNo) :
    r.StepInOrder (r.addPlayer playerNo name).1 := by
  refine ⟨.addPlayer playerNo name, ?_⟩
  intro a b ea eb there root new present rootB
  have own : eb.playerNo = playerNo := by
    simp only [addPlayer, get?_insert, new] at present
    split at present
    · cases present
      split <;> rfl
    · cases present
  rw [own]
  exact greater (a, ea) (List.mem_filter.mpr ⟨get?_eq_some_iff.mp there, by rw [root]; rfl⟩)

/-- Player one, and two players of the other side in the order in which they came in. -/
def against (first second : Nat) : Roster :=
  ((((ofSeed 0).addPlayer 1 "").1.addPlayer first "").1.addPlayer second "").1

/-- Players two and four came in this way round, and are the enemies of player one in that order. -/
theorem enemies_by_handle_ascending :
    ∃ e, (against 2 4).get? 0 = some e ∧ (against 2 4).enemy 0 0 = some 1 ∧
      (against 2 4).enemy 0 1 = some 2 ∧ (against 2 4).numEnemies 0 ≤ Nat.pow 2 31 ∧
      Relation.ReflTransGen StepInOrder (ofSeed 0) (against 2 4) ∧
      (against 2 4).EnemiesByPlayer 0 := by
  obtain ⟨e, present⟩ : ∃ e, (against 2 4).get? 0 = some e := isLive_iff.mp (by decide)
  have run : Relation.ReflTransGen StepInOrder (ofSeed 0) (against 2 4) := by
    have first : StepInOrder (ofSeed 0) ((ofSeed 0).addPlayer 1 "").1 :=
      stepInOrder_addPlayer (by decide)
    exact ((Relation.ReflTransGen.single first).tail (stepInOrder_addPlayer (by decide))).tail
      (stepInOrder_addPlayer (by decide))
  obtain ⟨-, -, inOrder⟩ := enemies_by_handle present
  exact ⟨e, present, by decide, by decide, by decide, run, inOrder 0 run⟩

/-- **Not by player**: player four came in before player two, and is the first enemy of player one,
    although all players are different. -/
theorem enemies_not_by_player :
    (∀ x ∈ (against 4 2).roots, ∀ y ∈ (against 4 2).roots, x.1 ≠ y.1 →
      x.2.playerNo ≠ y.2.playerNo) ∧ ¬ (against 4 2).EnemiesByPlayer 0 := by
  refine ⟨by decide, fun byPlayer => ?_⟩
  have first : (against 4 2).enemy 0 0 = some 1 := by decide
  have second : (against 4 2).enemy 0 1 = some 2 := by decide
  obtain ⟨ea, four⟩ : ∃ ea, (against 4 2).get? 1 = some ea := isLive_iff.mp (by decide)
  obtain ⟨eb, two⟩ : ∃ eb, (against 4 2).get? 2 = some eb := isLive_iff.mp (by decide)
  have players : ((against 4 2).get? 1).map (·.playerNo) = some 4 ∧
      ((against 4 2).get? 2).map (·.playerNo) = some 2 := by decide
  rw [four, two] at players
  have playerA : ea.playerNo = 4 := Option.some.inj players.1
  have playerB : eb.playerNo = 2 := Option.some.inj players.2
  have less := byPlayer 0 1 1 2 ea eb (by decide) first second four two
  rw [playerA, playerB] at less
  exact absurd less (by decide)

end Roster
end TickScript
