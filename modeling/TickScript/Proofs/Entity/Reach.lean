import TickScript.Entity.Stores
import TickScript.Proofs.NameTable
import TickScript.Proofs.Text.Lower

/-! # Entries within reach

    A name is looked up in lower case, and what is written is stored so.  So an entry is reached by
    its own name if that is in lower case, and by no name if it is not (`reaches_iff`).

    Entries under other names are *strays*.  No update makes one, changes one or removes one
    (`strays_updateNamed`).
-/

namespace TickScript

/-- **The entries under names that are not in lower case.** -/
def NameTable.strays (t : NameTable) (name : String) : Option Single :=
  if Text.lower name = name then none else t.get? name

/-- **All names are in lower case.** -/
def NameTable.Lowercase (t : NameTable) : Prop :=
  ∀ name x, t.get? name = some x → Text.lower name = name

/-- The number of a stray entry. -/
theorem NameTable.strays_of_ne (t : NameTable) {name : String} (h : Text.lower name ≠ name) :
    t.strays name = t.get? name := if_neg h

theorem NameTable.lowercase_iff {t : NameTable} : t.Lowercase ↔ ∀ name, t.strays name = none := by
  constructor
  · intro lowercase name
    by_cases low : Text.lower name = name
    · exact if_pos low
    · rw [t.strays_of_ne low, Option.eq_none_iff_forall_ne_some]
      exact fun x stored => low (lowercase name x stored)
  · intro none name x stored
    refine Decidable.byContradiction fun high => ?_
    have stray := none name
    rw [t.strays_of_ne high, stored] at stray
    cases stray

namespace Entity

variable {e : Entity} {name : String} {x : Single}

/-- **The entry under a name is reached by it**: the name reads as its number, and an update of the
    name changes this entry and no other one. -/
structure Reaches (e : Entity) (name : String) (x : Single) : Prop where
  reads : e.named name = x
  updates : ∀ mode y other, (e.updateNamed mode name y).1.names.get? other =
    if name = other then some (Variables.updated mode x y) else e.names.get? other

/-- An update stores a number under the name in lower case. -/
theorem get?_updateNamed (e : Entity) (mode : UpdateMode) (name : String) (y : Single)
    (other : String) : (e.updateNamed mode name y).1.names.get? other =
      if Text.lower name = other then some (Variables.updated mode (e.named name) y)
      else e.names.get? other :=
  NameTable.get?_insert ..

/-- **An entry is reached by its name exactly if that is in lower case.** -/
theorem reaches_iff (stored : e.names.get? name = some x) :
    e.Reaches name x ↔ Text.lower name = name := by
  constructor
  · intro reaches
    refine Decidable.byContradiction fun high => ?_
    -- a number that is set would be found under the name itself
    have kept (y : Single) : x = y := by
      have update := reaches.updates .set y name
      rw [get?_updateNamed, if_neg high, if_pos rfl, stored] at update
      exact Option.some.inj update
    have different : Single.zero ≠ Single.one := by decide
    exact different ((kept .zero).symm.trans (kept .one))
  · intro low
    have reads : e.named name = x := by
      rw [named, low, stored]
      rfl
    refine ⟨reads, fun mode y other => ?_⟩
    rw [get?_updateNamed, low, reads]

/-- **An update leaves strays alone.** -/
theorem strays_updateNamed (e : Entity) (mode : UpdateMode) (name : String) (y : Single) :
    (e.updateNamed mode name y).1.names.strays = e.names.strays := by
  funext other
  unfold NameTable.strays
  by_cases low : Text.lower other = other
  · rw [if_pos low, if_pos low]
  · -- what is stored is in lower case, so lowering it again changes nothing
    have elsewhere : Text.lower name ≠ other := by
      rintro rfl
      exact low (Text.lower_lower name)
    rw [if_neg low, if_neg low, get?_updateNamed, if_neg elsewhere]

end Entity
end TickScript
