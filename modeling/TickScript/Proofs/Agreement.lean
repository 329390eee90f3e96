import TickScript.Proofs.Action

/-! # Runs that cannot be told apart

    Two runs of one action may start in different states.  A relation between states says which
    differences do not matter.  `Blind R x` says that the action `x` does not see them: from states
    that are related both runs end the same way, with the same result or the same fault, and leave
    states that are related again.

    A sequence of actions is blind as soon as each of them is.
-/

namespace TickScript

variable {ε σ α β : Type} {R S : σ → σ → Prop}

/-- **Two runs end alike**: with the same result or the same fault, and in related states. -/
inductive Alike (R : σ → σ → Prop) : EStateM.Result ε σ α → EStateM.Result ε σ α → Prop
  | ok (a : α) {t t' : σ} (like : R t t') : Alike R (.ok a t) (.ok a t')
  | error (e : ε) {t t' : σ} (like : R t t') : Alike R (.error e t) (.error e t')

theorem Alike.mono {r r' : EStateM.Result ε σ α} (alike : Alike R r r')
    (weaken : ∀ {t t'}, R t t' → S t t') : Alike S r r' := by
  cases alike with
  | ok a like => exact .ok a (weaken like)
  | error e like => exact .error e (weaken like)

theorem Alike.onEnd {τ : Type} {T : τ → τ → Prop} {r r' : EStateM.Result ε σ α} {g g' : σ → τ}
    (alike : Alike R r r') (kept : ∀ {t t'}, R t t' → T (g t) (g' t')) :
    Alike T (TickScript.onEnd g r) (TickScript.onEnd g' r') := by
  cases alike with
  | ok a like => exact .ok a (kept like)
  | error e like => exact .error e (kept like)

/-- What is known of the end of one run is known of the other one, up to the relation. -/
theorem Alike.ends {x y : EStateM ε σ α} {s s' : σ} {done : α → σ → Prop} {failed : ε → σ → Prop}
    (alike : Alike R (x s) (y s')) (ended : Ends y s' done failed) :
    Ends x s (fun a t => ∃ t', R t t' ∧ done a t') fun e t => ∃ t', R t t' ∧ failed e t' := by
  unfold Ends at ended ⊢
  generalize x s = result at alike ⊢
  generalize y s' = result' at alike ended
  cases alike with
  | ok a like => exact ⟨_, like, ended⟩
  | error e like => exact ⟨_, like, ended⟩

/-- **The action does not see** in which of two related states it starts. -/
def Blind (R : σ → σ → Prop) (x : EStateM ε σ α) : Prop :=
  ∀ s s', R s s' → Alike R (x s) (x s')

namespace Blind

variable {x y : EStateM ε σ α} {f : α → EStateM ε σ β}

theorem pure (a : α) : Blind R (Pure.pure a : EStateM ε σ α) := fun _ _ like => .ok a like

theorem throw (e : ε) : Blind R (throw e : EStateM ε σ α) := fun _ _ like => .error e like

/-- The rest of a sequence starts in related states, unless a fault ended both runs. -/
theorem bind_of_alike {s s' : σ} (first : Alike R (x s) (x s')) (rest : ∀ a, Blind R (f a)) :
    Alike R ((x >>= f) s) ((x >>= f) s') := by
  cases run : x s with
  | ok a t =>
    rw [run] at first
    rw [bind_of_ok run]
    cases run' : x s' with
    | ok a' t' =>
      rw [run'] at first
      rw [bind_of_ok run']
      cases first with
      | ok _ like => exact rest a t t' like
    | error e' t' =>
      rw [run'] at first
      cases first
  | error e t =>
    rw [run] at first
    rw [bind_of_error run]
    cases run' : x s' with
    | ok a' t' =>
      rw [run'] at first
      cases first
    | error e' t' =>
      rw [run'] at first
      rw [bind_of_error run']
      cases first with
      | error _ like => exact .error e like

theorem bind (first : Blind R x) (rest : ∀ a, Blind R (f a)) : Blind R (x >>= f) :=
  fun s s' like => bind_of_alike (first s s' like) rest

theorem ite {c : Prop} [Decidable c] (hx : Blind R x) (hy : Blind R y) :
    Blind R (if c then x else y) := by
  by_cases holds : c
  · rw [if_pos holds]
    exact hx
  · rw [if_neg holds]
    exact hy

theorem forM {f : α → EStateM ε σ PUnit} (blind : ∀ a, Blind R (f a)) (items : List α) :
    Blind R (items.forM f) := by
  induction items with
  | nil => exact pure _
  | cons a rest ih => exact bind (blind a) fun _ => ih

theorem modify {g : σ → σ} (kept : ∀ {s s'}, R s s' → R (g s) (g s')) :
    Blind R (modify g : EStateM ε σ PUnit) := fun _ _ like => .ok _ (kept like)

end Blind
end TickScript
