/-! # What actions leave alone

    An action changes a state and ends with a result or with a fault.  A **footprint** is a
    preorder on states that says which changes are allowed; `F.Keeps x` says that the action `x`
    stays within it from every state and however it ends.  A footprint is kept by a sequence of
    actions as soon as it is kept by each of them, so what a program keeps follows from what its
    primitive actions keep.

    `Ends` is for what a footprint cannot say: what is known of the result, or of one of the two
    ways to end.
-/

namespace TickScript

variable {ε σ α β : Type}

/-! ## Step by step -/

theorem bind_of_ok {x : EStateM ε σ α} {f : α → EStateM ε σ β} {s t : σ} {a : α}
    (run : x s = .ok a t) : (x >>= f) s = f a t := by
  simp only [Bind.bind, EStateM.bind, run]

theorem bind_of_error {x : EStateM ε σ α} {f : α → EStateM ε σ β} {s t : σ} {e : ε}
    (run : x s = .error e t) : (x >>= f) s = .error e t := by
  simp only [Bind.bind, EStateM.bind, run]

theorem exists_of_bind {x : EStateM ε σ α} {f : α → EStateM ε σ β} {s u : σ} {b : β}
    (run : (x >>= f) s = .ok b u) : ∃ a t, x s = .ok a t ∧ f a t = .ok b u := by
  cases first : x s with
  | ok a t => exact ⟨a, t, rfl, (bind_of_ok first).symm.trans run⟩
  | error e t =>
    rw [bind_of_error first] at run
    cases run

/-- Another state at the end, whichever end it is. -/
def onEnd {τ : Type} (g : σ → τ) : EStateM.Result ε σ α → EStateM.Result ε τ α
  | .ok a t => .ok a (g t)
  | .error e t => .error e (g t)

/-! ## Ends -/

/-- **How an action ends** from a state: with a result and a state for which `done` holds, or with
    a fault and a state for which `failed` holds. -/
def Ends (x : EStateM ε σ α) (s : σ) (done : α → σ → Prop) (failed : ε → σ → Prop) : Prop :=
  match x s with
  | .ok a t => done a t
  | .error e t => failed e t

instance {x : EStateM ε σ α} {s : σ} {done : α → σ → Prop} {failed : ε → σ → Prop}
    [∀ a t, Decidable (done a t)] [∀ e t, Decidable (failed e t)] : Decidable (Ends x s done failed) :=
  match run : x s with
  | .ok a t => decidable_of_iff (done a t) (by rw [Ends, run])
  | .error e t => decidable_of_iff (failed e t) (by rw [Ends, run])

namespace Ends

variable {x : EStateM ε σ α} {f : α → EStateM ε σ β} {s : σ} {done done' : α → σ → Prop}
  {failed failed' : ε → σ → Prop}

theorem mono (h : Ends x s done failed) (hd : ∀ a t, done a t → done' a t)
    (hf : ∀ e t, failed e t → failed' e t) : Ends x s done' failed' := by
  unfold Ends at *
  split at h
  · exact hd _ _ h
  · exact hf _ _ h

/-- What is known of an end in two ways. -/
theorem and (h : Ends x s done failed) (h' : Ends x s done' failed') :
    Ends x s (fun a t => done a t ∧ done' a t) fun e t => failed e t ∧ failed' e t := by
  unfold Ends at *
  split at h
  · rename_i a t run
    rw [run] at h'
    exact ⟨h, h'⟩
  · rename_i e t run
    rw [run] at h'
    exact ⟨h, h'⟩

/-- What an action does before a fault stays done, so a fault of the first action ends both. -/
theorem bind {result : β → σ → Prop} (h : Ends x s (fun a t => Ends (f a) t result failed) failed) :
    Ends (x >>= f) s result failed := by
  unfold Ends at h
  split at h
  · rename_i a t run
    rwa [Ends, bind_of_ok run]
  · rename_i e t run
    rwa [Ends, bind_of_error run]

theorem pure {a : α} (h : done a s) : Ends (Pure.pure a) s done failed := h

/-- An action whose result is known. -/
theorem of_run {t : σ} {a : α} (run : x s = .ok a t) (h : done a t) : Ends x s done failed := by
  rwa [Ends, run]

/-- A first action whose result is known. -/
theorem step {result : β → σ → Prop} {t : σ} {a : α} (run : x s = .ok a t)
    (h : Ends (f a) t result failed) : Ends (x >>= f) s result failed := by
  rwa [Ends, bind_of_ok run]

/-- What holds of every result of the last action holds of the sequence. -/
theorem last {result : β → σ → Prop} (h : ∀ a t, Ends (f a) t result fun _ _ => True) :
    Ends (x >>= f) s result fun _ _ => True := by
  refine bind ?_
  unfold Ends
  split
  · exact h _ _
  · trivial

/-- An action that does what another one does, and then something to the state. -/
theorem onEnd {τ : Type} {y : EStateM ε τ α} {t : τ} {g : σ → τ} {done : α → τ → Prop}
    {failed : ε → τ → Prop} (run : y t = TickScript.onEnd g (x s))
    (h : Ends x s (fun a u => done a (g u)) fun e u => failed e (g u)) : Ends y t done failed := by
  unfold Ends at h ⊢
  rw [run]
  split at h
  · rename_i a u ended
    rwa [ended]
  · rename_i e u ended
    rwa [ended]

/-- Where only results matter, it is enough to speak of them. -/
theorem of_ok (h : ∀ a t, x s = .ok a t → done a t) : Ends x s done fun _ _ => True := by
  unfold Ends
  split
  case h_1 a t run => exact h a t run
  case h_2 => trivial

theorem ok (h : Ends x s done failed) {a : α} {t : σ} (run : x s = .ok a t) : done a t := by
  rwa [Ends, run] at h

theorem error (h : Ends x s done failed) {e : ε} {t : σ} (run : x s = .error e t) : failed e t := by
  rwa [Ends, run] at h

/-- An action that cannot fail has a result. -/
theorem exists_ok (h : Ends x s done fun _ _ => False) : ∃ a t, x s = .ok a t ∧ done a t := by
  unfold Ends at h
  split at h
  case h_1 a t run => exact ⟨a, t, run, h⟩
  case h_2 => exact h.elim

end Ends

/-! ## Footprints -/

/-- **Footprint**: the changes of a state that are allowed. -/
structure Footprint (σ : Type) where
  allows : σ → σ → Prop
  refl : ∀ s, allows s s
  trans : ∀ {s t u}, allows s t → allows t u → allows s u

namespace Footprint

/-- The changes under which a view of the state stays as it is. -/
def fixing {γ : Type} (view : σ → γ) : Footprint σ where
  allows s t := view t = view s
  refl _ := rfl
  trans h h' := h'.trans h

/-- The changes that keep an invariant. -/
def keeping (inv : σ → Prop) : Footprint σ where
  allows s t := inv s → inv t
  refl _ holds := holds
  trans first second holds := second (first holds)

/-- **The action stays within the footprint**, however it ends. -/
def Keeps (F : Footprint σ) (x : EStateM ε σ α) : Prop :=
  ∀ s, Ends x s (fun _ t => F.allows s t) (fun _ t => F.allows s t)

/-- An action keeps an invariant if it keeps it wherever it holds. -/
theorem keeps_keeping {inv : σ → Prop} {x : EStateM ε σ α} :
    (keeping inv).Keeps x ↔ ∀ s, inv s → Ends x s (fun _ t => inv t) fun _ t => inv t := by
  constructor
  · exact fun kept s holds =>
      (kept s).mono (fun _ _ keeps => keeps holds) fun _ _ keeps => keeps holds
  · intro ends s
    by_cases holds : inv s
    · exact (ends s holds).mono (fun _ _ left _ => left) fun _ _ left _ => left
    · unfold Ends
      split
      · exact fun held => absurd held holds
      · exact fun held => absurd held holds

namespace Keeps

variable {F : Footprint σ} {x y : EStateM ε σ α} {f : α → EStateM ε σ β}

theorem ok (h : F.Keeps x) {s t : σ} {a : α} (run : x s = .ok a t) : F.allows s t := by
  have h := h s
  rwa [Ends, run] at h

theorem error (h : F.Keeps x) {s t : σ} {e : ε} (run : x s = .error e t) : F.allows s t := by
  have h := h s
  rwa [Ends, run] at h

theorem pure (a : α) : F.Keeps (Pure.pure a : EStateM ε σ α) := fun s => F.refl s

theorem throw (e : ε) : F.Keeps (throw e : EStateM ε σ α) := fun s => F.refl s

theorem get : F.Keeps (get : EStateM ε σ σ) := fun s => F.refl s

theorem modify {g : σ → σ} (h : ∀ s, F.allows s (g s)) :
    F.Keeps (modify g : EStateM ε σ PUnit) := fun s => h s

theorem bind (hx : F.Keeps x) (hf : ∀ a, F.Keeps (f a)) : F.Keeps (x >>= f) := by
  intro s
  refine Ends.bind ((hx s).mono (fun a t first => ?_) (fun _ _ first => first))
  exact (hf a t).mono (fun _ _ second => F.trans first second) fun _ _ second => F.trans first second

theorem ite {c : Prop} [Decidable c] (hx : F.Keeps x) (hy : F.Keeps y) :
    F.Keeps (if c then x else y) := by
  split
  · exact hx
  · exact hy

/-- An action that changes nothing ends in the state that it started in. -/
theorem still (h : (fixing id).Keeps x) {s : σ} {done : α → σ → Prop} {failed : ε → σ → Prop}
    (ok : ∀ a, done a s) (error : ∀ e, failed e s) : Ends x s done failed := by
  refine (h s).mono (fun a t same => ?_) fun e t same => ?_
  · obtain rfl : t = s := same
    exact ok a
  · obtain rfl : t = s := same
    exact error e

theorem forM {f : α → EStateM ε σ PUnit} (h : ∀ a, F.Keeps (f a)) (items : List α) :
    F.Keeps (items.forM f) := by
  induction items with
  | nil => exact pure _
  | cons a rest ih => exact bind (h a) fun _ => ih

end Keeps
end Footprint
end TickScript
