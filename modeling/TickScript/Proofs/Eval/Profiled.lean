import TickScript.Proofs.Eval.Encounters
import TickScript.Proofs.Machine.Profile
import TickScript.Proofs.Scene

/-! # What profiles say of runs

    Each instruction that a run meets is noted in the profile before it is executed, and a redirect
    notes once more that it found nobody.  Nothing else writes to the profile, so afterwards it is
    what it was before with all encounters noted in order (`notes_runFrom`), whichever end the run
    takes.

    What a profile that counts from zero says of its notes is kept by every note
    (`Profile.Accounts.note`), and so it holds of whole runs.  Since the counts have no part in what
    else the run does, it is the same run without them (`profiling_observes`).
-/

namespace TickScript

/-! ## Notes -/

/-- **A profile after an encounter.** -/
def Profile.note (p : Profile) (e : Encounter) : Profile :=
  let counted := p.record e.opcode e.stack.length
  if e.misses then counted.recordFailedRedirect else counted

namespace Eval

variable {ctx : EvalContext} {code : Expression} {offset budget : Nat}
  {current origin : EntityId} {b : Bench} {byte : UInt8} {o : Opcode} {α β : Type}

/-- A redirect writes down that it found nobody, even if its target is then cut short. -/
theorem ends_redirect_profile (role : Role) (stack : Stack) (profile : Profile) (r : Roster) :
    let noted := if role.misses current stack r then profile.recordFailedRedirect else profile
    Ends (redirect code offset current origin role) ⟨stack, profile, r⟩
      (fun _ t => t.profile = noted) fun _ t => t.profile = noted := by
  intro noted
  have silent (sure : role.misses current stack r = false) : profile = noted := by
    simp only [noted, sure]
    rfl
  unfold redirect
  extract_lets look
  have looks (selector : Int32) (rest : Stack) (selected : role.selector? stack = some selector) :
      Ends (look selector) ⟨rest, profile, r⟩ (fun _ t => t.profile = noted)
        fun _ t => t.profile = noted := by
    have misses : role.misses current stack r =
        (r.isLive current && (r.resolve current selector role).isNone) := by
      rw [Role.misses, selected, Option.any_some]
    cases present : r.get? current with
    | none =>
      have missing : look selector ⟨rest, profile, r⟩ =
          .error (.missingEntity current) ⟨rest, profile, r⟩ :=
        bind_of_error (entity_of_none (b := ⟨rest, profile, r⟩) present)
      rw [Ends, missing]
      exact silent (by rw [misses, Roster.isLive, present]; rfl)
    | some e =>
      refine Ends.step (entity_of_get? present) (Ends.step (t := ⟨rest, profile, r⟩) rfl ?_)
      cases found : r.resolve current selector role with
      | some id => exact silent (by rw [misses, found, Option.isNone_some, Bool.and_false])
      | none =>
        have nobody : profile.recordFailedRedirect = noted := by
          simp only [noted, misses, found, Roster.isLive, present]
          rfl
        refine Ends.step (t := ⟨rest, profile.recordFailedRedirect, r⟩) rfl ?_
        refine Ends.step (t := ⟨.failed :: rest, profile.recordFailedRedirect, r⟩) rfl ?_
        cases code.longTargetAt offset with
        | ok stop => exact nobody
        | error f => exact nobody
  cases takes : role.takesSelector with
  | false => exact looks 0 stack (by rw [Role.selector?, takes]; rfl)
  | true =>
    cases stack with
    -- without a selector nobody is looked for
    | nil => exact silent (by simp [Role.misses, Role.selector?, takes])
    | cons v rest => exact looks v.toInt32 rest (by rw [Role.selector?, takes]; rfl)

/-- **The profile has so many notes more**, however the action ends. -/
def Notes (x : Eval α) (b : Bench) (met : List Encounter) : Prop :=
  Ends x b (fun _ t => t.profile = met.foldl Profile.note b.profile)
    fun _ t => t.profile = met.foldl Profile.note b.profile

/-- Nothing is noted behind a fault. -/
theorem Notes.bind {x : Eval α} {g : α → Eval β} {met later : List Encounter}
    (first : Notes x b met)
    (rest : match x b with
      | .ok a t => Notes (g a) t later
      | .error _ _ => later = []) : Notes (x >>= g) b (met ++ later) := by
  unfold Notes Ends at first
  unfold Notes
  rw [List.foldl_append]
  cases run : x b with
  | ok a t =>
    rw [run] at first rest
    rw [Ends, bind_of_ok run, ← first]
    exact rest
  | error f t =>
    rw [run] at first rest
    rw [Ends, bind_of_error run, ← first, rest]
    rfl

/-- **A dispatched instruction is noted**, also if it then faults. -/
theorem notes_dispatch (known : Opcode.ofByte? byte = some o) :
    Notes (dispatch ctx code offset current origin byte) b [⟨o, current, b.stack, b.roster⟩] := by
  rw [Notes, Ends, dispatch_of_known known]
  by_cases redirects : ∃ role, o = .redirect role
  · obtain ⟨role, rfl⟩ := redirects
    exact ends_redirect_profile role b.stack (b.counted (.redirect role)).profile b.roster
  · have plain (role : Role) : o ≠ .redirect role := fun same => redirects ⟨role, same⟩
    have noted : b.profile.note ⟨o, current, b.stack, b.roster⟩ = (b.counted o).profile := by
      have sure : (⟨o, current, b.stack, b.roster⟩ : Encounter).misses = false := by
        cases o with
        | redirect role => exact absurd rfl (plain role)
        | _ => rfl
      rw [Profile.note, sure]
      rfl
    rw [List.foldl_cons, List.foldl_nil, noted]
    exact Footprint.keeps_profile ctx code (offset + 1) current origin plain (b.counted o)

/-- What is noted behind an instruction, where runs with less of the budget note what they meet. -/
theorem notes_proceed
    (shorter : ∀ origin code offset current (b : Bench),
      Notes (runFrom ctx origin budget code offset current) b
        (encountersFrom ctx origin budget code offset current b))
    (c : Continuation) (t : Bench) :
    Notes (proceed ctx origin budget code c) t
      (encountersAfter ctx origin budget code (.ok c t)) := by
  cases c with
  | goto next following => exact shorter origin code next following t
  | call body entity next following =>
    refine (shorter entity body 0 entity t).bind ?_
    cases runFrom ctx entity budget body 0 entity t with
    | ok _ u => exact shorter origin code next following u
    | error f u => rfl

/-- **A run notes what it meets**, and nothing else. -/
theorem notes_runFrom (ctx : EvalContext) (origin : EntityId) (budget : Nat) (code : Expression)
    (offset : Nat) (current : EntityId) (b : Bench) :
    Notes (runFrom ctx origin budget code offset current) b
      (encountersFrom ctx origin budget code offset current b) := by
  -- on the budget, as for every property of runs
  induction budget generalizing origin code offset current b with
  | zero =>
    unfold Notes
    by_cases inside : offset < code.length
    · simp only [Ends, runFrom, if_pos inside]
      rfl
    · simp only [Ends, runFrom, if_neg inside]
      rfl
  | succ budget ih =>
    cases found : code[offset]? with
    | none =>
      simp only [Notes, Ends, runFrom, encountersFrom, found]
      rfl
    | some byte =>
      cases known : Opcode.ofByte? byte with
      | none =>
        simp only [Notes, Ends, runFrom, encountersFrom, dispatch, found, known]
        rfl
      | some o =>
        rw [encountersFrom_of_known found known, Notes, Ends, runFrom_of_found budget found]
        refine (notes_dispatch known).bind ?_
        cases dispatch ctx code offset current origin byte b with
        | ok c t => exact notes_proceed ih c t
        | error f t => rfl

/-- The value is popped without a note. -/
theorem notes_eval (ctx : EvalContext) (budget : Nat) (code : Expression) (id : EntityId)
    (b : Bench) : Notes (eval ctx budget code id) b (encounters ctx budget code id b) := by
  rw [← List.append_nil (encounters ctx budget code id b)]
  refine (notes_runFrom ctx id budget code 0 id b).bind ?_
  cases runFrom ctx id budget code 0 id b with
  | ok _ t => exact Footprint.Keeps.pop (F := .fixing (·.profile)) (fun _ _ => rfl) t
  | error f t => rfl

end Eval

/-! ## Accounts -/

/-- **What an enabled profile says** of what it noted. -/
structure Profile.Accounts (p : Profile) (met : List Encounter) : Prop where
  enabled : p.enabled = true
  sound : p.Sound
  total : p.total = met.length
  count : ∀ o, p.count o = met.countP (·.opcode = o)
  failedRedirects : p.failedRedirects = met.countP (·.misses)
  /-- The longest stack that was met, if anything was. -/
  maxDepth : p.maxDepth = (met.map (·.stack.length)).max?.getD 0

namespace Profile

variable {p : Profile} {met : List Encounter}

theorem accounts_reset (enabled : p.enabled = true) : p.reset.Accounts [] where
  enabled := enabled
  sound := p.sound_reset
  total := rfl
  count _ := rfl
  failedRedirects := rfl
  maxDepth := rfl

theorem max?_concat (depths : List Nat) (depth : Nat) :
    (depths ++ [depth]).max?.getD 0 = max (depths.max?.getD 0) depth := by
  have fold (l : List Nat) : l.foldl max 0 = l.max?.getD 0 := List.foldl_max.trans (Nat.zero_max _)
  rw [← fold, ← fold, List.foldl_append]
  rfl

theorem note_eq (enabled : p.enabled = true) (e : Encounter) :
    p.note e = { p with
      total := p.total + 1
      counts := bump e.opcode.toByte p.counts
      failedRedirects := p.failedRedirects + if e.misses then 1 else 0
      maxDepth := max p.maxDepth e.stack.length } := by
  unfold note record recordFailedRedirect
  cases e.misses <;> simp [enabled]

theorem Sound.note (h : p.Sound) (e : Encounter) : (p.note e).Sound := by
  unfold Profile.note
  extract_lets counted
  have sound : counted.Sound := h.record e.opcode e.stack.length
  split
  · exact sound.recordFailedRedirect
  · exact sound

/-- **One more note.** -/
theorem Accounts.note (h : p.Accounts met) (e : Encounter) : (p.note e).Accounts (met ++ [e]) where
  enabled := by rw [note_eq h.enabled]; exact h.enabled
  sound := h.sound.note e
  total := by
    rw [note_eq h.enabled, List.length_append, ← h.total]
    rfl
  count o := by
    have counted : (p.note e).count o = (p.record e.opcode e.stack.length).count o := by
      rw [note_eq h.enabled, record, if_pos h.enabled]
      rfl
    rw [counted, count_record h.enabled h.sound.ordered, h.count, List.countP_append,
      List.countP_singleton]
    simp only [decide_eq_true_eq]
  failedRedirects := by
    rw [note_eq h.enabled, List.countP_append, ← h.failedRedirects, List.countP_singleton]
  maxDepth := by
    rw [note_eq h.enabled, List.map_append, List.map_singleton, max?_concat, ← h.maxDepth]

/-- **All notes of a run.** -/
theorem Accounts.notes (h : p.Accounts met) (later : List Encounter) :
    (later.foldl Profile.note p).Accounts (met ++ later) := by
  induction later generalizing p met with
  | nil =>
    rw [List.append_nil]
    exact h
  | cons e rest ih =>
    rw [List.append_cons]
    exact ih (h.note e)

end Profile

/-- **What a profile tells of a run** in the end: its accounts, and the opcodes in its report. -/
def Profile.Tells (p : Profile) (met : List Encounter) : Prop :=
  p.Accounts met ∧ ∃ ranked, p.Ranks ranked

/-! ## Scenes with a profile -/

/-- The same scene with another profile. -/
def Scene.withProfile (s : Scene) (p : Profile) : Scene :=
  { s with machine := { s.machine with profile := p } }

/-- **Profiling observes without interfering.**  Whatever the counts, and whether anything is
    counted or not, an expression comes to the same result or to the same fault, and the scenes that
    it leaves differ in nothing but their profiles.

    A profile that counts from zero has afterwards noted what the run without it meets, which is
    what that dispatches, in nested runs too and up to the instruction that faults.  Its totals are
    those of the encounters, and its report ranks the opcodes that were met. -/
theorem profiling_observes (code : Expression) (id : EntityId) (s : Scene) (p : Profile)
    (enabled : p.enabled = true) :
    let ctx := Act.context s.machine
    let met := Eval.encounters ctx s.machine.budget code id s.bench
    (∀ q, Alike (fun t t' => t' = t.withProfile t'.machine.profile)
      (Act.evaluate code id s) (Act.evaluate code id (s.withProfile q))) ∧
    met.map (·.opcode) =
      (Eval.dispatches ctx s.machine.budget code id s.bench).map (·.opcode) ∧
    Ends (Act.evaluate code id) (s.withProfile p.reset) (fun _ t => t.machine.profile.Tells met)
      fun _ t => t.machine.profile.Tells met := by
  intro ctx met
  refine ⟨fun q => ?_, Eval.opcodes_encountersFrom ctx 0 id s.machine.budget code 0 id s.bench, ?_⟩
  · have like : s.bench.Like (s.withProfile q).bench := ⟨rfl, rfl⟩
    rw [evaluate_eq, evaluate_eq]
    refine (Eval.blind_eval ctx s.machine.budget code id _ _ like).onEnd ?_
    rintro b ⟨stack, profile, r⟩ ⟨rfl, rfl⟩
    rfl
  · have same : Eval.encounters ctx s.machine.budget code id (s.withProfile p.reset).bench = met :=
      Eval.encountersFrom_like ctx id s.machine.budget code 0 id _ _ ⟨rfl, rfl⟩
    have notes := Eval.notes_eval ctx s.machine.budget code id (s.withProfile p.reset).bench
    rw [same] at notes
    have tells {b : Bench} (noted : b.profile = met.foldl Profile.note p.reset) :
        b.profile.Tells met := by
      have accounts : b.profile.Accounts met := noted ▸ (Profile.accounts_reset enabled).notes met
      exact ⟨accounts, accounts.sound.exists_ranks⟩
    exact ends_evaluate (notes.mono (fun _ _ => tells) fun _ _ => tells)

/-- A redirect that finds nobody, a nested run, and then one `pop` too many: the one that faults is
    counted with the others. -/
theorem profiling_observes_fault :
    let code := Expression.int 9 ++ Expression.redirect (.redirect .player) (Expression.int 7) ++
      Expression.run (Expression.int 1) ++ Expression.op .pop ++ Expression.op .pop ++
      Expression.op .pop
    Profile.on.enabled = true ∧
    Ends (Act.evaluate code 0) (Scene.lone.withProfile .on) (fun _ _ => False) fun _ t =>
      let p := t.machine.profile
      p.total = 7 ∧ p.count .pop = 3 ∧ p.failedRedirects = 1 ∧ p.maxDepth = 2 ∧
        ∃ ranked, p.Ranks ranked := by
  intro code
  obtain ⟨-, -, tells⟩ := profiling_observes code 0 Scene.lone .on rfl
  have start : Profile.on.reset = .on := rfl
  rw [start] at tells
  have fails : Ends (Act.evaluate code 0) (Scene.lone.withProfile .on) (fun _ _ => False)
      fun _ _ => True := by decide +kernel
  constructor
  · rfl
  · generalize Scene.lone.withProfile .on = s at tells fails ⊢
    refine (tells.and fails).mono (fun _ _ left => left.2.elim) fun _ t left => ?_
    obtain ⟨⟨accounts, ranks⟩, -⟩ := left
    refine ⟨accounts.total.trans ?_, (accounts.count .pop).trans ?_,
      accounts.failedRedirects.trans ?_, accounts.maxDepth.trans ?_, ranks⟩
    · decide +kernel
    · decide +kernel
    · decide +kernel
    · decide +kernel

end TickScript
