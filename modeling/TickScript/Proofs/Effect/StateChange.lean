import TickScript.Proofs.Effect.Composed
import TickScript.Proofs.Effect.Records
import Mathlib.Data.List.Induction

/-! # Whether a state change stops its origin

    A state change files a request on its target and says whether its origin has to stop.  Two
    kinds of records bear on that, and both write to the same flag:

        continue   stops if its condition is false, goes on if it is true
        redirect   goes on, whoever the target is

    So the last record of either kind decides, and the origin stops if there is none
    (`stop_iff_of_passes`).  Without redirects this is what one expects: the origin is the target,
    and stops unless the last continue record holds it back (`changeState_stops`).  With redirects
    it is not.  An origin that is redirected to itself goes on, and a continue record behind a
    redirect stops an origin that is not the target (`changeState_mistakes_redirects`).
-/

namespace TickScript.Effect

variable {source : StateSource} {origin id : EntityId} {r : ArgRecord} {rs : List ArgRecord}
  {args : ArgBlock} {s t u : Scene} {w x : Visit StateChange}

/-! ## One record -/

/-- **What a record makes of the visit** that passes it. -/
inductive Passed (r : ArgRecord) (w : Visit StateChange) (s : Scene) :
    Visit StateChange → Scene → Prop
  | value {v : Value} {t : Scene} (tag : r.tag = StateTag.value)
      (given : r.Gives w.target.origin s v t) :
      Passed r w s { w with plan := { w.plan with number := some v.toInt32 } } t
  | continues {v : Value} {t : Scene} (tag : r.tag = StateTag.continue_)
      (given : r.Gives w.target.origin s v t) :
      Passed r w s { w with plan := { w.plan with stop := !v.toBool } } t
  | redirect {t : Scene} (tag : r.tag = redirectTag) (id : EntityId) (ratio : Single) :
      Passed r w s { w.aim id ratio with plan := { w.plan with stop := false } } t
  /-- The other records leave target, number and flag alone. -/
  | aside {x : Visit StateChange} {t : Scene} (notValue : r.tag ≠ StateTag.value)
      (notDeciding : r.tag ∉ [StateTag.continue_, redirectTag]) (target : x.target = w.target)
      (number : x.plan.number = w.plan.number) (stop : x.plan.stop = w.plan.stop) : Passed r w s x t

theorem passed_stateRecord (plain : r.tag ≠ redirectTag) :
    Ends ((stateRecord source r).run w) s (fun x t => x.1 = true → Passed r w s x.2 t)
      fun _ _ => True := by
  have aside {tag : UInt8} (here : r.tag = tag)
      (other : tag ≠ StateTag.value ∧ tag ∉ [StateTag.continue_, redirectTag])
      {x : Visit StateChange} {t : Scene} (target : x.target = w.target)
      (number : x.plan.number = w.plan.number) (stop : x.plan.stop = w.plan.stop) :
      Passed r w s x t :=
    .aside (here ▸ other.1) (here ▸ other.2) target number stop
  have fault (f : Fault) (t : Scene) (_ : r.Leaves w.target.origin s t) : True := trivial
  unfold stateRecord
  split
  case h_1 tag =>
    exact Ends.bind (Visiting.ends_int (fun v t given _ => .value tag given) fault)
  case h_2 tag =>
    exact Ends.bind
      (Visiting.ends_bool (fun v t given _ => aside tag (by decide) rfl rfl rfl) fault)
  case h_3 tag =>
    exact Ends.bind
      (Visiting.ends_int (fun v t given _ => aside tag (by decide) rfl rfl rfl) fault)
  case h_4 tag =>
    exact Ends.bind (Visiting.ends_bool (fun v t given _ => .continues tag given) fault)
  case h_5 tag =>
    cases source with
    | present => exact fun _ => aside tag (by decide) rfl rfl rfl
    | own =>
      -- the owner of the library is looked up; if nobody is found, the visit stops here
      refine Ends.bind (Visiting.ends_int (fun v t given => ?_) fault)
      refine Visiting.ends_roster ?_
      cases t.roster.withScriptId v.toInt32 with
      | none => exact nofun
      | some id =>
        refine Ends.bind (Ends.bind (ends_entity (fun e _ => ?_) trivial))
        exact fun _ => aside tag (by decide) rfl rfl rfl
  case h_6 notValue _ _ notContinue _ =>
    refine fun _ => .aside notValue ?_ rfl rfl rfl
    simp only [List.mem_cons, List.not_mem_nil, or_false, not_or]
    exact ⟨notContinue, plain⟩

theorem passed_redirectState (tag : r.tag = redirectTag) :
    Ends ((redirectState r).run w) s (fun x t => x.1 = true → Passed r w s x.2 t)
      fun _ _ => True := by
  refine Ends.bind (Visiting.ends_redirect (fun _ _ _ _ => ?_) (fun _ _ id ratio _ _ => ?_) ?_)
  · exact nofun
  · exact fun _ => .redirect tag id ratio
  · exact fun _ _ _ => trivial

/-- **All that one record can do.** -/
theorem passed_of_handle
    (handled : ((changeStateVisitor origin source).handle r).run w s = .ok (true, x) t) :
    Passed r w s x t := by
  by_cases tag : r.tag = redirectTag
  · rw [Visitor.handle, if_pos tag] at handled
    exact (passed_redirectState tag).ok handled rfl
  · rw [Visitor.handle, if_neg tag] at handled
    exact (passed_stateRecord tag).ok handled rfl

/-! ## All records -/

/-- A number was asked for if there was a record for it. -/
theorem number_of_passes (passes : (changeStateVisitor origin source).Passes s rs w t) :
    w.plan.number.isSome ↔ ∃ r ∈ rs, r.tag = StateTag.value := by
  -- on the records from the front: each adds itself to those before it
  induction rs using List.reverseRecOn generalizing w t with
  | nil =>
    obtain ⟨rfl, -⟩ := Visitor.passes_nil.mp passes
    exact ⟨nofun, fun ⟨_, member, _⟩ => nomatch member⟩
  | append_singleton rs r ih =>
    obtain ⟨x, u, before, handled⟩ := Visitor.passes_concat.mp passes
    have known := ih before
    -- the records asked for a number before, or the last one does
    simp only [List.mem_append, List.mem_singleton, or_and_right, exists_or, exists_eq_left]
    have otherwise (notValue : r.tag ≠ StateTag.value) :
        (∃ x, x ∈ rs ∧ x.tag = StateTag.value) ∨ r.tag = StateTag.value ↔
          ∃ x, x ∈ rs ∧ x.tag = StateTag.value := or_iff_left notValue
    cases passed_of_handle handled with
    | value tag _ => simp [tag]
    | continues tag _ => exact known.trans (otherwise (by rw [tag]; decide)).symm
    | redirect tag id ratio => exact known.trans (otherwise (by rw [tag]; decide)).symm
    | aside notValue _ _ number _ =>
      rw [number]
      exact known.trans (otherwise notValue).symm

/-- Without redirects the target is the origin. -/
theorem target_of_passes (passes : (changeStateVisitor origin source).Passes s rs w t)
    (plain : ∀ r ∈ rs, r.tag ≠ redirectTag) : w.target = Target.start origin := by
  induction rs using List.reverseRecOn generalizing w t with
  | nil =>
    obtain ⟨rfl, -⟩ := Visitor.passes_nil.mp passes
    rfl
  | append_singleton rs r ih =>
    obtain ⟨x, u, before, handled⟩ := Visitor.passes_concat.mp passes
    have known := ih before fun x member => plain x (List.mem_append_left [r] member)
    cases passed_of_handle handled with
    | value | continues => exact known
    | redirect tag id ratio => exact absurd tag (plain r (by simp))
    | aside _ _ target _ _ => exact target.trans known

/-- **The last record with one of the tags is a false continue record**, if there is one. -/
inductive LastFalse (source : StateSource) (origin : EntityId) (tags : List UInt8) (s : Scene)
    (rs : List ArgRecord) : Prop
  | none (untagged : ∀ r ∈ rs, r.tag ∉ tags)
  | last {before after : List ArgRecord} {r : ArgRecord} {w : Visit StateChange} {t u : Scene}
      {v : Value} (split : rs = before ++ r :: after) (tag : r.tag = StateTag.continue_)
      (passes : (changeStateVisitor origin source).Passes s before w t)
      (given : r.Gives origin t v u) (isFalse : v.toBool = false)
      (untagged : ∀ x ∈ after, x.tag ∉ tags)

namespace LastFalse

variable {tags : List UInt8}

/-- The last of some records is the one at hand, or stands behind it. -/
theorem split_concat {before after : List ArgRecord} {x : ArgRecord}
    (split : rs ++ [r] = before ++ x :: after) :
    (after = [] ∧ rs = before ∧ r = x) ∨
      ∃ later, after = later ++ [r] ∧ rs = before ++ x :: later := by
  rcases List.eq_nil_or_concat after with rfl | ⟨later, y, rfl⟩
  · obtain ⟨rfl, same⟩ := List.append_inj' split rfl
    exact .inl ⟨rfl, rfl, List.singleton_inj.mp same⟩
  · rw [List.concat_eq_append, ← List.cons_append, ← List.append_assoc] at split
    obtain ⟨rfl, same⟩ := List.append_inj' split rfl
    obtain rfl := List.singleton_inj.mp same
    exact .inr ⟨later, List.concat_eq_append, rfl⟩

/-- A record with another tag behind the others does not matter. -/
theorem concat_of_untagged (decides : StateTag.continue_ ∈ tags) (untagged : r.tag ∉ tags) :
    LastFalse source origin tags s (rs ++ [r]) ↔ LastFalse source origin tags s rs := by
  constructor
  · intro last
    cases last with
    | none all => exact .none fun x member => all x (List.mem_append_left [r] member)
    | last split tag passes given isFalse behind =>
      rcases split_concat split with ⟨-, -, rfl⟩ | ⟨later, rfl, rfl⟩
      · exact absurd (tag ▸ decides) untagged
      · exact .last rfl tag passes given isFalse fun x member =>
          behind x (List.mem_append_left [r] member)
  · intro last
    have all {xs : List ArgRecord} (before : ∀ x ∈ xs, x.tag ∉ tags) :
        ∀ x ∈ xs ++ [r], x.tag ∉ tags := by
      intro x member
      rcases List.mem_append.mp member with early | late
      · exact before x early
      · exact List.mem_singleton.mp late ▸ untagged
    cases last with
    | none before => exact .none (all before)
    | @last before after x _ _ _ _ split tag passes given isFalse behind =>
      have more : rs ++ [r] = before ++ x :: (after ++ [r]) := by
        rw [split, List.append_assoc, List.cons_append]
      exact .last more tag passes given isFalse (all behind)

/-- **A record with one of the tags decides.** -/
theorem concat_of_tagged (tagged : r.tag ∈ tags) :
    LastFalse source origin tags s (rs ++ [r]) ↔
      r.tag = StateTag.continue_ ∧ ∃ w t v u,
        (changeStateVisitor origin source).Passes s rs w t ∧ r.Gives origin t v u ∧
          v.toBool = false := by
  constructor
  · intro last
    cases last with
    | none all => exact absurd tagged (all r (by simp))
    | @last before after x w t u v split tag passes given isFalse behind =>
      rcases split_concat split with ⟨-, rfl, rfl⟩ | ⟨later, rfl, -⟩
      · exact ⟨tag, w, t, v, u, passes, given, isFalse⟩
      · exact absurd tagged (behind r (by simp))
  · rintro ⟨tag, w, t, v, u, passes, given, isFalse⟩
    exact .last rfl tag passes given isFalse nofun

end LastFalse

/-- **The last continue record or redirect decides** whether the origin stops. -/
theorem stop_iff_of_passes (passes : (changeStateVisitor origin source).Passes s rs w t) :
    w.plan.stop = true ↔
      LastFalse source origin [StateTag.continue_, redirectTag] s rs := by
  induction rs using List.reverseRecOn generalizing w t with
  | nil =>
    obtain ⟨rfl, -⟩ := Visitor.passes_nil.mp passes
    exact ⟨fun _ => .none nofun, fun _ => rfl⟩
  | append_singleton rs r ih =>
    obtain ⟨x, u, before, handled⟩ := Visitor.passes_concat.mp passes
    have known := ih before
    have here : x.target.origin = origin := before.origin_eq
    have decides : StateTag.continue_ ∈ [StateTag.continue_, redirectTag] := by simp
    cases passed_of_handle handled with
    | value tag _ =>
      rw [LastFalse.concat_of_untagged decides (by rw [tag]; decide)]
      exact known
    | @continues v _ tag given =>
      rw [LastFalse.concat_of_tagged (by rw [tag]; decide)]
      rw [here] at given
      constructor
      · intro stops
        exact ⟨tag, x, u, v, t, before, given, by simpa using stops⟩
      · rintro ⟨-, x', u', v', t', before', given', isFalse⟩
        -- the condition was evaluated behind the same records, so it is the same value
        obtain ⟨rfl, rfl⟩ := before.unique before'
        obtain ⟨rfl, -⟩ := given.unique given'
        simp [isFalse]
    | redirect tag id ratio =>
      rw [LastFalse.concat_of_tagged (by rw [tag]; decide)]
      refine ⟨nofun, fun ⟨other, _⟩ => ?_⟩
      rw [tag] at other
      exact absurd other (by decide)
    | aside _ notDeciding _ _ stop =>
      rw [LastFalse.concat_of_untagged decides notDeciding, stop]
      exact known

/-- Tags may be exchanged for others that no further record has. -/
theorem LastFalse.mono {tags tags' : List UInt8}
    (fewer : ∀ r ∈ rs, r.tag ∉ tags → r.tag ∉ tags') (last : LastFalse source origin tags s rs) :
    LastFalse source origin tags' s rs := by
  cases last with
  | none untagged => exact .none fun r member => fewer r member (untagged r member)
  | last split tag passes given isFalse untagged =>
    refine .last split tag passes given isFalse fun r behind => ?_
    have member : r ∈ rs := by
      rw [split]
      exact List.mem_append_right _ (List.mem_cons_of_mem _ behind)
    exact fewer r member (untagged r behind)

/-- Without redirects only continue records decide. -/
theorem LastFalse.of_plain (plain : ∀ r ∈ rs, r.tag ≠ redirectTag) :
    LastFalse source origin [StateTag.continue_, redirectTag] s rs ↔
      LastFalse source origin [StateTag.continue_] s rs := by
  constructor
  · exact mono fun r _ untagged here => untagged (List.mem_append_left [redirectTag] here)
  · refine mono fun r member untagged => ?_
    simpa [plain r member] using untagged

/-! ## Requests -/

/-- **A request is filed** on an entity: nothing stops the visit, one of its records asks for a
    state, and the entity is the target in the end. -/
inductive Files (source : StateSource) (origin : EntityId) (args : ArgBlock) (s : Scene)
    (id : EntityId) (t : Scene) : Prop
  | mk {w : Visit StateChange} {u : Scene} {request : StateRequest}
      (finishes : (changeStateVisitor origin source).Finishes s args w u)
      (asked : ∃ r ∈ (ArgBlock.read args).records, r.tag = StateTag.value)
      (target : w.target.id = id)
      (filed : t = u.modify id fun e => { e with pending := some request })

/-- **How a state change ends.**  Either it has filed a request, and the flag says whether the
    origin stops, or it has done no more than evaluate expressions, and the origin goes on. -/
theorem changeState_cases {stop : Bool}
    (ended : (EffectKind.changeState source).run origin args s = .ok stop t) :
    (∃ w u request, (changeStateVisitor origin source).Finishes s args w u ∧
      w.plan.number.isSome ∧
      t = u.modify w.target.id (fun e => { e with pending := some request }) ∧
      stop = w.plan.stop) ∨
    ((∀ w u, (changeStateVisitor origin source).Finishes s args w u → w.plan.number = none) ∧
      s.Evaluated t ∧ stop = false) := by
  let v := changeStateVisitor origin source
  obtain ⟨finished, w, u, visited, rest⟩ := Visitor.exists_of_run (v := v.toVisitor) ended
  obtain ⟨codes, -, evaluations⟩ := v.evaluations_of_visit visited
  cases finished with
  | false =>
    cases rest
    refine .inr ⟨fun w' u' finishes => ?_, evaluations.evaluated, rfl⟩
    cases visited.symm.trans finishes
  | true =>
    obtain ⟨target, number, anim, ctrl, owner, stop⟩ := w
    cases number with
    | none =>
      cases rest
      refine .inr ⟨fun w' u' finishes => ?_, evaluations.evaluated, rfl⟩
      cases visited.symm.trans finishes
      rfl
    | some n =>
      -- the target is live, since its player was looked up
      obtain ⟨e, present, rest⟩ := exists_of_entity_bind rest
      obtain ⟨_, _, rest⟩ := exists_of_update_bind rest
      cases rest
      exact .inl ⟨_, u, _, visited, rfl, rfl, rfl⟩

/-- A block that passes and asks for a state files it, if the visit can be finished. -/
theorem files_of_passes {stop : Bool} (encodable : ∀ r ∈ rs, r.Encodable)
    (passes : (changeStateVisitor origin source).Passes s rs w u)
    (asked : ∃ r ∈ rs, r.tag = StateTag.value)
    (finish : (changeStateVisitor origin source).finish true w u = .ok stop t) :
    (EffectKind.changeState source).run origin (ArgBlock.ofRecords rs) s = .ok stop t ∧
      Files source origin (ArgBlock.ofRecords rs) s w.target.id t := by
  have finishes := passes.finishes encodable
  have ended := finishes.run_eq.trans finish
  refine ⟨ended, ?_⟩
  rcases changeState_cases ended with ⟨w', u', request, finishes', -, filed, -⟩ | ⟨unasked, -⟩
  · obtain ⟨rfl, rfl⟩ := finishes.unique finishes'
    exact ⟨finishes, by rwa [ArgBlock.read_ofRecords encodable], rfl, filed⟩
  · have number := (number_of_passes passes).mpr asked
    rw [unasked w u finishes] at number
    cases number

/-- **A block that mixes** redirects and continue records, of which the last one decides. -/
def Mixes (args : ArgBlock) : Prop :=
  (∃ r ∈ (ArgBlock.read args).records, r.tag = redirectTag) ∧
    ∃ r ∈ (ArgBlock.read args).records, r.tag = StateTag.continue_

/-- Unless the block mixes them, an origin that is told to stop has a request of its own. -/
theorem pending_of_stops
    (ended : (EffectKind.changeState source).run origin args s = .ok true t)
    (pure : ¬ Mixes args) {e : Entity} (present : t.roster.get? origin = some e) :
    e.pending.isSome := by
  rcases changeState_cases ended with ⟨w, u, request, finishes, -, filed, stops⟩ | ⟨-, -, goes⟩
  · have passes := (Visitor.finishes_iff.mp finishes).1
    -- a redirect would have let the origin go on, as no continue record follows it
    have plain : ∀ r ∈ (ArgBlock.read args).records, r.tag ≠ redirectTag := by
      intro r member redirects
      cases (stop_iff_of_passes passes).mp stops.symm with
      | none untagged => exact untagged r member (by rw [redirects]; simp)
      | last split tag _ _ _ _ =>
        exact pure ⟨⟨r, member, redirects⟩, _, by rw [split]; simp, tag⟩
    have own : w.target.id = origin := by
      rw [target_of_passes passes plain]
      rfl
    have after : t.roster.get? origin = (u.roster.get? origin).map
        fun e => { e with pending := some request } := by
      rw [filed, own]
      exact (Roster.get?_modify _).trans (if_pos rfl)
    rw [present] at after
    obtain ⟨before, -, rfl⟩ := Option.map_eq_some_iff.mp after.symm
    rfl
  · cases goes

/-! ## Small blocks -/

/-- A record that asks for a state. -/
def askFive : ArgRecord := ⟨StateTag.value, [Expression.int 5]⟩

/-- A continue record whose condition is false. -/
def letStop : ArgRecord := ⟨StateTag.continue_, [Expression.int 0]⟩

/-- Redirects to the first entity and to the second. -/
def toFirst : ArgRecord := ⟨redirectTag, [Expression.int 56]⟩
def toSecond : ArgRecord := ⟨redirectTag, [Expression.int 57]⟩

/-- **A state change stops its origin** if it has filed a request and the last record that is a
    continue record or a redirect, if there is one, is a continue record whose condition is false.
    In a block without redirects that is so exactly if the request is for the origin and the last
    continue record, if there is one, has a false condition.  If no request is filed, the origin
    goes on, and all requests that wait are as before. -/
theorem changeState_stops {stop : Bool}
    (ended : (EffectKind.changeState source).run origin args s = .ok stop t) :
    (∀ id, Files source origin args s id t →
      (stop = true ↔ LastFalse source origin [StateTag.continue_, redirectTag] s
        (ArgBlock.read args).records) ∧
      ((∀ r ∈ (ArgBlock.read args).records, r.tag ≠ redirectTag) →
        (stop = true ↔ id = origin ∧ LastFalse source origin [StateTag.continue_] s
          (ArgBlock.read args).records))) ∧
    ((∀ id, ¬ Files source origin args s id t) → stop = false ∧
      ∀ id, (t.roster.get? id).map (·.pending) = (s.roster.get? id).map (·.pending)) := by
  rcases changeState_cases ended with ⟨w, u, request, finishes, asked, filed, rfl⟩ |
    ⟨unasked, evaluated, rfl⟩
  · -- a request was filed, for the target of this visit
    have passes := (Visitor.finishes_iff.mp finishes).1
    have decided := stop_iff_of_passes passes
    constructor
    · intro id files
      refine ⟨decided, fun plain => ?_⟩
      obtain ⟨finishes', -, rfl, -⟩ := files
      obtain ⟨rfl, rfl⟩ := finishes.unique finishes'
      have own : w.target.id = origin := by
        rw [target_of_passes passes plain]
        rfl
      rw [decided, LastFalse.of_plain plain]
      simp [own]
    · intro unfiled
      have files := Files.mk finishes ((number_of_passes passes).mp asked) rfl filed
      exact absurd files (unfiled w.target.id)
  · -- no request was filed: the visit was stopped, or it met no number
    constructor
    · intro id files
      obtain ⟨finishes, asked, -, -⟩ := files
      have number := (number_of_passes (Visitor.finishes_iff.mp finishes).1).mpr asked
      rw [unasked _ _ finishes] at number
      cases number
    · intro unfiled
      exact ⟨rfl, evaluated.roster.map_get? fun _ => rfl⟩

/-- A lone entity stops; if it asks for no state, it goes on. -/
theorem changeState_stops_lone :
    (∃ t, (EffectKind.changeState .present).run 0 (ArgBlock.ofRecords [letStop, askFive])
        Scene.lone = .ok true t ∧
      Files .present 0 (ArgBlock.ofRecords [letStop, askFive]) Scene.lone 0 t ∧
      LastFalse .present 0 [StateTag.continue_] Scene.lone [letStop, askFive]) ∧
    ∃ t, (EffectKind.changeState .present).run 0 (ArgBlock.ofRecords [letStop]) Scene.lone =
        .ok false t ∧
      (t.roster.get? 0).map (·.pending) = some none := by
  let v := changeStateVisitor 0 .present
  constructor
  · have encodable : ∀ r ∈ [letStop, askFive], r.Encodable := by decide
    obtain ⟨w, u, t, passes, own, finish⟩ : ∃ w u t, v.Passes Scene.lone [letStop, askFive] w u ∧
        w.target.id = 0 ∧ v.finish true w u = .ok true t := ⟨_, _, _, rfl, rfl, rfl⟩
    obtain ⟨ended, files⟩ := files_of_passes encodable passes (by decide) finish
    rw [own] at files
    obtain ⟨-, unredirected⟩ := (changeState_stops ended).1 0 files
    rw [ArgBlock.read_ofRecords encodable] at unredirected
    exact ⟨t, ended, files, ((unredirected (by decide)).mp rfl).2⟩
  · have encodable : ∀ r ∈ [letStop], r.Encodable := by decide
    obtain ⟨w, u, t, passes, finish⟩ : ∃ w u t, v.Passes Scene.lone [letStop] w u ∧
        v.finish true w u = .ok false t := ⟨_, _, _, rfl, rfl⟩
    have ended := (passes.finishes encodable).run_eq.trans finish
    have unfiled (id : EntityId) :
        ¬ Files .present 0 (ArgBlock.ofRecords [letStop]) Scene.lone id t := by
      rintro ⟨-, asked, -, -⟩
      rw [ArgBlock.read_ofRecords encodable] at asked
      exact absurd asked (by decide)
    exact ⟨t, ended, ((changeState_stops ended).2 unfiled).2 0⟩

/-- **Redirects are mistaken for a reason to go on.**  An entity that is redirected to itself goes
    on, although the request is its own and no continue record says so.  An entity that files a
    request on somebody else stops, if a false continue record follows the redirect. -/
theorem changeState_mistakes_redirects :
    (∃ t, (EffectKind.changeState .present).run 0 (ArgBlock.ofRecords [toFirst, askFive])
        Scene.lone = .ok false t ∧
      Files .present 0 (ArgBlock.ofRecords [toFirst, askFive]) Scene.lone 0 t ∧
      LastFalse .present 0 [StateTag.continue_] Scene.lone [toFirst, askFive]) ∧
    ∃ t, (EffectKind.changeState .present).run 0
        (ArgBlock.ofRecords [toSecond, letStop, askFive]) Scene.duo = .ok true t ∧
      Files .present 0 (ArgBlock.ofRecords [toSecond, letStop, askFive]) Scene.duo 1 t := by
  let v := changeStateVisitor 0 .present
  constructor
  · have encodable : ∀ r ∈ [toFirst, askFive], r.Encodable := by decide
    obtain ⟨w, u, t, passes, own, finish⟩ : ∃ w u t, v.Passes Scene.lone [toFirst, askFive] w u ∧
        w.target.id = 0 ∧ v.finish true w u = .ok false t := ⟨_, _, _, rfl, rfl, rfl⟩
    obtain ⟨ended, files⟩ := files_of_passes encodable passes (by decide) finish
    rw [own] at files
    exact ⟨t, ended, files, .none (by decide)⟩
  · have encodable : ∀ r ∈ [toSecond, letStop, askFive], r.Encodable := by decide
    obtain ⟨w, u, t, passes, other, finish⟩ : ∃ w u t,
        v.Passes Scene.duo [toSecond, letStop, askFive] w u ∧
        w.target.id = 1 ∧ v.finish true w u = .ok true t := ⟨_, _, _, rfl, rfl, rfl⟩
    obtain ⟨ended, files⟩ := files_of_passes encodable passes (by decide) finish
    rw [other] at files
    exact ⟨t, ended, files⟩

end TickScript.Effect
