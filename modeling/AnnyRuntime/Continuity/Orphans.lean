import AnnyRuntime.Continuity.Reconciler
import AnnyRuntime.Lib.Transition

/-!
# Orphaned changes

A change to a repository is *orphaned* when it was prepared and no event that finalizes refers to
its preparation.  `Reconciles` says that the reconciler requires a reconciliation exactly when
there is one.

The reconciler pairs preparations and finalizations by the id of the step alone, and only looks at
active records, so this fails when a step is finalized that has another preparation, when a step
that was finalized is prepared again (`not_reconciles_second_attempt`), and when finalizing crashes
after the record and before the event.  `reconciles_of_reachable` : **it holds in every run that
does none of these**, whatever crashes.
-/

namespace AnnyRuntime

namespace Continuity

open ContinuityEngine

/-! ### The histories -/

/-- A call. -/
inductive MutationOp where
  /-- A record is created and saved. -/
  | create (uuid now missionId taskId stepId actorId actorLevel objective : String)
      (executionId : Option String)
  | prepare (q : PrepareRequest) (t : PrepareStamp)
  | finalize (q : FinalizeRequest) (t : FinalizeStamp)
  | reconcile (w : ReconcileWorld)

/-- What a call writes; one that raises writes nothing. -/
def MutationOp.writes (e : ContinuityEngine) : MutationOp → List Write
  | .create uuid now missionId taskId stepId actorId actorLevel objective executionId =>
    [.record (.create uuid now missionId taskId stepId actorId actorLevel objective executionId)]
  | .prepare q t => (prepareMutation e q t).getD []
  | .finalize q t => (finalizeMutation e q t).getD []
  | .reconcile w => reconcileWrites w e

/-- The event prepares a change. -/
def Prepares (p : EventRecord) : Prop :=
  p.eventType = .str ContinuityEventType.mutationPrepared.value

instance : DecidablePred Prepares := fun _ => inferInstanceAs (Decidable (_ = _))

/-- The event `f` finalizes the change that `p` prepared. -/
def FinalizesEvent (f p : EventRecord) : Prop :=
  f.eventType = .str ContinuityEventType.mutationFinalized.value ∧ f.parentEventId = p.eventId

instance (f p : EventRecord) : Decidable (FinalizesEvent f p) :=
  inferInstanceAs (Decidable (_ ∧ _))

/-- A call can happen: the ids that it draws are new, and what it finalizes is a preparation that
the log has. -/
def MutationOp.Legal (e : ContinuityEngine) : MutationOp → Prop
  | .create uuid _ _ _ _ _ _ _ _ => e.records.get? (.str uuid) = none
  | .prepare _ t => ∀ ev ∈ e.events, ev.eventId ≠ .str t.eventId ∧ ev.parentEventId ≠ .str t.eventId
  | .finalize q _ => q.prepareEvent ∈ e.events ∧ Prepares q.prepareEvent
  | .reconcile _ => True

/-- All histories of calls, each of which can crash, from an empty directory on. -/
def mutationSystem : System ContinuityEngine (MutationOp × Option Crash) where
  init e := ContinuityEngine.init {} = some e
  step e a e' := a.1.Legal e ∧ e.finish (a.1.writes e) a.2 = some e'

/-- A change that was prepared and not finalized. -/
def Orphan (events : List EventRecord) (p : EventRecord) : Prop :=
  p ∈ events ∧ Prepares p ∧ ∀ f ∈ events, ¬ FinalizesEvent f p

/-- The reconciler requires a reconciliation exactly when there is an orphaned change. -/
def Reconciles (e : ContinuityEngine) : Prop :=
  ∀ w, reconcile w e = .reconciliationRequired ↔ ∃ p, Orphan e.events p

/-- What a call must not do. -/
def MutationOp.Unmasking (e : ContinuityEngine) (crash : Option Crash) : MutationOp → Prop
  -- a step that was finalized is not prepared again, and the repository has a name
  | .prepare q _ => q.repository ≠ "" ∧
      stepEvents e.events (.str q.stepId) [.mutationFinalized] = []
  -- no other preparation of the step is left, and the record is not saved without the event
  | .finalize q t =>
    (∀ p ∈ e.events, Prepares p → p.stepId = q.prepareEvent.stepId →
      p.eventId = q.prepareEvent.eventId ∨ ∃ f ∈ e.events, FinalizesEvent f p) ∧
    (e.landed ((finalizeMutation e q t).getD []) crash).length ≠ 1
  | .create .. | .reconcile _ => True

/-- A call that keeps every orphaned change in sight. -/
def KeepsInSight (e : ContinuityEngine) (a : MutationOp × Option Crash) : Prop :=
  (Touches (a.1.writes e) a.2 → Whole e.disk) ∧ a.1.Unmasking e a.2

/-! ### What is kept -/

/-- A record shows that its step has a change under way. -/
structure Shows (r : ContinuityRecord) (stepId : Json) : Prop where
  stepId : r.stepId = stepId
  active : r.implementationState = .str ContinuityStatus.active.value
  repository : r.repository.truthy = true

/-- Every orphaned change is in sight, and what finalizes refers to a preparation of its step. -/
structure InSight (d : Dict Json.Key ContinuityRecord) (events : List EventRecord) : Prop where
  /-- A record is under its id. -/
  keyed : ∀ k r, d.get? k = some r → r.continuityId.norm = k
  /-- No record is complete. -/
  incomplete : ∀ r ∈ d.values, r.status ≠ .str ContinuityStatus.complete.value
  /-- The step of an orphaned change has no finalization, and a record that shows it. -/
  shown : ∀ p, Orphan events p → stepEvents events p.stepId [.mutationFinalized] = [] ∧
    ∃ r ∈ d.values, Shows r p.stepId
  /-- What finalizes refers to a preparation of its step. -/
  refers : ∀ f ∈ events, f.eventType = .str ContinuityEventType.mutationFinalized.value →
    ∃ p ∈ events, Prepares p ∧ f.parentEventId = p.eventId ∧ p.stepId = f.stepId
  /-- Preparations of different steps have different ids. -/
  ids : ∀ p ∈ events, ∀ q ∈ events, Prepares p → Prepares q → p.eventId = q.eventId →
    p.stepId = q.stepId

variable {d : Dict Json.Key ContinuityRecord} {events : List EventRecord} {e : ContinuityEngine}

theorem stepEvents_eq_nil {stepId : Json} {t : ContinuityEventType} :
    stepEvents events stepId [t] = [] ↔
      ∀ ev ∈ events, ev.eventType = .str t.value → ev.stepId ≠ stepId := by
  rw [List.eq_nil_iff_forall_not_mem]
  simp only [mem_stepEvents, List.mem_singleton, exists_eq_left, not_and]
  exact ⟨fun h ev hev ht hs => h ev hev hs ht, fun h ev hev hs ht => h ev hev ht hs⟩

/-- **The reconciler sees what is in sight, and nothing else.** -/
theorem InSight.reconciles (h : InSight e.records e.events) : Reconciles e := by
  intro w
  rw [reconcile_status]
  constructor
  · rintro ⟨r, hr, hu | hc⟩
    · obtain ⟨-, -, hf, hp⟩ := isSome_unfinalized.1 hu
      obtain ⟨p, hp⟩ := List.exists_mem_of_ne_nil _ hp
      obtain ⟨hpe, hps, t, ht, htype⟩ := mem_stepEvents.1 hp
      obtain rfl := List.mem_singleton.1 ht
      refine ⟨p, hpe, htype, fun f hf' ⟨hft, hparent⟩ => ?_⟩
      -- a finalization of `p` would be of the same step
      obtain ⟨q, hq, hqp, hfq, hqs⟩ := h.refers f hf' hft
      have hstep := h.ids p hpe q hq htype hqp (hparent.symm.trans hfq)
      exact stepEvents_eq_nil.1 hf f hf' hft (hqs.symm.trans (hstep.symm.trans hps))
    · rw [unrecorded, Bool.and_eq_true, Bool.and_eq_true, decide_eq_true_eq] at hc
      exact absurd hc.1.1 (h.incomplete r hr)
  · rintro ⟨p, hp⟩
    obtain ⟨hf, r, hr, hs⟩ := h.shown p hp
    refine ⟨r, hr, Or.inl (isSome_unfinalized.2 ⟨hs.active, hs.repository, ?_, ?_⟩)⟩
    · rw [hs.stepId]
      exact hf
    · exact List.ne_nil_of_mem (mem_stepEvents.2 ⟨hp.1, hs.stepId.symm, _, List.mem_singleton_self _,
        hp.2.1⟩)

/-! ### Records -/

theorem mem_values_put {r x : ContinuityRecord} (h : x ∈ (putRecord d r).values) :
    x = r ∨ x ∈ d.values := by
  obtain ⟨k, hk⟩ := Dict.exists_get?_of_mem_values h
  rw [putRecord, Dict.get?_set] at hk
  split_ifs at hk
  · exact Or.inl (Option.some.inj hk).symm
  · exact Or.inr (Dict.mem_values_of_get? hk)

/-- A change stays in sight when a record is saved, unless that record showed it. -/
theorem shows_put {r : ContinuityRecord} {stepId : Json} (h : ∃ x ∈ d.values, Shows x stepId)
    (hover : ∀ x, d.get? r.continuityId.norm = some x → Shows x stepId → Shows r stepId) :
    ∃ x ∈ (putRecord d r).values, Shows x stepId := by
  obtain ⟨x, hx, hs⟩ := h
  obtain ⟨k, hk⟩ := Dict.exists_get?_of_mem_values hx
  by_cases hkr : k = r.continuityId.norm
  · subst hkr
    exact ⟨r, Dict.mem_values_of_get? (Dict.get?_set_self _ _), hover x hk hs⟩
  · refine ⟨x, Dict.mem_values_of_get? (k := k) ?_, hs⟩
    rw [putRecord, Dict.get?_set_ne hkr]
    exact hk

/-- Saving a record that shows what the one it replaces showed. -/
theorem InSight.put (h : InSight d events) {r : ContinuityRecord}
    (hstatus : r.status ≠ .str ContinuityStatus.complete.value)
    (hover : ∀ x, d.get? r.continuityId.norm = some x → ∀ s, Shows x s → Shows r s) :
    InSight (putRecord d r) events where
  keyed k x hx := by
    rw [putRecord, Dict.get?_set] at hx
    split_ifs at hx with hk
    · rw [← Option.some.inj hx, hk]
    · exact h.keyed k x hx
  incomplete x hx := by
    rcases mem_values_put hx with rfl | hx
    · exact hstatus
    · exact h.incomplete x hx
  shown p hp := by
    obtain ⟨hf, hs⟩ := h.shown p hp
    exact ⟨hf, shows_put hs fun x hx => hover x hx _⟩
  refers := h.refers
  ids := h.ids

/-! ### Events -/

/-- An event of another type. -/
theorem InSight.concat (h : InSight d events) {ev : EventRecord} (hp : ¬ Prepares ev)
    (hf : ev.eventType ≠ .str ContinuityEventType.mutationFinalized.value) :
    InSight d (events ++ [ev]) where
  keyed := h.keyed
  incomplete := h.incomplete
  shown p hp' := by
    obtain ⟨hmem, hprep, hno⟩ := hp'
    have hmem : p ∈ events := (List.mem_append.1 hmem).resolve_right fun h =>
      hp (List.mem_singleton.1 h ▸ hprep)
    obtain ⟨hnil, hs⟩ := h.shown p
      ⟨hmem, hprep, fun f hfm => hno f (List.mem_append_left _ hfm)⟩
    refine ⟨stepEvents_eq_nil.2 fun x hx ht => ?_, hs⟩
    rcases List.mem_append.1 hx with hx | hx
    · exact stepEvents_eq_nil.1 hnil x hx ht
    · exact absurd (List.mem_singleton.1 hx ▸ ht) hf
  refers f hfm hft := by
    rcases List.mem_append.1 hfm with hfm | hfm
    · obtain ⟨p, hpm, hrest⟩ := h.refers f hfm hft
      exact ⟨p, List.mem_append_left _ hpm, hrest⟩
    · exact absurd (List.mem_singleton.1 hfm ▸ hft) hf
  ids p hpm q hqm hpp hqp := by
    have hold : ∀ x ∈ events ++ [ev], Prepares x → x ∈ events := fun x hx hxp =>
      (List.mem_append.1 hx).resolve_right fun h => hp (List.mem_singleton.1 h ▸ hxp)
    exact h.ids p (hold p hpm hpp) q (hold q hqm hqp) hpp hqp

theorem not_prepares {ev : EventRecord} {t : ContinuityEventType}
    (h : ev.eventType = .str t.value) (ht : t.value ≠ ContinuityEventType.mutationPrepared.value) :
    ¬ Prepares ev := by
  rw [Prepares, h]
  simpa using ht

/-- A preparation, with a new id, of a step that a record shows and nothing finalized. -/
theorem InSight.prepare (h : InSight d events) {p : EventRecord} (hp : Prepares p)
    (hfresh : ∀ ev ∈ events, ev.eventId ≠ p.eventId ∧ ev.parentEventId ≠ p.eventId)
    (hnil : stepEvents events p.stepId [.mutationFinalized] = [])
    (hs : ∃ r ∈ d.values, Shows r p.stepId) : InSight d (events ++ [p]) where
  keyed := h.keyed
  incomplete := h.incomplete
  shown q hq := by
    -- a preparation finalizes nothing
    have hnew : ∀ s, stepEvents events s [.mutationFinalized] = [] →
        stepEvents (events ++ [p]) s [.mutationFinalized] = [] := by
      intro s hs
      refine stepEvents_eq_nil.2 fun x hx ht => ?_
      rcases List.mem_append.1 hx with hx | hx
      · exact stepEvents_eq_nil.1 hs x hx ht
      · rw [List.mem_singleton.1 hx, hp] at ht
        exact absurd ht (by simp [ContinuityEventType.value])
    obtain ⟨hmem, hprep, hno⟩ := hq
    rcases List.mem_append.1 hmem with hmem | hmem
    · obtain ⟨hnil', hs'⟩ := h.shown q
        ⟨hmem, hprep, fun f hfm => hno f (List.mem_append_left _ hfm)⟩
      exact ⟨hnew _ hnil', hs'⟩
    · rw [List.mem_singleton.1 hmem]
      exact ⟨hnew _ hnil, hs⟩
  refers f hfm hft := by
    rcases List.mem_append.1 hfm with hfm | hfm
    · obtain ⟨q, hqm, hrest⟩ := h.refers f hfm hft
      exact ⟨q, List.mem_append_left _ hqm, hrest⟩
    · rw [List.mem_singleton.1 hfm, hp] at hft
      exact absurd hft (by simp [ContinuityEventType.value])
  ids x hx y hy hxp hyp hid := by
    rcases List.mem_append.1 hx with hx | hx <;> rcases List.mem_append.1 hy with hy | hy
    · exact h.ids x hx y hy hxp hyp hid
    · rw [List.mem_singleton.1 hy] at hid
      exact absurd hid (hfresh x hx).1
    · rw [List.mem_singleton.1 hx] at hid
      exact absurd hid.symm (hfresh y hy).1
    · rw [List.mem_singleton.1 hx, List.mem_singleton.1 hy]

/-- A finalization of `p`, together with the record of its step, when every other change of the
step is finalized. -/
theorem InSight.finalize (h : InSight d events) {p f : EventRecord} {r : ContinuityRecord}
    (hp : p ∈ events) (hprep : Prepares p)
    (hothers : ∀ q ∈ events, Prepares q → q.stepId = p.stepId →
      q.eventId = p.eventId ∨ ∃ g ∈ events, FinalizesEvent g q)
    (hf : FinalizesEvent f p) (hstep : f.stepId = p.stepId)
    (hstatus : r.status ≠ .str ContinuityStatus.complete.value)
    (hover : ∀ x, d.get? r.continuityId.norm = some x → x.stepId = p.stepId) :
    InSight (putRecord d r) (events ++ [f]) where
  keyed k x hx := by
    rw [putRecord, Dict.get?_set] at hx
    split_ifs at hx with hk
    · rw [← Option.some.inj hx, hk]
    · exact h.keyed k x hx
  incomplete x hx := by
    rcases mem_values_put hx with rfl | hx
    · exact hstatus
    · exact h.incomplete x hx
  shown q hq := by
    obtain ⟨hmem, hqp, hno⟩ := hq
    have hqf : q ≠ f := by
      rintro rfl
      exact absurd (hqp.symm.trans hf.1) (by simp [ContinuityEventType.value])
    have hmem : q ∈ events := (List.mem_append.1 hmem).resolve_right fun h =>
      hqf (List.mem_singleton.1 h)
    -- no change of this step is orphaned any more
    have hne : q.stepId ≠ p.stepId := by
      intro hsame
      rcases hothers q hmem hqp hsame with hid | ⟨g, hg, hgq⟩
      · exact hno f (by simp) ⟨hf.1, hf.2.trans hid.symm⟩
      · exact hno g (List.mem_append_left _ hg) hgq
    obtain ⟨hnil, hs⟩ := h.shown q
      ⟨hmem, hqp, fun g hg => hno g (List.mem_append_left _ hg)⟩
    refine ⟨stepEvents_eq_nil.2 fun x hx ht => ?_, shows_put hs fun x hx hxs => ?_⟩
    · rcases List.mem_append.1 hx with hx | hx
      · exact stepEvents_eq_nil.1 hnil x hx ht
      · rw [List.mem_singleton.1 hx, hstep]
        exact hne.symm
    · exact absurd (hxs.stepId.symm.trans (hover x hx)) hne
  refers g hg hgt := by
    rcases List.mem_append.1 hg with hg | hg
    · obtain ⟨q, hqm, hrest⟩ := h.refers g hg hgt
      exact ⟨q, List.mem_append_left _ hqm, hrest⟩
    · rw [List.mem_singleton.1 hg]
      exact ⟨p, List.mem_append_left _ hp, hprep, hf.2, hstep.symm⟩
  ids x hx y hy hxp hyp hid := by
    have hold : ∀ z ∈ events ++ [f], Prepares z → z ∈ events := fun z hz hzp =>
      (List.mem_append.1 hz).resolve_right fun h => by
        rw [List.mem_singleton.1 h] at hzp
        exact absurd (hzp.symm.trans hf.1) (by simp [ContinuityEventType.value])
    exact h.ids x (hold x hx hxp) y (hold y hy hyp) hxp hyp hid

/-! ### Calls -/

/-- The engine after writes has every orphaned change in sight. -/
def SeesAfter (e : ContinuityEngine) (ws : List Write) : Prop :=
  InSight (e.writeAll ws).records (e.writeAll ws).events

theorem seesAfter_create (h : InSight e.records e.events)
    {uuid now missionId taskId stepId actorId actorLevel objective : String}
    {executionId : Option String} (hnew : e.records.get? (.str uuid) = none) :
    SeesAfter e [.record (.create uuid now missionId taskId stepId actorId actorLevel objective
      executionId)] := by
  refine h.put (by simp [ContinuityRecord.create, ContinuityStatus.value]) fun x hx => ?_
  exact absurd (hnew.symm.trans hx) (by simp)

theorem shows_prepared {q : PrepareRequest} {t : PrepareStamp} {r : ContinuityRecord}
    (hq : q.repository ≠ "") (hr : r.stepId = .str q.stepId) :
    Shows (preparedRecord q t r) (.str q.stepId) where
  stepId := hr
  active := rfl
  repository := by simpa [preparedRecord, Json.truthy] using hq

/-- Preparing a step that nothing finalized, crashed anywhere. -/
theorem seesAfter_prepare (h : InSight e.records e.events) {q : PrepareRequest} {t : PrepareStamp}
    (hfresh : ∀ ev ∈ e.events, ev.eventId ≠ .str t.eventId ∧ ev.parentEventId ≠ .str t.eventId)
    (hq : q.repository ≠ "") (hnil : stepEvents e.events (.str q.stepId) [.mutationFinalized] = [])
    {ws : List Write} (hws : ws <+: (prepareMutation e q t).getD []) : SeesAfter e ws := by
  cases hp : prepareMutation e q t with
  | none =>
    rw [hp] at hws
    rw [List.prefix_nil.1 hws]
    exact h
  | some all =>
    obtain ⟨r, hr, hstep, rfl⟩ := prepareMutation_eq_some hp
    rw [hp, Option.getD_some, ← List.mem_inits] at hws
    have hshows := shows_prepared (t := t) hq hstep
    obtain ⟨k, hk⟩ := Dict.exists_get?_of_mem_values hr
    have hkey : e.records.get? (preparedRecord q t r).continuityId.norm = some r := by
      rw [show (preparedRecord q t r).continuityId = r.continuityId from rfl, h.keyed k r hk]
      exact hk
    have hput : InSight (putRecord e.records (preparedRecord q t r)) e.events := by
      refine h.put (h.incomplete r hr) fun x hx s hxs => ?_
      obtain rfl := Option.some.inj (hkey.symm.trans hx)
      rw [← hxs.stepId, hstep]
      exact hshows
    simp only [List.inits, List.map_cons, List.map_nil, List.mem_cons, List.not_mem_nil,
      or_false] at hws
    -- nothing was written, or the record, or the record and the event
    rcases hws with rfl | rfl | rfl
    · exact h
    · exact hput
    · exact hput.prepare rfl hfresh hnil
        ⟨_, Dict.mem_values_of_get? (Dict.get?_set_self _ _), hshows⟩

/-- Finalizing the last change of a step that is left, crashed anywhere but after the record. -/
theorem seesAfter_finalize (h : InSight e.records e.events) {q : FinalizeRequest}
    {t : FinalizeStamp} (hmem : q.prepareEvent ∈ e.events) (hprep : Prepares q.prepareEvent)
    (hothers : ∀ p ∈ e.events, Prepares p → p.stepId = q.prepareEvent.stepId →
      p.eventId = q.prepareEvent.eventId ∨ ∃ f ∈ e.events, FinalizesEvent f p)
    {ws : List Write} (hws : ws <+: (finalizeMutation e q t).getD []) (hlen : ws.length ≠ 1) :
    SeesAfter e ws := by
  cases hp : finalizeMutation e q t with
  | none =>
    rw [hp] at hws
    rw [List.prefix_nil.1 hws]
    exact h
  | some all =>
    obtain ⟨r, hr, hstep, r', hfin, rfl⟩ := finalizeMutation_eq_some hp
    rw [hp, Option.getD_some, ← List.mem_inits] at hws
    obtain ⟨k, hk⟩ := Dict.exists_get?_of_mem_values hr
    have hkey : e.records.get? r'.continuityId.norm = some r := by
      rw [hfin.continuityId, h.keyed k r hk]
      exact hk
    have hput : SeesAfter e [.record r', .event (finalizedEvent q t r')] := by
      refine h.finalize hmem hprep hothers ⟨rfl, rfl⟩ rfl ?_ fun x hx => ?_
      · rw [hfin.status]
        exact h.incomplete r hr
      · rw [← Option.some.inj (hkey.symm.trans hx)]
        exact hstep
    simp only [List.inits, List.map_cons, List.map_nil, List.mem_cons, List.not_mem_nil,
      or_false] at hws
    -- the record alone is the case that is left out
    rcases hws with rfl | rfl | rfl | rfl
    · exact h
    · exact absurd rfl hlen
    · exact hput
    · exact InSight.concat hput
        (not_prepares (t := .repositoryMutated) rfl (by simp [ContinuityEventType.value]))
        (by simp [mutatedEvent, finalizeEvent, ContinuityEventType.value])

/-- A write changes nothing that is looked for: the record shows what the one under its key
shows, and the event is a gap event. -/
def Restates (d : Dict Json.Key ContinuityRecord) : Write → Prop
  | .record r => r.status ≠ .str ContinuityStatus.complete.value ∧
      ∃ x, d.get? r.continuityId.norm = some x ∧ ∀ s, Shows x s ↔ Shows r s
  | .event ev => ev.eventType = .str ContinuityEventType.blockerCreated.value

theorem shows_iff_of_sameStep {x r : ContinuityRecord} (h : SameStep x r) (s : Json) :
    Shows x s ↔ Shows r s := by
  constructor
  · rintro ⟨hs, ha, hr⟩
    exact ⟨h.stepId.trans hs, h.implementationState.trans ha, h.repository ▸ hr⟩
  · rintro ⟨hs, ha, hr⟩
    exact ⟨h.stepId.symm.trans hs, h.implementationState.symm.trans ha, h.repository ▸ hr⟩

/-- What is written for one record changes nothing for the writes of others. -/
theorem Restates.put {r : ContinuityRecord} (hr : Restates d (.record r)) {x : Write}
    (hx : Restates d x) : Restates (putRecord d r) x := by
  cases x with
  | event ev => exact hx
  | record r' =>
    obtain ⟨-, y, hy, hyr⟩ := hr
    obtain ⟨hc, z, hz, hzr⟩ := hx
    by_cases hkey : r'.continuityId.norm = r.continuityId.norm
    · obtain rfl : z = y := Option.some.inj (hz.symm.trans (hkey ▸ hy))
      exact ⟨hc, r, by rw [putRecord, hkey, Dict.get?_set_self], fun s => (hyr s).symm.trans (hzr s)⟩
    · exact ⟨hc, z, by rw [putRecord, Dict.get?_set_ne hkey]; exact hz, hzr⟩

theorem seesAfter_restates (h : InSight e.records e.events) {ws : List Write}
    (hws : ∀ x ∈ ws, Restates e.records x) : SeesAfter e ws := by
  induction ws generalizing e with
  | nil => exact h
  | cons x ws ih =>
    have hx := hws x List.mem_cons_self
    cases x with
    | record r =>
      refine ih (e := e.saveRecord r) (h.put hx.1 fun z hz s hs => ?_) fun x' hx' =>
        hx.put (hws x' (List.mem_cons_of_mem _ hx'))
      obtain ⟨-, y, hy, hyr⟩ := hx
      obtain rfl := Option.some.inj (hy.symm.trans hz)
      exact (hyr s).1 hs
    | event ev =>
      refine ih (e := e.appendEvent ev) (InSight.concat h ?_ ?_) fun x' hx' =>
        hws x' (List.mem_cons_of_mem _ hx')
      · exact not_prepares (t := .blockerCreated) hx (by simp [ContinuityEventType.value])
      · change ev.eventType ≠ _
        rw [show ev.eventType = _ from hx]
        simp [ContinuityEventType.value]

/-- Reconciling, crashed anywhere. -/
theorem seesAfter_reconcile (h : InSight e.records e.events) {w : ReconcileWorld}
    {ws : List Write} (hws : ws <+: reconcileWrites w e) : SeesAfter e ws := by
  refine seesAfter_restates h fun x hx => ?_
  obtain ⟨r, hr, hcheck⟩ := mem_reconcileWrites (hws.subset hx)
  cases x with
  | event ev => exact hcheck
  | record r' =>
    obtain ⟨k, hk⟩ := Dict.exists_get?_of_mem_values hr
    refine ⟨fun hc => h.incomplete r hr (hcheck.status hc), r, ?_, shows_iff_of_sameStep hcheck⟩
    rw [hcheck.continuityId, h.keyed k r hk]
    exact hk

/-- One call. -/
theorem seesAfter_op (h : InSight e.records e.events) {op : MutationOp} {crash : Option Crash}
    (hlegal : op.Legal e) (hop : op.Unmasking e crash) :
    SeesAfter e (e.landed (op.writes e) crash) := by
  have hpre := landed_isPrefix e (op.writes e) crash
  cases op with
  | create uuid now missionId taskId stepId actorId actorLevel objective executionId =>
    rw [← List.mem_inits] at hpre
    simp only [MutationOp.writes, List.inits, List.map_cons, List.map_nil, List.mem_cons,
      List.not_mem_nil, or_false] at hpre
    rcases hpre with hl | hl <;> simp only [MutationOp.writes, hl]
    · exact h
    · exact seesAfter_create h hlegal
  | prepare q t => exact seesAfter_prepare h hlegal hop.1 hop.2 hpre
  | finalize q t => exact seesAfter_finalize h hlegal.1 hlegal.2 hop.1 hpre hop.2
  | reconcile w => exact seesAfter_reconcile h hpre

/-! ### Histories -/

/-- A restart finds the memory, and every orphaned change is in sight. -/
structure Watched (e : ContinuityEngine) : Prop where
  synced : Synced e
  inSight : InSight e.records e.events

theorem watched_emptyEngine : Watched emptyEngine where
  synced := durable_emptyEngine.synced
  inSight :=
    { keyed := fun k r h => absurd h (by simp [emptyEngine])
      incomplete := fun r h => absurd h (by simp [emptyEngine])
      shown := fun p hp => absurd hp.1 (by simp [emptyEngine])
      refers := fun f h => absurd h (by simp [emptyEngine])
      ids := fun p h => absurd h (by simp [emptyEngine]) }

theorem watched_invariant : (mutationSystem.restrict KeepsInSight).Invariant Watched where
  init e h := by
    obtain rfl : emptyEngine = e := Option.some.inj h
    exact watched_emptyEngine
  step e a e' h hstep := by
    obtain ⟨⟨hwhole, hop⟩, hlegal, hnext⟩ := hstep
    obtain ⟨e'', hfinish, hs, hm⟩ := h.synced.finish_spec hwhole
    obtain rfl := Option.some.inj (hfinish.symm.trans hnext)
    refine ⟨hs, ?_⟩
    rw [hm.records, hm.events]
    exact seesAfter_op h.inSight hlegal hop

/-- **No orphaned change escapes.**  In every run that writes to no torn log, prepares no step that
was finalized, finalizes a step only when its other changes are finalized, and does not crash
between the record and the event of a finalization, the reconciler requires a reconciliation
exactly when a change is orphaned. -/
theorem reconciles_of_reachable
    (h : (mutationSystem.restrict KeepsInSight).Reachable e) : Reconciles e :=
  (watched_invariant.holds h).inSight.reconciles

/-! ### A second attempt -/

/-- The engine after a call that does not crash. -/
def ContinuityEngine.after (e : ContinuityEngine) (op : MutationOp) : ContinuityEngine :=
  e.writeAll (op.writes e)

def sampleCreate : MutationOp :=
  .create "rec-1" "2024-01-01" "m-1" "t-1" "s-1" "ANNY" "L0" "change a file" none

def samplePrepare (eventId : String) : MutationOp :=
  .prepare
    { missionId := "m-1", taskId := "t-1", stepId := "s-1", actorId := "ANNY", actorLevel := "L0"
      repository := "ANNY-OPERATIONAL", branch := "main", commitBefore := "abc1234"
      reason := "Updated documentation", action := "commit", nextAction := "RUN_TESTS" }
    { eventId := eventId, updatedAt := "2024-01-01", timestamp := "2024-01-01" }

/-- The engine when a record was created and its step prepared. -/
def preparedEngine : ContinuityEngine :=
  (emptyEngine.after sampleCreate).after (samplePrepare "evt-1")

def sampleFinalize : MutationOp :=
  .finalize
    { prepareEvent := preparedEngine.events.headI, commitAfter := "def5678"
      filesChanged := ["README.md"], tests := [], evidenceRefs := [] }
    { eventId := "evt-2", compatId := "evt-3", updatedAt := "2024-01-02"
      timestamp := "2024-01-02", compatTimestamp := "2024-01-02" }

/-- The engine when the step was finalized and then prepared again. -/
def secondAttempt : ContinuityEngine :=
  (preparedEngine.after sampleFinalize).after (samplePrepare "evt-4")

theorem reachable_after (h : mutationSystem.Reachable e) {o : MutationOp} (ho : o.Legal e) :
    mutationSystem.Reachable (e.after o) :=
  .step (a := (o, none)) h ⟨ho, rfl⟩

theorem legal_samplePrepare : (samplePrepare "evt-1").Legal (emptyEngine.after sampleCreate) := by
  change ∀ ev ∈ (emptyEngine.after sampleCreate).events, _
  decide +kernel

theorem reachable_preparedEngine : mutationSystem.Reachable preparedEngine :=
  reachable_after (reachable_after (.init rfl) (o := sampleCreate) rfl) legal_samplePrepare

theorem Durable.whole (h : Durable e) : Whole e.disk where
  records t ht := by
    obtain ⟨t', ht', hs, -⟩ := h.records
    rwa [← Option.some.inj (ht'.symm.trans ht)]
  events t ht := by
    obtain ⟨t', ht', hs, -⟩ := h.events
    rwa [← Option.some.inj (ht'.symm.trans ht)]

/-- After a preparation the reconciler requires a reconciliation, since the change is orphaned. -/
theorem reconciles_preparedEngine : Reconciles preparedEngine :=
  reconciles_of_reachable <|
    .step (a := (samplePrepare "evt-1", none))
      (.step (a := (sampleCreate, none)) (.init rfl)
        ⟨⟨fun _ => durable_emptyEngine.whole, trivial⟩, rfl, rfl⟩)
      ⟨⟨fun _ => (durable_emptyEngine.writeAll _).whole, by decide +kernel, by decide +kernel⟩,
        legal_samplePrepare, rfl⟩

/-- After a finalization, a second attempt at the step is not seen. -/
theorem not_reconciles_second_attempt :
    ¬ ∀ e, mutationSystem.Reachable e → Reconciles e := by
  intro h
  have hfin : mutationSystem.Reachable (preparedEngine.after sampleFinalize) :=
    reachable_after reachable_preparedEngine ⟨by decide +kernel, by decide +kernel⟩
  have hagain : mutationSystem.Reachable secondAttempt := by
    refine reachable_after hfin ?_
    change ∀ ev ∈ (preparedEngine.after sampleFinalize).events, _
    decide +kernel
  have horphan : Orphan secondAttempt.events secondAttempt.events.getLastI :=
    ⟨by decide +kernel, by decide +kernel, by decide +kernel⟩
  have hsees := (h _ hagain ⟨fun _ _ => "", fun _ _ => ⟨"evt-5", "2024-01-03"⟩⟩).2 ⟨_, horphan⟩
  exact absurd hsees (by decide +kernel)

end Continuity

end AnnyRuntime
