import AnnyRuntime.Continuity.Orphans
import AnnyRuntime.Continuity.Reconstruct

/-!
# Finalizing what was prepared

Preparing marks the latest record of a step, and so does finalizing look for it: it takes the
latest record of the step of the preparation, whatever was created in between, and adds what it is
given to the lists of the record, whatever was added before.

The histories remember which record each preparation marked, and which were finalized.

* `finalizeMutation_tracked` : what finalizing does in a history: it never raises, and saves the
  latest record of the step.
* `closes_iff` : it closes the record that was marked, and lists nothing twice, exactly when that
  record is still the latest of its step, and what a second call is given is not listed yet.
* `closes_run_iff` : **a history closes all that it finalizes exactly when this is so at every
  finalization.**
* `not_closes_created` : a record that was created in between is closed instead.
-/

namespace AnnyRuntime

namespace Continuity

/-- An engine, and what is remembered of its history. -/
structure Tracked where
  engine : ContinuityEngine
  /-- The events that preparing returned, each with the key of the record it marked. -/
  prepared : List (EventRecord × Json.Key) := []
  /-- The preparations that were finalized. -/
  finalized : List EventRecord := []

/-- A call. -/
inductive ContractOp where
  /-- A new record is saved. -/
  | create (r : ContinuityRecord)
  | prepare (q : PrepareRequest) (t : PrepareStamp)
  | finalize (q : FinalizeRequest) (t : FinalizeStamp)

/-- The lists of a record are lists. -/
structure Listed (r : ContinuityRecord) : Prop where
  filesChanged : ∃ xs, r.filesChanged = .arr xs
  tests : ∃ xs, r.tests = .arr xs
  evidenceRefs : ∃ xs, r.evidenceRefs = .arr xs

/-- The value is a list. -/
def isList : Json → Bool
  | .arr _ => true
  | _ => false

namespace Tracked

/-- The event that preparing returns, with its number. -/
def returned (s : Tracked) (q : PrepareRequest) (t : PrepareStamp) (r : ContinuityRecord) :
    EventRecord :=
  { preparedEvent q t (preparedRecord q t r) with sequence := s.engine.eventSequence + 1 }

/-- The next state, when the call can happen and does not raise: the id of a new record is new, the
id that a preparation draws is new, and what is finalized was prepared. -/
def next (s : Tracked) : ContractOp → Option Tracked
  | .create r =>
    if s.engine.records.get? r.continuityId.norm = none ∧ isList r.filesChanged = true ∧
        isList r.tests = true ∧ isList r.evidenceRefs = true then
      some { s with engine := s.engine.saveRecord r }
    else none
  | .prepare q t =>
    if ∀ p ∈ s.prepared, p.1.eventId ≠ .str t.eventId then
      (stepRecord s.engine (.str q.missionId) (.str q.stepId)).bind fun r =>
        (prepareMutation s.engine q t).map fun ws =>
          { s with
            engine := s.engine.writeAll ws
            prepared := s.prepared ++ [(s.returned q t r, r.continuityId.norm)] }
    else none
  | .finalize q t =>
    if q.prepareEvent ∈ s.prepared.map Prod.fst then
      (finalizeMutation s.engine q t).map fun ws =>
        { s with
          engine := s.engine.writeAll ws
          finalized := s.finalized ++ [q.prepareEvent] }
    else none

/-- Where a history starts: an engine whose records are under their ids and have lists. -/
structure Start (s : Tracked) : Prop where
  keyed : Keyed s.engine.records
  listed : ∀ r ∈ s.engine.records.values, Listed r
  prepared : s.prepared = []
  finalized : s.finalized = []

/-- No item is listed more than once, or more often than before. -/
def NothingTwice (before after : Json) : Prop :=
  ∀ xs ys, before = .arr xs → after = .arr ys → ∀ x, ys.count x ≤ max (xs.count x) 1

/-- Finalizing closes the record that the preparation marked. -/
structure Closes (s : Tracked) (q : FinalizeRequest) (t : FinalizeStamp) : Prop where
  /-- The one record that is saved is the finalized form of the one that was marked. -/
  saved : ∀ k, (q.prepareEvent, k) ∈ s.prepared → ∃ r r' ev ev',
    s.engine.records.get? k = some r ∧ finalizedRecord q t r = some r' ∧
      finalizeMutation s.engine q t = some [.record r', .event ev, .event ev']
  /-- Every other record is as before. -/
  others : ∀ k, (q.prepareEvent, k) ∈ s.prepared → ∀ ws, finalizeMutation s.engine q t = some ws →
    ∀ k' ≠ k, (s.engine.writeAll ws).records.get? k' = s.engine.records.get? k'
  /-- A second call lists nothing twice. -/
  again : q.prepareEvent ∈ s.finalized → ∀ k, (q.prepareEvent, k) ∈ s.prepared →
    ∀ ws r r', finalizeMutation s.engine q t = some ws → s.engine.records.get? k = some r →
      (s.engine.writeAll ws).records.get? k = some r' →
        NothingTwice r.filesChanged r'.filesChanged ∧ NothingTwice r.tests r'.tests ∧
          NothingTwice r.evidenceRefs r'.evidenceRefs

/-- The items are different, and none of them is in the list. -/
def Unlisted (v : Json) (l : List String) : Prop :=
  l.Nodup ∧ ∀ xs, v = .arr xs → ∀ x ∈ l, Json.str x ∉ xs

/-- The record that was marked is the latest of its step, and what a second call is given is not
listed in it. -/
structure StillLatest (s : Tracked) (q : FinalizeRequest) : Prop where
  latest : ∀ k, (q.prepareEvent, k) ∈ s.prepared → ∃ r,
    stepRecord s.engine q.prepareEvent.missionId q.prepareEvent.stepId = some r ∧
      r.continuityId.norm = k
  unlisted : q.prepareEvent ∈ s.finalized → ∀ k, (q.prepareEvent, k) ∈ s.prepared →
    ∀ r, s.engine.records.get? k = some r → Unlisted r.filesChanged q.filesChanged ∧
      Unlisted r.tests q.tests ∧ Unlisted r.evidenceRefs q.evidenceRefs

/-- What holds at every moment of a history. -/
structure Sound (s : Tracked) : Prop where
  keyed : Keyed s.engine.records
  listed : ∀ r ∈ s.engine.records.values, Listed r
  /-- A record that was marked is there, and one of the step. -/
  marked : ∀ p ∈ s.prepared, ∃ r, s.engine.records.get? p.2 = some r ∧
    r.missionId = p.1.missionId ∧ r.stepId = p.1.stepId

variable {s s' : Tracked} {q : FinalizeRequest} {t : FinalizeStamp} {r r' : ContinuityRecord}

/-! ### Records -/

theorem isList_iff {v : Json} : isList v = true ↔ ∃ xs, v = .arr xs := by
  cases v <;> simp [isList]

theorem listed_of_isList (h : isList r.filesChanged = true ∧ isList r.tests = true ∧
    isList r.evidenceRefs = true) : Listed r :=
  ⟨isList_iff.1 h.1, isList_iff.1 h.2.1, isList_iff.1 h.2.2⟩

/-- Finalizing a record adds to its lists. -/
structure Extends (q : FinalizeRequest) (r r' : ContinuityRecord) : Prop where
  continuityId : r'.continuityId = r.continuityId
  missionId : r'.missionId = r.missionId
  stepId : r'.stepId = r.stepId
  filesChanged : ∃ xs, r.filesChanged = .arr xs ∧
    r'.filesChanged = .arr (xs ++ q.filesChanged.map Json.str)
  tests : ∃ xs, r.tests = .arr xs ∧ r'.tests = .arr (xs ++ q.tests.map Json.str)
  evidenceRefs : ∃ xs, r.evidenceRefs = .arr xs ∧
    r'.evidenceRefs = .arr (xs ++ q.evidenceRefs.map Json.str)

theorem finalizedRecord_listed (q : FinalizeRequest) (t : FinalizeStamp) (h : Listed r) :
    ∃ r', finalizedRecord q t r = some r' ∧ Extends q r r' := by
  obtain ⟨⟨xs, hx⟩, ⟨ys, hy⟩, ⟨zs, hz⟩⟩ := h
  refine ⟨{ r with
      commitAfter := .str q.commitAfter
      filesChanged := .arr (xs ++ q.filesChanged.map Json.str)
      tests := .arr (ys ++ q.tests.map Json.str)
      evidenceRefs := .arr (zs ++ q.evidenceRefs.map Json.str)
      implementationState := .str ContinuityStatus.complete.value
      updatedAt := .str t.updatedAt }, ?_, rfl, rfl, rfl, ⟨xs, hx, rfl⟩, ⟨ys, hy, rfl⟩,
    ⟨zs, hz, rfl⟩⟩
  simp only [finalizedRecord, hx, hy, hz, extend, Option.bind_eq_bind, Option.bind_some,
    Option.pure_def]

theorem Extends.listed (h : Extends q r r') : Listed r' := by
  obtain ⟨-, -, -, ⟨xs, -, hx⟩, ⟨ys, -, hy⟩, ⟨zs, -, hz⟩⟩ := h
  exact ⟨⟨_, hx⟩, ⟨_, hy⟩, ⟨_, hz⟩⟩

/-- A step with a record has a latest one. -/
theorem exists_stepRecord {e : ContinuityEngine} {missionId stepId : Json}
    (hr : r ∈ e.records.values) (hm : r.missionId = missionId) (hs : r.stepId = stepId) :
    ∃ r', stepRecord e missionId stepId = some r' ∧ r' ∈ e.records.values ∧
      r'.missionId = missionId ∧ r'.stepId = stepId := by
  have hmem : r ∈ (e.getRecordsByMission missionId).filter fun r => r.stepId = stepId := by
    simp only [ContinuityEngine.getRecordsByMission, List.mem_filter, decide_eq_true_eq]
    exact ⟨⟨hr, hm⟩, hs⟩
  obtain ⟨r', hr'⟩ := Option.isSome_iff_exists.1 (List.getLast?_isSome.2 (List.ne_nil_of_mem hmem))
  have hlast := List.mem_of_getLast? hr'
  simp only [ContinuityEngine.getRecordsByMission, List.mem_filter, decide_eq_true_eq] at hlast
  exact ⟨r', hr', hlast.1.1, hlast.1.2, hlast.2⟩

/-- The record of a step is one of the mission. -/
theorem missionId_of_stepRecord {e : ContinuityEngine} {missionId stepId : Json}
    (h : stepRecord e missionId stepId = some r) : r.missionId = missionId := by
  have hlast := List.mem_of_getLast? h
  simp only [ContinuityEngine.getRecordsByMission, List.mem_filter, decide_eq_true_eq] at hlast
  exact hlast.1.2

theorem get?_of_mem_values (h : Keyed s.engine.records) (hr : r ∈ s.engine.records.values) :
    s.engine.records.get? r.continuityId.norm = some r := by
  obtain ⟨k, hk⟩ := Dict.exists_get?_of_mem_values hr
  rw [h k r hk]
  exact hk

/-! ### What a history keeps -/

/-- A record of the same step takes the place of one. -/
theorem Sound.put (h : Sound s) (hr : r ∈ s.engine.records.values) {x : ContinuityRecord}
    (hid : x.continuityId = r.continuityId) (hm : x.missionId = r.missionId)
    (hs : x.stepId = r.stepId) (hl : Listed x) {e : ContinuityEngine}
    (he : e.records = putRecord s.engine.records x) : Sound { s with engine := e } where
  keyed := by
    rw [show ({ s with engine := e } : Tracked).engine.records = _ from he]
    exact h.keyed.put x
  listed y hy := by
    rw [show ({ s with engine := e } : Tracked).engine.records = _ from he] at hy
    rcases mem_values_put hy with rfl | hy
    · exact hl
    · exact h.listed y hy
  marked p hp := by
    obtain ⟨y, hy, hym, hys⟩ := h.marked p hp
    rw [show ({ s with engine := e } : Tracked).engine.records = _ from he]
    simp only [putRecord, Dict.get?_set]
    split_ifs with hk
    · -- the record that was marked is the one whose place is taken
      have hyr : y = r := by
        rw [hk, hid, get?_of_mem_values h.keyed hr] at hy
        exact (Option.some.inj hy).symm
      exact ⟨x, rfl, hm.trans (hyr ▸ hym), hs.trans (hyr ▸ hys)⟩
    · exact ⟨y, hy, hym, hys⟩

theorem Start.sound (h : Start s) : Sound s where
  keyed := h.keyed
  listed := h.listed
  marked p hp := by
    rw [h.prepared] at hp
    exact absurd hp (by simp)

theorem Sound.create (h : Sound s) (hnew : s.engine.records.get? r.continuityId.norm = none)
    (hl : Listed r) : Sound { s with engine := s.engine.saveRecord r } where
  keyed := h.keyed.put r
  listed y hy := by
    rcases mem_values_put hy with rfl | hy
    · exact hl
    · exact h.listed y hy
  marked p hp := by
    obtain ⟨y, hy, hym, hys⟩ := h.marked p hp
    have hne : p.2 ≠ r.continuityId.norm := fun hk => absurd (hnew.symm.trans (hk ▸ hy)) (by simp)
    exact ⟨y, (Dict.get?_set_ne hne r).trans hy, hym, hys⟩

/-- **What a preparation does**: the record of the step is marked. -/
theorem prepare_spec {q : PrepareRequest} {t : PrepareStamp}
    (h : s.next (.prepare q t) = some s') :
    ∃ r ∈ s.engine.records.values, r.missionId = .str q.missionId ∧ r.stepId = .str q.stepId ∧
      s' = { s with
        engine := s.engine.writeAll
          [.record (preparedRecord q t r), .event (preparedEvent q t (preparedRecord q t r))]
        prepared := s.prepared ++ [(s.returned q t r, r.continuityId.norm)] } := by
  simp only [next] at h
  split_ifs at h
  obtain ⟨r, hr, h⟩ := Option.bind_eq_some_iff.1 h
  obtain ⟨ws, hws, rfl⟩ := Option.map_eq_some_iff.1 h
  obtain ⟨hmem, hstep⟩ := stepRecord_spec hr
  rw [prepareMutation, hr, Option.map_some] at hws
  obtain rfl := Option.some.inj hws
  exact ⟨r, hmem, missionId_of_stepRecord hr, hstep, rfl⟩

theorem Sound.prepare (h : Sound s) {q : PrepareRequest} {t : PrepareStamp}
    (hnext : s.next (.prepare q t) = some s') : Sound s' := by
  obtain ⟨r, hr, hm, hs, rfl⟩ := prepare_spec hnext
  have hput := h.put hr (x := preparedRecord q t r) rfl rfl rfl
    ⟨(h.listed r hr).filesChanged, (h.listed r hr).tests, (h.listed r hr).evidenceRefs⟩
    (e := s.engine.writeAll
      [.record (preparedRecord q t r), .event (preparedEvent q t (preparedRecord q t r))]) rfl
  refine ⟨hput.keyed, hput.listed, fun p hp => ?_⟩
  rcases List.mem_append.1 hp with hp | hp
  · exact hput.marked p hp
  · rw [List.mem_singleton] at hp
    subst hp
    exact ⟨preparedRecord q t r, Dict.get?_set_self _ _, hm, hs⟩

/-- **What finalizing does** in a history: it does not raise, and saves the latest record. -/
theorem finalizeMutation_tracked (h : Sound s) (t : FinalizeStamp)
    (hp : q.prepareEvent ∈ s.prepared.map Prod.fst) :
    ∃ r ∈ s.engine.records.values, ∃ r',
      stepRecord s.engine q.prepareEvent.missionId q.prepareEvent.stepId = some r ∧
        finalizedRecord q t r = some r' ∧ Extends q r r' ∧ finalizeMutation s.engine q t =
          some [.record r', .event (finalizedEvent q t r'), .event (mutatedEvent q t r')] := by
  obtain ⟨⟨ev, k⟩, hp, rfl : ev = q.prepareEvent⟩ := List.mem_map.1 hp
  obtain ⟨x, hx, hm, hs⟩ := h.marked _ hp
  obtain ⟨r, hr, hmem, -, -⟩ := exists_stepRecord (Dict.mem_values_of_get? hx) hm hs
  obtain ⟨r', hr', hextends⟩ := finalizedRecord_listed q t (h.listed r hmem)
  refine ⟨r, hmem, r', hr, hr', hextends, ?_⟩
  simp only [finalizeMutation, hr, hr', Option.bind_eq_bind, Option.bind_some, Option.pure_def]

theorem Sound.finalize (h : Sound s) (hnext : s.next (.finalize q t) = some s') : Sound s' := by
  simp only [next] at hnext
  split_ifs at hnext with hp
  obtain ⟨ws, hws, rfl⟩ := Option.map_eq_some_iff.1 hnext
  obtain ⟨r, hmem, r', -, -, hextends, hfin⟩ := finalizeMutation_tracked h t hp
  obtain rfl := Option.some.inj (hfin.symm.trans hws)
  have hput := h.put hmem hextends.continuityId hextends.missionId hextends.stepId hextends.listed
    (e := s.engine.writeAll
      [.record r', .event (finalizedEvent q t r'), .event (mutatedEvent q t r')]) rfl
  exact ⟨hput.keyed, hput.listed, hput.marked⟩

theorem Sound.next (h : Sound s) {op : ContractOp} (hnext : s.next op = some s') : Sound s' := by
  cases op with
  | create r =>
    simp only [Tracked.next] at hnext
    split_ifs at hnext with hc
    obtain rfl := Option.some.inj hnext
    exact h.create hc.1 (listed_of_isList hc.2)
  | prepare q t => exact h.prepare hnext
  | finalize q t => exact h.finalize hnext

/-! ### Finalizing -/

/-- What is added to a list is not listed twice exactly when it was not listed. -/
theorem nothingTwice_iff {xs : List Json} {l : List String} :
    NothingTwice (.arr xs) (.arr (xs ++ l.map Json.str)) ↔ Unlisted (.arr xs) l := by
  have hcount : ∀ x, (l.map Json.str).count (Json.str x) = l.count x := fun x =>
    List.count_map_of_injective l Json.str (fun _ _ h => Json.str.inj h) x
  constructor
  · intro h
    have hx : ∀ x, xs.count (Json.str x) + l.count x ≤ max (xs.count (Json.str x)) 1 := by
      intro x
      rw [← hcount, ← List.count_append]
      exact h xs _ rfl rfl (Json.str x)
    refine ⟨List.nodup_iff_count_le_one.2 fun x => ?_, fun ys hys x hxl hmem => ?_⟩
    · have := hx x
      omega
    · obtain rfl := Json.arr.inj hys
      have hpos := List.count_pos_iff.2 hmem
      have hpos' := List.count_pos_iff.2 hxl
      have := hx x
      omega
  · rintro ⟨hnodup, hnot⟩ ys zs hys hzs x
    obtain rfl := Json.arr.inj hys
    obtain rfl := Json.arr.inj hzs
    rw [List.count_append]
    by_cases hmem : x ∈ l.map Json.str
    · obtain ⟨y, hy, rfl⟩ := List.mem_map.1 hmem
      rw [List.count_eq_zero_of_not_mem (hnot xs rfl y hy), hcount]
      have := List.nodup_iff_count_le_one.1 hnodup y
      omega
    · rw [List.count_eq_zero_of_not_mem hmem]
      omega

/-- **One finalization.** -/
theorem closes_iff (h : Sound s) (q : FinalizeRequest) (t : FinalizeStamp)
    (hp : q.prepareEvent ∈ s.prepared.map Prod.fst) : Closes s q t ↔ StillLatest s q := by
  obtain ⟨r, hmem, r', hstep, hr', hextends, hfin⟩ := finalizeMutation_tracked h t hp
  have hget := get?_of_mem_values h.keyed hmem
  obtain ⟨hid, -, -, ⟨xs, hxs, hxs'⟩, ⟨ys, hys, hys'⟩, ⟨zs, hzs, hzs'⟩⟩ := hextends
  -- the record that is saved takes the place of the latest one
  have hafter : ∀ k, (s.engine.writeAll
      [.record r', .event (finalizedEvent q t r'), .event (mutatedEvent q t r')]).records.get? k =
        if k = r.continuityId.norm then some r' else s.engine.records.get? k := by
    intro k
    rw [← hid]
    exact Dict.get?_set _ _ _
  have hlists : NothingTwice r.filesChanged r'.filesChanged ∧ NothingTwice r.tests r'.tests ∧
      NothingTwice r.evidenceRefs r'.evidenceRefs ↔ Unlisted r.filesChanged q.filesChanged ∧
        Unlisted r.tests q.tests ∧ Unlisted r.evidenceRefs q.evidenceRefs := by
    rw [hxs, hxs', hys, hys', hzs, hzs', nothingTwice_iff, nothingTwice_iff, nothingTwice_iff]
  constructor
  · intro hc
    have hlatest : ∀ k, (q.prepareEvent, k) ∈ s.prepared → r.continuityId.norm = k := by
      intro k hk
      obtain ⟨x, x', ev, ev', hx, hx', hws⟩ := hc.saved k hk
      rw [hfin] at hws
      obtain rfl : r' = x' := Write.record.inj (List.cons.inj (Option.some.inj hws)).1
      obtain ⟨y', hy', hyext⟩ := finalizedRecord_listed q t
        (h.listed x (Dict.mem_values_of_get? hx))
      obtain rfl := Option.some.inj (hy'.symm.trans hx')
      rw [← hid, hyext.continuityId]
      exact h.keyed k x hx
    refine ⟨fun k hk => ⟨r, hstep, hlatest k hk⟩, fun hfinal k hk x hx => ?_⟩
    obtain rfl := hlatest k hk
    obtain rfl := Option.some.inj (hget.symm.trans hx)
    exact hlists.1 (hc.again hfinal _ hk _ r r' hfin hget (by rw [hafter, if_pos rfl]))
  · intro hs
    have hlatest : ∀ k, (q.prepareEvent, k) ∈ s.prepared → r.continuityId.norm = k := by
      intro k hk
      obtain ⟨x, hx, hxk⟩ := hs.latest k hk
      rw [Option.some.inj (hstep.symm.trans hx)]
      exact hxk
    refine ⟨fun k hk => ?_, fun k hk ws hws k' hk' => ?_, fun hfinal k hk ws x x' hws hx hx' => ?_⟩
    · obtain rfl := hlatest k hk
      exact ⟨r, r', _, _, hget, hr', hfin⟩
    · obtain rfl := hlatest k hk
      obtain rfl := Option.some.inj (hfin.symm.trans hws)
      rw [hafter, if_neg hk']
    · obtain rfl := hlatest k hk
      obtain rfl := Option.some.inj (hfin.symm.trans hws)
      obtain rfl := Option.some.inj (hget.symm.trans hx)
      rw [hafter, if_pos rfl] at hx'
      obtain rfl := Option.some.inj hx'
      exact hlists.2 (hs.unlisted hfinal _ hk _ hget)

/-! ### Histories -/

/-- What every finalization of a history meets, of preparations that it has seen. -/
def AtEveryFinalization (s₀ : Tracked) (ops : List ContractOp)
    (P : Tracked → FinalizeRequest → FinalizeStamp → Prop) : Prop :=
  ∀ before q t rest s, ops = before ++ .finalize q t :: rest →
    System.runFn next s₀ before = some s → q.prepareEvent ∈ s.prepared.map Prod.fst → P s q t

theorem Start.sound_runFn {s₀ : Tracked} (h : Start s₀) {ops : List ContractOp}
    (hrun : System.runFn next s₀ ops = some s) : Sound s := by
  refine System.runFn_keeps (I := Sound) h.sound ?_ (List.append_nil ops).symm hrun
  intro before op rest s t _ _ hnext hs
  exact hs.next hnext

/-- **Histories.**  All that a history finalizes is closed exactly when at every finalization the
record that was marked is still the latest of its step, and a second call lists nothing again. -/
theorem closes_run_iff (s₀ : Tracked) (h : Start s₀) (ops : List ContractOp) :
    AtEveryFinalization s₀ ops Closes ↔
      AtEveryFinalization s₀ ops fun s q _ => StillLatest s q := by
  constructor
  · intro hall before q t rest s hops hrun hp
    exact (closes_iff (h.sound_runFn hrun) q t hp).1 (hall before q t rest s hops hrun hp)
  · intro hall before q t rest s hops hrun hp
    exact (closes_iff (h.sound_runFn hrun) q t hp).2 (hall before q t rest s hops hrun hp)

/-! ### A record that is created in between -/

/-- A history that starts with an empty directory. -/
def sampleStart : Tracked := { engine := emptyEngine }

def sampleStep (uuid : String) : ContractOp :=
  .create (.create uuid "2024-01-01" "m-1" "t-1" "s-1" "ANNY" "L0" "change a file" none)

def sampleMark : ContractOp :=
  .prepare
    { missionId := "m-1", taskId := "t-1", stepId := "s-1", actorId := "ANNY", actorLevel := "L0"
      repository := "ANNY-OPERATIONAL", branch := "main", commitBefore := "abc1234"
      reason := "Updated documentation", action := "commit", nextAction := "RUN_TESTS" }
    { eventId := "evt-1", updatedAt := "2024-01-01", timestamp := "2024-01-01" }

/-- The state when a record was created and marked. -/
def sampleMarked : Tracked :=
  (System.runFn next sampleStart [sampleStep "rec-1", sampleMark]).getD sampleStart

/-- The state when another record was created since. -/
def sampleOvertaken : Tracked :=
  (System.runFn next sampleMarked [sampleStep "rec-2"]).getD sampleStart

def sampleRequest : FinalizeRequest where
  prepareEvent := (sampleMarked.prepared.map Prod.fst).headI
  commitAfter := "def5678"
  filesChanged := ["README.md"]
  tests := []
  evidenceRefs := []

def sampleStamps : FinalizeStamp where
  eventId := "evt-2"
  compatId := "evt-3"
  updatedAt := "2024-01-02"
  timestamp := "2024-01-02"
  compatTimestamp := "2024-01-02"

theorem start_sampleStart : Start sampleStart where
  keyed k r h := absurd h (by simp [sampleStart, emptyEngine])
  listed r h := absurd h (by simp [sampleStart, emptyEngine])
  prepared := rfl
  finalized := rfl

theorem runFn_sampleMarked :
    System.runFn next sampleStart [sampleStep "rec-1", sampleMark] = some sampleMarked := rfl

/-- Another record of the step is finalized, and the one that was marked stays active. -/
theorem not_closes_created : ¬ ∀ s₀ ops, Start s₀ → AtEveryFinalization s₀ ops Closes := by
  intro h
  have hrun : System.runFn next sampleStart [sampleStep "rec-1", sampleMark, sampleStep "rec-2"] =
      some sampleOvertaken := rfl
  have hprepared : sampleRequest.prepareEvent ∈ sampleOvertaken.prepared.map Prod.fst := by
    decide +kernel
  have hcloses := h sampleStart
    [sampleStep "rec-1", sampleMark, sampleStep "rec-2", .finalize sampleRequest sampleStamps]
    start_sampleStart [sampleStep "rec-1", sampleMark, sampleStep "rec-2"] sampleRequest
    sampleStamps [] sampleOvertaken rfl hrun hprepared
  obtain ⟨r, hr, hk⟩ :=
    ((closes_iff (start_sampleStart.sound_runFn hrun) _ _ hprepared).1 hcloses).latest
      (.str "rec-1") (by decide +kernel)
  have hlatest : (stepRecord sampleOvertaken.engine sampleRequest.prepareEvent.missionId
      sampleRequest.prepareEvent.stepId).map (·.continuityId.norm) = some (.str "rec-2") := by
    decide +kernel
  rw [hr, Option.map_some, hk] at hlatest
  exact absurd hlatest (by decide)

/-- Without it, the record that was marked is closed. -/
theorem closes_sampleMarked :
    AtEveryFinalization sampleStart
      [sampleStep "rec-1", sampleMark, .finalize sampleRequest sampleStamps] Closes := by
  refine (closes_run_iff sampleStart start_sampleStart _).2 ?_
  intro before q t rest s hops hrun hp
  -- there is one finalization, after the two other calls
  obtain ⟨rfl, rfl⟩ : before = [sampleStep "rec-1", sampleMark] ∧ q = sampleRequest := by
    rcases before with _ | ⟨a, _ | ⟨b, _ | ⟨c, before⟩⟩⟩ <;>
      simp_all [sampleStep, sampleMark]
  obtain rfl := Option.some.inj (runFn_sampleMarked.symm.trans hrun)
  have hprepared : sampleMarked.prepared = [(sampleRequest.prepareEvent, .str "rec-1")] := by
    decide +kernel
  have hfinalized : sampleMarked.finalized = [] := by decide +kernel
  refine ⟨fun k hk => ?_, fun hf => absurd hf (by simp [hfinalized])⟩
  rw [hprepared, List.mem_singleton] at hk
  obtain rfl := (Prod.mk.inj hk).2
  have hlatest : (stepRecord sampleMarked.engine sampleRequest.prepareEvent.missionId
      sampleRequest.prepareEvent.stepId).map (·.continuityId.norm) = some (.str "rec-1") := by
    decide +kernel
  exact Option.map_eq_some_iff.1 hlatest

end Tracked

end Continuity

end AnnyRuntime
