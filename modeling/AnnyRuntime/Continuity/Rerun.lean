import AnnyRuntime.Continuity.Crash
import AnnyRuntime.Continuity.Reconciler
import AnnyRuntime.Continuity.Reconstruct

/-!
# Reconciling twice

`reconcile` judges the records by what it does not change: the state of the implementation, and
the events of their steps.  So a second run finds again what the first one found, and writes about
it again.  Only what it finds about the one mission it is written for does it mark in a way that
a second run sees.

* `checkRecord_settled` : a record that nothing is found about is left alone.
* `settled_reconciled` : a run leaves such records as they are, or marked.
* `idempotent_iff` : **a second run returns the same, and adds nothing, exactly when every record
  is settled.**
* `not_idempotent_open` : a change that was prepared gets a gap event at every run.
-/

namespace AnnyRuntime

namespace Continuity

/-- The engine after a run. -/
def ContinuityEngine.reconciled (e : ContinuityEngine) (w : ReconcileWorld) : ContinuityEngine :=
  e.writeAll (reconcileWrites w e)

/-- A second run, of which only the ids and the times are new, returns what the first one did,
changes no record and appends no event. -/
structure Idempotent (w : ReconcileWorld) (stamp : ℕ → Fin 3 → GapStamp) (e : ContinuityEngine) :
    Prop where
  status : reconcile { w with stamp := stamp } (e.reconciled w) = reconcile w e
  records : ((e.reconciled w).reconciled { w with stamp := stamp }).records =
    (e.reconciled w).records
  events : ((e.reconciled w).reconciled { w with stamp := stamp }).events =
    (e.reconciled w).events

/-- The engines that calls lead to, whatever the files held at the start. -/
def Reached (e : ContinuityEngine) : Prop :=
  ∃ disk e₀ calls, ContinuityEngine.init disk = some e₀ ∧ e₀.run calls = some e

/-- No change of the step of a record is open, and it is not complete without an event of its
change. -/
structure Settled (events : List EventRecord) (r : ContinuityRecord) : Prop where
  /-- When it is active in a repository and was prepared, it was finalized. -/
  prepared : r.implementationState = .str ContinuityStatus.active.value →
    r.repository.truthy = true → stepEvents events r.stepId [.mutationPrepared] ≠ [] →
      stepEvents events r.stepId [.mutationFinalized] ≠ []
  /-- When it is complete in a repository, its change has an event. -/
  complete : r.status = .str ContinuityStatus.complete.value → r.repository.truthy = true →
    stepEvents events r.stepId [.repositoryMutated, .mutationFinalized] ≠ []

/-- What is said of the one mission: it is complete and has no evidence. -/
def LacksEvidence (r : ContinuityRecord) : Prop :=
  r.missionId = .str "MISSION-002-R2-PHYSICAL" ∧ r.evidenceRefs.truthy = false ∧
    r.status = .str ContinuityStatus.complete.value

variable {w : ReconcileWorld} {events : List EventRecord} {n : ℕ} {r : ContinuityRecord}
  {e : ContinuityEngine} {ws : List Write}

/-! ### One record -/

theorem settled_iff :
    Settled events r ↔ unfinalized events r = none ∧ unrecorded events r = false := by
  have hnone : unfinalized events r = none ↔ ¬ (unfinalized events r).isSome = true := by simp
  rw [hnone, isSome_unfinalized]
  constructor
  · intro h
    refine ⟨fun ⟨ha, hr, hf, hp⟩ => h.prepared ha hr hp hf, ?_⟩
    rw [← Bool.not_eq_true]
    intro hu
    simp only [unrecorded, Bool.and_eq_true, decide_eq_true_eq] at hu
    exact h.complete hu.1.1 hu.1.2 hu.2
  · rintro ⟨hu, hc⟩
    refine ⟨fun ha hr hp hf => hu ⟨ha, hr, hf, hp⟩, fun hs hr hf => ?_⟩
    rw [← Bool.not_eq_true] at hc
    refine hc ?_
    simp only [unrecorded, Bool.and_eq_true, decide_eq_true_eq]
    exact ⟨⟨hs, hr⟩, hf⟩

/-- Of a settled record, only the check of the one mission is left. -/
theorem checkRecord_settled (h : Settled events r) :
    checkRecord w events n r = { checkMission002 w n r with required := false } := by
  obtain ⟨hu, hc⟩ := settled_iff.1 h
  have hp : checkPrepared w events n r = { record := r } := by rw [checkPrepared, hu]
  have hcomplete : checkComplete w events n r = { record := r } := by
    rw [checkComplete, hc]
    rfl
  simp only [checkRecord, hp, hcomplete, List.nil_append, Bool.or_false]

/-- A check that requires a reconciliation writes an event. -/
theorem exists_event_of_required (h : (checkRecord w events n r).required = true) :
    ∃ ev, .event ev ∈ (checkRecord w events n r).writes := by
  have hp : (checkPrepared w events n r).required = true →
      ∃ ev, .event ev ∈ (checkPrepared w events n r).writes := by
    unfold checkPrepared
    cases unfinalized events r with
    | none => exact fun h => absurd h (by simp)
    | some prep => exact fun _ => ⟨_, List.mem_cons_of_mem _ List.mem_cons_self⟩
  have hc : ∀ r', (checkComplete w events n r').required = true →
      ∃ ev, .event ev ∈ (checkComplete w events n r').writes := by
    intro r'
    unfold checkComplete
    split_ifs
    · exact fun _ => ⟨_, List.mem_cons_self⟩
    · exact fun h => absurd h (by simp)
  rcases Bool.or_eq_true_iff.1 h with h | h
  · obtain ⟨ev, hev⟩ := hp h
    exact ⟨ev, List.mem_append_left _ (List.mem_append_left _ hev)⟩
  · obtain ⟨ev, hev⟩ := hc _ h
    exact ⟨ev, List.mem_append_left _ (List.mem_append_right _ hev)⟩

/-! ### What writes leave -/

/-- The events of writes, of which the engine sets the numbers. -/
theorem exists_events_writeAll (e : ContinuityEngine) (ws : List Write) :
    ∃ evs, (e.writeAll ws).events = e.events ++ evs ∧
      (∀ ev, Write.event ev ∈ ws → evs ≠ []) ∧
      ∀ x ∈ evs, ∃ ev, Write.event ev ∈ ws ∧ x = { ev with sequence := x.sequence } := by
  induction ws generalizing e with
  | nil => exact ⟨[], (List.append_nil _).symm, by simp, by simp⟩
  | cons x ws ih =>
    obtain ⟨evs, hevs, hne, hof⟩ := ih (e.write x)
    cases x with
    | record r =>
      refine ⟨evs, hevs, fun ev hev => hne ev ?_, fun y hy => ?_⟩
      · exact (List.mem_cons.1 hev).resolve_left (by simp)
      · obtain ⟨ev, hev, hy⟩ := hof y hy
        exact ⟨ev, List.mem_cons_of_mem _ hev, hy⟩
    | event ev =>
      refine ⟨{ ev with sequence := e.eventSequence + 1 } :: evs, ?_,
        fun _ _ => List.cons_ne_nil _ _, fun y hy => ?_⟩
      · rw [List.append_cons]
        exact hevs
      · rcases List.mem_cons.1 hy with rfl | hy
        · exact ⟨ev, List.mem_cons_self, rfl⟩
        · obtain ⟨ev', hev', hy⟩ := hof y hy
          exact ⟨ev', List.mem_cons_of_mem _ hev', hy⟩

/-- A record after writes is one of theirs, or it was there and none of theirs took its place. -/
theorem of_get?_writeAll {k : Json.Key} {x : ContinuityRecord}
    (h : (e.writeAll ws).records.get? k = some x) :
    .record x ∈ ws ∨
      e.records.get? k = some x ∧ ∀ r, Write.record r ∈ ws → r.continuityId.norm ≠ k := by
  induction ws generalizing e with
  | nil => exact .inr ⟨h, by simp⟩
  | cons y ws ih =>
    rcases ih (e := e.write y) h with hmem | ⟨hget, hne⟩
    · exact .inl (List.mem_cons_of_mem _ hmem)
    · cases y with
      | event ev =>
        refine .inr ⟨hget, fun r hr => hne r ?_⟩
        exact (List.mem_cons.1 hr).resolve_left (by simp)
      | record r =>
        change (e.records.set r.continuityId.norm r).get? k = some x at hget
        obtain ⟨rfl, rfl⟩ | ⟨hk, hget⟩ := Dict.of_get?_set hget
        · exact .inl List.mem_cons_self
        · refine .inr ⟨hget, fun r' hr' => ?_⟩
          rcases List.mem_cons.1 hr' with hr' | hr'
          · rw [Write.record.inj hr']
            exact fun h => hk h.symm
          · exact hne r' hr'

/-- Gap events are not events of a change. -/
theorem stepEvents_reconciled (e : ContinuityEngine) (w : ReconcileWorld) (s : Json)
    {types : List ContinuityEventType} (h : .blockerCreated ∉ types) :
    stepEvents (e.reconciled w).events s types = stepEvents e.events s types := by
  obtain ⟨evs, hevs, -, hof⟩ := exists_events_writeAll e (reconcileWrites w e)
  have hnil : stepEvents evs s types = [] := by
    rw [List.eq_nil_iff_forall_not_mem]
    intro x hx
    obtain ⟨hx, -, t, ht, htype⟩ := mem_stepEvents.1 hx
    obtain ⟨ev, hev, hxev⟩ := hof x hx
    obtain ⟨r, -, hgap⟩ := mem_reconcileWrites hev
    have hblock : x.eventType = .str ContinuityEventType.blockerCreated.value := by
      rw [hxev]
      exact hgap
    rw [htype] at hblock
    have hvalue : t = .blockerCreated := by
      revert hblock
      cases t <;> simp [ContinuityEventType.value]
    exact h (hvalue ▸ ht)
  rw [ContinuityEngine.reconciled, hevs, stepEvents, List.filter_append]
  change stepEvents e.events s types ++ stepEvents evs s types = _
  rw [hnil, List.append_nil]

theorem Settled.reconciled {x : ContinuityRecord} (h : Settled e.events r) (hx : SameStep r x) :
    Settled (e.reconciled w).events x where
  prepared := by
    rw [hx.implementationState, hx.repository, hx.stepId, stepEvents_reconciled _ _ _ (by decide),
      stepEvents_reconciled _ _ _ (by decide)]
    exact h.prepared
  complete hs := by
    rw [hx.repository, hx.stepId, stepEvents_reconciled _ _ _ (by decide)]
    exact h.complete (hx.status hs)

/-! ### The engines -/

theorem reached_emptyEngine : Reached emptyEngine := ⟨{}, emptyEngine, [], rfl, rfl⟩

theorem run_concat {calls : List Call} {c : Call} :
    e.run (calls ++ [c]) = (e.run calls).bind fun e' => e'.call c := by
  induction calls generalizing e with
  | nil =>
    change (e.call c).bind some = e.call c
    exact Option.bind_fun_some _
  | cons d calls ih =>
    change (e.call d).bind (fun e' => e'.run (calls ++ [c])) = ((e.call d).bind _).bind _
    rw [Option.bind_assoc]
    exact congrArg _ (funext fun _ => ih)

theorem Reached.write (h : Reached e) (x : Write) : Reached (e.write x) := by
  obtain ⟨disk, e₀, calls, hinit, hrun⟩ := h
  cases x with
  | record r => exact ⟨disk, e₀, calls ++ [.saveRecord r], hinit, by rw [run_concat, hrun]; rfl⟩
  | event ev => exact ⟨disk, e₀, calls ++ [.appendEvent ev], hinit, by rw [run_concat, hrun]; rfl⟩

theorem Reached.writeAll (h : Reached e) (ws : List Write) : Reached (e.writeAll ws) := by
  induction ws generalizing e with
  | nil => exact h
  | cons x ws ih => exact ih (h.write x)

theorem Reached.keyed (h : Reached e) : Keyed e.records := by
  obtain ⟨disk, e₀, calls, hinit, hrun⟩ := h
  have hload : ∀ {a b : ContinuityEngine}, a.load = some b → Keyed b.records := by
    intro a b hab
    obtain ⟨tR, tE, -, -, hl⟩ := ContinuityEngine.load_inv hab
    rw [hl.records]
    exact keyed_replayRecords _
  have key : ∀ (a : ContinuityEngine), Keyed a.records → a.run calls = some e →
      Keyed e.records := by
    clear hrun
    induction calls with
    | nil => exact fun a ha h => Option.some.inj h ▸ ha
    | cons c cs ih =>
      intro a ha h
      obtain ⟨b, hb, hrest⟩ := Option.bind_eq_some_iff.1 h
      refine ih b ?_ hrest
      cases c with
      | load => exact hload hb
      | restart => exact hload hb
      | saveRecord r => exact Option.some.inj hb ▸ ha.put r
      | appendEvent ev => exact Option.some.inj hb ▸ ha
  exact key e₀ (hload hinit) hrun

/-! ### The one mission -/

theorem checkMission002_of_not (h : ¬ LacksEvidence r) :
    checkMission002 w n r = { record := r } := if_neg h

/-- The record that is saved of the one mission is marked: a second run does not find it. -/
theorem of_mem_checkMission002 {x : ContinuityRecord}
    (h : .record x ∈ (checkMission002 w n r).writes) : SameStep r x ∧ ¬ LacksEvidence x := by
  have hk := (keepsTo_checkMission002 (w := w) (n := n) (r := r)).writes _ h
  refine ⟨hk, fun hx => ?_⟩
  unfold checkMission002 at h
  split_ifs at h
  · simp only [List.mem_cons, Write.record.injEq, reduceCtorEq, List.not_mem_nil, or_false] at h
    subst h
    exact absurd hx.2.2 (by simp [ContinuityStatus.value])
  · exact absurd h (by simp)

/-- What lacks evidence is saved under its id. -/
theorem exists_mem_checkMission002 (w : ReconcileWorld) (n : ℕ) (h : LacksEvidence r) :
    ∃ x, .record x ∈ (checkMission002 w n r).writes ∧ x.continuityId = r.continuityId := by
  have hpos := h
  unfold LacksEvidence at hpos
  rw [checkMission002, if_pos hpos]
  exact ⟨_, List.mem_cons_self, rfl⟩

/-! ### The second run -/

theorem mem_reconcileWrites_of_settled (h : ∀ r ∈ e.records.values, Settled e.events r)
    {x : Write} : x ∈ reconcileWrites w e ↔ ∃ n, ∃ r, e.records.values[n]? = some r ∧
      x ∈ (checkMission002 w n r).writes := by
  rw [reconcileWrites, List.mem_flatMap]
  constructor
  · rintro ⟨c, hc, hx⟩
    obtain ⟨n, hn, rfl⟩ := List.mem_mapIdx.1 hc
    rw [checkRecord_settled (h _ (List.getElem_mem hn))] at hx
    exact ⟨n, _, List.getElem?_eq_getElem hn, hx⟩
  · rintro ⟨n, r, hr, hx⟩
    obtain ⟨hn, rfl⟩ := List.getElem?_eq_some_iff.1 hr
    refine ⟨_, List.mem_mapIdx.2 ⟨n, hn, rfl⟩, ?_⟩
    rw [checkRecord_settled (h _ (List.getElem_mem hn))]
    exact hx

/-- **After a run over settled records** they are settled, and none lacks evidence. -/
theorem settled_reconciled (hk : Keyed e.records) (h : ∀ r ∈ e.records.values, Settled e.events r) :
    ∀ x ∈ (e.reconciled w).records.values,
      Settled (e.reconciled w).events x ∧ ¬ LacksEvidence x := by
  intro x hx
  obtain ⟨k, hget⟩ := Dict.exists_get?_of_mem_values hx
  rcases of_get?_writeAll hget with hmem | ⟨hold, hne⟩
  · obtain ⟨n, r, hr, hmem⟩ := (mem_reconcileWrites_of_settled h).1 hmem
    obtain ⟨hsame, hlacks⟩ := of_mem_checkMission002 hmem
    exact ⟨(h r (List.mem_of_getElem? hr)).reconciled hsame, hlacks⟩
  · have hxmem := Dict.mem_values_of_get? hold
    refine ⟨(h x hxmem).reconciled (SameStep.refl x), fun hlacks => ?_⟩
    -- a record that lacks evidence was saved again, under its own key
    obtain ⟨n, hn⟩ := List.mem_iff_getElem?.1 hxmem
    obtain ⟨y, hy, hid⟩ := exists_mem_checkMission002 w n hlacks
    refine hne y ((mem_reconcileWrites_of_settled h).2 ⟨n, x, hn, hy⟩) ?_
    rw [hid]
    exact hk k x hold

/-- A run that finds nothing writes nothing. -/
theorem reconcileWrites_eq_nil
    (h : ∀ r ∈ e.records.values, Settled e.events r ∧ ¬ LacksEvidence r) :
    reconcileWrites w e = [] := by
  rw [List.eq_nil_iff_forall_not_mem]
  intro x hx
  obtain ⟨n, r, hr, hx⟩ := (mem_reconcileWrites_of_settled fun r hr => (h r hr).1).1 hx
  rw [checkMission002_of_not (h r (List.mem_of_getElem? hr)).2] at hx
  exact absurd hx (by simp)

/-- A run is coherent exactly when every record is settled. -/
theorem reconcile_eq_coherent (w : ReconcileWorld) (e : ContinuityEngine) :
    reconcile w e = .coherent ↔ ∀ r ∈ e.records.values, Settled e.events r := by
  have hcases : reconcile w e = .coherent ↔ ¬ reconcile w e = .reconciliationRequired := by
    rw [reconcile]
    split_ifs <;> simp
  rw [hcases, reconcile_status]
  constructor
  · intro h r hr
    refine settled_iff.2 ⟨?_, ?_⟩
    · by_contra hu
      exact h ⟨r, hr, .inl (Option.isSome_iff_ne_none.2 hu)⟩
    · by_contra hu
      exact h ⟨r, hr, .inr (Bool.eq_true_of_not_eq_false hu)⟩
  · rintro h ⟨r, hr, hfound⟩
    obtain ⟨hu, hc⟩ := settled_iff.1 (h r hr)
    rw [hu, hc] at hfound
    simp at hfound

/-- A run that requires a reconciliation appends an event. -/
theorem events_reconciled_ne (h : reconcile w e = .reconciliationRequired) :
    (e.reconciled w).events ≠ e.events := by
  obtain ⟨r, hr, hfound⟩ := (reconcile_status w e).1 h
  obtain ⟨n, hn, rfl⟩ := List.mem_iff_getElem.1 hr
  obtain ⟨ev, hev⟩ := exists_event_of_required (checkRecord_required (w := w) (n := n).2 hfound)
  obtain ⟨evs, hevs, hne, -⟩ := exists_events_writeAll e (reconcileWrites w e)
  have hmem : Write.event ev ∈ reconcileWrites w e :=
    List.mem_flatMap.2 ⟨_, List.mem_mapIdx.2 ⟨n, hn, rfl⟩, hev⟩
  rw [ContinuityEngine.reconciled, hevs]
  intro h
  exact hne ev hmem (List.append_right_eq_self.1 h)

/-- **Reconciling is idempotent exactly when every record is settled.** -/
theorem idempotent_iff (h : Reached e) (w : ReconcileWorld) (stamp : ℕ → Fin 3 → GapStamp) :
    Idempotent w stamp e ↔ ∀ r ∈ e.records.values, Settled e.events r := by
  constructor
  · intro hi
    rw [← reconcile_eq_coherent w]
    by_contra hreq
    have hsecond : reconcile { w with stamp := stamp } (e.reconciled w) =
        .reconciliationRequired := by
      rw [hi.status]
      rw [reconcile] at hreq ⊢
      split_ifs at hreq ⊢ with ha
      · rfl
      · exact absurd rfl hreq
    exact events_reconciled_ne hsecond hi.events
  · intro hs
    have hafter := settled_reconciled (w := w) h.keyed hs
    have hnil := reconcileWrites_eq_nil (w := { w with stamp := stamp }) hafter
    have hsame : (e.reconciled w).reconciled { w with stamp := stamp } = e.reconciled w := by
      rw [ContinuityEngine.reconciled, hnil]
      rfl
    refine ⟨?_, by rw [hsame], by rw [hsame]⟩
    rw [(reconcile_eq_coherent w e).2 hs, reconcile_eq_coherent]
    exact fun r hr => (hafter r hr).1

/-! ### A change that was prepared -/

/-- The engine when a record was created. -/
def createdEngine : ContinuityEngine :=
  emptyEngine.saveRecord
    (.create "rec-1" "2024-01-01" "m-1" "t-1" "s-1" "ANNY" "L0" "change a file" none)

/-- The engine when its step was prepared, and the commit did not come. -/
def openEngine : ContinuityEngine :=
  createdEngine.writeAll <| (prepareMutation createdEngine
    { missionId := "m-1", taskId := "t-1", stepId := "s-1", actorId := "ANNY", actorLevel := "L0"
      repository := "ANNY-OPERATIONAL", branch := "main", commitBefore := "abc1234"
      reason := "Updated documentation", action := "commit", nextAction := "RUN_TESTS" }
    { eventId := "evt-1", updatedAt := "2024-01-01", timestamp := "2024-01-01" }).getD []

/-- A repository at the commit that the change was prepared at. -/
def openWorld : ReconcileWorld where
  head _ _ := "abc1234"
  stamp _ _ := ⟨"gap-1", "2024-01-02"⟩

theorem reached_openEngine : Reached openEngine :=
  (reached_emptyEngine.write (.record _)).writeAll _

/-- It is required to reconcile twice, and each time a gap event is appended. -/
theorem not_idempotent_open :
    ¬ ∀ e, Reached e → ∀ w stamp, Idempotent w stamp e := by
  intro h
  have hi := h openEngine reached_openEngine openWorld fun _ _ => ⟨"gap-2", "2024-01-03"⟩
  exact absurd hi.events (by decide +kernel)

/-- Before the step is prepared, a second run adds nothing. -/
theorem idempotent_created : Idempotent openWorld openWorld.stamp createdEngine :=
  (idempotent_iff (reached_emptyEngine.write (.record _)) openWorld openWorld.stamp).2 <| by
    intro r hr
    rw [settled_iff]
    revert r hr
    decide +kernel

end Continuity

end AnnyRuntime
