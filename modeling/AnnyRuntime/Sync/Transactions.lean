import AnnyRuntime.Sync.Service

/-!
# One SYNC transaction at a time

A service has one transaction at a time (`OneTransaction`): it has at most one worker, `_active` is
the result of that worker, and the result of the transaction that was started last is the one that
becomes the latest.

* `oneTransaction_of_settled` : **this holds as long as `start` is not called between the last
  assignment of a worker and its end.**  `start` only looks at the state of the transaction under
  way, which the worker has assigned by then without the lock.
* `not_oneTransaction_restarted` : called in between, `start` starts a second worker.
-/

namespace AnnyRuntime

namespace Sync

namespace SyncRun

open SyncService

/-- The service has one transaction at a time. -/
structure OneTransaction (s : SyncRun) : Prop where
  /-- There is at most one worker. -/
  single : ∀ k k' w w', s.service.workers.get? k = some w → s.service.workers.get? k' = some w' →
    k = k'
  /-- It works on the transaction under way. -/
  active : ∀ k w, s.service.workers.get? k = some w → s.service.active = some w.result
  /-- Once the SYNC transaction that was started last has ended, its result is the latest. -/
  latest : ∀ i, s.lastStarted = some i →
    (∀ k w, s.service.workers.get? k = some w → w.kind ≠ .sync) → s.service.latest = some i

/-- `start` is not called when the transaction under way is no longer in progress, but its worker
has not ended. -/
def Settled (s : SyncRun) : Event → Prop
  | .op (.call (.start ..)) => ∀ i, s.service.active = some i →
      (s.service.objects i).syncState.inProgress = true
  | _ => True

/-- What every step keeps: a worker of a SYNC transaction is that of the last one. -/
structure Exclusive (s : SyncRun) : Prop extends OneTransaction s where
  started : ∀ k w, s.service.workers.get? k = some w → w.kind = .sync →
    s.lastStarted = some w.result

variable {s : SyncRun}

/-- Without a transaction under way there is no worker. -/
theorem Exclusive.no_worker (h : Exclusive s) (ha : s.service.active = none) (k : ℕ) :
    s.service.workers.get? k = none := by
  rw [Option.eq_none_iff_forall_ne_some]
  intro w hw
  rw [h.active k w hw] at ha
  cases ha

/-- The only worker is the one that was just started. -/
theorem eq_of_get?_spawn {workers : Dict ℕ Worker} (hnone : ∀ k, workers.get? k = none)
    {n k : ℕ} {v w : Worker} (h : (workers.set n v).get? k = some w) : k = n ∧ w = v := by
  obtain hnew | ⟨-, h⟩ := Dict.of_get?_set h
  · exact hnew
  · rw [hnone] at h
    cases h

theorem startedBy_of_ne_start {op : Op} (h : ∀ a b c, op ≠ .call (.start a b c)) :
    s.startedBy op = none := by
  unfold startedBy
  split
  · exact absurd rfl (h _ _ _)
  · rfl

theorem startedBy_start {a b c : String} {t : SyncService} {i : ℕ} {kind : WorkerKind}
    {r : List (String × PyVal)} (h : s.service.entry (.start a b c) = .entered t i kind r) :
    s.startedBy (.call (.start a b c)) = if (t.objects i).encode.isSome then some i else none := by
  simp only [startedBy, h]

theorem startedBy_refused {a b c : String}
    (h : s.service.written (.call (.start a b c)) = none) :
    s.startedBy (.call (.start a b c)) = none := by
  cases he : s.service.entry (.start a b c) with
  | refused response => simp only [startedBy, he]
  | entered t i kind r =>
    simp only [SyncService.written, he] at h
    rw [startedBy_start he, h]
    rfl

/-- A worker is started when there is none. -/
theorem Exclusive.spawn (t : SyncService) {i : ℕ} {kind : WorkerKind} {last : Option ℕ}
    (hnone : ∀ k, t.workers.get? k = none) (hactive : t.active = some i)
    (hlast : kind = .sync → last = some i)
    (hlatest : kind ≠ .sync → ∀ j, last = some j → t.latest = some j) (store : Option (List Char))
    (complete : Option Json) :
    Exclusive ⟨{ t.spawn i kind with store := store }, last, complete⟩ where
  single k k' w w' h h' := (eq_of_get?_spawn hnone h).1.trans (eq_of_get?_spawn hnone h').1.symm
  active k w h := by
    obtain ⟨-, rfl⟩ := eq_of_get?_spawn hnone h
    exact hactive
  latest j hj hall := by
    refine hlatest (hall t.spawned ⟨kind, i, kind.todo⟩ ?_) j hj
    exact (Dict.get?_set _ _ _).trans (if_pos rfl)
  started k w h hk := by
    obtain ⟨-, rfl⟩ := eq_of_get?_spawn hnone h
    exact hlast hk

/-- There is no worker. -/
theorem Exclusive.of_no_worker (t : SyncService) {last : Option ℕ}
    (hnone : ∀ k, t.workers.get? k = none) (hlatest : ∀ j, last = some j → t.latest = some j)
    (store : Option (List Char)) (complete : Option Json) :
    Exclusive ⟨{ t with store := store }, last, complete⟩ where
  single k k' w w' h _ := by rw [hnone] at h; cases h
  active k w h := by rw [hnone] at h; cases h
  latest j hj _ := hlatest j hj
  started k w h _ := by rw [hnone] at h; cases h

theorem Exclusive.call (h : Exclusive s) {c : Call} (hs : s.Settled (.op (.call c))) :
    Exclusive (s.next (.op (.call c))) := by
  have hlatest (ha : s.service.active = none) (j : ℕ) (hj : s.lastStarted = some j) :
      s.service.latest = some j :=
    h.latest j hj fun k w hw => by rw [h.no_worker ha] at hw; cases hw
  rcases memory_call c with ⟨hm, hw⟩ | ⟨t, i, kind, r, he, hw, hm⟩
  · -- the call is refused
    have hstarted : s.startedBy (.call c) = none := by
      cases c with
      | start a b c => exact startedBy_refused hw
      | _ => exact startedBy_of_ne_start (by simp)
    simp only [SyncRun.next, SyncService.next, hm, hstarted, Option.none_or]
    exact ⟨⟨h.single, h.active, h.latest⟩, h.started⟩
  · -- no transaction is under way, so that there is no worker
    -- the condition speaks of `start` alone: the other calls are refused whenever `_active` is set
    have hactive : s.service.active = none := by
      rcases entry_eq_entered he with ⟨a, b, d, rfl, hbusy, -⟩ | ⟨hactive, -⟩
      · rw [Option.eq_none_iff_forall_ne_some]
        intro i hi
        rw [busy, hi, Option.filter_some, hs i hi, if_pos rfl] at hbusy
        cases hbusy
      · exact hactive
    have hnone := h.no_worker hactive
    rcases entry_eq_entered he with ⟨a, b, d, rfl, -, rfl, rfl, rfl⟩ |
      ⟨-, hl, state, stage, rfl, hkind⟩
    · rcases hm with ⟨henc, hm⟩ | ⟨henc, hm⟩
      · simp only [SyncRun.next, SyncService.next, hm, startedBy_start he, henc,
          Option.isSome_none, Bool.false_eq_true, if_false, Option.none_or]
        exact .of_no_worker (s.service.started a b d) hnone (hlatest hactive) _ _
      · simp only [SyncRun.next, SyncService.next, hm, startedBy_start he, henc, if_true,
          Option.some_or]
        exact .spawn (s.service.started a b d) hnone rfl (fun _ => rfl) (fun hk => absurd rfl hk) _ _
    · have hstarted : s.startedBy (.call c) = none := by
        refine startedBy_of_ne_start fun a b d hc => ?_
        rcases hkind with ⟨rfl, -⟩ | ⟨rfl, -⟩ | ⟨rfl, -⟩ <;> cases hc
      -- the transaction that is resumed is the latest one, and remains so
      have hsync : kind ≠ .sync := by
        rcases hkind with ⟨-, rfl, -⟩ | ⟨-, rfl, -⟩ | ⟨-, rfl, -⟩ <;> simp
      rcases hm with ⟨henc, hm⟩ | ⟨henc, hm⟩
      · simp only [SyncRun.next, SyncService.next, hm, hstarted, Option.none_or]
        exact .of_no_worker (s.service.resumed i state stage) hnone (hlatest hactive) _ _
      · simp only [SyncRun.next, SyncService.next, hm, hstarted, Option.none_or]
        exact .spawn (s.service.resumed i state stage) hnone rfl (fun hk => absurd hk hsync)
          (fun _ => hlatest hactive) _ _

/-- A worker that takes a step is still there, and works on the same result. -/
theorem exists_of_get?_assigned {workers : Dict ℕ Worker} {k k' : ℕ} {w w' : Worker}
    {rest : List Assignment} (hw : workers.get? k = some w)
    (h : (workers.set k { w with todo := some rest }).get? k' = some w') :
    ∃ v, workers.get? k' = some v ∧ v.kind = w'.kind ∧ v.result = w'.result := by
  obtain ⟨rfl, rfl⟩ | ⟨-, h⟩ := Dict.of_get?_set h
  · exact ⟨w, hw, rfl, rfl⟩
  · exact ⟨w', h, rfl, rfl⟩

theorem get?_assigned_of_get? {workers : Dict ℕ Worker} {k k' : ℕ} {w v : Worker}
    (rest : List Assignment) (hw : workers.get? k = some w) (h : workers.get? k' = some v) :
    ∃ w', (workers.set k { w with todo := some rest }).get? k' = some w' ∧ w'.kind = v.kind := by
  rw [Dict.get?_set]
  by_cases hk : k' = k
  · subst hk
    obtain rfl := Option.some.inj (hw.symm.trans h)
    exact ⟨_, if_pos rfl, rfl⟩
  · exact ⟨v, by rw [if_neg hk, h], rfl⟩

theorem Exclusive.assign (h : Exclusive s) (k : ℕ) (p : Providers) :
    Exclusive (s.next (.op (.assign k p))) := by
  have hstarted : s.startedBy (.assign k p) = none := startedBy_of_ne_start (by simp)
  rcases memory_assign (s := s.service) k p with hm | ⟨w, a, rest, hw, -, hm⟩
  · simp only [SyncRun.next, SyncService.next, hm, hstarted, Option.none_or]
    exact ⟨⟨h.single, h.active, h.latest⟩, h.started⟩
  · simp only [SyncRun.next, SyncService.next, hm, hstarted, Option.none_or]
    -- the workers are the same, with the same results
    refine ⟨⟨fun i j v v' hv hv' => ?_, fun i v hv => ?_, fun i hi hall => ?_⟩,
      fun i v hv hk => ?_⟩
    · simp only [workers_assigned] at hv hv'
      obtain ⟨u, hu, -⟩ := exists_of_get?_assigned hw hv
      obtain ⟨u', hu', -⟩ := exists_of_get?_assigned hw hv'
      exact h.single _ _ _ _ hu hu'
    · simp only [workers_assigned] at hv
      obtain ⟨u, hu, -, hresult⟩ := exists_of_get?_assigned hw hv
      rw [active_assigned, ← hresult]
      exact h.active _ _ hu
    · rw [latest_assigned]
      refine h.latest i hi fun j v hv => ?_
      obtain ⟨w', hw', hkind⟩ := get?_assigned_of_get? rest hw hv
      rw [← hkind]
      refine hall j w' ?_
      rw [workers_assigned]
      exact hw'
    · simp only [workers_assigned] at hv
      obtain ⟨u, hu, hkind, hresult⟩ := exists_of_get?_assigned hw hv
      rw [← hresult]
      exact h.started _ _ hu (hkind.trans hk)

theorem Exclusive.finish (h : Exclusive s) (k : ℕ) :
    Exclusive (s.next (.op (.finish k))) := by
  have hstarted : s.startedBy (.finish k) = none := startedBy_of_ne_start (by simp)
  rcases memory_finish (s := s.service) k with ⟨hm, -⟩ | ⟨w, hw, -, hm, -⟩
  · simp only [SyncRun.next, SyncService.next, hm, hstarted, Option.none_or]
    exact ⟨⟨h.single, h.active, h.latest⟩, h.started⟩
  · simp only [SyncRun.next, SyncService.next, hm, hstarted, Option.none_or]
    -- it was the only worker
    refine .of_no_worker (s.service.cleanup k w) (fun j => ?_) (fun i hi => ?_) _ _
    · show (s.service.workers.erase k).get? j = none
      rw [Dict.get?_erase]
      split_ifs with hj
      · rfl
      · rw [Option.eq_none_iff_forall_ne_some]
        exact fun v hv => hj (h.single _ _ _ _ hv hw)
    · show (if w.kind = .sync then some w.result else s.service.latest) = some i
      split_ifs with hkind
      · exact (h.started k w hw hkind).symm.trans hi
      · refine h.latest i hi fun j v hv => ?_
        obtain rfl := h.single _ _ _ _ hv hw
        obtain rfl := Option.some.inj (hw.symm.trans hv)
        exact hkind

theorem exclusive_init (store : Option (List Char)) (localVersion : String)
    (complete : Option Json) : Exclusive ⟨.init store localVersion, none, complete⟩ :=
  .of_no_worker (.init store localVersion) (fun _ => rfl) (fun _ h => by cases h) _ _

theorem exclusive_invariant (stores : Option (List Char) → Prop) :
    ((system stores).restrict Settled).Invariant Exclusive where
  init s hs := by
    obtain ⟨store, localVersion, -, rfl⟩ := hs
    exact exclusive_init store localVersion none
  step s e t h hstep := by
    obtain ⟨hsettled, rfl⟩ : s.Settled e ∧ s.next e = t := ⟨hstep.1, Option.some.inj hstep.2⟩
    match e with
    | .op (.call c) => exact h.call hsettled
    | .op (.assign k p) => exact h.assign k p
    | .op (.finish k) => exact h.finish k
    | .crash o n localVersion => exact exclusive_init _ _ _

/-- **When there is one transaction at a time.**  In every run in which `start` is not called
between the last assignment of a worker and its end, with any log, crashes and restarts. -/
theorem oneTransaction_of_settled {stores : Option (List Char) → Prop}
    (h : ((system stores).restrict Settled).Reachable s) : OneTransaction s :=
  ((exclusive_invariant stores).holds h).toOneTransaction

/-! ### Two transactions -/

/-- The stores of a service that starts for the first time. -/
def Empty (store : Option (List Char)) : Prop := store = some []

/-- A service that starts for the first time. -/
def fresh : SyncRun := { service := .init (some []) "v0.4.0" }

theorem init_fresh : (system Empty).init fresh := ⟨some [], "v0.4.0", rfl, rfl⟩

/-- `start` is called. -/
def startEvent : Event := .op (.call (.start "sync-1" "trace-1" "2024-01-01T00:00:00+00:00"))

/-- Nobody is asked for a candidate. -/
def noProviders : Providers where
  discover := none
  verify := none

/-- A transaction is started. -/
theorem oneTransaction_started : (fresh.next startEvent).service.workers.contains 0 = true ∧
    OneTransaction (fresh.next startEvent) := by
  have hsettled : fresh.Settled startEvent := fun _ h => by cases h
  exact ⟨by decide, oneTransaction_of_settled (.step (.init init_fresh) ⟨hsettled, rfl⟩)⟩

/-- The worker has assigned its last state and not ended when `start` is called again: there are two
workers. -/
theorem not_oneTransaction_restarted : ¬ ∀ s, (system Empty).Reachable s → OneTransaction s := by
  intro h
  let blocked := (fresh.next startEvent).next (.op (.assign 0 noProviders))
  have hone := h (blocked.next startEvent)
    (.step (.step (.step (.init init_fresh) rfl) rfl) rfl)
  have htwo : (blocked.next startEvent).service.workers.contains 0 = true ∧
      (blocked.next startEvent).service.workers.contains 1 = true := by decide
  obtain ⟨w, hw⟩ := Option.isSome_iff_exists.1 htwo.1
  obtain ⟨w', hw'⟩ := Option.isSome_iff_exists.1 htwo.2
  exact absurd (hone.single _ _ _ _ hw hw') (by decide)

end SyncRun

end Sync

end AnnyRuntime
