import AnnyRuntime.Sync.Transactions

/-!
# Who works on a result

A SYNC transaction that has not ended works alone on its result (`Owner`): the result is new when
the worker is started, and the other calls take up the latest result only, which it is not.  This
holds whatever the callers and the providers do.

* `Owner.of_free`, `Owner.spawn`, `Owner.update`, `Owner.assigned`, `Owner.cleanup` : every step of
  the service and of its workers keeps it.
-/

namespace AnnyRuntime

namespace Sync

namespace SyncRun

open SyncService

/-- What is known of a worker. -/
structure Owner (s : SyncService) (k : ℕ) (w : Worker) : Prop where
  result_lt : w.result < s.allocated
  /-- Nobody else works on the result of a SYNC transaction before it has ended. -/
  alone : w.kind = .sync → s.latest ≠ some w.result ∧
    ∀ k' w', s.workers.get? k' = some w' → w'.result = w.result → k' = k
  asks : w.todo = none → w.kind = .sync ∧ (s.objects w.result).syncState = .syncing

/-- A worker of this kind may be started for this result. -/
structure Free (s : SyncService) (i : ℕ) (kind : WorkerKind) : Prop where
  result_lt : i < s.allocated
  alone : kind = .sync → s.latest ≠ some i ∧ (s.objects i).syncState = .syncing ∧
    ∀ k w, s.workers.get? k = some w → w.result ≠ i
  others : ∀ k w, s.workers.get? k = some w → w.kind = .sync → w.result ≠ i

variable {s : SyncService} {i k k' : ℕ} {kind : WorkerKind} {w w' : Worker} {r : SyncResult}

/-! ### Workers that are started -/

/-- A new worker. -/
theorem Owner.of_free (h : Free s i kind) :
    Owner (s.spawn i kind) s.spawned ⟨kind, i, kind.todo⟩ where
  result_lt := h.result_lt
  alone hk := by
    obtain ⟨hlatest, -, hothers⟩ := h.alone hk
    refine ⟨hlatest, fun k' w' hw' hresult => ?_⟩
    change (s.workers.set s.spawned ⟨kind, i, kind.todo⟩).get? k' = some w' at hw'
    obtain ⟨hk', -⟩ | ⟨-, hw'⟩ := Dict.of_get?_set hw'
    · exact hk'
    · exact absurd hresult (hothers k' w' hw')
  -- only a SYNC worker asks the providers
  asks htodo := by
    have hk : kind = .sync := by cases kind <;> first | rfl | cases htodo
    exact ⟨hk, (h.alone hk).2.1⟩

/-- The other workers. -/
theorem Owner.spawn (h : Owner s k w) (hw : s.workers.get? k = some w) (hfree : Free s i kind) :
    Owner (s.spawn i kind) k w where
  result_lt := h.result_lt
  alone hsync := by
    refine ⟨(h.alone hsync).1, fun k' w' hw' hresult => ?_⟩
    change (s.workers.set s.spawned ⟨kind, i, kind.todo⟩).get? k' = some w' at hw'
    obtain ⟨-, rfl⟩ | ⟨-, hw'⟩ := Dict.of_get?_set hw'
    · exact absurd hresult.symm (hfree.others k w hw hsync)
    · exact (h.alone hsync).2 k' w' hw' hresult
  asks := h.asks

/-- A result is changed on which no worker is that has not asked its providers. -/
theorem Owner.update (h : Owner s k w) {active : Option ℕ} {n : ℕ} (hn : s.allocated ≤ n)
    (hi : w.result = i → w.todo ≠ none) :
    Owner { s with
      objects := Function.update s.objects i r, active := active, allocated := n } k w where
  result_lt := h.result_lt.trans_le hn
  alone := h.alone
  asks htodo := by
    have hne : w.result ≠ i := fun he => hi he htodo
    refine ⟨(h.asks htodo).1, ?_⟩
    show (Function.update s.objects i r w.result).syncState = .syncing
    rw [Function.update_of_ne hne]
    exact (h.asks htodo).2

/-- The result of a new transaction is that of no other worker. -/
theorem free_started (hlatest : ∀ i, s.latest = some i → i < s.allocated)
    (hall : ∀ k w, s.workers.get? k = some w → Owner s k w) (a b c : String) :
    Free (s.started a b c) s.allocated .sync := by
  have hne (k : ℕ) (w : Worker) (hw : s.workers.get? k = some w) : w.result ≠ s.allocated :=
    (hall k w hw).result_lt.ne
  refine ⟨Nat.lt_succ_self _, fun _ => ⟨fun hl => ?_, ?_, hne⟩, fun k w hw _ => hne k w hw⟩
  · exact absurd (hlatest _ hl) (lt_irrefl _)
  · show (Function.update s.objects s.allocated _ s.allocated).syncState = .syncing
    rw [Function.update_self]

/-- No SYNC transaction is still at work on the latest result. -/
theorem Owner.ne_latest (h : Owner s k w) (hi : s.latest = some i) (hk : w.kind = .sync) :
    w.result ≠ i :=
  fun he => (h.alone hk).1 (he ▸ hi)

theorem Owner.asked_of_latest (h : Owner s k w) (hi : s.latest = some i) (he : w.result = i) :
    w.todo ≠ none :=
  fun htodo => h.ne_latest hi (h.asks htodo).1 he

/-! ### Workers that go on -/

/-- After a step of a worker. -/
theorem Owner.assigned (hall : ∀ k w, s.workers.get? k = some w → Owner s k w)
    (hw : s.workers.get? k = some w) (a : Assignment) (rest : List Assignment)
    (hw' : (s.assigned k w a rest).workers.get? k' = some w') :
    Owner (s.assigned k w a rest) k' w' := by
  rw [workers_assigned] at hw'
  obtain ⟨v, hv, hkind, hresult⟩ := exists_of_get?_assigned hw hw'
  have hold := hall k' v hv
  refine ⟨?_, fun hsync => ⟨?_, fun k'' w'' hw'' he => ?_⟩, fun htodo => ?_⟩
  · rw [allocated_assigned, ← hresult]
    exact hold.result_lt
  · rw [latest_assigned, ← hresult]
    exact (hold.alone (hkind.trans hsync)).1
  · rw [workers_assigned] at hw''
    obtain ⟨u, hu, -, hresult'⟩ := exists_of_get?_assigned hw hw''
    exact (hold.alone (hkind.trans hsync)).2 k'' u hu (by rw [hresult', he, hresult])
  · -- a transaction that has not asked its providers: it is not the one that took the step
    obtain ⟨-, rfl⟩ | ⟨hk, hw'⟩ := Dict.of_get?_set hw'
    · cases htodo
    · obtain rfl := Option.some.inj (hv.symm.trans hw')
      obtain ⟨hsync, hstate⟩ := hold.asks htodo
      have hne : v.result ≠ w.result := fun he =>
        hk ((hold.alone hsync).2 k w hw he.symm).symm
      rw [objects_assigned, Function.update_of_ne hne]
      exact ⟨hsync, hstate⟩

/-- A worker that is left when another one has ended. -/
theorem get?_of_get?_cleanup (h : (s.cleanup k w).workers.get? k' = some w') :
    k' ≠ k ∧ s.workers.get? k' = some w' := by
  change (s.workers.erase k).get? k' = some w' at h
  rw [Dict.get?_erase] at h
  split_ifs at h with hk
  exact ⟨hk, h⟩

/-- After the end of a worker. -/
theorem Owner.cleanup (hall : ∀ k w, s.workers.get? k = some w → Owner s k w)
    (hw : s.workers.get? k = some w) (hw' : (s.cleanup k w).workers.get? k' = some w') :
    Owner (s.cleanup k w) k' w' := by
  obtain ⟨hne, hget⟩ := get?_of_get?_cleanup hw'
  have hold := hall k' w' hget
  refine ⟨hold.result_lt, fun hsync => ⟨?_, fun k'' w'' hw'' he => ?_⟩, hold.asks⟩
  · show (if w.kind = .sync then some w.result else s.latest) ≠ some w'.result
    split_ifs
    · intro he
      exact hne ((hold.alone hsync).2 k w hw (Option.some.inj he)).symm
    · exact (hold.alone hsync).1
  · exact (hold.alone hsync).2 k'' w'' (get?_of_get?_cleanup hw'').2 he

/-- The latest result exists. -/
theorem latest_lt_cleanup (hlatest : ∀ i, s.latest = some i → i < s.allocated)
    (hw : Owner s k w) (hi : (s.cleanup k w).latest = some i) :
    i < (s.cleanup k w).allocated := by
  change (if w.kind = .sync then some w.result else s.latest) = some i at hi
  split_ifs at hi
  · obtain rfl := Option.some.inj hi
    exact hw.result_lt
  · exact hlatest i hi

theorem latest_lt_init {store : Option (List Char)} {localVersion : String}
    (hi : (SyncService.init store localVersion).latest = some i) :
    i < (SyncService.init store localVersion).allocated := by
  change (loadLatest store).map (fun _ => 0) = some i at hi
  show i < if (loadLatest store).isSome then 1 else 0
  obtain ⟨r, hr, rfl⟩ := Option.map_eq_some_iff.1 hi
  rw [hr]
  exact Nat.one_pos

end SyncRun

end Sync

end AnnyRuntime
