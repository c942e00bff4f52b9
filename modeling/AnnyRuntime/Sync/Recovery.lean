import AnnyRuntime.Sync.Transactions

/-!
# Restarts of the SYNC service

After a crash at any point, in the middle of a line as well, the status of the service that is
started again should be the record that was completely written last, and not say that a transaction
is in progress (`Recovers`).

* `recovers_iff_clean` : **this holds exactly when that record stands alone on the last line of the
  log and is not in progress, or nothing was ever completely written.**  The reader looks at the
  last line only: a torn line hides the record before it, swallows the one that is written after it,
  and a transaction that was under way is reported as it was.
* `not_recovers_abandoned` : a service that crashed in a transaction says that it is `SYNCING`.
-/

namespace AnnyRuntime

namespace Sync

namespace SyncRun

open SyncService

/-- What a service started again should say, when this record was completely written last. -/
structure Recovers (complete : Option Json) (t : SyncService) : Prop where
  /-- Its status is that record. -/
  status : ∀ j, complete = some j → (PyVal.ofMembers t.status).encodeSorted = some j
  /-- Without any, it is idle. -/
  idle : complete = none → ("sync_state", .str SyncState.idle.value) ∈ t.status
  /-- No transaction is in progress. -/
  settled : ∀ state : SyncState, ("sync_state", .str state.value) ∈ t.status →
    state.inProgress = false

/-- The log after a crash in a step, of whose line `n` characters were written. -/
def logAfter (s : SyncRun) (o : Op) (n : ℕ) : Option (List Char) :=
  s.service.store.map (· ++ (s.service.appended o).take n)

/-- The record that was completely written last is alone on the last line of the log, and not in
progress. -/
def Clean (s : SyncRun) (o : Op) (n : ℕ) : Prop := ∀ j, s.complete o n = some j →
  (s.logAfter o n).bind lastLine = some (Json.dumps j) ∧
    ∀ state, SyncResult.recordedState j = some state → state.inProgress = false

/-! ### The status -/

variable {store : Option (List Char)} {v : String} {r : SyncResult} {j : Json}

theorem status_of_load (h : loadLatest store = some r) :
    (SyncService.init store v).status = r.toDict := by
  simp only [status, SyncService.init, h, Option.map_some, Option.none_or, Option.getD_some]

/-- The status of a service that finds no record. -/
theorem status_of_load_none (h : loadLatest store = none) :
    ("sync_state", .str SyncState.idle.value) ∈ (SyncService.init store v).status ∧
      (SyncService.init store v).status.length = 15 ∧
      ∀ state : SyncState, ("sync_state", .str state.value) ∈ (SyncService.init store v).status →
        state = .idle := by
  simp only [status, SyncService.init, h, Option.map_none, Option.or_none]
  refine ⟨by simp, rfl, fun state hs => ?_⟩
  have hvalue : state.value = SyncState.idle.value := by simpa using hs
  revert hvalue
  cases state <;> decide

theorem value_injective {a b : SyncState} (h : a.value = b.value) : a = b := by
  have ha := SyncState.ofJson?_value a
  rw [h, SyncState.ofJson?_value] at ha
  exact (Option.some.inj ha).symm

theorem mem_toDict_state {state : SyncState} :
    ("sync_state", PyVal.str state.value) ∈ r.toDict ↔ state = r.syncState := by
  constructor
  · intro h
    have hvalue : state.value = r.syncState.value := by simpa [SyncResult.toDict] using h
    exact value_injective hvalue
  · rintro rfl
    simp [SyncResult.toDict]

/-- The status of a service that finds no record is none. -/
theorem idle_ne_record (hr : r.encode = some j) {ms : List (String × PyVal)}
    (hlen : ms.length = 15) : (PyVal.ofMembers ms).encodeSorted ≠ some j := by
  intro h
  obtain ⟨-, rfl⟩ := PyVal.encodeSorted_ofMembers.1 h
  have hmembers := Json.obj.inj (SyncResult.encode_eq_some.1 hr).2
  have hlength := congrArg List.length hmembers
  rw [List.length_insertionSort, List.length_insertionSort, List.length_map, hlen] at hlength
  cases hlength

/-! ### The log of a run -/

/-- What every run from an empty log keeps: the log is the service's own. -/
structure Owned (complete : Option Json) (store : Option (List Char)) : Prop where
  journal : ∃ text, store = some text ∧ Journal complete text
  record : ∀ j, complete = some j → ∃ r : SyncResult, r.encode = some j

variable {s : SyncRun}

theorem owned_append {complete : Option Json} (h : Owned complete store) (hr : r.encode = some j)
    {p : List Char} (hp : p <+: recordLine j) :
    Owned (lastWritten complete j p) (store.map (· ++ p)) where
  journal := by
    obtain ⟨text, rfl, hj⟩ := h.journal
    exact ⟨text ++ p, rfl, hj.append hr hp⟩
  record i hi := by
    rw [lastWritten] at hi
    split_ifs at hi
    · obtain rfl := Option.some.inj hi
      exact ⟨r, hr⟩
    · exact h.record i hi

/-- A step that writes, and was cut off after `n` characters. -/
theorem owned_crash (h : Owned s.lastComplete s.service.store) (o : Op) (n : ℕ) :
    Owned (s.complete o n) (s.logAfter o n) := by
  unfold complete logAfter appended
  cases hw : s.service.written o with
  | none => simpa using h
  | some j =>
    have hr : ∃ r : SyncResult, r.encode = some j := by
      cases o with
      | call c =>
        rcases memory_call (s := s.service) c with ⟨-, hn⟩ | ⟨t, i, -, -, -, hn, -⟩
        · rw [hn] at hw
          cases hw
        · exact ⟨_, hn ▸ hw⟩
      | assign k p => cases hw
      | finish k =>
        rcases memory_finish (s := s.service) k with ⟨-, hn⟩ | ⟨w, -, -, -, hn⟩
        · rw [hn] at hw
          cases hw
        · exact ⟨_, hn ▸ hw⟩
    obtain ⟨r, hr⟩ := hr
    exact owned_append h hr (List.take_prefix n _)

/-- A step that writes completely. -/
theorem owned_op (h : Owned s.lastComplete s.service.store) (o : Op) :
    Owned ((s.service.written o).or s.lastComplete) (s.service.next o).store := by
  have hcrash := owned_crash h o (s.service.appended o).length
  have hcomplete : s.complete o (s.service.appended o).length =
      (s.service.written o).or s.lastComplete := by
    unfold complete appended
    cases hw : s.service.written o with
    | none => rfl
    | some j =>
      have hwhole : Json.dumps j <+: recordLine j := List.prefix_append _ _
      show lastWritten s.lastComplete j ((recordLine j).take (recordLine j).length) = some j
      rw [List.take_length, lastWritten, if_pos hwhole]
  rw [hcomplete, logAfter, List.take_length] at hcrash
  exact hcrash

theorem owned_invariant :
    (system Empty).Invariant fun s => Owned s.lastComplete s.service.store where
  init s hs := by
    obtain ⟨store, v, rfl, rfl⟩ := hs
    exact ⟨⟨[], rfl, journal_nil⟩, fun j hj => by cases hj⟩
  step s e t h hstep := by
    obtain rfl : s.next e = t := Option.some.inj hstep
    cases e with
    | op o => exact owned_op h o
    | crash o n v => exact owned_crash h o n

/-! ### Recovery -/

/-- What a service finds in its own log. -/
theorem recovers_owned_iff {complete : Option Json} (h : Owned complete store) :
    Recovers complete (.init store v) ↔ ∀ j, complete = some j →
      store.bind lastLine = some (Json.dumps j) ∧
        ∀ state, SyncResult.recordedState j = some state → state.inProgress = false := by
  obtain ⟨⟨text, rfl, hjournal⟩, hrecord⟩ := h
  rw [Option.bind_some]
  have hload : loadLatest (some text) = (lastLine text).bind SyncResult.parseRecord := rfl
  -- a last line that is not the record is none
  have hnone (hne : ∀ j, complete = some j → lastLine text ≠ some (Json.dumps j)) :
      loadLatest (some text) = none := by
    rw [hload]
    cases hl : lastLine text with
    | none => rfl
    | some l =>
      rcases hjournal.last l hl with ⟨j, hj, rfl⟩ | hparse
      · exact absurd hl (hne j hj)
      · exact hparse
  have hsome {j : Json} (hline : lastLine text = some (Json.dumps j)) {r : SyncResult}
      (hr : r.encode = some j) : loadLatest (some text) = some r.reload := by
    rw [hload, hline, Option.bind_some, SyncResult.parseRecord_dumps hr]
  constructor
  · intro hrec j hj
    obtain ⟨r, hr⟩ := hrecord j hj
    by_cases hline : lastLine text = some (Json.dumps j)
    · refine ⟨hline, fun state hstate => ?_⟩
      obtain rfl : r.syncState = state :=
        Option.some.inj ((SyncResult.recordedState_of_encode hr).symm.trans hstate)
      refine hrec.settled _ ?_
      rw [status_of_load (hsome hline hr)]
      exact mem_toDict_state.2 rfl
    · have hl : loadLatest (some text) = none := hnone fun i hi => by
        obtain rfl := Option.some.inj (hj.symm.trans hi)
        exact hline
      exact absurd (hrec.status j hj) (idle_ne_record hr (status_of_load_none hl).2.1)
  · intro hclean
    cases hc : complete with
    | none =>
      have hl := hnone fun j hj => by
        rw [hc] at hj
        cases hj
      obtain ⟨hidle, -, hstate⟩ := status_of_load_none (v := v) hl
      refine ⟨fun j hj => (by cases hj), fun _ => hidle, fun state hs => ?_⟩
      rw [hstate state hs]
      rfl
    | some j =>
      obtain ⟨hline, hsettled⟩ := hclean j hc
      obtain ⟨r, hr⟩ := hrecord j hc
      have hstatus := status_of_load (v := v) (hsome hline hr)
      refine ⟨fun i hi => ?_, fun hn => (by cases hn), fun state hs => ?_⟩
      · obtain rfl := Option.some.inj hi
        rw [hstatus]
        exact SyncResult.encode_reload hr
      · rw [hstatus] at hs
        rw [mem_toDict_state.1 hs]
        exact hsettled _ (SyncResult.recordedState_of_encode (SyncResult.encode_reload hr))

/-- **When a restart recovers.**  In every run from an empty log, for every step in which the
process dies, every length of what it wrote in it, and every local version that it is started with
again. -/
theorem recovers_iff_clean (h : (system Empty).Reachable s) (o : Op) (n : ℕ) (v : String) :
    Recovers (s.complete o n) (s.service.crash o n v) ↔ s.Clean o n :=
  recovers_owned_iff (owned_crash (owned_invariant.holds h) o n)

/-! ### A transaction that ended, and one that did not -/

/-- A step that does nothing. -/
def idleStep : Op := .finish 7

theorem complete_idleStep (hw : s.service.written idleStep = none) :
    s.complete idleStep 0 = s.lastComplete ∧ s.logAfter idleStep 0 = s.service.store := by
  refine ⟨by rw [complete, hw], ?_⟩
  rw [logAfter, List.take_zero]
  simp

/-- A transaction that ended without a provider. -/
def ended : SyncRun :=
  ((fresh.next startEvent).next (.op (.assign 0 noProviders))).next (.op (.finish 0))

theorem reachable_ended : (system Empty).Reachable ended :=
  .step (.step (.step (.init init_fresh) rfl) rfl) rfl

/-- The last line of a log of whole lines. -/
theorem lastLine_recordLine {text : List Char} (hr : r.encode = some j) :
    lastLine (text ++ ['\n'] ++ recordLine j) = some (Json.dumps j) := by
  rw [recordLine, ← List.append_assoc, lastLine_newline]
  obtain ⟨ls, q, hq, hqp⟩ := splitlines_append
    (not_isLineBreak_of_isPrefix (List.prefix_refl (Json.dumps j))) (text ++ ['\n'])
  rw [splitlines_newline] at hq
  obtain ⟨rfl, hnil⟩ := List.append_inj' hq rfl
  obtain rfl : [] = q := by simpa using hnil
  exact lastLine_concat hqp (strip_ne_nil (head?_of_isPrefix hr (dumps_ne_nil hr)
    (List.prefix_refl _)))

/-- A service that crashes after its transaction says how the transaction ended. -/
theorem recovers_ended : Recovers (ended.complete idleStep 0)
    (ended.service.crash idleStep 0 "v0.4.0") := by
  refine (recovers_iff_clean reachable_ended idleStep 0 "v0.4.0").2 fun j hj => ?_
  obtain ⟨hcomplete, hlog⟩ := complete_idleStep (s := ended) rfl
  rw [hcomplete] at hj
  rw [hlog]
  have henc : ((fresh.next startEvent).service.objects 0).encode.isSome = true ∧
      (ended.service.objects 0).encode.isSome = true := by decide
  obtain ⟨i, hi⟩ := Option.isSome_iff_exists.1 henc.1
  obtain ⟨j', hj'⟩ := Option.isSome_iff_exists.1 henc.2
  have hlast : ended.lastComplete = some j' := by
    show (ended.service.objects 0).encode.or
      ((fresh.next startEvent).next (.op (.assign 0 noProviders))).lastComplete = some j'
    rw [hj', Option.some_or]
  obtain rfl := Option.some.inj (hlast.symm.trans hj)
  have hstore : ended.service.store = some (Json.dumps i ++ ['\n'] ++ recordLine j') := by
    show some ([] ++ ((((fresh.next startEvent).service.objects 0).encode).map recordLine).getD [] ++
      [] ++ (((ended.service.objects 0).encode).map recordLine).getD []) = _
    rw [hi, hj']
    simp [recordLine]
  refine ⟨by rw [hstore, Option.bind_some, lastLine_recordLine hj'], fun state hstate => ?_⟩
  rw [SyncResult.recordedState_of_encode hj'] at hstate
  obtain rfl := Option.some.inj hstate
  decide

/-- A service that crashes in a transaction says that it is in progress. -/
theorem not_recovers_abandoned : ¬ ∀ s, (system Empty).Reachable s → ∀ o n v,
    Recovers (s.complete o n) (s.service.crash o n v) := by
  intro h
  have hreach : (system Empty).Reachable (fresh.next startEvent) := .step (.init init_fresh) rfl
  have hrec := h _ hreach idleStep 0 "v0.4.0"
  have henc : ((fresh.next startEvent).service.objects 0).encode.isSome = true := by decide
  obtain ⟨j, hj⟩ := Option.isSome_iff_exists.1 henc
  have hlast : (fresh.next startEvent).complete idleStep 0 = some j := by
    rw [(complete_idleStep (s := fresh.next startEvent) rfl).1]
    show ((fresh.next startEvent).service.objects 0).encode.or fresh.lastComplete = some j
    rw [hj, Option.some_or]
  have hclean := (recovers_owned_iff (owned_crash (owned_invariant.holds hreach) idleStep 0)).1 hrec
  have hprogress := (hclean j hlast).2 _ (SyncResult.recordedState_of_encode hj)
  exact absurd hprogress (by decide)

end SyncRun

end Sync

end AnnyRuntime
