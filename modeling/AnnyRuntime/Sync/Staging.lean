import AnnyRuntime.Sync.Ownership

/-!
# Only a verified candidate is staged

A result may be `STAGING` or `STAGED` only when its candidate exists, is not the local version, was
verified, and has a digest (`StagesVerified`).

* `stagesVerified_of_gated` : **this holds in every run in which `stage` is not called for a result
  without a change or a digest, and no restart makes the candidate the local version.**  `stage`
  only looks at the state, which is `VERIFIED` as well when nothing was there to verify.  And
  whatever the providers and the callers do, an activation that was never recorded is never
  recorded.
* `not_stagesVerified_unchanged` : a transaction that found no change is staged.
-/

namespace AnnyRuntime

namespace Sync

namespace SyncRun

open SyncService

/-- A candidate that may be staged. -/
structure Verified (localVersion : PyVal) (r : SyncResult) : Prop where
  verification : r.verification = .str "VERIFIED"
  candidate : r.candidateVersion.truthy = true
  differs : r.candidateVersion.beq localVersion = false
  digest : r.digest ≠ .none

/-- The state says that a candidate is staged. -/
def IsStaged (r : SyncResult) : Prop := r.syncState = .staging ∨ r.syncState = .staged

/-- Only verified candidates are staged. -/
def StagesVerified (s : SyncRun) : Prop :=
  ∀ i, IsStaged (s.service.objects i) → Verified s.service.localVersion (s.service.objects i)

/-- The result says that its candidate was not activated. -/
def NotActivated (r : SyncResult) : Prop := r.activationPerformed.truthy = false

/-- No result says that its candidate was activated, in memory or in the log. -/
structure NeverActivated (s : SyncRun) : Prop where
  objects : ∀ i, NotActivated (s.service.objects i)
  recorded : Recorded NotActivated s.service.store

/-- `stage` is called, if the latest result is `VERIFIED`, with a change, a digest and a candidate
that is not the local version. -/
def GatedOp (s : SyncRun) : Op → Prop
  | .call .stage => s.service.active = none → ∀ i, s.service.latest = some i →
      (s.service.objects i).syncState = .verified →
        (s.service.objects i).comparison ≠ .str "NO_CHANGE" ∧
          (s.service.objects i).digest ≠ .none ∧
            (s.service.objects i).candidateVersion.beq s.service.localVersion = false
  | _ => True

/-- And a restart that finds a staged result has another local version than its candidate. -/
def Gated (s : SyncRun) : Event → Prop
  | .op o => s.GatedOp o
  | .crash o n localVersion => s.GatedOp o ∧ ∀ r,
      loadLatest (s.service.store.map (· ++ (s.service.appended o).take n)) = some r →
        IsStaged r → r.candidateVersion.beq (.str localVersion) = false

/-! ### Results -/

/-- What every result that the service keeps satisfies. -/
structure Kept (r : SyncResult) : Prop where
  /-- It is verified since nothing changed, or since the verifier said so. -/
  verified : r.syncState = .verified → r.comparison = .str "NO_CHANGE" ∨
    r.verification = .str "VERIFIED" ∧ r.candidateVersion.truthy = true
  staged : IsStaged r → r.verification = .str "VERIFIED" ∧ r.candidateVersion.truthy = true ∧
    r.digest ≠ .none
  activation : NotActivated r

/-- What every result in memory satisfies. -/
structure Sound (localVersion : PyVal) (r : SyncResult) : Prop extends Kept r where
  differs : IsStaged r → r.candidateVersion.beq localVersion = false

variable {localVersion : PyVal} {r : SyncResult} {j : Json}

theorem Sound.verified_of_staged (h : Sound localVersion r) (hs : IsStaged r) :
    Verified localVersion r :=
  ⟨(h.staged hs).1, (h.staged hs).2.1, h.differs hs, (h.staged hs).2.2⟩

/-- A state that says nothing of a candidate. -/
theorem sound_of_state (hv : r.syncState ≠ .verified) (hs : ¬ IsStaged r)
    (ha : NotActivated r) : Sound localVersion r :=
  ⟨⟨fun h => absurd h hv, fun h => absurd h hs, ha⟩, fun h => absurd h hs⟩

theorem not_isStaged (h1 : r.syncState ≠ .staging) (h2 : r.syncState ≠ .staged) : ¬ IsStaged r :=
  fun h => h.elim h1 h2

theorem sound_of_verified (hv : Verified localVersion r) (hs : r.syncState ≠ .verified)
    (ha : NotActivated r) : Sound localVersion r :=
  ⟨⟨fun h => absurd h hs, fun _ => ⟨hv.verification, hv.candidate, hv.digest⟩, ha⟩,
    fun _ => hv.differs⟩

/-- A written record is read with everything that was kept. -/
theorem Kept.reload (h : Kept r) (hr : r.encode = some j) : Kept r.reload := by
  have henc : ∀ m ∈ r.toDict, m.2.encodeSorted.isSome = true := (SyncResult.encode_eq_some.1 hr).1
  have hcomparison := henc ("comparison", r.comparison) (by simp [SyncResult.toDict])
  have hverification := henc ("verification", r.verification) (by simp [SyncResult.toDict])
  have hcandidate := henc ("candidate_version", r.candidateVersion) (by simp [SyncResult.toDict])
  have hdigest := henc ("digest", r.digest) (by simp [SyncResult.toDict])
  have hactivation := henc ("activation_performed", r.activationPerformed)
    (by simp [SyncResult.toDict])
  refine ⟨fun hs => ?_, fun hs => ?_, ?_⟩
  · simp only [SyncResult.reload, PyVal.reload_eq_str hcomparison, PyVal.reload_eq_str hverification,
      PyVal.truthy_reload hcandidate]
    exact h.verified hs
  · simp only [SyncResult.reload, PyVal.reload_eq_str hverification, PyVal.truthy_reload hcandidate,
      ne_eq, PyVal.reload_eq_none hdigest]
    exact h.staged hs
  · exact (PyVal.truthy_reload hactivation).trans h.activation

theorem NotActivated.reload (h : NotActivated r) (hr : r.encode = some j) :
    NotActivated r.reload := by
  have henc : ∀ m ∈ r.toDict, m.2.encodeSorted.isSome = true := (SyncResult.encode_eq_some.1 hr).1
  exact (PyVal.truthy_reload (henc ("activation_performed", r.activationPerformed)
    (by simp [SyncResult.toDict]))).trans h

/-! ### The steps of the workers -/

/-- The step keeps what a result satisfies, and a verified candidate. -/
structure Harmless (a : Assignment) : Prop where
  sound : ∀ localVersion r, Sound localVersion r → Sound localVersion (a r)
  verified : ∀ localVersion r, Verified localVersion r → Verified localVersion (a r)

/-- The first step of a SYNC transaction leaves a result that is sound. -/
def First (localVersion : PyVal) (a : Assignment) : Prop :=
  ∀ r, r.syncState = .syncing → NotActivated r → Sound localVersion (a r)

/-- The steps of a SYNC transaction. -/
def Safe (localVersion : PyVal) : List Assignment → Prop
  | [] => False
  | a :: rest => First localVersion a ∧ ∀ b ∈ rest, Harmless b

/-- The assignments before a state is assigned. -/
def Neutral (a : Assignment) : Prop :=
  ∀ r, (a r).syncState = r.syncState ∧ (a r).activationPerformed = r.activationPerformed

theorem first_of_state {a : Assignment} (hs : ∀ r, (a r).syncState ≠ .verified ∧
    (a r).syncState ≠ .staging ∧ (a r).syncState ≠ .staged)
    (ha : ∀ r, (a r).activationPerformed = r.activationPerformed) : First localVersion a :=
  fun r _ hr => sound_of_state (hs r).1 (not_isStaged (hs r).2.1 (hs r).2.2)
    (show (a r).activationPerformed.truthy = false from (ha r).symm ▸ hr)

theorem handle_safe {before : Assignment} (h : Neutral before) (e : Raised) :
    Safe localVersion (handle before e) := by
  cases e with
  | abort =>
    refine ⟨fun r hs ha => ?_, by simp⟩
    have hstate := (h r).1.trans hs
    exact sound_of_state (by rw [hstate]; simp) (not_isStaged (by rw [hstate]; simp)
      (by rw [hstate]; simp)) (show (before r).activationPerformed.truthy = false from
        (h r).2.symm ▸ ha)
  | unprintable cls e => exact ⟨first_of_state (fun _ => by simp) fun r => (h r).2, by simp⟩
  | exception cls text => exact ⟨first_of_state (fun _ => by simp) fun r => (h r).2, by simp⟩

/-- A failure after the state was assigned. -/
theorem handle_harmless (e : Raised) : ∀ b ∈ handle id e, Harmless b := by
  have hsound (lv : PyVal) (r r' : SyncResult) (h : Sound lv r) (hs : r'.syncState = .failed)
      (ha : r'.activationPerformed = r.activationPerformed) : Sound lv r' :=
    sound_of_state (by rw [hs]; simp) (not_isStaged (by rw [hs]; simp) (by rw [hs]; simp))
      (show r'.activationPerformed.truthy = false from ha.symm ▸ h.activation)
  intro b hb
  cases e with
  | abort =>
    obtain rfl := List.mem_singleton.1 hb
    exact ⟨fun _ _ h => h, fun _ _ h => h⟩
  | unprintable cls e =>
    obtain rfl := List.mem_singleton.1 hb
    exact ⟨fun lv r h => hsound lv r _ h rfl rfl, fun _ _ h => ⟨h.1, h.2, h.3, h.4⟩⟩
  | exception cls text =>
    obtain rfl := List.mem_singleton.1 hb
    exact ⟨fun lv r h => hsound lv r _ h rfl rfl, fun _ _ h => ⟨h.1, h.2, h.3, h.4⟩⟩

theorem verifierFailed_safe {available : Assignment} (h : Neutral available) (e : Raised) :
    Safe localVersion (verifierFailed available e) := by
  cases e with
  | abort => exact handle_safe h .abort
  | unprintable cls e =>
    exact ⟨first_of_state (fun _ => by simp) fun r => (h r).2, handle_harmless e⟩
  | exception cls text => exact ⟨first_of_state (fun _ => by simp) fun r => (h r).2, by simp⟩

theorem refuse_safe (p : Providers) {available : Assignment} (h : Neutral available)
    (d : List (PyKey × PyVal)) : Safe localVersion (refuse p available d) := by
  -- the state is one of two, neither of which says anything of a candidate
  have hstate (b : Bool) : (if b = true then SyncState.unknown else .blocked) ≠ .verified ∧
      (if b = true then SyncState.unknown else .blocked) ≠ .staging ∧
      (if b = true then SyncState.unknown else .blocked) ≠ .staged := by
    cases b <;> simp
  unfold refuse
  split
  · exact ⟨first_of_state (fun _ => hstate _) fun r => (h r).2, handle_harmless _⟩
  · split
    · exact ⟨first_of_state (fun _ => hstate _) fun r => (h r).2, handle_harmless _⟩
    · exact ⟨first_of_state (fun _ => hstate _) fun r => (h r).2, by simp⟩

theorem verifyCandidate_safe (p : Providers) {available : Assignment} (h : Neutral available)
    (hcandidate : ∀ r, (available r).candidateVersion.truthy = true) :
    Safe localVersion (verifyCandidate p available) := by
  unfold verifyCandidate
  split
  · exact ⟨first_of_state (fun _ => by simp) fun r => (h r).2, by simp⟩
  · exact verifierFailed_safe h _
  · split
    · split_ifs
      · refine ⟨fun r _ ha => ⟨⟨fun _ => Or.inr ⟨rfl, hcandidate r⟩, ?_, ?_⟩, ?_⟩, by simp⟩
        · exact fun hs => absurd hs (not_isStaged (by simp [accept]) (by simp [accept]))
        · exact show (available r).activationPerformed.truthy = false from (h r).2.symm ▸ ha
        · exact fun hs => absurd hs (not_isStaged (by simp [accept]) (by simp [accept]))
      · exact refuse_safe p h _
    · exact handle_safe h _

theorem neutral_discovering : Neutral discovering := fun _ => ⟨rfl, rfl⟩

theorem compare_safe (p : Providers) (d : List (PyKey × PyVal)) :
    Safe localVersion (compare p localVersion d) := by
  unfold compare
  split
  · exact handle_safe neutral_discovering _
  · dsimp only
    split_ifs with hauthorized hchange
    · exact ⟨first_of_state (fun _ => by simp) fun _ => rfl, by simp⟩
    · refine ⟨fun r _ ha => ⟨⟨fun _ => Or.inl rfl, ?_, ha⟩, ?_⟩, by simp⟩
      · exact fun hs => absurd hs (not_isStaged (by simp) (by simp))
      · exact fun hs => absurd hs (not_isStaged (by simp) (by simp))
    · refine verifyCandidate_safe p (fun _ => ⟨rfl, rfl⟩) fun _ => ?_
      simp only [Bool.or_eq_true, Bool.not_eq_true', not_or, Bool.not_eq_false] at hchange
      exact hchange.1

/-- **What a SYNC transaction leaves.**  Its first assignment to the state makes the result sound,
and what may follow keeps it so. -/
theorem discoverCompareVerify_safe (localVersion : PyVal) (p : Providers) :
    Safe localVersion (discoverCompareVerify p localVersion) := by
  unfold discoverCompareVerify
  split
  · exact ⟨first_of_state (fun _ => by simp) fun _ => rfl, by simp⟩
  · exact handle_safe neutral_discovering _
  · split
    · exact compare_safe p _
    · exact handle_safe neutral_discovering _

/-! ### The memory -/

/-- The step of a worker that stages a candidate. -/
structure Stages (a : Assignment) : Prop where
  sound : ∀ localVersion r, Verified localVersion r → NotActivated r → Sound localVersion (a r)
  verified : ∀ localVersion r, Verified localVersion r → Verified localVersion (a r)

/-- What is known of a worker. -/
structure SaneWorker (s : SyncService) (k : ℕ) (w : Worker) : Prop where
  result_lt : w.result < s.allocated
  noRollback : w.kind ≠ .rollback
  /-- Nobody else works on the result of a SYNC transaction before it has ended. -/
  alone : w.kind = .sync → s.latest ≠ some w.result ∧
    ∀ k' w', s.workers.get? k' = some w' → w'.result = w.result → k' = k
  asks : w.todo = none → w.kind = .sync ∧ (s.objects w.result).syncState = .syncing
  steps : ∀ l, w.todo = some l → ∀ a ∈ l, Harmless a ∨
    Stages a ∧ Verified s.localVersion (s.objects w.result)

/-- What is known of the memory. -/
structure Sane (s : SyncService) : Prop where
  sound : ∀ i, Sound s.localVersion (s.objects i)
  latest_lt : ∀ i, s.latest = some i → i < s.allocated
  workers : ∀ k w, s.workers.get? k = some w → SaneWorker s k w

/-- A worker of this kind may be started for this result. -/
structure MayStart (s : SyncService) (i : ℕ) (kind : WorkerKind) : Prop where
  result_lt : i < s.allocated
  noRollback : kind ≠ .rollback
  alone : kind = .sync → s.latest ≠ some i ∧ (s.objects i).syncState = .syncing ∧
    ∀ k w, s.workers.get? k = some w → w.result ≠ i
  others : ∀ k w, s.workers.get? k = some w → w.kind = .sync → w.result ≠ i
  verified : kind = .stage → Verified s.localVersion (s.objects i)

variable {s : SyncService}

theorem stages_todo : Stages fun r => { r with syncState := .staged } where
  sound _ _ hv ha := sound_of_verified ⟨hv.1, hv.2, hv.3, hv.4⟩ (by simp) ha
  verified _ _ hv := ⟨hv.1, hv.2, hv.3, hv.4⟩

theorem harmless_activate : Harmless fun r => { r with
    syncState := .blocked, errorClassification := .str "ACTIVATION_NOT_IMPLEMENTED" } where
  sound _ _ h := sound_of_state (by simp) (not_isStaged (by simp) (by simp)) h.activation
  verified _ _ hv := ⟨hv.1, hv.2, hv.3, hv.4⟩

theorem SaneWorker.owner {k : ℕ} {w : Worker} (h : SaneWorker s k w) : Owner s k w :=
  ⟨h.result_lt, h.alone, h.asks⟩

theorem Sane.owner (h : Sane s) (k : ℕ) (w : Worker) (hw : s.workers.get? k = some w) :
    Owner s k w := (h.workers k w hw).owner

theorem MayStart.free {i : ℕ} {kind : WorkerKind} (h : MayStart s i kind) : Free s i kind :=
  ⟨h.result_lt, h.alone, h.others⟩

/-- A new worker. -/
theorem SaneWorker.of_mayStart {i : ℕ} {kind : WorkerKind} (h : MayStart s i kind) :
    SaneWorker (s.spawn i kind) s.spawned ⟨kind, i, kind.todo⟩ := by
  have howner := Owner.of_free h.free
  refine ⟨howner.result_lt, h.noRollback, howner.alone, howner.asks, fun l hl a ha => ?_⟩
  cases kind with
  | sync => cases hl
  | stage =>
    obtain rfl := Option.some.inj hl
    obtain rfl := List.mem_singleton.1 ha
    exact Or.inr ⟨stages_todo, h.verified rfl⟩
  | activate =>
    obtain rfl := Option.some.inj hl
    obtain rfl := List.mem_singleton.1 ha
    exact Or.inl harmless_activate
  | rollback => exact absurd rfl h.noRollback

theorem Sane.spawn (h : Sane s) {i : ℕ} {kind : WorkerKind} (hstart : MayStart s i kind) :
    Sane (s.spawn i kind) where
  sound := h.sound
  latest_lt := h.latest_lt
  workers k w hw := by
    change (s.workers.set s.spawned ⟨kind, i, kind.todo⟩).get? k = some w at hw
    obtain ⟨rfl, rfl⟩ | ⟨-, hget⟩ := Dict.of_get?_set hw
    · exact .of_mayStart hstart
    · have hworker := h.workers k w hget
      have howner := hworker.owner.spawn hget hstart.free
      exact ⟨howner.result_lt, hworker.noRollback, howner.alone, howner.asks, hworker.steps⟩

/-- A result is changed, without harm for the workers that have it. -/
theorem SaneWorker.update {k : ℕ} {w : Worker} (h : SaneWorker s k w) {i : ℕ} {r : SyncResult}
    {active : Option ℕ} {n : ℕ} (hn : s.allocated ≤ n)
    (hi : w.result = i → w.todo ≠ none ∧
      (Verified s.localVersion (s.objects i) → Verified s.localVersion r)) :
    SaneWorker { s with
      objects := Function.update s.objects i r, active := active, allocated := n } k w := by
  have howner : Owner { s with
      objects := Function.update s.objects i r, active := active, allocated := n } k w :=
    h.owner.update hn fun he => (hi he).1
  refine ⟨howner.result_lt, h.noRollback, howner.alone, howner.asks, fun l hl a ha => ?_⟩
  refine (h.steps l hl a ha).imp_right fun hstages => ⟨hstages.1, ?_⟩
  show Verified s.localVersion (Function.update s.objects i r w.result)
  by_cases he : w.result = i
  · rw [he, Function.update_self]
    exact (hi he).2 (he ▸ hstages.2)
  · rw [Function.update_of_ne he]
    exact hstages.2

theorem sound_update (h : Sane s) {i : ℕ} {r : SyncResult} (hr : Sound s.localVersion r) (j : ℕ) :
    Sound s.localVersion (Function.update s.objects i r j) := by
  by_cases hj : j = i
  · rw [hj, Function.update_self]
    exact hr
  · rw [Function.update_of_ne hj]
    exact h.sound j

/-- A new transaction. -/
theorem Sane.started (h : Sane s) (a b c : String) :
    Sane (s.started a b c) ∧ MayStart (s.started a b c) s.allocated .sync := by
  have hsound : Sound s.localVersion
      { syncId := .str a, traceId := .str b, requestedAt := .str c, syncState := .syncing,
        localVersion := s.localVersion } :=
    sound_of_state (by simp) (not_isStaged (by simp) (by simp)) rfl
  have hne (k : ℕ) (w : Worker) (hw : s.workers.get? k = some w) : w.result ≠ s.allocated :=
    ((h.workers k w hw).result_lt).ne
  have hfree := free_started h.latest_lt h.owner a b c
  exact ⟨⟨sound_update h hsound, fun i hi => Nat.lt_succ_of_lt (h.latest_lt i hi),
    fun k w hw => (h.workers k w hw).update (Nat.le_succ _) fun he => absurd he (hne k w hw)⟩,
    ⟨hfree.result_lt, by simp, hfree.alone, hfree.others, fun hk => by cases hk⟩⟩

/-- The latest result is taken up again. -/
theorem Sane.resumed (h : Sane s) {i : ℕ} (hi : s.latest = some i) {state : SyncState}
    (stage : String) {kind : WorkerKind}
    (hsound : Sound s.localVersion { s.objects i with syncState := state, stage := .str stage })
    (hkind : kind ≠ .rollback ∧ kind ≠ .sync)
    (hverified : kind = .stage → Verified s.localVersion (s.objects i)) :
    Sane (s.resumed i state stage) ∧ MayStart (s.resumed i state stage) i kind := by
  refine ⟨⟨sound_update h hsound, h.latest_lt, fun k w hw => ?_⟩, ⟨h.latest_lt i hi, hkind.1,
    fun hk => absurd hk hkind.2, fun k w hw => (h.owner k w hw).ne_latest hi, fun hk => ?_⟩⟩
  · exact (h.workers k w hw).update le_rfl fun he =>
      ⟨(h.owner k w hw).asked_of_latest hi he, fun hv => ⟨hv.1, hv.2, hv.3, hv.4⟩⟩
  · show Verified s.localVersion (Function.update s.objects i _ i)
    rw [Function.update_self]
    have hv := hverified hk
    exact ⟨hv.1, hv.2, hv.3, hv.4⟩

/-- A call that goes ahead, if it is gated. -/
theorem Sane.entered {last : Option ℕ} {complete : Option Json} (h : Sane s) {c : Call}
    (hg : GatedOp ⟨s, last, complete⟩ (.call c)) {t : SyncService} {i : ℕ} {kind : WorkerKind}
    {response : List (String × PyVal)} (he : s.entry c = .entered t i kind response) :
    Sane t ∧ MayStart t i kind := by
  rcases entry_eq_entered he with ⟨a, b, d, rfl, -, rfl, rfl, rfl⟩ |
    ⟨ha, hl, state, stage, rfl, hcall⟩
  · exact h.started a b d
  · rcases hcall with ⟨rfl, rfl, rfl, hs⟩ | ⟨rfl, rfl, rfl, hs⟩ | ⟨-, -, -, hactivated⟩
    · obtain ⟨hchange, hdigest, hdiffers⟩ := hg ha i hl hs
      obtain ⟨hverification, hcandidate⟩ := ((h.sound i).verified hs).resolve_left hchange
      have hv : Verified s.localVersion (s.objects i) :=
        ⟨hverification, hcandidate, hdiffers, hdigest⟩
      exact h.resumed hl stage (sound_of_verified ⟨hv.1, hv.2, hv.3, hv.4⟩ (by simp)
        (h.sound i).activation) (by simp) fun _ => hv
    · exact h.resumed hl stage (sound_of_state (by simp) (not_isStaged (by simp) (by simp))
        (h.sound i).activation) (by simp) (by simp)
    · have hnot : (s.objects i).activationPerformed.truthy = false := (h.sound i).activation
      rw [hnot] at hactivated
      cases hactivated

/-- What a step of a worker does to its result, and what the steps after it may do. -/
theorem Sane.assignment (h : Sane s) {k : ℕ} {w : Worker} (hw : s.workers.get? k = some w)
    {p : Providers} {a : Assignment} {rest : List Assignment}
    (hr : w.remaining p s.localVersion = a :: rest) :
    Sound s.localVersion (a (s.objects w.result)) ∧
      (∀ b ∈ rest, Harmless b ∨ Stages b ∧ Verified s.localVersion (a (s.objects w.result))) ∧
      (w.todo = none ∨ (Verified s.localVersion (s.objects w.result) →
        Verified s.localVersion (a (s.objects w.result)))) := by
  have hworker := h.workers k w hw
  cases htodo : w.todo with
  | none =>
    have hsafe := discoverCompareVerify_safe s.localVersion p
    rw [Worker.remaining, htodo, Option.getD_none] at hr
    rw [hr] at hsafe
    exact ⟨hsafe.1 _ (hworker.asks htodo).2 (h.sound _).activation,
      fun b hb => Or.inl (hsafe.2 b hb), Or.inl rfl⟩
  | some l =>
    rw [Worker.remaining, htodo, Option.getD_some] at hr
    subst hr
    have hsteps := hworker.steps _ htodo
    have hverified (hv : Verified s.localVersion (s.objects w.result)) :
        Verified s.localVersion (a (s.objects w.result)) :=
      (hsteps a List.mem_cons_self).elim (fun hh => hh.verified _ _ hv)
        fun hh => hh.1.verified _ _ hv
    refine ⟨?_, fun b hb => (hsteps b (List.mem_cons_of_mem _ hb)).imp_right fun hh =>
      ⟨hh.1, hverified hh.2⟩, Or.inr hverified⟩
    exact (hsteps a List.mem_cons_self).elim (fun hh => hh.sound _ _ (h.sound _))
      fun hh => hh.1.sound _ _ hh.2 (h.sound _).activation

/-- A step of a worker. -/
theorem Sane.assigned (h : Sane s) {k : ℕ} {w : Worker} (hw : s.workers.get? k = some w)
    {p : Providers} {a : Assignment} {rest : List Assignment}
    (hr : w.remaining p s.localVersion = a :: rest) : Sane (s.assigned k w a rest) := by
  have hworker := h.workers k w hw
  have hversion : (s.assigned k w a rest).localVersion = s.localVersion :=
    localVersion_assigned k w a rest hworker.noRollback
  obtain ⟨hsound, hrest, hverified⟩ := h.assignment hw hr
  refine ⟨fun j => ?_, fun i hi => ?_, fun k' w' hw' => ?_⟩
  · rw [hversion, objects_assigned]
    exact sound_update h hsound j
  · rw [latest_assigned] at hi
    rw [allocated_assigned]
    exact h.latest_lt i hi
  · have howner := Owner.assigned h.owner hw a rest hw'
    rw [workers_assigned] at hw'
    obtain ⟨v, hv, hkind, -⟩ := exists_of_get?_assigned hw hw'
    refine ⟨howner.result_lt, hkind ▸ (h.workers k' v hv).noRollback, howner.alone, howner.asks,
      fun l hl b hb => ?_⟩
    rw [hversion, objects_assigned]
    obtain ⟨-, rfl⟩ | ⟨hk, hw'⟩ := Dict.of_get?_set hw'
    · obtain rfl := Option.some.inj hl
      rw [Function.update_self]
      exact hrest b hb
    · refine ((h.workers k' w' hw').steps l hl b hb).imp_right fun hstages => ⟨hstages.1, ?_⟩
      by_cases he : w'.result = w.result
      · rw [he, Function.update_self]
        refine (hverified.resolve_left fun htodo => ?_) (he ▸ hstages.2)
        exact hk ((hworker.alone (hworker.asks htodo).1).2 k' w' hw' he)
      · rw [Function.update_of_ne he]
        exact hstages.2

/-- A worker ends. -/
theorem Sane.cleanup (h : Sane s) {k : ℕ} {w : Worker} (hw : s.workers.get? k = some w) :
    Sane (s.cleanup k w) := by
  refine ⟨h.sound, fun _ hi => latest_lt_cleanup h.latest_lt (h.owner k w hw) hi,
    fun k' w' hw' => ?_⟩
  have hold := h.workers k' w' (get?_of_get?_cleanup hw').2
  have howner := Owner.cleanup h.owner hw hw'
  exact ⟨howner.result_lt, hold.noRollback, howner.alone, howner.asks, hold.steps⟩

/-! ### Runs -/

/-- A record is written of a result in memory. -/
theorem exists_of_written {op : Op} (h : s.written op = some j) :
    (∃ c t i kind response, op = .call c ∧ s.entry c = .entered t i kind response ∧
        (t.objects i).encode = some j) ∨
      ∃ k i, op = .finish k ∧ (s.objects i).encode = some j := by
  cases op with
  | call c =>
    rcases memory_call (s := s) c with ⟨-, hw⟩ | ⟨t, i, kind, response, he, hw, -⟩
    · rw [hw] at h
      cases h
    · exact Or.inl ⟨c, t, i, kind, response, rfl, he, hw ▸ h⟩
  | assign k p => cases h
  | finish k =>
    rcases memory_finish (s := s) k with ⟨-, hw⟩ | ⟨w, -, -, -, hw⟩
    · rw [hw] at h
      cases h
    · exact Or.inr ⟨k, w.result, rfl, hw ▸ h⟩

/-- What a step appends to the log, or a beginning of it. -/
theorem recorded_appended {P : SyncResult → Prop} (h : Recorded P s.store) {op : Op}
    (hP : ∀ j, s.written op = some j → ∃ r : SyncResult, r.encode = some j ∧ P r.reload)
    {p : List Char} (hp : p <+: s.appended op) : Recorded P (s.store.map (· ++ p)) := by
  cases hw : s.written op with
  | none =>
    rw [appended, hw, Option.map_none, Option.getD_none, List.prefix_nil] at hp
    subst hp
    simpa using h
  | some j =>
    rw [appended, hw, Option.map_some, Option.getD_some] at hp
    obtain ⟨r, hr, hreload⟩ := hP j hw
    exact h.append hr hreload hp

/-- What is known of a service whose calls are gated: its memory and its log. -/
structure Guarded (s : SyncService) : Prop where
  sane : Sane s
  recorded : Recorded Kept s.store

variable {last : Option ℕ} {complete : Option Json}

theorem Guarded.written (h : Guarded s) {op : Op} (hg : GatedOp ⟨s, last, complete⟩ op) :
    ∀ j, s.written op = some j → ∃ r : SyncResult, r.encode = some j ∧ Kept r.reload := by
  intro j hj
  rcases exists_of_written hj with ⟨c, t, i, kind, response, rfl, he, henc⟩ | ⟨k, i, rfl, henc⟩
  · exact ⟨_, henc, ((h.sane.entered hg he).1.sound i).toKept.reload henc⟩
  · exact ⟨_, henc, (h.sane.sound i).toKept.reload henc⟩

theorem Guarded.memory (h : Guarded s) {op : Op} (hg : GatedOp ⟨s, last, complete⟩ op) :
    Sane (s.memory op) := by
  cases op with
  | call c =>
    rcases memory_call (s := s) c with ⟨hm, -⟩ | ⟨t, i, kind, response, he, -, hm⟩
    · rw [hm]
      exact h.sane
    · -- the object changes first; the worker starts if the record could be written
      obtain ⟨hsane, hstart⟩ := h.sane.entered hg he
      rcases hm with ⟨-, hm⟩ | ⟨-, hm⟩
      · rw [hm]
        exact hsane
      · rw [hm]
        exact hsane.spawn hstart
  | assign k p =>
    rcases memory_assign (s := s) k p with hm | ⟨w, a, rest, hw, hr, hm⟩
    · rw [hm]
      exact h.sane
    · rw [hm]
      exact h.sane.assigned hw hr
  | finish k =>
    rcases memory_finish (s := s) k with ⟨hm, -⟩ | ⟨w, hw, -, hm, -⟩
    · rw [hm]
      exact h.sane
    · rw [hm]
      exact h.sane.cleanup hw

theorem Guarded.next (h : Guarded s) {op : Op} (hg : GatedOp ⟨s, last, complete⟩ op) :
    Guarded (s.next op) where
  sane :=
    have hm := h.memory hg
    ⟨hm.sound, hm.latest_lt, fun k w hw =>
      have hworker := hm.workers k w hw
      ⟨hworker.1, hworker.2, hworker.3, hworker.4, hworker.5⟩⟩
  recorded := recorded_appended h.recorded (h.written hg) (List.prefix_refl _)

/-- A service that was just started. -/
theorem guarded_init {store : Option (List Char)} {localVersion : String} (h : Recorded Kept store)
    (hdiffers : ∀ r, loadLatest store = some r → IsStaged r →
      r.candidateVersion.beq (.str localVersion) = false) :
    Guarded (.init store localVersion) where
  sane := by
    refine ⟨fun i => ?_, fun i hi => ?_, fun k w hw => by cases hw⟩
    · show Sound _ ((loadLatest store).getD _)
      cases hl : loadLatest store with
      | none => exact sound_of_state (by simp) (not_isStaged (by simp) (by simp)) rfl
      | some r => exact ⟨h.loadLatest hl, hdiffers r hl⟩
    · exact latest_lt_init hi
  recorded := h

theorem guarded_invariant : ((system Empty).restrict Gated).Invariant fun s => Guarded s.service where
  init s hs := by
    obtain ⟨store, localVersion, rfl, rfl⟩ := hs
    exact guarded_init recorded_nil fun r hr => by cases hr
  step s e t h hstep := by
    obtain ⟨hg, rfl⟩ : s.Gated e ∧ s.next e = t := ⟨hstep.1, Option.some.inj hstep.2⟩
    cases e with
    | op o => exact h.next hg
    | crash o n localVersion =>
      exact guarded_init (recorded_appended h.recorded (h.written hg.1) (List.take_prefix n _)) hg.2

/-! ### Activations -/

/-- Nothing in memory says that a candidate was activated, and no worker is going to. -/
structure Inactive (s : SyncService) : Prop where
  objects : ∀ i, NotActivated (s.objects i)
  steps : ∀ k w, s.workers.get? k = some w → ∀ l, w.todo = some l → ∀ a ∈ l,
    ∀ r, NotActivated r → NotActivated (a r)

theorem notActivated_todo (kind : WorkerKind) : ∀ l, kind.todo = some l → ∀ a ∈ l,
    ∀ r, NotActivated r → NotActivated (a r) := by
  intro l hl a ha r hr
  cases kind with
  | sync => cases hl
  | rollback =>
    obtain rfl := Option.some.inj hl
    obtain rfl := List.mem_singleton.1 ha
    rfl
  | stage | activate =>
    obtain rfl := Option.some.inj hl
    obtain rfl := List.mem_singleton.1 ha
    exact hr

/-- No provider makes a SYNC transaction say that its candidate was activated. -/
theorem notActivated_handle (before : Assignment)
    (h : ∀ r, NotActivated r → NotActivated (before r)) (e : Raised) :
    ∀ a ∈ handle before e, ∀ r, NotActivated r → NotActivated (a r) := by
  intro a ha r hr
  cases e <;> obtain rfl := List.mem_singleton.1 ha <;> exact h r hr

theorem notActivated_verifyCandidate (p : Providers) {available : Assignment}
    (h : ∀ r, NotActivated r → NotActivated (available r)) :
    ∀ a ∈ verifyCandidate p available, ∀ r, NotActivated r → NotActivated (a r) := by
  have hid := notActivated_handle id fun _ h => h
  intro a ha r hr
  unfold verifyCandidate at ha
  split at ha
  · obtain rfl := List.mem_singleton.1 ha
    exact h r hr
  · rename_i e _
    cases e with
    | abort => exact notActivated_handle _ h .abort a ha r hr
    | unprintable cls e =>
      rcases List.mem_cons.1 ha with rfl | ha
      · exact h r hr
      · exact hid e a ha r hr
    | exception cls text =>
      obtain rfl := List.mem_singleton.1 ha
      exact h r hr
  · split at ha
    · split_ifs at ha
      · obtain rfl := List.mem_singleton.1 ha
        exact h r hr
      · -- refused: forming the texts of the status and of the error may raise
        unfold refuse at ha
        split at ha
        · rcases List.mem_cons.1 ha with rfl | ha
          · exact h r hr
          · exact hid _ a ha r hr
        · split at ha
          · rcases List.mem_cons.1 ha with rfl | ha
            · exact h r hr
            · exact hid _ a ha r hr
          · obtain rfl := List.mem_singleton.1 ha
            exact h r hr
    · exact notActivated_handle _ h _ a ha r hr

theorem notActivated_discover (p : Providers) (localVersion : PyVal) :
    ∀ a ∈ discoverCompareVerify p localVersion, ∀ r, NotActivated r → NotActivated (a r) := by
  have hdiscovering := notActivated_handle discovering fun _ h => h
  intro a ha r hr
  unfold discoverCompareVerify at ha
  split at ha
  · obtain rfl := List.mem_singleton.1 ha
    exact hr
  · exact hdiscovering _ a ha r hr
  · split at ha
    · unfold compare at ha
      split at ha
      · exact hdiscovering _ a ha r hr
      · dsimp only at ha
        split_ifs at ha
        · obtain rfl := List.mem_singleton.1 ha
          exact hr
        · obtain rfl := List.mem_singleton.1 ha
          exact hr
        · refine notActivated_verifyCandidate p ?_ a ha r hr
          exact fun _ h => h
    · exact hdiscovering _ a ha r hr

theorem notActivated_update (h : Inactive s) {i : ℕ} (hr : NotActivated r) (j : ℕ) :
    NotActivated (Function.update s.objects i r j) := by
  by_cases hj : j = i
  · rw [hj, Function.update_self]
    exact hr
  · rw [Function.update_of_ne hj]
    exact h.objects j

theorem Inactive.entered (h : Inactive s) {c : Call} {t : SyncService} {i : ℕ} {kind : WorkerKind}
    {response : List (String × PyVal)} (he : s.entry c = .entered t i kind response) :
    Inactive t := by
  rcases entry_eq_entered he with ⟨a, b, d, -, -, rfl, -, -⟩ | ⟨-, -, state, stage, rfl, -⟩
  · exact ⟨notActivated_update h rfl, h.steps⟩
  · exact ⟨notActivated_update h (h.objects i), h.steps⟩

theorem Inactive.memory (h : Inactive s) (op : Op) : Inactive (s.memory op) := by
  cases op with
  | call c =>
    rcases memory_call (s := s) c with ⟨hm, -⟩ | ⟨t, i, kind, response, he, -, hm⟩
    · rw [hm]
      exact h
    · have ht := h.entered he
      rcases hm with ⟨-, hm⟩ | ⟨-, hm⟩
      · rw [hm]
        exact ht
      · rw [hm]
        refine ⟨ht.objects, fun k w hw => ?_⟩
        change (t.workers.set t.spawned ⟨kind, i, kind.todo⟩).get? k = some w at hw
        obtain ⟨-, rfl⟩ | ⟨-, hw⟩ := Dict.of_get?_set hw
        · exact notActivated_todo kind
        · exact ht.steps k w hw
  | assign k p =>
    rcases memory_assign (s := s) k p with hm | ⟨w, a, rest, hw, hr, hm⟩
    · rw [hm]
      exact h
    · -- what is left of a worker: fixed steps, or what the providers answer now
      have hsteps : ∀ b ∈ a :: rest, ∀ r, NotActivated r → NotActivated (b r) := by
        rw [← hr, Worker.remaining]
        cases htodo : w.todo with
        | none => exact notActivated_discover p s.localVersion
        | some l => exact h.steps k w hw l htodo
      rw [hm]
      refine ⟨fun j => ?_, fun k' w' hw' l hl b hb => ?_⟩
      · rw [objects_assigned]
        exact notActivated_update h (hsteps a List.mem_cons_self _ (h.objects _)) j
      · rw [workers_assigned, Dict.get?_set] at hw'
        split_ifs at hw'
        · obtain rfl := Option.some.inj hw'
          obtain rfl := Option.some.inj hl
          exact hsteps b (List.mem_cons_of_mem _ hb)
        · exact h.steps k' w' hw' l hl b hb
  | finish k =>
    rcases memory_finish (s := s) k with ⟨hm, -⟩ | ⟨w, hw, -, hm, -⟩
    · rw [hm]
      exact h
    · rw [hm]
      refine ⟨h.objects, fun k' w' hw' => ?_⟩
      change (s.workers.erase k).get? k' = some w' at hw'
      rw [Dict.get?_erase] at hw'
      split_ifs at hw'
      exact h.steps k' w' hw'

theorem Inactive.written (h : Inactive s) (op : Op) : ∀ j, s.written op = some j →
    ∃ r : SyncResult, r.encode = some j ∧ NotActivated r.reload := by
  intro j hj
  rcases exists_of_written hj with ⟨c, t, i, kind, response, -, he, henc⟩ | ⟨k, i, -, henc⟩
  · exact ⟨_, henc, ((h.entered he).objects i).reload henc⟩
  · exact ⟨_, henc, (h.objects i).reload henc⟩

theorem inactive_init {store : Option (List Char)} (localVersion : String)
    (h : Recorded NotActivated store) : Inactive (.init store localVersion) where
  objects i := by
    show NotActivated ((loadLatest store).getD _)
    cases hl : loadLatest store with
    | none => rfl
    | some r => exact h.loadLatest hl
  steps k w hw := by cases hw

theorem inactive_invariant :
    (system (Recorded NotActivated)).Invariant fun s =>
      Inactive s.service ∧ Recorded NotActivated s.service.store where
  init s hs := by
    obtain ⟨store, localVersion, hstore, rfl⟩ := hs
    exact ⟨inactive_init localVersion hstore, hstore⟩
  step s e t h hstep := by
    obtain rfl : s.next e = t := Option.some.inj hstep
    cases e with
    | op o =>
      have hm := h.1.memory o
      exact ⟨⟨hm.objects, hm.steps⟩,
        recorded_appended h.2 (h.1.written o) (List.prefix_refl _)⟩
    | crash o n localVersion =>
      have hstore := recorded_appended h.2 (h.1.written o) (List.take_prefix n _)
      exact ⟨inactive_init localVersion hstore, hstore⟩

/-- **When only verified candidates are staged**: in every run from an empty log whose calls of
`stage` and restarts are gated.  And in every run from any log without a record of an activation,
there never is one. -/
theorem stagesVerified_of_gated (s : SyncRun) :
    (((system Empty).restrict Gated).Reachable s → StagesVerified s) ∧
      ((system (Recorded NotActivated)).Reachable s → NeverActivated s) := by
  refine ⟨fun h i hs => ?_, fun h => ?_⟩
  · exact ((guarded_invariant.holds h).sane.sound i).verified_of_staged hs
  · obtain ⟨hinactive, hrecorded⟩ := inactive_invariant.holds h
    exact ⟨hinactive.objects, hrecorded⟩

/-! ### A candidate, and none -/

/-- The providers discover this version. -/
def offering (version : String) : Providers where
  discover := some (.ok (.ofMembers [("source", .str "test-authority"),
    ("candidate_version", .str version), ("authorized", .bool true)]))
  verify := some (.ok (.plain (.ofMembers [("verified", .bool true), ("digest", .str "2c26b46b")])))

/-- A SYNC transaction has run. -/
def synced (version : String) : SyncRun :=
  ((fresh.next startEvent).next (.op (.assign 0 (offering version)))).next (.op (.finish 0))

/-- The call of `stage`. -/
def stageEvent : Event := .op (.call .stage)

theorem gated_synced (version : String) :
    ((system Empty).restrict Gated).Reachable (synced version) := by
  have hstart : fresh.Gated startEvent := trivial
  have hassign : (fresh.next startEvent).Gated (.op (.assign 0 (offering version))) := trivial
  have hfinish : ((fresh.next startEvent).next (.op (.assign 0 (offering version)))).Gated
      (.op (.finish 0)) := trivial
  exact .step (.step (.step (.init init_fresh) ⟨hstart, rfl⟩) ⟨hassign, rfl⟩) ⟨hfinish, rfl⟩

/-- A verified candidate is staged. -/
theorem stagesVerified_release :
    ((synced "v0.5.0").next stageEvent).service.latest = some 0 ∧
      (((synced "v0.5.0").next stageEvent).service.objects 0).syncState = .staging ∧
      StagesVerified ((synced "v0.5.0").next stageEvent) ∧
      NeverActivated ((synced "v0.5.0").next stageEvent) := by
  have hgated : (synced "v0.5.0").Gated stageEvent := by
    intro _ i hi _
    obtain rfl : 0 = i := Option.some.inj hi
    refine ⟨fun h => ?_, fun h => ?_, by decide⟩
    · exact absurd (PyVal.str.inj h) (by decide)
    · cases h
  have hreach := System.Reachable.step (gated_synced "v0.5.0") ⟨hgated, rfl⟩
  refine ⟨rfl, rfl, (stagesVerified_of_gated _).1 hreach, (stagesVerified_of_gated _).2 ?_⟩
  -- the empty log has no record of an activation
  have hempty : (system (Recorded NotActivated)).Reachable fresh :=
    .init ⟨some [], "v0.4.0", recorded_nil, rfl⟩
  exact .step (.step (.step (.step hempty rfl) rfl) rfl) rfl

/-- A transaction that found the local version is `VERIFIED`, and is staged. -/
theorem not_stagesVerified_unchanged : ¬ ∀ s, (system Empty).Reachable s → StagesVerified s := by
  intro h
  have hreach := System.Reachable.step (gated_synced "v0.4.0").of_restrict
    (show (system Empty).step _ stageEvent _ from rfl)
  have hverified := (h _ hreach 0 (Or.inl rfl)).verification
  exact absurd (PyVal.str.inj hverified) (by decide)

end SyncRun

end Sync

end AnnyRuntime
