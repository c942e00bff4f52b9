import AnnyRuntime.Sync.Staging
import AnnyRuntime.Sync.Verifier

/-!
# A verified candidate was verified

A service whose providers use a `CandidateVerifier` says that a candidate is available and
`VERIFIED` (`SaysVerified`) only when the verifier said so of the payload that was discovered
(`Backed`).

* `verification_fails_closed` : **this holds in every run**, no exception leaves the verifier, and
  it verifies exactly the candidates that it should and whose payload it can read.
* `not_verified_unreadable` : with an asset that is no dictionary the right bytes are an `ERROR`,
  and a download can raise what is no exception.
-/

namespace AnnyRuntime

namespace Sync

namespace SyncRun

open SyncService

/-- A candidate is available, and verified. -/
def SaysVerified (r : SyncResult) : Prop :=
  r.comparison = .str "CANDIDATE_AVAILABLE" ∧ r.syncState = .verified

/-- A configuration: the digest that is expected, and the function that forms digests. -/
structure Expecting (expectedDigest : Option String) (sha256 : List UInt8 → String)
    (v : CandidateVerifier) : Prop where
  expectedDigest : v.expectedDigest = expectedDigest
  sha256 : v.sha256 = sha256

variable (expectedDigest : Option String) (sha256 : List UInt8 → String)

/-- The verifier said `VERIFIED` of a payload with this candidate, as it is in memory or in a record
that was read, and of these bytes. -/
def Backed (r : SyncResult) : Prop :=
  ∃ v d traceId candidateBytes r', Expecting expectedDigest sha256 v ∧
    v.verify (.dict d) traceId candidateBytes = .ok r' ∧ r'.status = .verified ∧
    (r.candidateVersion = getD d "candidate_version" .none ∨
      r.candidateVersion = (getD d "candidate_version" .none).reload) ∧
    r.verification = .str "VERIFIED" ∧ r.digest = optional r'.digest

/-- What is said is backed. -/
def Honest (r : SyncResult) : Prop := SaysVerified r → Backed expectedDigest sha256 r

/-- What a provider answers that calls `verify`, with bytes or without: what it returned, or an
exception, which converting the result can raise. -/
def Answers (discovered traceId : PyVal) (answer : Except Raised Verification) : Prop :=
  ∀ a, answer = .ok a → ∃ v candidateBytes r, Expecting expectedDigest sha256 v ∧
    v.verify discovered traceId candidateBytes = .ok r ∧ a = .converted r.toDict

/-- The providers use such a verifier for what they discover. -/
def Uses (traceId : PyVal) (p : Providers) : Prop :=
  ∀ x, p.discover = some (.ok x) → ∃ answer, p.verify = some answer ∧
    Answers expectedDigest sha256 (if x.truthy then x else .dict []) traceId answer

/-- A worker that asks its providers asks such ones. -/
def Using (s : SyncRun) : Event → Prop
  | .op (.assign k p) => ∀ w, s.service.workers.get? k = some w → w.todo = none →
      Uses expectedDigest sha256 (s.service.objects w.result).traceId p
  | _ => True

/-! ### Results -/

variable {expectedDigest : Option String} {sha256 : List UInt8 → String} {r : SyncResult} {j : Json}
  {localVersion traceId : PyVal}

theorem honest_of_state (h : r.syncState ≠ .verified) : Honest expectedDigest sha256 r :=
  fun hr => absurd hr.2 h

theorem reload_reload (v : PyVal) : v.reload.reload = v.reload := by
  cases h : v.encodeSorted with
  | none =>
    have hnone : v.reload = .none := by
      rw [PyVal.reload, h, Option.getD_none, PyVal.ofJson]
    rw [hnone]
    rfl
  | some j =>
    have hsome := PyVal.encodeSorted_reload (Option.isSome_iff_exists.2 ⟨j, h⟩)
    rw [PyVal.reload_eq (hsome.trans h), PyVal.reload_eq h]

/-- A written record is read as honest as it was. -/
theorem Honest.reload (h : Honest expectedDigest sha256 r) (hr : r.encode = some j) :
    Honest expectedDigest sha256 r.reload := by
  have henc : ∀ m ∈ r.toDict, m.2.encodeSorted.isSome = true := (SyncResult.encode_eq_some.1 hr).1
  have hcomparison := henc ("comparison", r.comparison) (by simp [SyncResult.toDict])
  have hverification := henc ("verification", r.verification) (by simp [SyncResult.toDict])
  have hdigest := henc ("digest", r.digest) (by simp [SyncResult.toDict])
  rintro ⟨hc, hs⟩
  obtain ⟨v, d, traceId, candidateBytes, r', hv, hverify, hstatus, hcandidate, hverified, hd⟩ :=
    h ⟨(PyVal.reload_eq_str hcomparison).1 hc, hs⟩
  refine ⟨v, d, traceId, candidateBytes, r', hv, hverify, hstatus, Or.inr ?_,
    (PyVal.reload_eq_str hverification).2 hverified, ?_⟩
  · rcases hcandidate with hcandidate | hcandidate
    · rw [SyncResult.reload, hcandidate]
    · rw [SyncResult.reload, hcandidate, reload_reload]
  · cases hopt : r'.digest with
    | none =>
      rw [hopt] at hd
      exact (PyVal.reload_eq_none hdigest).2 hd
    | some s =>
      rw [hopt] at hd
      exact (PyVal.reload_eq_str hdigest).2 hd

/-! ### The steps of the workers -/

variable (expectedDigest sha256)

/-- The step keeps what a result says honest. -/
def Keeps (a : Assignment) : Prop :=
  ∀ r, Honest expectedDigest sha256 r → Honest expectedDigest sha256 (a r)

/-- The steps of a SYNC transaction: the first one finds a result that is `SYNCING`. -/
def Trusted : List Assignment → Prop
  | [] => True
  | a :: rest => (∀ r, r.syncState = .syncing → Honest expectedDigest sha256 (a r)) ∧
      ∀ b ∈ rest, Keeps expectedDigest sha256 b

variable {expectedDigest sha256}

theorem trusted_of_state {a : Assignment} {rest : List Assignment}
    (ha : ∀ r, (a r).syncState ≠ .verified) (hrest : ∀ b ∈ rest, Keeps expectedDigest sha256 b) :
    Trusted expectedDigest sha256 (a :: rest) :=
  ⟨fun r _ => honest_of_state (ha r), hrest⟩

/-- A transaction that says nothing yet says nothing when it aborts. -/
theorem trusted_abort {before : Assignment} (h : ∀ r, (before r).syncState = r.syncState) :
    Trusted expectedDigest sha256 [before] :=
  ⟨fun r hr => honest_of_state (by rw [h, hr]; simp), by simp⟩

theorem trusted_handle {before : Assignment} (h : ∀ r, (before r).syncState = r.syncState)
    (e : Raised) : Trusted expectedDigest sha256 (handle before e) := by
  cases e with
  | abort => exact trusted_abort h
  | unprintable cls e => exact trusted_of_state (fun _ => by simp) (by simp)
  | exception cls text => exact trusted_of_state (fun _ => by simp) (by simp)

theorem keeps_handle (e : Raised) : ∀ b ∈ handle id e, Keeps expectedDigest sha256 b := by
  intro b hb r hr
  cases e with
  | abort =>
    obtain rfl := List.mem_singleton.1 hb
    exact hr
  | unprintable cls e =>
    obtain rfl := List.mem_singleton.1 hb
    exact honest_of_state (by simp)
  | exception cls text =>
    obtain rfl := List.mem_singleton.1 hb
    exact honest_of_state (by simp)

theorem trusted_verifierFailed {available : Assignment}
    (h : ∀ r, (available r).syncState = r.syncState) (e : Raised) :
    Trusted expectedDigest sha256 (verifierFailed available e) := by
  cases e with
  | abort => exact trusted_abort h
  | unprintable cls e => exact trusted_of_state (fun _ => by simp) (keeps_handle e)
  | exception cls text => exact trusted_of_state (fun _ => by simp) (by simp)

theorem trusted_refuse (p : Providers) (available : Assignment) (d : List (PyKey × PyVal)) :
    Trusted expectedDigest sha256 (refuse p available d) := by
  have hstate (r : SyncResult) : (refused available d r).syncState ≠ .verified := by
    simp only [refused]
    split_ifs <;> simp
  unfold refuse
  split
  · exact trusted_of_state hstate (keeps_handle _)
  · split
    · exact trusted_of_state hstate (keeps_handle _)
    · exact trusted_of_state hstate (by simp)

/-- **The verdict of the verifier is the verdict of the service.** -/
theorem trusted_verifyCandidate {p : Providers} {source : String} {d : List (PyKey × PyVal)}
    {answer : Except Raised Verification} (hp : p.verify = some answer)
    (h : Answers expectedDigest sha256 (.dict d) traceId answer) :
    Trusted expectedDigest sha256 (verifyCandidate p (available source d)) := by
  have hneutral : ∀ r, (available source d r).syncState = r.syncState := fun _ => rfl
  unfold verifyCandidate
  rw [hp]
  cases answer with
  | error e => exact trusted_verifierFailed hneutral e
  | ok a =>
    obtain ⟨v, candidateBytes, r', hv, hverify, rfl⟩ := h a rfl
    dsimp only [Verification.dict, VerificationResult.toDict]
    rw [VerificationResult.getD_verified]
    split_ifs with hverified
    · -- the answer says `verified` when its status does
      have hstatus : r'.status = .verified := of_decide_eq_true hverified
      exact ⟨fun r _ _ => ⟨v, d, traceId, candidateBytes, r', hv, hverify, hstatus, Or.inl rfl, rfl,
        VerificationResult.getD_digest r'⟩, by simp⟩
    · exact trusted_refuse p _ _

theorem trusted_discover {p : Providers} (h : Uses expectedDigest sha256 traceId p) :
    Trusted expectedDigest sha256 (discoverCompareVerify p localVersion) := by
  have hneutral : ∀ r, (discovering r).syncState = r.syncState := fun _ => rfl
  unfold discoverCompareVerify
  split
  · exact trusted_of_state (fun _ => by simp) (by simp)
  · exact trusted_handle hneutral _
  · rename_i x hx
    obtain ⟨answer, hanswer, hanswers⟩ := h x hx
    split
    · rename_i d hd
      rw [hd] at hanswers
      unfold compare
      split
      · exact trusted_handle hneutral _
      · dsimp only
        split_ifs
        · exact trusted_of_state (fun _ => by simp) (by simp)
        · -- nothing is said of a candidate
          refine ⟨fun r _ hr => absurd (PyVal.str.inj hr.1) (by simp), by simp⟩
        · exact trusted_verifyCandidate hanswer hanswers
    · exact trusted_handle hneutral _

/-! ### The memory -/

variable (expectedDigest sha256)

/-- What is known of a worker. -/
structure TrustedWorker (s : SyncService) (k : ℕ) (w : Worker) : Prop extends Owner s k w where
  steps : ∀ l, w.todo = some l → ∀ a ∈ l, Keeps expectedDigest sha256 a

/-- What is known of the memory. -/
structure HonestMemory (s : SyncService) : Prop where
  objects : ∀ i, Honest expectedDigest sha256 (s.objects i)
  latest_lt : ∀ i, s.latest = some i → i < s.allocated
  workers : ∀ k w, s.workers.get? k = some w → TrustedWorker expectedDigest sha256 s k w

variable {expectedDigest sha256} {s : SyncService}

/-- No other transaction says that a candidate is verified. -/
theorem keeps_todo (kind : WorkerKind) : ∀ l, kind.todo = some l → ∀ a ∈ l,
    Keeps expectedDigest sha256 a := by
  intro l hl a ha r _
  cases kind with
  | sync => cases hl
  | stage | activate | rollback =>
    obtain rfl := Option.some.inj hl
    obtain rfl := List.mem_singleton.1 ha
    exact honest_of_state (by simp)

theorem honest_update (h : ∀ i, Honest expectedDigest sha256 (s.objects i)) {i : ℕ}
    (hr : Honest expectedDigest sha256 r) (j : ℕ) :
    Honest expectedDigest sha256 (Function.update s.objects i r j) := by
  by_cases hj : j = i
  · rw [hj, Function.update_self]
    exact hr
  · rw [Function.update_of_ne hj]
    exact h j

theorem HonestMemory.owner (h : HonestMemory expectedDigest sha256 s) (k : ℕ) (w : Worker)
    (hw : s.workers.get? k = some w) : Owner s k w := (h.workers k w hw).toOwner

theorem HonestMemory.spawn (h : HonestMemory expectedDigest sha256 s) {i : ℕ} {kind : WorkerKind}
    (hfree : Free s i kind) : HonestMemory expectedDigest sha256 (s.spawn i kind) where
  objects := h.objects
  latest_lt := h.latest_lt
  workers k w hw := by
    change (s.workers.set s.spawned ⟨kind, i, kind.todo⟩).get? k = some w at hw
    obtain ⟨rfl, rfl⟩ | ⟨-, hget⟩ := Dict.of_get?_set hw
    · exact ⟨.of_free hfree, keeps_todo kind⟩
    · exact ⟨(h.owner k w hget).spawn hget hfree, (h.workers k w hget).steps⟩

/-- A call that goes ahead. -/
theorem HonestMemory.entered (h : HonestMemory expectedDigest sha256 s) {c : Call}
    {t : SyncService} {i : ℕ} {kind : WorkerKind} {response : List (String × PyVal)}
    (he : s.entry c = .entered t i kind response) :
    HonestMemory expectedDigest sha256 t ∧ Free t i kind := by
  rcases entry_eq_entered he with ⟨a, b, d, rfl, -, rfl, rfl, rfl⟩ |
    ⟨-, hl, state, stage, rfl, hcall⟩
  · refine ⟨⟨honest_update h.objects (honest_of_state (by simp)),
      fun i hi => Nat.lt_succ_of_lt (h.latest_lt i hi),
      fun k w hw => ⟨?_, (h.workers k w hw).steps⟩⟩,
      free_started h.latest_lt h.owner a b d⟩
    exact (h.owner k w hw).update (Nat.le_succ _) fun he => absurd he (h.owner k w hw).result_lt.ne
  · have hkind : kind ≠ .sync ∧ state ≠ .verified := by
      rcases hcall with ⟨-, rfl, rfl, -⟩ | ⟨-, rfl, rfl, -⟩ | ⟨-, rfl, rfl, -⟩ <;> simp
    refine ⟨⟨honest_update h.objects (honest_of_state hkind.2), h.latest_lt,
      fun k w hw => ⟨?_, (h.workers k w hw).steps⟩⟩,
      ⟨h.latest_lt i hl, fun hk => absurd hk hkind.1, fun k w hw => (h.owner k w hw).ne_latest hl⟩⟩
    exact (h.owner k w hw).update le_rfl ((h.owner k w hw).asked_of_latest hl)

/-- What a worker does to its result, and what the steps after it may do. -/
theorem HonestMemory.assignment (h : HonestMemory expectedDigest sha256 s) {k : ℕ} {w : Worker}
    (hw : s.workers.get? k = some w) {p : Providers}
    (hp : w.todo = none → Uses expectedDigest sha256 (s.objects w.result).traceId p)
    {a : Assignment} {rest : List Assignment} (hr : w.remaining p s.localVersion = a :: rest) :
    Honest expectedDigest sha256 (a (s.objects w.result)) ∧
      ∀ b ∈ rest, Keeps expectedDigest sha256 b := by
  have hworker := h.workers k w hw
  cases htodo : w.todo with
  | none =>
    have htrusted : Trusted expectedDigest sha256 (discoverCompareVerify p s.localVersion) :=
      trusted_discover (hp htodo)
    rw [Worker.remaining, htodo, Option.getD_none] at hr
    rw [hr] at htrusted
    exact ⟨htrusted.1 _ (hworker.asks htodo).2, htrusted.2⟩
  | some l =>
    rw [Worker.remaining, htodo, Option.getD_some] at hr
    subst hr
    have hsteps := hworker.steps _ htodo
    exact ⟨hsteps a List.mem_cons_self _ (h.objects _),
      fun b hb => hsteps b (List.mem_cons_of_mem _ hb)⟩

/-- A step of a worker. -/
theorem HonestMemory.assigned (h : HonestMemory expectedDigest sha256 s) {k : ℕ} {w : Worker}
    (hw : s.workers.get? k = some w) {p : Providers}
    (hp : w.todo = none → Uses expectedDigest sha256 (s.objects w.result).traceId p)
    {a : Assignment} {rest : List Assignment} (hr : w.remaining p s.localVersion = a :: rest) :
    HonestMemory expectedDigest sha256 (s.assigned k w a rest) := by
  obtain ⟨ha, hrest⟩ := h.assignment hw hp hr
  refine ⟨fun j => ?_, fun i hi => ?_, fun k' w' hw' => ⟨.assigned h.owner hw a rest hw', ?_⟩⟩
  · rw [objects_assigned]
    exact honest_update h.objects ha j
  · rw [latest_assigned] at hi
    rw [allocated_assigned]
    exact h.latest_lt i hi
  · intro l hl b hb
    rw [workers_assigned] at hw'
    obtain ⟨-, rfl⟩ | ⟨-, hw'⟩ := Dict.of_get?_set hw'
    · obtain rfl := Option.some.inj hl
      exact hrest b hb
    · exact (h.workers k' w' hw').steps l hl b hb

/-- A worker ends. -/
theorem HonestMemory.cleanup (h : HonestMemory expectedDigest sha256 s) {k : ℕ} {w : Worker}
    (hw : s.workers.get? k = some w) : HonestMemory expectedDigest sha256 (s.cleanup k w) :=
  ⟨h.objects, fun _ hi => latest_lt_cleanup h.latest_lt (h.owner k w hw) hi, fun k' w' hw' =>
    ⟨.cleanup h.owner hw hw', (h.workers k' w' (get?_of_get?_cleanup hw').2).steps⟩⟩

/-! ### Runs -/

theorem HonestMemory.memory {last : Option ℕ} {complete : Option Json}
    (h : HonestMemory expectedDigest sha256 s) {op : Op}
    (hu : Using expectedDigest sha256 ⟨s, last, complete⟩ (.op op)) :
    HonestMemory expectedDigest sha256 (s.memory op) := by
  cases op with
  | call c =>
    rcases memory_call (s := s) c with ⟨hm, -⟩ | ⟨t, i, kind, response, he, -, hm⟩
    · rw [hm]
      exact h
    · obtain ⟨ht, hfree⟩ := h.entered he
      rcases hm with ⟨-, hm⟩ | ⟨-, hm⟩
      · rw [hm]
        exact ht
      · rw [hm]
        exact ht.spawn hfree
  | assign k p =>
    rcases memory_assign (s := s) k p with hm | ⟨w, a, rest, hw, hr, hm⟩
    · rw [hm]
      exact h
    · rw [hm]
      exact h.assigned hw (hu w hw) hr
  | finish k =>
    rcases memory_finish (s := s) k with ⟨hm, -⟩ | ⟨w, hw, -, hm, -⟩
    · rw [hm]
      exact h
    · rw [hm]
      exact h.cleanup hw

theorem HonestMemory.written (h : HonestMemory expectedDigest sha256 s) (op : Op) :
    ∀ j, s.written op = some j →
      ∃ r : SyncResult, r.encode = some j ∧ Honest expectedDigest sha256 r.reload := by
  intro j hj
  rcases exists_of_written hj with ⟨c, t, i, kind, response, -, he, henc⟩ | ⟨k, i, -, henc⟩
  · exact ⟨_, henc, ((h.entered he).1.objects i).reload henc⟩
  · exact ⟨_, henc, (h.objects i).reload henc⟩

theorem honestMemory_init {store : Option (List Char)} (localVersion : String)
    (h : Recorded (Honest expectedDigest sha256) store) :
    HonestMemory expectedDigest sha256 (.init store localVersion) where
  objects i := by
    show Honest expectedDigest sha256 ((loadLatest store).getD _)
    cases hl : loadLatest store with
    | none => exact honest_of_state (by simp)
    | some r => exact h.loadLatest hl
  latest_lt _ hi := latest_lt_init hi
  workers k w hw := by cases hw

/-- **What every run keeps**: the memory and the log say nothing that is not backed. -/
theorem honest_invariant :
    ((system (Recorded (Honest expectedDigest sha256))).restrict
      (Using expectedDigest sha256)).Invariant fun s =>
        HonestMemory expectedDigest sha256 s.service ∧
          Recorded (Honest expectedDigest sha256) s.service.store where
  init s hs := by
    obtain ⟨store, localVersion, hstore, rfl⟩ := hs
    exact ⟨honestMemory_init localVersion hstore, hstore⟩
  step s e t h hstep := by
    obtain ⟨hu, rfl⟩ : Using expectedDigest sha256 s e ∧ s.next e = t :=
      ⟨hstep.1, Option.some.inj hstep.2⟩
    cases e with
    | op o =>
      have hm := h.1.memory hu
      exact ⟨⟨hm.objects, hm.latest_lt, fun k w hw =>
        have howner := hm.owner k w hw
        ⟨⟨howner.1, howner.2, howner.3⟩, (hm.workers k w hw).steps⟩⟩,
        recorded_appended h.2 (h.1.written o) (List.prefix_refl _)⟩
    | crash o n localVersion =>
      have hstore := recorded_appended h.2 (h.1.written o) (List.take_prefix n _)
      exact ⟨honestMemory_init localVersion hstore, hstore⟩

open CandidateVerifier in
/-- **Candidate verification fails closed.**  Only what is no exception leaves the verifier, which
verifies exactly the candidates that it should and whose payload it can read.  And in every run of a
service that uses it, from any log that says nothing else, memory and log say that a candidate is
verified only when the verifier said so. -/
theorem verification_fails_closed (expectedDigest : Option String) (sha256 : List UInt8 → String)
    (s : SyncRun) :
    (∀ (v : CandidateVerifier) (discovered traceId : PyVal) (candidateBytes : Option (List UInt8)),
      (∀ e, v.verify discovered traceId candidateBytes = .error e → e = .abort ∧ v.Interrupted) ∧
        (IsVerified (v.verify discovered traceId candidateBytes) ↔
          v.Verifiable discovered candidateBytes ∧ ∀ d, discovered = .dict d → v.Readable d)) ∧
      (((system (Recorded (Honest expectedDigest sha256))).restrict
          (Using expectedDigest sha256)).Reachable s →
        (∀ i, Honest expectedDigest sha256 (s.service.objects i)) ∧
          Recorded (Honest expectedDigest sha256) s.service.store) := by
  refine ⟨fun v discovered traceId candidateBytes => ⟨fun e he => verify_eq_error he,
    isVerified_iff⟩, fun h => ?_⟩
  obtain ⟨hmemory, hstore⟩ := honest_invariant.holds h
  exact ⟨hmemory.objects, hstore⟩

/-! ### A release -/

/-- The bytes of `foo`. -/
def fooBytes : List UInt8 := [102, 111, 111]

/-- Their digest. -/
def fooDigest : String := "2c26b46b68ffc68ff99b453c1d30413413422d706483bfa0f98a5e886266e7ae"

/-- A verifier that expects them; downloads are interrupted. -/
def fooVerifier : CandidateVerifier where
  expectedDigest := some fooDigest
  sha256 bytes := if bytes = fooBytes then fooDigest else ""
  fetchBytes _ := .error .abort

/-- A release with these assets. -/
def release (assets : List PyVal) : List (PyKey × PyVal) :=
  [(.str "source", .str "test-authority"), (.str "candidate_version", .str "v0.5.0"),
    (.str "authorized", .bool true), (.str "assets", .list assets)]

/-- What the verifier makes of the release without assets. -/
def fooResult : VerificationResult where
  status := .verified
  candidateIdentity := some
    { source := .str "test-authority"
      candidateVersion := .str "v0.5.0"
      traceId := .str "trace-1"
      contentDigest := .str fooDigest }
  digestAlgorithm := some "sha256"
  digest := some fooDigest
  proofReference := some ("expected_digest:" ++ fooDigest)

/-- The providers discover it, and verify the bytes. -/
def fooProviders : Providers where
  discover := some (.ok (.dict (release [])))
  verify := some (.ok (.converted fooResult.toDict))

theorem verify_foo :
    fooVerifier.verify (.dict (release [])) (.str "trace-1") (some fooBytes) = .ok fooResult := rfl

/-- The release is verified. -/
theorem verification_fails_closed_release :
    SaysVerified (((fresh.next startEvent).next (.op (.assign 0 fooProviders))).service.objects 0) ∧
      Backed fooVerifier.expectedDigest fooVerifier.sha256
        (((fresh.next startEvent).next (.op (.assign 0 fooProviders))).service.objects 0) := by
  have hverified : SaysVerified
      (((fresh.next startEvent).next (.op (.assign 0 fooProviders))).service.objects 0) :=
    ⟨rfl, rfl⟩
  have hstart : Using fooVerifier.expectedDigest fooVerifier.sha256 fresh startEvent := trivial
  have husing : Using fooVerifier.expectedDigest fooVerifier.sha256 (fresh.next startEvent)
      (.op (.assign 0 fooProviders)) := by
    intro w hw _ x hx
    obtain rfl : (⟨.sync, 0, none⟩ : Worker) = w := Option.some.inj hw
    obtain rfl : PyVal.dict (release []) = x := Except.ok.inj (Option.some.inj hx)
    refine ⟨_, rfl, fun a ha => ?_⟩
    obtain rfl := Except.ok.inj ha
    exact ⟨fooVerifier, some fooBytes, fooResult, ⟨rfl, rfl⟩, verify_foo, rfl⟩
  exact ⟨hverified, ((verification_fails_closed fooVerifier.expectedDigest fooVerifier.sha256 _).2
    (.step (.step (.init ⟨some [], "v0.4.0", recorded_nil, rfl⟩) ⟨hstart, rfl⟩)
      ⟨husing, rfl⟩)).1 0 hverified⟩

open CandidateVerifier in
/-- With an asset that is no dictionary, the right bytes are an `ERROR`; and a download that is
interrupted leaves the verifier. -/
theorem not_verified_unreadable :
    ¬ (∀ (v : CandidateVerifier) (discovered traceId : PyVal)
        (candidateBytes : Option (List UInt8)),
      IsVerified (v.verify discovered traceId candidateBytes) ↔
        v.Verifiable discovered candidateBytes) ∧
      ¬ ∀ (v : CandidateVerifier) (discovered traceId : PyVal)
        (candidateBytes : Option (List UInt8)),
        ∃ r, v.verify discovered traceId candidateBytes = .ok r := by
  refine ⟨fun h => ?_, fun h => ?_⟩
  · have hverifiable : fooVerifier.Verifiable (.dict (release [.int 1])) (some fooBytes) :=
      ⟨_, rfl, rfl, fooDigest, fooBytes, rfl, by decide, Or.inl rfl, by decide, rfl⟩
    obtain ⟨r, hr, hstatus⟩ := (h fooVerifier _ (.str "trace-1") _).2 hverifiable
    have herror : fooVerifier.verify (.dict (release [.int 1])) (.str "trace-1") (some fooBytes) =
        .ok { status := .error, error := some "VERIFIER_EXCEPTION: AttributeError" } := rfl
    obtain rfl := Except.ok.inj (herror.symm.trans hr)
    cases hstatus
  · let asset : PyVal := .ofMembers [("browser_download_url", .str "https://example.invalid/a")]
    obtain ⟨r, hr⟩ := h fooVerifier (.dict (release [asset])) (.str "trace-1") none
    have habort : fooVerifier.verify (.dict (release [asset])) (.str "trace-1") none =
        .error .abort := rfl
    rw [habort] at hr
    cases hr

end SyncRun

end Sync

end AnnyRuntime
