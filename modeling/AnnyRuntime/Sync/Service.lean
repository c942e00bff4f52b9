import AnnyRuntime.Lib.Dict
import AnnyRuntime.Lib.Transition
import AnnyRuntime.Sync.Store

/-!
# The SYNC service

`SyncService` keeps the records of its transactions as objects that it shares with the threads it
starts (`objects`).  Its steps are those that other threads can come between:

* a call (`start`, `stage`, `activate`, `rollback`), which holds the lock and may start a worker;
* an assignment of a worker to `sync_state`, with the assignments to other fields around it, for
  which nobody holds the lock;
* the end of a worker, which holds the lock.

A call and the end of a worker write a record to the log (`written`) when they have changed the
memory (`memory`).  A run (`SyncRun`) also has crashes, which can come in the middle of a write.
-/

namespace AnnyRuntime

namespace Sync

/-! ### The providers -/

/-- What a provider raises. -/
inductive Raised where
  /-- An exception of a class, with its text. -/
  | exception (cls text : String)
  /-- An exception whose `str` raises another one. -/
  | unprintable (cls : String) (e : Raised)
  /-- No `Exception`: it passes the handlers. -/
  | abort

/-- What the verifier returns. -/
inductive Verification where
  /-- Something with a `to_dict`, which returns this. -/
  | converted (v : PyVal)
  /-- Something without. -/
  | plain (v : PyVal)

/-- `verification.to_dict() if hasattr(verification, "to_dict") else (verification or {})`. -/
def Verification.dict : Verification → PyVal
  | converted v => v
  | plain v => if v.truthy then v else .dict []

/-- What the providers do in a transaction, where they are configured. -/
structure Providers where
  discover : Option (Except Raised PyVal)
  verify : Option (Except Raised Verification)
  /-- What `str` raises for an object that has no text. -/
  unprintable : Raised := .abort

/-- `str(v)`. -/
def Providers.str (p : Providers) (v : PyVal) : Except Raised String :=
  match v.pyStr with
  | some s => .ok s
  | none => .error p.unprintable

/-- `v.get(k, default)`. -/
def getD (d : List (PyKey × PyVal)) (k : String) (default : PyVal) : PyVal :=
  (PyVal.get? k d).getD default

/-- What `v.get` raises for something that is no dictionary. -/
def noGet (v : PyVal) : Raised :=
  .exception "AttributeError" ("'" ++ v.typeName ++ "' object has no attribute 'get'")

/-- `str(exc)[:500]`. -/
def shorten (text : String) : PyVal := .str (String.ofList (text.toList.take 500))

/-! ### The worker of a SYNC transaction -/

/-- What a worker assigns to the fields of a result in one step. -/
abbrev Assignment := SyncResult → SyncResult

/-- The handlers of `_run_sync`, after the assignments that were made before. -/
def handle (before : Assignment) : Raised → List Assignment
  | .abort => [before]
  | .unprintable cls _ =>
    -- the text of the error is not formed, and the exception leaves the thread
    [fun r => { before r with
      syncState := .failed, stage := .str "REPORT", errorClassification := .str cls }]
  | .exception cls text =>
    [fun r => { before r with
      syncState := .failed, stage := .str "REPORT", errorClassification := .str cls
      details := .ofMembers [("message", shorten text)] }]

/-- The handler of an exception of the verifier. -/
def verifierFailed (available : Assignment) : Raised → List Assignment
  | .abort => [available]
  | .unprintable _ e =>
    (fun r => { available r with
      syncState := .failed, errorClassification := .str "VERIFIER_EXCEPTION"
      verification := .str "ERROR", stage := .str "REPORT" }) :: handle id e
  | .exception _ text =>
    [fun r => { available r with
      syncState := .failed, errorClassification := .str "VERIFIER_EXCEPTION"
      verification := .str "ERROR", stage := .str "REPORT"
      details := .ofMembers [("message", shorten text), ("activation_performed", .bool false)] }]

/-- What the answer of the verifier says of the candidate. -/
def identified (available : Assignment) (d : List (PyKey × PyVal)) : Assignment := fun r =>
  { available r with
    candidateIdentity := getD d "candidate_identity" .none
    digestAlgorithm := getD d "digest_algorithm" .none
    digest := getD d "digest" .none
    proofReference := getD d "proof_reference" .none
    verifierIdentity := getD d "verifier_identity" .none }

/-- The state of a candidate that the verifier does not accept. -/
def refused (available : Assignment) (d : List (PyKey × PyVal)) : Assignment := fun r =>
  { identified available d r with
    syncState :=
      if (getD d "status" (.str "FAILED")).beq (.str "UNKNOWN") then .unknown else .blocked }

/-- A candidate that the verifier does not accept: the state is assigned before the texts are
formed. -/
def refuse (p : Providers) (available : Assignment) (d : List (PyKey × PyVal)) : List Assignment :=
  match p.str (getD d "status" (.str "FAILED")) with
  | .error e => refused available d :: handle id e
  | .ok verification =>
    match p.str (getD d "error" (.str "CANDIDATE_NOT_VERIFIED")) with
    | .error e =>
      (fun r => { refused available d r with verification := .str verification }) :: handle id e
    | .ok error =>
      [fun r => { refused available d r with
        verification := .str verification
        errorClassification := .str error, stage := .str "REPORT"
        details := .ofMembers [("activation_performed", .bool false)] }]

/-- A candidate that the verifier accepts. -/
def accept (available : Assignment) (d : List (PyKey × PyVal)) : Assignment := fun r =>
  { identified available d r with
    verification := .str "VERIFIED"
    syncState := .verified
    stage := .str "REPORT"
    details := .ofMembers [("activation_performed", .bool false)] }

/-- The candidate is verified. -/
def verifyCandidate (p : Providers) (available : Assignment) : List Assignment :=
  match p.verify with
  | none =>
    [fun r => { available r with
      syncState := .unknown, errorClassification := .str "CANDIDATE_VERIFIER_UNAVAILABLE"
      stage := .str "REPORT" }]
  | some (.error e) => verifierFailed available e
  | some (.ok v) =>
    match v.dict with
    | .dict d =>
      if (getD d "verified" (.bool false)).truthy then [accept available d]
      else refuse p available d
    | other => handle available (noGet other)

/-- What is assigned before the providers are asked. -/
def discovering : Assignment := fun r => { r with stage := .str "DISCOVER" }

/-- What was discovered. -/
def found (source : String) (d : List (PyKey × PyVal)) : Assignment := fun r =>
  { discovering r with
    source := .str source
    discoveredRevision := getD d "revision" .none
    candidateVersion := getD d "candidate_version" .none }

/-- A candidate is available. -/
def available (source : String) (d : List (PyKey × PyVal)) : Assignment := fun r =>
  { found source d r with comparison := .str "CANDIDATE_AVAILABLE", stage := .str "VERIFY" }

/-- The candidate is compared with the local version. -/
def compare (p : Providers) (localVersion : PyVal) (d : List (PyKey × PyVal)) : List Assignment :=
  match p.str (getD d "source" (.str "UNKNOWN")) with
  | .error e => handle discovering e
  | .ok source =>
    let candidate := getD d "candidate_version" .none
    if !(getD d "authorized" (.bool false)).truthy then
      [fun r => { found source d r with
        syncState := .blocked, errorClassification := .str "AUTHORITY_UNVERIFIED"
        stage := .str "REPORT"
        details := .ofMembers
          [("reason", .str "Source was discovered without sufficient authority evidence.")] }]
    else if !candidate.truthy || candidate.beq localVersion then
      [fun r => { found source d r with
        comparison := .str "NO_CHANGE", verification := .str "NOT_REQUIRED"
        syncState := .verified, stage := .str "REPORT"
        details := .ofMembers
          [("reason", .str "No verified candidate requiring change was discovered.")] }]
    else verifyCandidate p (available source d)

/-- `_discover_compare_verify`, and the handlers around it: the steps of the worker. -/
def discoverCompareVerify (p : Providers) (localVersion : PyVal) : List Assignment :=
  match p.discover with
  | none =>
    [fun r => { r with
      syncState := .blocked, source := .str "UNKNOWN"
      errorClassification := .str "AUTHORITATIVE_SOURCE_UNAVAILABLE", stage := .str "REPORT"
      details := .ofMembers
        [("reason", .str "No authoritative discovery provider is configured.")] }]
  | some (.error e) => handle discovering e
  | some (.ok v) =>
    match if v.truthy then v else .dict [] with
    | .dict d => compare p localVersion d
    | other => handle discovering (noGet other)

/-! ### The service -/

/-- What a worker was started for. -/
inductive WorkerKind where
  | sync
  | stage
  | activate
  | rollback
  deriving DecidableEq

/-- The thread of a transaction. -/
structure Worker where
  kind : WorkerKind
  /-- The result that it works on. -/
  result : ℕ
  /-- The steps that are left, once they are known. -/
  todo : Option (List Assignment)

/-- What a new worker is going to do: a SYNC transaction asks its providers first. -/
def WorkerKind.todo : WorkerKind → Option (List Assignment)
  | sync => none
  | stage => some [fun r => { r with syncState := .staged }]
  | activate => some [fun r => { r with
      syncState := .blocked, errorClassification := .str "ACTIVATION_NOT_IMPLEMENTED" }]
  | rollback => some [fun r => { r with
      syncState := .rolledBack, activationPerformed := .bool false }]

/-- The steps that are left. -/
def Worker.remaining (w : Worker) (p : Providers) (localVersion : PyVal) : List Assignment :=
  w.todo.getD (discoverCompareVerify p localVersion)

/-- The service, with the threads that it started and the log that it writes. -/
structure SyncService where
  localVersion : PyVal
  /-- The result of the transaction that is under way. -/
  active : Option ℕ
  latest : Option ℕ
  /-- The results, of which the first `allocated` exist. -/
  objects : ℕ → SyncResult
  allocated : ℕ
  workers : Dict ℕ Worker
  /-- The number of threads that were started. -/
  spawned : ℕ
  /-- The text of the log, unless it is not UTF-8. -/
  store : Option (List Char)

/-- A call. -/
inductive Call where
  | start (syncId traceId requestedAt : String)
  | stage
  | activate
  | rollback

/-- What a call makes of the service before it writes. -/
inductive Entry where
  /-- It is refused, with this response. -/
  | refused (response : List (String × PyVal))
  /-- It starts a worker of this kind for a result, once the result is written. -/
  | entered (service : SyncService) (result : ℕ) (kind : WorkerKind)
    (response : List (String × PyVal))

namespace SyncService

/-- The constructor. -/
def init (store : Option (List Char)) (localVersion : String) : SyncService where
  localVersion := .str localVersion
  active := none
  latest := (loadLatest store).map fun _ => 0
  objects := fun _ => (loadLatest store).getD
    { syncId := .none, traceId := .none, requestedAt := .none, syncState := .idle }
  allocated := if (loadLatest store).isSome then 1 else 0
  workers := .empty
  spawned := 0
  store := store

variable (s : SyncService)

/-- `status`. -/
def status : List (String × PyVal) :=
  match s.active.or s.latest with
  | some i => (s.objects i).toDict
  | none =>
    [("sync_id", .none), ("trace_id", .none), ("requested_at", .none),
      ("sync_state", .str SyncState.idle.value), ("stage", .str "NONE"),
      ("source", .str "UNKNOWN"), ("local_version", s.localVersion),
      ("candidate_version", .none), ("discovered_revision", .none),
      ("comparison", .str "UNKNOWN"), ("verification", .str "UNKNOWN"),
      ("activation_performed", .bool false), ("error_classification", .none),
      ("evidence_id", .none), ("details", .dict [])]

/-- The transaction under way, whatever state it is in. -/
def alreadyRunning (i : ℕ) : List (String × PyVal) :=
  [("status", .str "already_running"), ("sync_state", .str (s.objects i).syncState.value)]

/-- `start` goes ahead: a new result. -/
def started (syncId traceId requestedAt : String) : SyncService :=
  { s with
    objects := Function.update s.objects s.allocated
      { syncId := .str syncId
        traceId := .str traceId
        requestedAt := .str requestedAt
        syncState := .syncing
        localVersion := s.localVersion }
    allocated := s.allocated + 1
    active := some s.allocated }

/-- The latest result is taken up again. -/
def resumed (i : ℕ) (state : SyncState) (stage : String) : SyncService :=
  { s with
    objects := Function.update s.objects i
      { s.objects i with syncState := state, stage := .str stage }
    active := some i }

/-- The guards of `stage`, `activate` and `rollback`: no transaction is under way, and the latest
result is `ready`. -/
def resume (ready : SyncResult → Bool) (error : String) (state : SyncState) (stage status : String)
    (kind : WorkerKind) : Entry :=
  match s.active, s.latest with
  | some i, _ => .refused (s.alreadyRunning i)
  | none, none => .refused [("status", .str "blocked"), ("error", .str error)]
  | none, some i =>
    if ready (s.objects i) then
      .entered (s.resumed i state stage) i kind
        [("status", .str status), ("sync_state", .str state.value),
          ("sync_id", (s.objects i).syncId)]
    else .refused [("status", .str "blocked"), ("error", .str error)]

/-- `start` is refused: the transaction under way is in progress. -/
def busy : Option ℕ := s.active.filter fun i => (s.objects i).syncState.inProgress

/-- What a call does, up to its write. -/
def entry : Call → Entry
  | .start syncId traceId requestedAt =>
    match s.busy with
    | some i => .refused (s.alreadyRunning i ++
        [("sync_id", (s.objects i).syncId), ("trace_id", (s.objects i).traceId)])
    | none =>
      .entered (s.started syncId traceId requestedAt) s.allocated .sync
        [("status", .str "started"), ("sync_state", .str SyncState.syncing.value),
          ("sync_id", .str syncId), ("trace_id", .str traceId)]
  | .stage => s.resume (fun r => r.syncState = .verified)
      "Cannot stage without a VERIFIED candidate" .staging "STAGE" "staging" .stage
  | .activate => s.resume (fun r => r.syncState = .staged)
      "Cannot activate without a STAGED candidate" .activating "ACTIVATE" "activating" .activate
  | .rollback => s.resume (fun r => r.activationPerformed.truthy)
      "Cannot rollback when not activated" .rollingBack "ROLLBACK" "rolling_back" .rollback

/-- A thread is started. -/
def spawn (i : ℕ) (kind : WorkerKind) : SyncService :=
  { s with workers := s.workers.set s.spawned ⟨kind, i, kind.todo⟩, spawned := s.spawned + 1 }

/-- A rolled back transaction sets the local version, if it has one. -/
def adoptVersion (w : Worker) : SyncService :=
  if w.kind = .rollback ∧ (s.objects w.result).localVersion.truthy = true then
    { s with localVersion := (s.objects w.result).localVersion }
  else s

/-- A worker takes a step. -/
def assigned (k : ℕ) (w : Worker) (a : Assignment) (rest : List Assignment) : SyncService :=
  adoptVersion { s with
    objects := Function.update s.objects w.result (a (s.objects w.result))
    workers := s.workers.set k { w with todo := some rest } } w

/-- A worker ends. -/
def cleanup (k : ℕ) (w : Worker) : SyncService :=
  { s with
    active := none
    latest := if w.kind = .sync then some w.result else s.latest
    workers := s.workers.erase k }

end SyncService

/-- A step of the service or of one of its workers. -/
inductive Op where
  | call (c : Call)
  /-- The worker takes its next step; the providers do this if they are asked in it. -/
  | assign (k : ℕ) (p : Providers)
  /-- The worker, which has no steps left, ends. -/
  | finish (k : ℕ)

namespace SyncService

variable (s : SyncService)

/-- The memory after a step. -/
def memory : Op → SyncService
  | .call c =>
    match s.entry c with
    | .refused _ => s
    | .entered t i kind _ =>
      -- no thread is started when the write raises
      if (t.objects i).encode.isSome then t.spawn i kind else t
  | .assign k p =>
    match s.workers.get? k with
    | none => s
    | some w =>
      match w.remaining p s.localVersion with
      | [] => s
      | a :: rest => s.assigned k w a rest
  | .finish k =>
    match s.workers.get? k with
    | some ⟨kind, i, some []⟩ => s.cleanup k ⟨kind, i, some []⟩
    | _ => s

/-- The record that a step writes. -/
def written : Op → Option Json
  | .call c =>
    match s.entry c with
    | .refused _ => none
    | .entered t i _ _ => (t.objects i).encode
  | .assign _ _ => none
  | .finish k =>
    match s.workers.get? k with
    | some ⟨_, i, some []⟩ => (s.objects i).encode
    | _ => none

/-- What a call returns, unless writing the result raises. -/
def response (c : Call) : Option (List (String × PyVal)) :=
  match s.entry c with
  | .refused r => some r
  | .entered t i _ r => if (t.objects i).encode.isSome then some r else none

/-- What a step appends to the log. -/
def appended (op : Op) : List Char := ((s.written op).map recordLine).getD []

/-- A step. -/
def next (op : Op) : SyncService :=
  { s.memory op with store := s.store.map (· ++ s.appended op) }

/-- The service after a crash in the middle of a step, of whose line `n` characters were written. -/
def crash (op : Op) (n : ℕ) (localVersion : String) : SyncService :=
  .init (s.store.map (· ++ (s.appended op).take n)) localVersion

end SyncService

/-! ### What a step does -/

namespace SyncService

variable {s : SyncService}

theorem resume_eq_entered {ready : SyncResult → Bool} {error : String} {state : SyncState}
    {stage status : String} {kind k : WorkerKind} {t : SyncService} {i : ℕ}
    {response : List (String × PyVal)}
    (h : s.resume ready error state stage status k = .entered t i kind response) :
    s.active = none ∧ s.latest = some i ∧ t = s.resumed i state stage ∧ kind = k ∧
      ready (s.objects i) = true := by
  unfold resume at h
  split at h
  · cases h
  · cases h
  · rename_i hactive hlatest
    split_ifs at h with hready
    cases h
    exact ⟨hactive, hlatest, rfl, rfl, hready⟩

/-- A call that goes ahead starts a transaction, or takes the latest result up again. -/
theorem entry_eq_entered {c : Call} {t : SyncService} {i : ℕ} {kind : WorkerKind}
    {response : List (String × PyVal)} (h : s.entry c = .entered t i kind response) :
    (∃ syncId traceId requestedAt, c = .start syncId traceId requestedAt ∧ s.busy = none ∧
        t = s.started syncId traceId requestedAt ∧ i = s.allocated ∧ kind = .sync) ∨
      s.active = none ∧ s.latest = some i ∧ ∃ state stage, t = s.resumed i state stage ∧
        ((c = .stage ∧ kind = .stage ∧ state = .staging ∧
            (s.objects i).syncState = .verified) ∨
          (c = .activate ∧ kind = .activate ∧ state = .activating ∧
            (s.objects i).syncState = .staged) ∨
          (c = .rollback ∧ kind = .rollback ∧ state = .rollingBack ∧
            (s.objects i).activationPerformed.truthy = true)) := by
  cases c with
  | start syncId traceId requestedAt =>
    simp only [entry] at h
    split at h
    · cases h
    · rename_i hbusy
      cases h
      exact Or.inl ⟨syncId, traceId, requestedAt, rfl, hbusy, rfl, rfl, rfl⟩
  | stage =>
    -- the other three share one guard, and differ in the state that they ask for
    rw [entry] at h
    obtain ⟨ha, hl, ht, hk, hready⟩ := resume_eq_entered h
    exact Or.inr ⟨ha, hl, _, _, ht, Or.inl ⟨rfl, hk, rfl, of_decide_eq_true hready⟩⟩
  | activate =>
    rw [entry] at h
    obtain ⟨ha, hl, ht, hk, hready⟩ := resume_eq_entered h
    exact Or.inr ⟨ha, hl, _, _, ht, Or.inr (Or.inl ⟨rfl, hk, rfl, of_decide_eq_true hready⟩)⟩
  | rollback =>
    rw [entry] at h
    obtain ⟨ha, hl, ht, hk, hready⟩ := resume_eq_entered h
    exact Or.inr ⟨ha, hl, _, _, ht, Or.inr (Or.inr ⟨rfl, hk, rfl, hready⟩)⟩

/-- A call is refused, or goes ahead; then it starts a worker, unless its write raises. -/
theorem memory_call (c : Call) :
    (s.memory (.call c) = s ∧ s.written (.call c) = none) ∨
      ∃ t i kind response, s.entry c = .entered t i kind response ∧
        s.written (.call c) = (t.objects i).encode ∧
        (((t.objects i).encode = none ∧ s.memory (.call c) = t) ∨
          ((t.objects i).encode.isSome = true ∧ s.memory (.call c) = t.spawn i kind)) := by
  cases he : s.entry c with
  | refused response => exact Or.inl ⟨by simp only [memory, he], by simp only [written, he]⟩
  | entered t i kind response =>
    refine Or.inr ⟨t, i, kind, response, rfl, by simp only [written, he], ?_⟩
    cases hj : (t.objects i).encode with
    | none => exact Or.inl ⟨rfl, by simp [memory, he, hj]⟩
    | some j => exact Or.inr ⟨rfl, by simp [memory, he, hj]⟩

theorem memory_assign (k : ℕ) (p : Providers) :
    s.memory (.assign k p) = s ∨ ∃ w a rest, s.workers.get? k = some w ∧
      w.remaining p s.localVersion = a :: rest ∧
      s.memory (.assign k p) = s.assigned k w a rest := by
  cases hw : s.workers.get? k with
  | none => exact Or.inl (by simp only [memory, hw])
  | some w =>
    cases hr : w.remaining p s.localVersion with
    | nil => exact Or.inl (by simp only [memory, hw, hr])
    | cons a rest => exact Or.inr ⟨w, a, rest, rfl, hr, by simp only [memory, hw, hr]⟩

theorem memory_finish (k : ℕ) :
    (s.memory (.finish k) = s ∧ s.written (.finish k) = none) ∨
      ∃ w, s.workers.get? k = some w ∧ w.todo = some [] ∧
        s.memory (.finish k) = s.cleanup k w ∧
        s.written (.finish k) = (s.objects w.result).encode := by
  match hw : s.workers.get? k with
  | none => exact Or.inl ⟨by simp only [memory, hw], by simp only [written, hw]⟩
  | some ⟨kind, i, none⟩ => exact Or.inl ⟨by simp only [memory, hw], by simp only [written, hw]⟩
  | some ⟨kind, i, some (a :: rest)⟩ =>
    exact Or.inl ⟨by simp only [memory, hw], by simp only [written, hw]⟩
  | some ⟨kind, i, some []⟩ =>
    exact Or.inr ⟨⟨kind, i, some []⟩, rfl, rfl, by simp only [memory, hw],
      by simp only [written, hw]⟩

theorem adoptVersion_eq (w : Worker) :
    s.adoptVersion w = s ∨ w.kind = .rollback ∧
      s.adoptVersion w = { s with localVersion := (s.objects w.result).localVersion } := by
  unfold adoptVersion
  split_ifs with h
  · exact Or.inr ⟨h.1, rfl⟩
  · exact Or.inl rfl

section Assigned

variable (k : ℕ) (w : Worker) (a : Assignment) (rest : List Assignment)

@[simp] theorem active_assigned : (s.assigned k w a rest).active = s.active := by
  rcases adoptVersion_eq w with h | ⟨-, h⟩ <;> rw [assigned, h]

@[simp] theorem latest_assigned : (s.assigned k w a rest).latest = s.latest := by
  rcases adoptVersion_eq w with h | ⟨-, h⟩ <;> rw [assigned, h]

@[simp] theorem allocated_assigned : (s.assigned k w a rest).allocated = s.allocated := by
  rcases adoptVersion_eq w with h | ⟨-, h⟩ <;> rw [assigned, h]

@[simp] theorem objects_assigned : (s.assigned k w a rest).objects =
    Function.update s.objects w.result (a (s.objects w.result)) := by
  rcases adoptVersion_eq w with h | ⟨-, h⟩ <;> rw [assigned, h]

@[simp] theorem workers_assigned : (s.assigned k w a rest).workers =
    s.workers.set k { w with todo := some rest } := by
  rcases adoptVersion_eq w with h | ⟨-, h⟩ <;> rw [assigned, h]

theorem localVersion_assigned (h : w.kind ≠ .rollback) :
    (s.assigned k w a rest).localVersion = s.localVersion := by
  rw [assigned, adoptVersion, if_neg fun hr => h hr.1]

end Assigned

end SyncService

/-! ### Runs -/

/-- A service, and what happened to it. -/
structure SyncRun where
  service : SyncService
  /-- The result of the SYNC transaction that the process started last. -/
  lastStarted : Option ℕ := none
  /-- The record that was completely written last. -/
  lastComplete : Option Json := none

/-- An event of a run. -/
inductive Event where
  | op (o : Op)
  /-- The process dies in a step, of whose line it has written `n` characters, and is started
  again. -/
  | crash (o : Op) (n : ℕ) (localVersion : String)

namespace SyncRun

variable (s : SyncRun)

/-- The result of the SYNC transaction that a step starts. -/
def startedBy : Op → Option ℕ
  | .call (.start syncId traceId requestedAt) =>
    match s.service.entry (.start syncId traceId requestedAt) with
    | .entered t i _ _ => if (t.objects i).encode.isSome then some i else none
    | .refused _ => none
  | _ => none

/-- The record that was completely written last, when a step has written `n` characters. -/
def complete (op : Op) (n : ℕ) : Option Json :=
  match s.service.written op with
  | some j => lastWritten s.lastComplete j ((recordLine j).take n)
  | none => s.lastComplete

/-- An event. -/
def next : Event → SyncRun
  | .op o =>
    { service := s.service.next o
      lastStarted := (s.startedBy o).or s.lastStarted
      lastComplete := (s.service.written o).or s.lastComplete }
  | .crash o n localVersion =>
    { service := s.service.crash o n localVersion
      lastComplete := s.complete o n }

/-- The runs of a service that starts with a log of these. -/
def system (stores : Option (List Char) → Prop) : System SyncRun Event :=
  .ofFn (fun s => ∃ store localVersion, stores store ∧ s = { service := .init store localVersion })
    fun s e => some (s.next e)

end SyncRun

end Sync

end AnnyRuntime
