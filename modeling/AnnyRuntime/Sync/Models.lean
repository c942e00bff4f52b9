import AnnyRuntime.Json.Dataclass
import AnnyRuntime.Json.Sorted
import AnnyRuntime.Json.Torn

/-!
# Records of SYNC transactions

`SyncResult` is what the service keeps of a transaction, in memory and as one line of its log.

* `parseRecord_dumps` : **a line that was written is read as the same record** (`reload`), which is
  written as the same line again (`encode_reload`).
-/

namespace AnnyRuntime

namespace Sync

/-- How far a SYNC transaction is. -/
inductive SyncState where
  | idle
  | syncing
  | verified
  | blocked
  | failed
  | unknown
  | staging
  | staged
  | activating
  | rollingBack
  | rolledBack
  deriving DecidableEq

namespace SyncState

/-- The text of a state. -/
def value : SyncState → String
  | idle => "IDLE"
  | syncing => "SYNCING"
  | verified => "VERIFIED"
  | blocked => "BLOCKED"
  | failed => "FAILED"
  | unknown => "UNKNOWN"
  | staging => "STAGING"
  | staged => "STAGED"
  | activating => "ACTIVATING"
  | rollingBack => "ROLLING_BACK"
  | rolledBack => "ROLLED_BACK"

/-- The states. -/
def all : List SyncState :=
  [idle, syncing, verified, blocked, failed, unknown, staging, staged, activating, rollingBack,
    rolledBack]

/-- `SyncState(j)`, or a `ValueError`. -/
def ofJson? (j : Json) : Option SyncState := all.find? fun s => j = .str s.value

theorem ofJson?_value (s : SyncState) : ofJson? (.str s.value) = some s := by
  cases s <;> rfl

/-- The transaction is in progress. -/
def inProgress : SyncState → Bool
  | syncing | staging | activating | rollingBack => true
  | _ => false

end SyncState

/-- A SYNC transaction.  Its fields hold whatever the providers and the log hold. -/
structure SyncResult where
  (syncId traceId requestedAt : PyVal)
  syncState : SyncState
  stage : PyVal := .str "NONE"
  source : PyVal := .str "UNKNOWN"
  localVersion : PyVal := .str "UNKNOWN"
  candidateVersion : PyVal := .none
  discoveredRevision : PyVal := .none
  comparison : PyVal := .str "UNKNOWN"
  verification : PyVal := .str "UNKNOWN"
  activationPerformed : PyVal := .bool false
  errorClassification : PyVal := .none
  evidenceId : PyVal := .none
  candidateIdentity : PyVal := .none
  digestAlgorithm : PyVal := .none
  digest : PyVal := .none
  proofReference : PyVal := .none
  verifierIdentity : PyVal := .none
  details : PyVal := .dict []

namespace SyncResult

/-- `to_dict`. -/
def toDict (r : SyncResult) : List (String × PyVal) :=
  [("sync_id", r.syncId), ("trace_id", r.traceId), ("requested_at", r.requestedAt),
    ("sync_state", .str r.syncState.value), ("stage", r.stage), ("source", r.source),
    ("local_version", r.localVersion), ("candidate_version", r.candidateVersion),
    ("discovered_revision", r.discoveredRevision), ("comparison", r.comparison),
    ("verification", r.verification), ("activation_performed", r.activationPerformed),
    ("error_classification", r.errorClassification), ("evidence_id", r.evidenceId),
    ("candidate_identity", r.candidateIdentity), ("digest_algorithm", r.digestAlgorithm),
    ("digest", r.digest), ("proof_reference", r.proofReference),
    ("verifier_identity", r.verifierIdentity), ("details", r.details)]

/-- The JSON value that `_persist` writes, unless that raises. -/
def encode (r : SyncResult) : Option Json := (PyVal.ofMembers r.toDict).encodeSorted

/-- The fields of the dataclass. -/
def fields : List Json.Field :=
  [⟨"sync_id", none⟩, ⟨"trace_id", none⟩, ⟨"requested_at", none⟩, ⟨"sync_state", none⟩,
    ⟨"stage", some (.str "NONE")⟩, ⟨"source", some (.str "UNKNOWN")⟩,
    ⟨"local_version", some (.str "UNKNOWN")⟩, ⟨"candidate_version", some .null⟩,
    ⟨"discovered_revision", some .null⟩, ⟨"comparison", some (.str "UNKNOWN")⟩,
    ⟨"verification", some (.str "UNKNOWN")⟩, ⟨"activation_performed", some (.bool false)⟩,
    ⟨"error_classification", some .null⟩, ⟨"evidence_id", some .null⟩,
    ⟨"candidate_identity", some .null⟩, ⟨"digest_algorithm", some .null⟩,
    ⟨"digest", some .null⟩, ⟨"proof_reference", some .null⟩, ⟨"verifier_identity", some .null⟩,
    ⟨"details", some (.obj [])⟩]

/-- The record with these values of its fields, of which the state is given. -/
def ofValues (state : SyncState) : List Json → Option SyncResult
  | [syncId, traceId, requestedAt, _, stage, source, localVersion, candidateVersion,
      discoveredRevision, comparison, verification, activationPerformed, errorClassification,
      evidenceId, candidateIdentity, digestAlgorithm, digest, proofReference, verifierIdentity,
      details] =>
    some
      { syncId := .ofJson syncId
        traceId := .ofJson traceId
        requestedAt := .ofJson requestedAt
        syncState := state
        stage := .ofJson stage
        source := .ofJson source
        localVersion := .ofJson localVersion
        candidateVersion := .ofJson candidateVersion
        discoveredRevision := .ofJson discoveredRevision
        comparison := .ofJson comparison
        verification := .ofJson verification
        activationPerformed := .ofJson activationPerformed
        errorClassification := .ofJson errorClassification
        evidenceId := .ofJson evidenceId
        candidateIdentity := .ofJson candidateIdentity
        digestAlgorithm := .ofJson digestAlgorithm
        digest := .ofJson digest
        proofReference := .ofJson proofReference
        verifierIdentity := .ofJson verifierIdentity
        details := .ofJson details }
  | _ => none

/-- `SyncState(raw["sync_state"])`, unless it raises. -/
def recordedState : Json → Option SyncState
  | .obj raw => (Json.lookup "sync_state" raw).bind SyncState.ofJson?
  | _ => none

/-- The record on a line of the log, unless reading it raises. -/
def parseRecord (line : List Char) : Option SyncResult :=
  match Json.loads line with
  | some (.obj raw) => (recordedState (.obj raw)).bind fun state =>
      (Json.bindKwargs fields raw).bind (ofValues state)
  | _ => none

/-- The record as a later process reads it. -/
def reload (r : SyncResult) : SyncResult where
  syncId := r.syncId.reload
  traceId := r.traceId.reload
  requestedAt := r.requestedAt.reload
  syncState := r.syncState
  stage := r.stage.reload
  source := r.source.reload
  localVersion := r.localVersion.reload
  candidateVersion := r.candidateVersion.reload
  discoveredRevision := r.discoveredRevision.reload
  comparison := r.comparison.reload
  verification := r.verification.reload
  activationPerformed := r.activationPerformed.reload
  errorClassification := r.errorClassification.reload
  evidenceId := r.evidenceId.reload
  candidateIdentity := r.candidateIdentity.reload
  digestAlgorithm := r.digestAlgorithm.reload
  digest := r.digest.reload
  proofReference := r.proofReference.reload
  verifierIdentity := r.verifierIdentity.reload
  details := r.details.reload

variable {r : SyncResult} {j : Json}

/-! ### Reading what was written -/

/-- The members of a written record, as the dataclass has its fields. -/
def members (r : SyncResult) : List (String × Json) := r.toDict.map PyVal.writtenMember

theorem encode_eq_some : r.encode = some j ↔
    (∀ m ∈ r.toDict, m.2.encodeSorted.isSome = true) ∧
      j = .obj (r.members.insertionSort Json.KeyLE) := PyVal.encodeSorted_ofMembers

theorem toDict_reload : r.reload.toDict = r.toDict.map fun m => (m.1, m.2.reload) := rfl

theorem nodup_fields : (fields.map Json.Field.name).Nodup := by decide

theorem members_eq_zip : r.members = Json.zipFields fields (r.members.map Prod.snd) := rfl

theorem ofValues_members : ofValues r.syncState (r.members.map Prod.snd) = some r.reload := rfl

/-- The state of a written record. -/
theorem recordedState_of_encode (h : r.encode = some j) : recordedState j = some r.syncState := by
  obtain ⟨-, rfl⟩ := encode_eq_some.1 h
  have hperm : (r.members.insertionSort Json.KeyLE).Perm r.members := List.perm_insertionSort _ _
  have hnodup : ((r.members.insertionSort Json.KeyLE).map Prod.fst).Nodup :=
    ((hperm.map Prod.fst).nodup_iff).2 nodup_fields
  have hstate : Json.lookup "sync_state" (r.members.insertionSort Json.KeyLE) =
      some (.str r.syncState.value) := by
    refine Json.lookup_of_mem hnodup (hperm.mem_iff.2 ?_)
    exact List.mem_map.2 ⟨("sync_state", .str r.syncState.value), by simp [toDict], rfl⟩
  rw [recordedState, hstate, Option.bind_some, SyncState.ofJson?_value]

/-- **Round trip.**  A line that was written is read as the record. -/
theorem parseRecord_dumps (h : r.encode = some j) : parseRecord (Json.dumps j) = some r.reload := by
  have hstate := recordedState_of_encode h
  obtain ⟨-, rfl⟩ := encode_eq_some.1 h
  have hperm : (r.members.insertionSort Json.KeyLE).Perm r.members := List.perm_insertionSort _ _
  have hbind : Json.bindKwargs fields (r.members.insertionSort Json.KeyLE) =
      some (r.members.map Prod.snd) :=
    Json.bindKwargs_perm nodup_fields rfl (members_eq_zip ▸ hperm)
  rw [recordedState] at hstate
  simp only [parseRecord, Json.loads_dumps, recordedState, hstate, Option.bind_some, hbind,
    ofValues_members]

/-- What was read is written as the same line again. -/
theorem encode_reload (h : r.encode = some j) : r.reload.encode = some j := by
  obtain ⟨hall, rfl⟩ := encode_eq_some.1 h
  have hmembers : r.reload.members = r.members := by
    rw [members, toDict_reload, List.map_map]
    refine List.map_congr_left fun m hm => ?_
    simp only [PyVal.writtenMember, Function.comp_apply, PyVal.encodeSorted_reload (hall m hm)]
  refine encode_eq_some.2 ⟨fun m hm => ?_, by rw [hmembers]⟩
  rw [toDict_reload, List.mem_map] at hm
  obtain ⟨n, hn, rfl⟩ := hm
  rw [PyVal.encodeSorted_reload (hall n hn)]
  exact hall n hn

/-- The first key of a written record starts with a letter. -/
theorem startsWithLetter_of_encode (h : r.encode = some j) :
    ∃ ms, j = .obj ms ∧ Json.startsWithLetter ms = true := by
  obtain ⟨-, rfl⟩ := encode_eq_some.1 h
  refine ⟨_, rfl, ?_⟩
  have hnames : ∀ k ∈ fields.map Json.Field.name, Json.startsWithLetter [(k, .null)] = true := by
    decide
  have hall : ∀ m ∈ r.members, Json.startsWithLetter [m] = true := fun m hm =>
    hnames m.1 (List.mem_map_of_mem (f := Prod.fst) hm)
  cases hsort : r.members.insertionSort Json.KeyLE with
  | nil =>
    have hlen := List.length_insertionSort Json.KeyLE r.members
    rw [hsort] at hlen
    exact absurd hlen (by simp [members, toDict])
  | cons m ms =>
    have hm : m ∈ r.members := (List.mem_insertionSort Json.KeyLE).1 (hsort ▸ List.mem_cons_self)
    exact hall m hm

end SyncResult

end Sync

end AnnyRuntime
