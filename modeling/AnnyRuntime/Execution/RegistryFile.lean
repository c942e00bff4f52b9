import AnnyRuntime.Execution.RegistryData
import AnnyRuntime.Lib.Transition

/-!
# The file of the model registry

A registry that cannot be loaded is moved to quarantine, and a marker blocks every later
construction until an attested restore removes it.  A construction that finds neither a registry
nor a marker is taken for the first one, and bootstraps the initial models.

A call is the list of what it does to the files (`FileOp`); a crash cuts the list, within a write
or between two operations.  Moving the registry away and creating the marker are two operations, so
a crash between them leaves neither, and the next construction bootstraps
(`bootstraps_after_crash`).
-/

namespace AnnyRuntime

namespace Execution

/-! ### The files -/

/-- The files of a registry. -/
structure RegistryFiles where
  /-- The registry, at the storage path. -/
  storage : Option ByteArray := none
  /-- The marker of a recovery that is pending. -/
  marker : Option ByteArray := none
  /-- What was moved to quarantine, by its absolute path. -/
  quarantine : Dict String ByteArray := Dict.empty
  /-- The records of finished recoveries, by the id of the recovery. -/
  recoveryRecords : Dict String ByteArray := Dict.empty
  deriving DecidableEq

/-- One operation on the files. -/
inductive FileOp where
  /-- The registry is replaced, at once. -/
  | replaceStorage (content : ByteArray)
  /-- The registry is moved to quarantine, at once. -/
  | moveToQuarantine (path : String)
  /-- The marker is opened for writing, which creates it or empties it. -/
  | openMarker
  | writeMarker (text : List Char)
  /-- The marker is removed. -/
  | unlinkMarker
  /-- The record of a recovery is opened for writing. -/
  | openRecord (recoveryId : String)
  | writeRecord (recoveryId : String) (text : List Char)
  deriving DecidableEq

namespace RegistryFiles

/-- The files after an operation. -/
def apply (fs : RegistryFiles) : FileOp → RegistryFiles
  | .replaceStorage content => { fs with storage := some content }
  | .moveToQuarantine path =>
    match fs.storage with
    | some content => { fs with storage := none, quarantine := fs.quarantine.set path content }
    | none => fs
  | .openMarker => { fs with marker := some ByteArray.empty }
  | .writeMarker text => { fs with marker := some (Text.encode text) }
  | .unlinkMarker => { fs with marker := none }
  | .openRecord recoveryId =>
    { fs with recoveryRecords := fs.recoveryRecords.set recoveryId ByteArray.empty }
  | .writeRecord recoveryId text =>
    { fs with recoveryRecords := fs.recoveryRecords.set recoveryId (Text.encode text) }

/-- The operation up to a crash within it: a write leaves its first characters, and everything else
happens at once or not at all. -/
def tear (n : ℕ) : FileOp → List FileOp
  | .writeMarker text => [.writeMarker (text.take n)]
  | .writeRecord recoveryId text => [.writeRecord recoveryId (text.take n)]
  | _ => []

/-- Where a call crashes: after so many operations, and so far into the next one. -/
structure Cut where
  after : ℕ
  into : ℕ := 0
  deriving DecidableEq

/-- The operations that are done before a crash, or all of them. -/
def cutOps (ops : List FileOp) : Option Cut → List FileOp
  | none => ops
  | some cut => ops.take cut.after ++ ((ops.drop cut.after).head?.map (tear cut.into)).getD []

/-- The files after the operations of a call. -/
def applyAll (fs : RegistryFiles) (ops : List FileOp) : RegistryFiles := ops.foldl apply fs

end RegistryFiles

/-! ### Constructing -/

section Calls

open RegistryFiles

/-- Where the registry is, the hash of a content, and the absolute form of a path. -/
structure Platform where
  storagePath : String
  sha256 : ByteArray → String
  abspath : String → String

/-- What handling a corrupted registry takes from the outside. -/
structure Corruption where
  /-- The time, as text and in seconds. -/
  timestamp : String
  seconds : ℕ
  /-- What loading raised. -/
  error : String
  /-- Moving the file fails. -/
  moveFails : Bool := false
  deriving DecidableEq

/-- How a construction ends. -/
inductive Constructed where
  /-- It raises `RegistryRecoveryRequired`. -/
  | recoveryRequired
  /-- The registry was loaded. -/
  | loaded (data : RegistryData)
  /-- The initial models were registered. -/
  | bootstrapped

/-- The path that a corrupted registry is moved to. -/
def Platform.quarantinePath (p : Platform) (c : Corruption) : String :=
  p.storagePath ++ ".quarantine." ++ toString c.seconds

/-- The marker of a corrupted registry. -/
def recoveryMarker (p : Platform) (c : Corruption) (content : ByteArray) : Json :=
  .obj
    [("version", .str "1.0"),
      ("state", .str "BLOCKED_OR_UNKNOWN"),
      ("original_registry_path", .str p.storagePath),
      ("quarantine_path", .str (p.quarantinePath c)),
      ("original_sha256", .str (p.sha256 content)),
      ("recovery_timestamp", .str c.timestamp),
      ("recovery_reason", .str ("CORRUPTED_REGISTRY: " ++ c.error)),
      ("reconstruction_required", .bool true),
      ("verification_required", .bool true)]

/-- What is done to a registry that cannot be loaded. -/
def corruptionOps (p : Platform) (c : Corruption) (content : ByteArray) : List FileOp :=
  if c.moveFails then []
  else
    [.moveToQuarantine (p.abspath (p.quarantinePath c)), .openMarker,
      .writeMarker (Json.dumpsIndent 0 (recoveryMarker p c content))]

/-- The registries that a bootstrap saves: after each model, after each binding, and once more. -/
def bootstrapRegistries : List ModelRegistry :=
  let withModels := (ModelRegistry.empty.put ModelRegistry.qwen).put ModelRegistry.luna
  [ModelRegistry.empty.put ModelRegistry.qwen, withModels] ++
    (List.range ModelRegistry.initialBindings.length).map (fun n =>
      (ModelRegistry.initialBindings.take (n + 1)).foldl ModelRegistry.addBinding withModels) ++
    [ModelRegistry.bootstrap]

/-- What a bootstrap does. -/
def bootstrapOps : List FileOp :=
  bootstrapRegistries.map fun r =>
    .replaceStorage (serializeData (RegistryData.ofRegistry r).build)

/-- `ModelRegistry(storage_path)`: how it ends, and what it does. -/
def construct (p : Platform) (fs : RegistryFiles) (c : Corruption) :
    Constructed × List FileOp :=
  if fs.marker.isSome then (.recoveryRequired, [])
  else
    match fs.storage with
    | some content =>
      match loadRegistry content with
      | some data => (.loaded data, [])
      | none => (.recoveryRequired, corruptionOps p c content)
    | none => (.bootstrapped, bootstrapOps)

/-- A construction would bootstrap the initial models. -/
def Bootstraps (p : Platform) (fs : RegistryFiles) (c : Corruption) : Prop :=
  (construct p fs c).1 = .bootstrapped

/-! ### Restoring -/

/-- An external authorization to restore a registry. -/
structure RecoveryAttestation where
  (recoveryId sourceRegistryHash quarantineReference authorityRef authorityDecision : String)
  sourceEvidenceIds : List String
  reconstructedRegistryDigest : String
  registryPayload : List (String × Json)
  verificationEvidenceIds : List String
  recoveryTimestamp : String
  deriving DecidableEq

/-- A character of a recovery id. -/
def isIdChar (c : Char) : Bool :=
  c.isAlphanum || c = '.' || c = '_' || c = '-'

/-- The id of a recovery can be part of a file name. -/
def validRecoveryId (id : String) : Bool :=
  1 ≤ id.length && id.length ≤ 128 && id.toList.all isIdChar

/-- All parts of the attestation are there. -/
def RecoveryAttestation.isComplete (a : RecoveryAttestation) : Bool :=
  [a.recoveryId, a.sourceRegistryHash, a.quarantineReference, a.authorityRef, a.authorityDecision,
    a.reconstructedRegistryDigest, a.recoveryTimestamp].all (· ≠ "") &&
  a.registryPayload ≠ [] && a.sourceEvidenceIds ≠ [] && a.verificationEvidenceIds ≠ []

/-- The marker fits the attestation, and the quarantined file fits both. -/
def markerFits (p : Platform) (fs : RegistryFiles) (a : RecoveryAttestation)
    (marker : List (String × Json)) : Bool :=
  Json.lookup "state" marker = some (.str "BLOCKED_OR_UNKNOWN") &&
  Json.lookup "original_sha256" marker = some (.str a.sourceRegistryHash) &&
  match (Json.lookup "quarantine_path" marker).getD (.str "") with
  | .str q =>
    p.abspath a.quarantineReference = p.abspath q &&
      (fs.quarantine.get? (p.abspath a.quarantineReference)).any fun content =>
        p.sha256 content = a.sourceRegistryHash
  | _ => false

/-- The record of a finished recovery. -/
def recoveryRecord (p : Platform) (a : RecoveryAttestation) (digest : String) : Json :=
  .obj
    [("version", .str "1.0"),
      ("state", .str "RESTORED_VERIFIED"),
      ("recovery_id", .str a.recoveryId),
      ("source_registry_hash", .str a.sourceRegistryHash),
      ("quarantine_reference", .str (p.abspath a.quarantineReference)),
      ("authority_ref", .str a.authorityRef),
      ("authority_decision", .str a.authorityDecision),
      ("source_evidence_ids", .ofStrings a.sourceEvidenceIds),
      ("verification_evidence_ids", .ofStrings a.verificationEvidenceIds),
      ("reconstructed_registry_digest", .str digest),
      ("recovery_timestamp", .str a.recoveryTimestamp)]

/-- What the marker says, unless it cannot be read. -/
def readMarker (fs : RegistryFiles) : Option (List (String × Json)) :=
  match (fs.marker.bind Text.decode).bind Json.loads with
  | some (.obj ms) => some ms
  | _ => none

/-- `restore_from_attestation`, on a registry that was opened for recovery; `verdict` is what the
authority verifier answers, unless it raises.  The result is what it does to the files, or nothing
when a check raises. -/
def restoreFromAttestation (p : Platform) (fs : RegistryFiles) (a : RecoveryAttestation)
    (verdict : Option Bool) : Option (List FileOp) := do
  guard (validRecoveryId a.recoveryId)
  let marker ← readMarker fs
  guard (a.isComplete ∧ a.authorityDecision = "APPROVE_RESTORE")
  guard (markerFits p fs a marker)
  guard (verdict = some true)
  let candidate ← Json.loads (Json.dumps (.obj a.registryPayload))
  let _ ← RegistryData.load candidate
  let serialized := serializeData candidate
  let digest := p.sha256 serialized
  guard (digest = a.reconstructedRegistryDigest)
  return [.replaceStorage serialized, .openRecord a.recoveryId,
    .writeRecord a.recoveryId (Json.dumpsIndent 0 (recoveryRecord p a digest)), .unlinkMarker]

/-! ### Runs -/

/-- A call, and where it crashes. -/
inductive RegistryCall where
  | construct (c : Corruption) (cut : Option Cut)
  | restore (a : RecoveryAttestation) (verdict : Option Bool) (cut : Option Cut)

/-- The files after a call. -/
def afterCall (p : Platform) (fs : RegistryFiles) : RegistryCall → RegistryFiles
  | .construct c cut => fs.applyAll (cutOps (construct p fs c).2 cut)
  | .restore a verdict cut =>
    fs.applyAll (cutOps ((restoreFromAttestation p fs a verdict).getD []) cut)

/-- The registry cannot be loaded. -/
def Corrupted (fs : RegistryFiles) : Prop := ∃ content, fs.storage = some content ∧
  loadRegistry content = none

/-- All sequences of calls, from a registry that cannot be loaded on. -/
def registrySystem (p : Platform) : System RegistryFiles RegistryCall :=
  .ofFn Corrupted fun fs call => some (afterCall p fs call)

/-! ### What blocks a bootstrap -/

variable {p : Platform} {fs : RegistryFiles}

/-- A bootstrap needs the absence of both files. -/
theorem bootstraps_iff (c : Corruption) :
    Bootstraps p fs c ↔ fs.marker = none ∧ fs.storage = none := by
  unfold Bootstraps construct
  cases fs.marker with
  | some m => simp
  | none =>
    cases fs.storage with
    | none => simp
    | some content =>
      cases h : loadRegistry content <;> simp [h]

/-- The marker or the registry is there. -/
def Blocked (fs : RegistryFiles) : Prop := fs.marker.isSome = true ∨ fs.storage.isSome = true

theorem blocked_iff (c : Corruption) : Blocked fs ↔ ¬ Bootstraps p fs c := by
  rw [bootstraps_iff, Blocked]
  cases fs.marker <;> cases fs.storage <;> simp

/-- Handling a corrupted registry is cut between the move and the creation of the marker. -/
def CutInBetween (fs : RegistryFiles) : RegistryCall → Prop
  | .construct c (some cut) =>
    fs.marker = none ∧ Corrupted fs ∧ c.moveFails = false ∧ cut.after = 1
  | _ => False

theorem cutOps_nil (cut : Option Cut) : cutOps [] cut = [] := by
  cases cut with
  | none => rfl
  | some cut => simp [cutOps]

theorem cutOps_cons_succ (op : FileOp) (ops : List FileOp) (k n : ℕ) :
    cutOps (op :: ops) (some ⟨k + 1, n⟩) = op :: cutOps ops (some ⟨k, n⟩) := rfl

/-- The operation does not take the registry away. -/
def KeepsStorage (op : FileOp) : Prop := ∀ path, op ≠ .moveToQuarantine path

theorem isSome_storage_apply {op : FileOp} (hop : KeepsStorage op)
    (h : fs.storage.isSome = true) : (fs.apply op).storage.isSome = true := by
  cases op with
  | moveToQuarantine path => exact absurd rfl (hop path)
  | replaceStorage content => rfl
  | openMarker | writeMarker text | unlinkMarker | openRecord id | writeRecord id text => exact h

theorem isSome_storage_applyAll (fs : RegistryFiles) {ops : List FileOp}
    (hops : ∀ op ∈ ops, KeepsStorage op) (h : fs.storage.isSome = true) :
    (fs.applyAll ops).storage.isSome = true := by
  induction ops generalizing fs with
  | nil => exact h
  | cons op ops ih =>
    exact ih _ (fun op' h' => hops op' (List.mem_cons_of_mem op h'))
      (isSome_storage_apply (hops op List.mem_cons_self) h)

theorem keepsStorage_tear {op : FileOp} {n : ℕ} : ∀ op' ∈ tear n op, KeepsStorage op' := by
  intro op' h path
  cases op <;> simp only [tear, List.mem_singleton, List.not_mem_nil] at h <;> simp [h]

theorem keepsStorage_cutOps {ops : List FileOp} (hops : ∀ op ∈ ops, KeepsStorage op)
    (cut : Option Cut) : ∀ op ∈ cutOps ops cut, KeepsStorage op := by
  cases cut with
  | none => exact hops
  | some cut =>
    intro op hop
    rcases List.mem_append.1 hop with hop | hop
    · exact hops op (List.mem_of_mem_take hop)
    · cases hd : (ops.drop cut.after).head? with
      | none => simp [hd] at hop
      | some op' =>
        rw [hd] at hop
        exact keepsStorage_tear op hop

/-- Operations that begin by saving the registry leave one, wherever they are cut. -/
theorem blocked_applyAll_replace {content : ByteArray} {ops : List FileOp}
    (hops : ∀ op ∈ ops, KeepsStorage op) (h : Blocked fs) (cut : Option Cut) :
    Blocked (fs.applyAll (cutOps (.replaceStorage content :: ops) cut)) := by
  have hall : ∀ ops', (∀ op ∈ ops', KeepsStorage op) →
      Blocked (fs.applyAll (.replaceStorage content :: ops')) := fun ops' h' =>
    Or.inr (isSome_storage_applyAll (fs.apply (.replaceStorage content)) h' rfl)
  cases cut with
  | none => exact hall ops hops
  | some cut =>
    obtain ⟨_ | k, n⟩ := cut
    · exact h
    · rw [cutOps_cons_succ]
      exact hall _ (keepsStorage_cutOps hops _)

theorem blocked_restore {a : RecoveryAttestation} {verdict : Option Bool} {cut : Option Cut}
    (h : Blocked fs) : Blocked (afterCall p fs (.restore a verdict cut)) := by
  cases hr : restoreFromAttestation p fs a verdict with
  | none =>
    rw [afterCall, hr, Option.getD_none, cutOps_nil]
    exact h
  | some ops =>
    obtain ⟨content, id, text, rfl⟩ : ∃ content id text,
        ops = [.replaceStorage content, .openRecord id, .writeRecord id text, .unlinkMarker] := by
      unfold restoreFromAttestation at hr
      simp only [Option.bind_eq_bind, Option.bind_eq_some_iff, Option.pure_def] at hr
      obtain ⟨-, -, marker, -, -, -, -, -, -, -, candidate, -, -, -, -, -, h⟩ := hr
      exact ⟨_, _, _, (Option.some.inj h).symm⟩
    rw [afterCall, hr]
    refine blocked_applyAll_replace ?_ h cut
    simp [KeepsStorage]

/-- Cutting the handling of a corrupted registry: only after the move, and before the marker, is
neither file there. -/
theorem blocked_corruption {c : Corruption} {content : ByteArray} {cut : Option Cut}
    (hm : fs.marker = none) (hs : fs.storage = some content) :
    Blocked (fs.applyAll (cutOps (corruptionOps p c content) cut)) ↔
      ¬ (c.moveFails = false ∧ ∃ n, cut = some ⟨1, n⟩) := by
  have hfs : Blocked fs := Or.inr (by rw [hs]; rfl)
  unfold corruptionOps
  by_cases hf : c.moveFails = true
  · rw [if_pos hf, cutOps_nil]
    exact iff_of_true hfs (by simp [hf])
  · rw [if_neg hf]
    cases cut with
    | none => exact iff_of_true (Or.inl rfl) (by simp)
    | some cut =>
      obtain ⟨_ | _ | _ | k, n⟩ := cut
      · exact iff_of_true hfs (by simp)
      · refine iff_of_false ?_ (by simpa using hf)
        simp [cutOps, tear, applyAll, RegistryFiles.apply, hs, Blocked, hm]
      · exact iff_of_true (Or.inl rfl) (by simp)
      · refine iff_of_true (Or.inl ?_) (by simp)
        simp [cutOps, applyAll, RegistryFiles.apply]

/-- A construction takes the blocking files away exactly when it is cut in between. -/
theorem blocked_construct {c : Corruption} {cut : Option Cut} (h : Blocked fs) :
    Blocked (afterCall p fs (.construct c cut)) ↔ ¬ CutInBetween fs (.construct c cut) := by
  have hcut : CutInBetween fs (.construct c cut) ↔
      fs.marker = none ∧ Corrupted fs ∧ c.moveFails = false ∧ ∃ n, cut = some ⟨1, n⟩ := by
    cases cut with
    | none => simp [CutInBetween]
    | some cut =>
      obtain ⟨k, n⟩ := cut
      simp [CutInBetween]
  rw [hcut, afterCall]
  unfold construct
  -- with a marker or a readable file nothing is written
  cases hm : fs.marker with
  | some m =>
    simp only [Option.isSome_some, if_true, cutOps_nil]
    exact iff_of_true h (by simp)
  | none =>
    simp only [Option.isSome_none, Bool.false_eq_true, if_false]
    cases hs : fs.storage with
    | none => simp [Blocked, hm, hs] at h
    | some content =>
      cases hl : loadRegistry content with
      | some data =>
        simp only [hl, cutOps_nil]
        exact iff_of_true h (by simp [Corrupted, hs, hl])
      | none =>
        simp only [hl]
        rw [blocked_corruption hm hs]
        simp [Corrupted, hs, hl]

theorem blocked_afterCall (call : RegistryCall) (h : Blocked fs) :
    Blocked (afterCall p fs call) ↔ ¬ CutInBetween fs call := by
  cases call with
  | construct c cut => exact blocked_construct h
  | restore a verdict cut => exact iff_of_true (blocked_restore h) id

theorem blocked_invariant (p : Platform) :
    ((registrySystem p).restrict fun fs call => ¬ CutInBetween fs call).Invariant Blocked where
  init fs h := by
    obtain ⟨content, hc, -⟩ := h
    exact Or.inr (by rw [hc]; rfl)
  step fs call fs' h hstep := by
    obtain rfl := Option.some.inj hstep.2
    exact (blocked_afterCall call h).2 hstep.1

/-- **No bootstrap after corruption.**  Take any files on which a construction does not bootstrap,
and any construction or restore, wherever it crashes: a construction bootstraps after it exactly
when it handled a corrupted registry and crashed after the move and before the marker was created.
And in every run, from a registry that cannot be loaded on, in which no call crashes there, no
construction ever bootstraps. -/
theorem no_bootstrap_iff (p : Platform) :
    (∀ fs call c, ¬ Bootstraps p fs c →
      (Bootstraps p (afterCall p fs call) c ↔ CutInBetween fs call)) ∧
    ∀ fs, ((registrySystem p).restrict fun fs call => ¬ CutInBetween fs call).Reachable fs →
      ∀ c, ¬ Bootstraps p fs c := by
  refine ⟨fun fs call c h => ?_, fun fs hfs c => ?_⟩
  · rw [← not_iff_not, ← blocked_iff, blocked_afterCall call ((blocked_iff c).2 h)]
  · exact (blocked_iff c).1 ((blocked_invariant p).holds hfs)

/-! ### A crash in between -/

/-- A platform that knows the hash of the one content below. -/
def plainPlatform : Platform where
  storagePath := "/data/registry/models.json"
  sha256 _ := "021fb596db81e6d02bf3d2586ee3981fe519f275c0ac9ca76bbcf2ebb4097d96"
  abspath path := path

/-- Files with a registry that is cut off. -/
def corruptedFiles : RegistryFiles := { storage := some (Text.encode ['{']) }

theorem corrupted_corruptedFiles : Corrupted corruptedFiles := by
  refine ⟨_, rfl, ?_⟩
  simp only [loadRegistry, Text.decode_encode]
  decide +kernel

/-- How it is handled. -/
def sampleCorruption : Corruption where
  timestamp := "2024-01-01T00:00:00+00:00"
  seconds := 1704067200
  error := "Expecting property name enclosed in double quotes: line 1 column 2 (char 1)"

theorem no_bootstrap_after_marker :
    ¬ Bootstraps plainPlatform
      (afterCall plainPlatform corruptedFiles (.construct sampleCorruption (some ⟨2, 5⟩)))
      sampleCorruption := by
  refine (no_bootstrap_iff plainPlatform).2 _ (.step (.init corrupted_corruptedFiles) ⟨?_, rfl⟩) _
  rintro ⟨-, -, -, h⟩
  exact absurd h (by decide)

/-- In a run of nothing but constructions, the one after a crash in between bootstraps. -/
theorem bootstraps_after_crash :
    ¬ ∀ fs, ((registrySystem plainPlatform).restrict
      fun _ call => ∃ c cut, call = .construct c cut).Reachable fs →
        ∀ c, ¬ Bootstraps plainPlatform fs c := by
  intro h
  have hb : Blocked corruptedFiles := Or.inr rfl
  have hno := h
    (afterCall plainPlatform corruptedFiles (.construct sampleCorruption (some ⟨1, 0⟩)))
    (.step (.init corrupted_corruptedFiles) ⟨⟨_, _, rfl⟩, rfl⟩) sampleCorruption
  exact (blocked_afterCall _ hb).1 ((blocked_iff _).2 hno)
    ⟨rfl, corrupted_corruptedFiles, rfl, rfl⟩

end Calls

end Execution

end AnnyRuntime
