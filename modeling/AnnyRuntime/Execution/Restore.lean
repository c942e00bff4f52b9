import AnnyRuntime.Execution.Durability

/-!
# The attested restore

When `restore_from_attestation` goes through, and what a call leaves that does not.  Beside what the
authority attests, the id of the recovery has to be part of a file name, and the reference of the
attestation has to name the quarantined file of the marker.

* `restore_iff` : when a call goes through; before the registry is replaced a call that fails
  changes nothing; until the marker is removed the registry stays blocked; and after a call that
  goes through the payload is loaded.
* `not_restore_unnamed` : the attested facts alone are not enough.
-/

namespace AnnyRuntime

namespace Execution

/-- What an attestation is approved by: the marker, the quarantined file that it names, the verifier
and the payload. -/
structure Approved (p : Platform) (fs : RegistryFiles) (a : RecoveryAttestation)
    (verdict : Option Bool) (marker : List (String × Json)) (quarantinePath : String) : Prop where
  read : readMarker fs = some marker
  state : Json.lookup "state" marker = some (.str "BLOCKED_OR_UNKNOWN")
  complete : a.isComplete = true
  decision : a.authorityDecision = "APPROVE_RESTORE"
  markerHash : Json.lookup "original_sha256" marker = some (.str a.sourceRegistryHash)
  /-- The marker names a quarantined file. -/
  named : (Json.lookup "quarantine_path" marker).getD (.str "") = .str quarantinePath
  fileHash : ∃ content, fs.quarantine.get? (p.abspath quarantinePath) = some content ∧
    p.sha256 content = a.sourceRegistryHash
  verdict : verdict = some true
  payload : (RegistryData.load (.obj a.registryPayload)).isSome = true
  digest : p.sha256 (serializeData (.obj a.registryPayload)) = a.reconstructedRegistryDigest

/-- What the attestation calls the recovery and its file. -/
structure Identified (p : Platform) (a : RecoveryAttestation) (quarantinePath : String) : Prop where
  id : validRecoveryId a.recoveryId = true
  reference : p.abspath a.quarantineReference = p.abspath quarantinePath

section Restore

variable {p : Platform} {fs : RegistryFiles} {a : RecoveryAttestation} {verdict : Option Bool}
  {ms : List (String × Json)}

/-- What a restore does to the files. -/
def restoreOps (p : Platform) (a : RecoveryAttestation) : List FileOp :=
  let serialized := serializeData (.obj a.registryPayload)
  [.replaceStorage serialized, .openRecord a.recoveryId,
    .writeRecord a.recoveryId (Json.dumpsIndent 0 (recoveryRecord p a (p.sha256 serialized))),
    .unlinkMarker]

/-- The marker fits when its state, its hash and its file are the attested ones. -/
theorem markerFits_iff :
    markerFits p fs a ms = true ↔
      Json.lookup "state" ms = some (.str "BLOCKED_OR_UNKNOWN") ∧
      Json.lookup "original_sha256" ms = some (.str a.sourceRegistryHash) ∧
      ∃ q, (Json.lookup "quarantine_path" ms).getD (.str "") = .str q ∧
        p.abspath a.quarantineReference = p.abspath q ∧
        ∃ content, fs.quarantine.get? (p.abspath q) = some content ∧
          p.sha256 content = a.sourceRegistryHash := by
  unfold markerFits
  rw [Bool.and_eq_true, Bool.and_eq_true, decide_eq_true_eq, decide_eq_true_eq, and_assoc]
  refine and_congr_right fun _ => and_congr_right fun _ => ?_
  cases hq : (Json.lookup "quarantine_path" ms).getD (.str "") with
  | str q =>
    simp only [Bool.and_eq_true, decide_eq_true_eq, Json.str.injEq, exists_eq_left',
      Option.any_eq_true]
    refine and_congr_right fun href => ?_
    rw [href]
  | null | bool b | int n | float x | arr l | obj ms => simp

/-- **The checks of a restore.** -/
theorem restoreFromAttestation_eq_some {ops : List FileOp} :
    restoreFromAttestation p fs a verdict = some ops ↔
      (∃ marker q, Approved p fs a verdict marker q ∧ Identified p a q) ∧ ops = restoreOps p a := by
  simp only [restoreFromAttestation, Json.loads_dumps, Option.bind_eq_bind, Option.bind_some,
    Option.bind_eq_some_iff, Option.guard_eq_some', Option.pure_def, Option.some.injEq,
    exists_const]
  constructor
  · rintro ⟨hid, marker, hmarker, ⟨hcomplete, hdecision⟩, hfits, hverdict, data, hload, hdigest,
      rfl⟩
    obtain ⟨hstate, hhash, q, hq, href, hfile⟩ := markerFits_iff.1 hfits
    exact ⟨⟨marker, q, ⟨hmarker, hstate, hcomplete, hdecision, hhash, hq, hfile, hverdict,
      by rw [hload]; rfl, hdigest⟩, hid, href⟩, rfl⟩
  · rintro ⟨⟨marker, q, h, hid⟩, rfl⟩
    obtain ⟨data, hload⟩ := Option.isSome_iff_exists.1 h.payload
    exact ⟨hid.id, marker, h.read, ⟨h.complete, h.decision⟩,
      markerFits_iff.2 ⟨h.state, h.markerHash, q, h.named, hid.reference, h.fileHash⟩,
      h.verdict, data, hload, h.digest, rfl⟩

/-- The registry is blocked: every construction raises, and writes nothing. -/
def StaysBlocked (p : Platform) (fs : RegistryFiles) : Prop :=
  ∀ c, construct p fs c = (.recoveryRequired, [])

theorem staysBlocked_of_marker (h : fs.marker.isSome = true) : StaysBlocked p fs := by
  intro c
  rw [construct, if_pos h]

/-- A call that ends before the registry is replaced: a check raises, or writing the new registry
fails. -/
def EndsBeforeReplace (p : Platform) (fs : RegistryFiles) (a : RecoveryAttestation)
    (verdict : Option Bool) (cut : Option RegistryFiles.Cut) : Prop :=
  restoreFromAttestation p fs a verdict = none ∨ ∃ into, cut = some ⟨0, into⟩

/-- A call that ends before the marker is removed. -/
def EndsBeforeUnlink (p : Platform) (fs : RegistryFiles) (a : RecoveryAttestation)
    (verdict : Option Bool) (cut : Option RegistryFiles.Cut) : Prop :=
  restoreFromAttestation p fs a verdict = none ∨ ∃ after into, cut = some ⟨after, into⟩ ∧ after < 4

theorem afterCall_of_endsBeforeReplace {cut : Option RegistryFiles.Cut}
    (h : EndsBeforeReplace p fs a verdict cut) :
    afterCall p fs (.restore a verdict cut) = fs := by
  rcases h with h | ⟨into, rfl⟩
  · rw [afterCall, h, Option.getD_none, cutOps_nil]
    rfl
  · cases hr : restoreFromAttestation p fs a verdict with
    | none =>
      rw [afterCall, hr, Option.getD_none, cutOps_nil]
      rfl
    | some ops =>
      obtain rfl := (restoreFromAttestation_eq_some.1 hr).2
      rw [afterCall, hr]
      rfl

/-- The operation does not remove the marker. -/
def KeepsMarker (op : FileOp) : Prop := op ≠ .unlinkMarker

theorem isSome_marker_apply {op : FileOp} (hop : KeepsMarker op) (h : fs.marker.isSome = true) :
    (fs.apply op).marker.isSome = true := by
  cases op with
  | unlinkMarker => exact absurd rfl hop
  | openMarker | writeMarker text => rfl
  | moveToQuarantine path =>
    cases hs : fs.storage <;> simpa [RegistryFiles.apply, hs] using h
  | replaceStorage content | openRecord id | writeRecord id text => exact h

theorem isSome_marker_applyAll {ops : List FileOp} (hops : ∀ op ∈ ops, KeepsMarker op)
    (h : fs.marker.isSome = true) : (fs.applyAll ops).marker.isSome = true := by
  induction ops generalizing fs with
  | nil => exact h
  | cons op ops ih =>
    exact ih (fun op' hop' => hops op' (List.mem_cons_of_mem op hop'))
      (isSome_marker_apply (hops op List.mem_cons_self) h)

theorem keepsMarker_tear {op op' : FileOp} {n : ℕ} (h : op' ∈ RegistryFiles.tear n op) :
    KeepsMarker op' := by
  cases op <;> simp only [RegistryFiles.tear, List.mem_singleton, List.not_mem_nil] at h <;>
    simp [h, KeepsMarker]

/-- Until the marker is removed, it is there. -/
theorem isSome_marker_of_endsBeforeUnlink {cut : Option RegistryFiles.Cut}
    (hmarker : fs.marker.isSome = true) (h : EndsBeforeUnlink p fs a verdict cut) :
    (afterCall p fs (.restore a verdict cut)).marker.isSome = true := by
  cases hr : restoreFromAttestation p fs a verdict with
  | none =>
    rw [afterCall, hr, Option.getD_none, cutOps_nil]
    exact hmarker
  | some ops =>
    obtain rfl := (restoreFromAttestation_eq_some.1 hr).2
    obtain ⟨after, into, rfl, hlt⟩ := h.resolve_left (by simp [hr])
    rw [afterCall, hr, Option.getD_some]
    refine isSome_marker_applyAll (fun op hop => ?_) hmarker
    rcases List.mem_append.1 hop with hop | hop
    · -- the removal is the fourth operation
      have hthree : ∀ op ∈ (restoreOps p a).take 3, KeepsMarker op := by
        simp [restoreOps, KeepsMarker]
      exact hthree op (List.take_subset_take_left _ (Nat.le_of_lt_succ hlt) hop)
    · cases hd : ((restoreOps p a).drop after).head? with
      | none => simp [hd] at hop
      | some op' =>
        rw [hd] at hop
        exact keepsMarker_tear hop

/-- After a call that goes through the payload is loaded. -/
theorem construct_restored (hr : (restoreFromAttestation p fs a verdict).isSome = true)
    (c : Corruption) {data : RegistryData}
    (hdata : RegistryData.load (.obj a.registryPayload) = some data) :
    construct p (afterCall p fs (.restore a verdict none)) c = (.loaded data, []) := by
  obtain ⟨ops, hops⟩ := Option.isSome_iff_exists.1 hr
  obtain rfl := (restoreFromAttestation_eq_some.1 hops).2
  have hload : loadRegistry (serializeData (.obj a.registryPayload)) = some data :=
    (OpenRegistry.loadRegistry_serializeData _).trans hdata
  have hmarker : (afterCall p fs (.restore a verdict none)).marker = none := by
    rw [afterCall, hops]
    rfl
  have hstorage : (afterCall p fs (.restore a verdict none)).storage =
      some (serializeData (.obj a.registryPayload)) := by
    rw [afterCall, hops]
    rfl
  simp [construct, hmarker, hstorage, hload]

end Restore

/-- **The attested restore.**  On a registry that is blocked: a call goes through exactly when the
attestation is approved and names the recovery and the file; a call that ends before the registry is
replaced changes no file; one that ends before the marker is removed leaves the registry blocked;
and after a call that goes through another construction loads the payload. -/
theorem restore_iff (p : Platform) (fs : RegistryFiles) (a : RecoveryAttestation)
    (verdict : Option Bool) (hblocked : fs.marker.isSome = true) :
    ((restoreFromAttestation p fs a verdict).isSome = true ↔
      ∃ marker q, Approved p fs a verdict marker q ∧ Identified p a q) ∧
    (∀ cut, EndsBeforeReplace p fs a verdict cut →
      afterCall p fs (.restore a verdict cut) = fs ∧ StaysBlocked p fs) ∧
    (∀ cut, EndsBeforeUnlink p fs a verdict cut →
      StaysBlocked p (afterCall p fs (.restore a verdict cut))) ∧
    ((restoreFromAttestation p fs a verdict).isSome = true →
      ∃ data, RegistryData.load (.obj a.registryPayload) = some data ∧
        ∀ c, construct p (afterCall p fs (.restore a verdict none)) c = (.loaded data, [])) := by
  refine ⟨?_, fun cut h => ?_, fun cut h => ?_, fun h => ?_⟩
  · rw [Option.isSome_iff_exists]
    simp only [restoreFromAttestation_eq_some, exists_and_left, exists_eq, and_true]
  · exact ⟨afterCall_of_endsBeforeReplace h, staysBlocked_of_marker hblocked⟩
  · exact staysBlocked_of_marker (isSome_marker_of_endsBeforeUnlink hblocked h)
  · obtain ⟨ops, hops⟩ := Option.isSome_iff_exists.1 h
    obtain ⟨⟨marker, q, happroved, -⟩, -⟩ := restoreFromAttestation_eq_some.1 hops
    obtain ⟨data, hdata⟩ := Option.isSome_iff_exists.1 happroved.payload
    exact ⟨data, hdata, fun c => construct_restored h c hdata⟩

/-! ### An attested restore -/

/-- The platform with the hashes of the two contents below. -/
def restorePlatform : Platform where
  storagePath := "/data/registry/models.json"
  sha256 content :=
    if content = Text.encode ['{'] then
      "021fb596db81e6d02bf3d2586ee3981fe519f275c0ac9ca76bbcf2ebb4097d96"
    else "ba7fd16368c574926e303298eb7647ce55997d1a166a3ad9415c6a4f577dec8d"
  abspath path := path

/-- The files of a registry whose corruption was handled. -/
def blockedFiles : RegistryFiles :=
  afterCall restorePlatform corruptedFiles (.construct sampleCorruption none)

/-- An attestation for it, under an id. -/
def sampleAttestation (recoveryId : String) : RecoveryAttestation where
  recoveryId := recoveryId
  sourceRegistryHash := "021fb596db81e6d02bf3d2586ee3981fe519f275c0ac9ca76bbcf2ebb4097d96"
  quarantineReference := "/data/registry/models.json.quarantine.1704067200"
  authorityRef := "authority-1"
  authorityDecision := "APPROVE_RESTORE"
  sourceEvidenceIds := ["evidence-1"]
  reconstructedRegistryDigest :=
    "ba7fd16368c574926e303298eb7647ce55997d1a166a3ad9415c6a4f577dec8d"
  registryPayload := [("version", .str "1.0")]
  verificationEvidenceIds := ["evidence-2"]
  recoveryTimestamp := "2024-01-02T00:00:00+00:00"

theorem loadRegistry_torn : loadRegistry (Text.encode ['{']) = none := by
  obtain ⟨content, hcontent, hload⟩ := corrupted_corruptedFiles
  exact Option.some.inj hcontent ▸ hload

/-- What handling the corruption left. -/
theorem blockedFiles_eq : blockedFiles =
    { marker := some (Text.encode (Json.dumpsIndent 0
        (recoveryMarker restorePlatform sampleCorruption (Text.encode ['{']))))
      quarantine := Dict.empty.set (restorePlatform.quarantinePath sampleCorruption)
        (Text.encode ['{']) } := by
  have hconstruct : (construct restorePlatform corruptedFiles sampleCorruption).2 =
      corruptionOps restorePlatform sampleCorruption (Text.encode ['{']) := by
    simp [construct, corruptedFiles, loadRegistry_torn]
  rw [blockedFiles, afterCall, hconstruct]
  rfl

/-- A marker that was written is read back. -/
theorem readMarker_written {fs : RegistryFiles} {ms : List (String × Json)}
    (h : fs.marker = some (Text.encode (Json.dumpsIndent 0 (.obj ms)))) :
    readMarker fs = some ms := by
  rw [readMarker, h, Option.bind_some, Text.decode_encode, Option.bind_some, Json.loads_dumpsIndent]

theorem approved_sampleAttestation (id : String) (hid : id ≠ "") :
    ∃ marker, Approved restorePlatform blockedFiles (sampleAttestation id) (some true) marker
      (restorePlatform.quarantinePath sampleCorruption) := by
  have hhash : restorePlatform.sha256 (Text.encode ['{']) =
      "021fb596db81e6d02bf3d2586ee3981fe519f275c0ac9ca76bbcf2ebb4097d96" := by
    simp [restorePlatform]
  have hne : serializeData (.obj [("version", .str "1.0")]) ≠ Text.encode ['{'] := by
    intro h
    have htext := congrArg Text.decode h
    rw [serializeData, Text.decode_encode, Text.decode_encode] at htext
    exact absurd (Option.some.inj htext) (by decide +kernel)
  have hload : (RegistryData.load (.obj [("version", .str "1.0")])).isSome = true := by
    decide +kernel
  have hread : readMarker blockedFiles = some
      [("version", .str "1.0"), ("state", .str "BLOCKED_OR_UNKNOWN"),
        ("original_registry_path", .str restorePlatform.storagePath),
        ("quarantine_path", .str (restorePlatform.quarantinePath sampleCorruption)),
        ("original_sha256", .str (restorePlatform.sha256 (Text.encode ['{']))),
        ("recovery_timestamp", .str sampleCorruption.timestamp),
        ("recovery_reason", .str ("CORRUPTED_REGISTRY: " ++ sampleCorruption.error)),
        ("reconstruction_required", .bool true), ("verification_required", .bool true)] := by
    exact readMarker_written (by rw [blockedFiles_eq]; rfl)
  refine ⟨_, ⟨hread, rfl, ?_, rfl, ?_, rfl, ⟨Text.encode ['{'], ?_, hhash⟩, rfl, ?_, ?_⟩⟩
  · simp [RecoveryAttestation.isComplete, sampleAttestation, hid]
  · rw [hhash]
    rfl
  · rw [blockedFiles_eq]
    exact Dict.get?_set_self ..
  · exact hload
  · simp [restorePlatform, sampleAttestation, hne]

theorem isSome_blockedFiles : blockedFiles.marker.isSome = true := by
  rw [blockedFiles_eq]
  rfl

theorem identified_sampleAttestation :
    Identified restorePlatform (sampleAttestation "recovery-1")
      (restorePlatform.quarantinePath sampleCorruption) where
  id := by decide +kernel
  reference := by decide +kernel

/-- An attestation that is approved restores its payload. -/
theorem restored_sampleAttestation :
    ∃ data, RegistryData.load (.obj [("version", .str "1.0")]) = some data ∧
      ∀ c, construct restorePlatform (afterCall restorePlatform blockedFiles
        (.restore (sampleAttestation "recovery-1") (some true) none)) c = (.loaded data, []) := by
  obtain ⟨hiff, -, -, hloaded⟩ := restore_iff restorePlatform blockedFiles
    (sampleAttestation "recovery-1") (some true) isSome_blockedFiles
  obtain ⟨marker, happroved⟩ := approved_sampleAttestation "recovery-1" (by decide)
  exact hloaded (hiff.2 ⟨marker, _, happroved, identified_sampleAttestation⟩)

/-- An attestation that is approved, whose id is no part of a file name. -/
theorem not_restore_unnamed : ¬ ∀ p fs a verdict, fs.marker.isSome = true →
    ((restoreFromAttestation p fs a verdict).isSome = true ↔
      ∃ marker q, Approved p fs a verdict marker q) := by
  intro h
  obtain ⟨marker, happroved⟩ := approved_sampleAttestation "../recovery" (by decide)
  have hsome := (h restorePlatform blockedFiles (sampleAttestation "../recovery") (some true)
    isSome_blockedFiles).2 ⟨marker, _, happroved⟩
  obtain ⟨ops, hops⟩ := Option.isSome_iff_exists.1 hsome
  obtain ⟨⟨-, q, -, hidentified⟩, -⟩ := restoreFromAttestation_eq_some.1 hops
  exact absurd hidentified.id (by decide +kernel)

end Execution

end AnnyRuntime
