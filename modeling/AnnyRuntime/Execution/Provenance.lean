import AnnyRuntime.Execution.Restore
import AnnyRuntime.Json.Torn

/-!
# From a corrupted registry to an open one

Somebody finds a registry that cannot be loaded.  What follows is a run of one runtime: it
constructs registries, opens one for recovery, restores it, changes the one that it has open, and
crashes anywhere.

* `opened_by_lineage` : whatever happens, the file that was found stays in quarantine; a registry
  that is open while nothing is blocked comes from an attested payload, through the changes of the
  run, or from a bootstrap after a crash between the quarantine and the marker; it has its recovery
  record; a restore that crashed is repeated to the same end; and nothing is restored twice.
* `blocked_for_ever` : a crash while the marker is written leaves a marker that cannot be read, and
  then no registry is ever restored.
-/

namespace AnnyRuntime

namespace Dict

variable {κ ν : Type*} [DecidableEq κ]

theorem setEntries_setEntries (k : κ) (v w : ν) (es : List (κ × ν)) :
    setEntries k w (setEntries k v es) = setEntries k w es := by
  induction es with
  | nil => simp [setEntries]
  | cons e es ih =>
    by_cases h : e.1 = k
    · simp [setEntries, h]
    · simp [setEntries, h, ih]

/-- The second assignment to a key takes the place of the first one. -/
theorem set_set (d : Dict κ ν) (k : κ) (v w : ν) : (d.set k v).set k w = d.set k w :=
  Dict.ext (setEntries_setEntries k v w d.entries)

end Dict

namespace Execution

open RegistryFiles

/-! ### The calls of a runtime -/

namespace OpenRegistry

/-- `open_for_recovery`: a registry without any data, or what is raised. -/
def openForRecovery (p : Platform) (fs : RegistryFiles) : Except String OpenRegistry :=
  if p.storagePath = "" then .error "Recovery requires a durable registry path"
  else if fs.marker.isNone then .error "No pending recovery marker exists"
  else .ok ⟨{}, fs⟩

/-- `_load_from_disk`, of a registry that is there: it keeps its hardware profile when the file has
none. -/
def loadFromDisk (r : OpenRegistry) : Option OpenRegistry := do
  let content ← r.files.storage
  let data ← loadRegistry content
  let d ← (Text.decode content).bind Json.loads
  return { r with data := match d with
    | .obj ms =>
      if (Json.lookup "hardware" ms).isSome then data
      else { data with hardware := r.data.hardware }
    | _ => data }

/-- `restore_from_attestation`, to its end: the files, and the registry that was loaded from
them. -/
def restore (p : Platform) (r : OpenRegistry) (a : RecoveryAttestation) (verdict : Option Bool) :
    Option OpenRegistry := do
  let ops ← restoreFromAttestation p r.files a verdict
  loadFromDisk ⟨r.data, r.files.applyAll ops⟩

end OpenRegistry

/-- A runtime: the files, and the data of the registry that it has. -/
structure RegistryRun where
  files : RegistryFiles
  registry : Option RegistryData := none

/-- What a runtime does with its registry. -/
inductive RegistryEvent where
  | construct (c : Corruption) (cut : Option Cut)
  | openForRecovery
  /-- The registry that it has is restored; `verdict` is what the authority answers, unless it
  raises. -/
  | restore (a : RecoveryAttestation) (verdict : Option Bool) (cut : Option Cut)
  /-- The registry that it has is changed, and saved. -/
  | change (x : RegistryChange)
  /-- The runtime ends. -/
  | close

namespace RegistryRun

/-- The runtime after an event.  A call that raises leaves it the registry that it had, and a crash
leaves it none. -/
def next (p : Platform) (s : RegistryRun) : RegistryEvent → RegistryRun
  | .construct c none =>
    match OpenRegistry.construct? p s.files c with
    | some r => ⟨r.files, some r.data⟩
    | none => ⟨afterCall p s.files (.construct c none), s.registry⟩
  | .construct c (some cut) => ⟨afterCall p s.files (.construct c (some cut)), none⟩
  | .openForRecovery =>
    match OpenRegistry.openForRecovery p s.files with
    | .ok r => ⟨r.files, some r.data⟩
    | .error _ => s
  | .restore a verdict none =>
    match s.registry.bind fun data => OpenRegistry.restore p ⟨data, s.files⟩ a verdict with
    | some r => ⟨r.files, some r.data⟩
    | none => s
  | .restore a verdict (some cut) =>
    match s.registry with
    | some _ => ⟨afterCall p s.files (.restore a verdict (some cut)), none⟩
    | none => s
  | .change x =>
    match s.registry.bind fun data => OpenRegistry.change ⟨data, s.files⟩ x with
    | some r => ⟨r.files, some r.data⟩
    | none => s
  | .close => ⟨s.files, none⟩

end RegistryRun

/-! ### Changes -/

namespace OpenRegistry

variable {r r' : OpenRegistry} {x : RegistryChange}

/-- A change saves what it leaves in memory, or does nothing. -/
theorem change_cases (h : r.change x = some r') : r' = r ∨ r' = r.save r'.data := by
  cases x with
  | registerModel m =>
    simp only [change, registerModel] at h
    split_ifs at h
    obtain rfl := Option.some.inj h
    exact .inr rfl
  | unregister modelId =>
    obtain rfl := Option.some.inj h
    unfold unregister
    split_ifs
    · exact .inr rfl
    · exact .inl rfl
  | setAvailability modelId available =>
    obtain rfl := Option.some.inj h
    unfold setAvailability
    split
    · exact .inr rfl
    · exact .inl rfl
  | addBinding b =>
    obtain rfl := Option.some.inj h
    exact .inr rfl
  | updateHardwareProfile profile =>
    obtain rfl := Option.some.inj h
    exact .inr rfl

/-- What a change leaves in memory does not depend on the files. -/
theorem change_files (fs : RegistryFiles) (h : r.change x = some r') :
    ∃ r'', change ⟨r.data, fs⟩ x = some r'' ∧ r''.data = r'.data := by
  cases x with
  | registerModel m =>
    simp only [change, registerModel] at h ⊢
    split_ifs at h ⊢
    obtain rfl := Option.some.inj h
    exact ⟨_, rfl, rfl⟩
  | unregister modelId =>
    obtain rfl := Option.some.inj h
    refine ⟨_, rfl, ?_⟩
    unfold unregister
    split_ifs <;> rfl
  | setAvailability modelId available =>
    obtain rfl := Option.some.inj h
    refine ⟨_, rfl, ?_⟩
    unfold setAvailability
    cases r.data.models.get? (.str modelId) <;> rfl
  | addBinding b =>
    obtain rfl := Option.some.inj h
    exact ⟨_, rfl, rfl⟩
  | updateHardwareProfile profile =>
    obtain rfl := Option.some.inj h
    exact ⟨_, rfl, rfl⟩

/-- A change keeps the data well formed, whatever the files are. -/
theorem wellFormed_change (hwf : r.data.WellFormed) (h : r.change x = some r') :
    r'.data.WellFormed := by
  obtain ⟨r'', hr'', hdata⟩ := change_files ((save ⟨r.data, {}⟩ r.data).files) h
  have hsynced : Synced (save ⟨r.data, {}⟩ r.data) := synced_save rfl hwf
  exact hdata ▸ (hsynced.change hr'').wellFormed

/-- A payload that was saved and is loaded again: its data, but for a hardware profile that it does
not have. -/
theorem exists_loadFromDisk {ms : List (String × Json)} {data : RegistryData}
    (hstorage : r.files.storage = some (serializeData (.obj ms)))
    (hload : RegistryData.load (.obj ms) = some data) :
    ∃ hardware, (hardware = data.hardware ∨
        Json.lookup "hardware" ms = none ∧ hardware = r.data.hardware) ∧
      r.loadFromDisk = some { r with data := { data with hardware := hardware } } := by
  have hparsed : (Text.decode (serializeData (.obj ms))).bind Json.loads = some (.obj ms) := by
    rw [serializeData, Text.decode_encode, Option.bind_some, Json.loads_dumpsIndent]
  simp only [loadFromDisk, hstorage, loadRegistry_serializeData, hload, hparsed,
    Option.bind_eq_bind, Option.bind_some, Option.pure_def]
  by_cases h : (Json.lookup "hardware" ms).isSome = true
  · exact ⟨data.hardware, .inl rfl, by rw [if_pos h]⟩
  · exact ⟨r.data.hardware, .inr ⟨by simpa using h, rfl⟩, by rw [if_neg h]⟩

/-- What passes the checks is loaded. -/
theorem restore_of_ops {p : Platform} {a : RecoveryAttestation} {verdict : Option Bool}
    {ops : List FileOp} (h : restoreFromAttestation p r.files a verdict = some ops) :
    restore p r a verdict = loadFromDisk ⟨r.data, r.files.applyAll ops⟩ := by
  rw [restore, h]
  rfl

/-- **A restore to its end.** -/
theorem restore_eq_some {p : Platform} {a : RecoveryAttestation} {verdict : Option Bool}
    (h : restore p r a verdict = some r') :
    ∃ data hardware, (hardware = data.hardware ∨
        Json.lookup "hardware" a.registryPayload = none ∧ hardware = r.data.hardware) ∧
      (∃ marker q, Approved p r.files a verdict marker q ∧ Identified p a q) ∧
      RegistryData.load (.obj a.registryPayload) = some data ∧
      r' = ⟨{ data with hardware := hardware }, r.files.applyAll (restoreOps p a)⟩ := by
  obtain ⟨ops, hops, hloaded⟩ := Option.bind_eq_some_iff.1 h
  obtain ⟨⟨marker, q, happroved, hidentified⟩, rfl⟩ := restoreFromAttestation_eq_some.1 hops
  obtain ⟨data, hdata⟩ := Option.isSome_iff_exists.1 happroved.payload
  obtain ⟨hardware, hcases, hsome⟩ := exists_loadFromDisk
    (r := ⟨r.data, r.files.applyAll (restoreOps p a)⟩) rfl hdata
  rw [hsome] at hloaded
  exact ⟨data, hardware, hcases, ⟨marker, q, happroved, hidentified⟩, hdata,
    (Option.some.inj hloaded).symm⟩

end OpenRegistry

/-! ### The incident -/

/-- A registry that is found corrupted, without a marker. -/
structure Incident where
  files : RegistryFiles
  content : ByteArray
  storage : files.storage = some content
  corrupted : loadRegistry content = none
  unmarked : files.marker = none

namespace Incident

variable (p : Platform) (i : Incident)

/-- The runtime that finds the registry, after some events. -/
def after (past : List RegistryEvent) : RegistryRun :=
  past.foldl (RegistryRun.next p) ⟨i.files, none⟩

/-- The file that was found is in quarantine, where a construction of the run moved it. -/
def Quarantined (past : List RegistryEvent) (quarantine : Dict String ByteArray) : Prop :=
  ∃ c cut, .construct c cut ∈ past ∧ c.moveFails = false ∧
    quarantine = i.files.quarantine.set (p.abspath (p.quarantinePath c)) i.content

/-- A construction of the run crashed after the quarantine and before the marker. -/
def Vanished (past : List RegistryEvent) : Prop :=
  ∃ before c into rest, past = before ++ .construct c (some ⟨1, into⟩) :: rest ∧
    CutInBetween (i.after p before).files (.construct c (some ⟨1, into⟩))

/-- A restore of the run, and what it took: the attestation names the file that was found, by its
hash and by the path in quarantine, and the authority approved it. -/
structure Attested (past : List RegistryEvent) (a : RecoveryAttestation) : Prop where
  restored : ∃ cut, .restore a (some true) cut ∈ past
  complete : a.isComplete = true
  decision : a.authorityDecision = "APPROVE_RESTORE"
  source : a.sourceRegistryHash = p.sha256 i.content
  reference : ∃ c cut, .construct c cut ∈ past ∧
    p.abspath a.quarantineReference = p.abspath (p.quarantinePath c)
  digest : p.sha256 (serializeData (.obj a.registryPayload)) = a.reconstructedRegistryDigest

/-- Where the data of a registry comes from. -/
inductive Lineage (past : List RegistryEvent) : RegistryData → Prop
  /-- An attested payload; without a hardware profile it takes the one of the registry that was
  restored. -/
  | attested {a : RecoveryAttestation} {data : RegistryData} {hardware : List Json} :
    i.Attested p past a → RegistryData.load (.obj a.registryPayload) = some data →
      hardware = data.hardware ∨ Json.lookup "hardware" a.registryPayload = none →
        Lineage past { data with hardware := hardware }
  /-- A bootstrap, perhaps one that crashed. -/
  | bootstrapped {r : ModelRegistry} : i.Vanished p past → r ∈ bootstrapRegistries →
      Lineage past (.ofRegistry r)
  /-- A change of the run. -/
  | changed {data : RegistryData} {fs : RegistryFiles} {x : RegistryChange} {r : OpenRegistry} :
    Lineage past data → .change x ∈ past → OpenRegistry.change ⟨data, fs⟩ x = some r →
      Lineage past r.data

/-- The record of the recovery is there, in full. -/
def Recorded (past : List RegistryEvent) (fs : RegistryFiles) : Prop :=
  ∃ a, i.Attested p past a ∧
    fs.recoveryRecords.get? a.recoveryId = some (Text.encode (Json.dumpsIndent 0
      (recoveryRecord p a (p.sha256 (serializeData (.obj a.registryPayload))))))

variable {p i} {past past' : List RegistryEvent}

theorem after_append (rest : List RegistryEvent) :
    i.after p (past ++ rest) = rest.foldl (RegistryRun.next p) (i.after p past) :=
  List.foldl_append

theorem after_concat (e : RegistryEvent) : i.after p (past ++ [e]) = (i.after p past).next p e :=
  after_append [e]

/-! ### Longer runs -/

theorem Quarantined.mono (h : past <+: past') {quarantine : Dict String ByteArray}
    (hq : i.Quarantined p past quarantine) : i.Quarantined p past' quarantine := by
  obtain ⟨c, cut, hmem, hq⟩ := hq
  exact ⟨c, cut, h.subset hmem, hq⟩

theorem Vanished.mono (h : past <+: past') (hv : i.Vanished p past) : i.Vanished p past' := by
  obtain ⟨before, c, into, rest, rfl, hcut⟩ := hv
  obtain ⟨more, rfl⟩ := h
  exact ⟨before, c, into, rest ++ more, by simp, hcut⟩

theorem Attested.mono (h : past <+: past') {a : RecoveryAttestation} (ha : i.Attested p past a) :
    i.Attested p past' a where
  restored := by
    obtain ⟨cut, hmem⟩ := ha.restored
    exact ⟨cut, h.subset hmem⟩
  complete := ha.complete
  decision := ha.decision
  source := ha.source
  reference := by
    obtain ⟨c, cut, hmem, href⟩ := ha.reference
    exact ⟨c, cut, h.subset hmem, href⟩
  digest := ha.digest

theorem Lineage.mono (h : past <+: past') {data : RegistryData} (hl : i.Lineage p past data) :
    i.Lineage p past' data := by
  induction hl with
  | attested ha hload hhardware => exact .attested (ha.mono h) hload hhardware
  | bootstrapped hv hr => exact .bootstrapped (hv.mono h) hr
  | changed _ hmem hchange ih => exact .changed ih (h.subset hmem) hchange

theorem Recorded.mono (h : past <+: past') {fs : RegistryFiles} (hr : i.Recorded p past fs) :
    i.Recorded p past' fs := by
  obtain ⟨a, ha, hrecord⟩ := hr
  exact ⟨a, ha.mono h, hrecord⟩

end Incident

namespace Incident

section Phases

variable (p : Platform) (i : Incident)

/-- The text of the marker that a construction writes. -/
def markerText (c : Corruption) : List Char := Json.dumpsIndent 0 (recoveryMarker p c i.content)

/-- The files after the quarantine. -/
def moved (c : Corruption) : RegistryFiles :=
  i.files.apply (.moveToQuarantine (p.abspath (p.quarantinePath c)))

/-- The marker is there, up to a character of its text. -/
structure Pending (past : List RegistryEvent) (c : Corruption) (n : ℕ) (s : RegistryRun) :
    Prop where
  marker : s.files.marker = some (Text.encode ((i.markerText p c).take n))
  handled : ∃ cut, .construct c cut ∈ past
  quarantine : i.Quarantined p past s.files.quarantine
  registry : ∀ d, s.registry = some d → d.WellFormed

/-- Nothing is blocked, and the registry can be loaded. -/
structure InUse (past : List RegistryEvent) (s : RegistryRun) : Prop where
  marker : s.files.marker = none
  quarantine : i.Quarantined p past s.files.quarantine
  storage : ∃ content d, s.files.storage = some content ∧ loadRegistry content = some d ∧
    i.Lineage p past d
  registry : ∀ d, s.registry = some d → d.WellFormed ∧ i.Lineage p past d
  record : i.Vanished p past ∨ i.Recorded p past s.files

/-- How far the incident is. -/
inductive Phase (past : List RegistryEvent) (s : RegistryRun) : Prop
  /-- Nothing happened yet. -/
  | found (h : s = ⟨i.files, none⟩)
  /-- A crash left neither the registry nor the marker. -/
  | vanished (hv : i.Vanished p past) (hmarker : s.files.marker = none)
    (hstorage : s.files.storage = none) (hquarantine : i.Quarantined p past s.files.quarantine)
    (hregistry : s.registry = none)
  | pending (c : Corruption) (n : ℕ) (h : i.Pending p past c n s)
  | inUse (h : i.InUse p past s)

end Phases

variable {p : Platform} {i : Incident} {past : List RegistryEvent} {s : RegistryRun}

/-! ### Handling the file that was found -/

theorem moved_eq (c : Corruption) : i.moved p c =
    { i.files with
      storage := none
      quarantine := i.files.quarantine.set (p.abspath (p.quarantinePath c)) i.content } := by
  simp only [moved, RegistryFiles.apply, i.storage]

theorem construct_found (c : Corruption) :
    construct p i.files c = (.recoveryRequired, corruptionOps p c i.content) := by
  simp [construct, i.unmarked, i.storage, i.corrupted]

/-- What a construction leaves of the file that was found, wherever it crashes. -/
theorem afterCall_found (c : Corruption) (cut : Option Cut) :
    afterCall p i.files (.construct c cut) = i.files ∨
    c.moveFails = false ∧
      ((∃ into, cut = some ⟨1, into⟩ ∧
          afterCall p i.files (.construct c cut) = i.moved p c) ∨
        ∃ n, afterCall p i.files (.construct c cut) =
          { i.moved p c with marker := some (Text.encode ((i.markerText p c).take n)) }) := by
  rw [afterCall, construct_found, corruptionOps]
  by_cases hfails : c.moveFails = true
  · rw [if_pos hfails, cutOps_nil]
    exact .inl rfl
  · rw [if_neg hfails]
    have hwhole : ∃ n, (i.markerText p c).take n = i.markerText p c :=
      ⟨_, List.take_length⟩
    obtain ⟨n, hn⟩ := hwhole
    cases cut with
    | none =>
      refine .inr ⟨by simpa using hfails, .inr ⟨n, ?_⟩⟩
      rw [hn]
      rfl
    | some cut =>
      obtain ⟨after, into⟩ := cut
      rcases after with _ | _ | _ | after
      · exact .inl rfl
      · exact .inr ⟨by simpa using hfails, .inl ⟨into, rfl, rfl⟩⟩
      · exact .inr ⟨by simpa using hfails, .inr ⟨into, rfl⟩⟩
      · refine .inr ⟨by simpa using hfails, .inr ⟨n, ?_⟩⟩
        rw [hn]
        cases after <;> rfl

theorem construct?_found (c : Corruption) : OpenRegistry.construct? p i.files c = none := by
  rw [OpenRegistry.construct?, construct_found]

/-- A construction of the file that was found. -/
theorem phase_construct_found (hs : i.after p past = ⟨i.files, none⟩) (c : Corruption)
    (cut : Option Cut) : i.Phase p (past ++ [.construct c cut])
      ⟨afterCall p i.files (.construct c cut), none⟩ := by
  have hmem : RegistryEvent.construct c cut ∈ past ++ [.construct c cut] :=
    List.mem_append_right _ (List.mem_singleton.2 rfl)
  rcases afterCall_found (p := p) (i := i) c cut with h | ⟨hfails, ⟨into, rfl, h⟩ | ⟨n, h⟩⟩
  · rw [h]
    exact .found rfl
  · rw [h, moved_eq]
    refine .vanished ⟨past, c, into, [], rfl, ?_⟩ i.unmarked rfl ⟨c, _, hmem, hfails, rfl⟩ rfl
    rw [hs]
    exact ⟨i.unmarked, ⟨i.content, i.storage, i.corrupted⟩, hfails, rfl⟩
  · rw [h, moved_eq]
    exact .pending c n ⟨rfl, ⟨cut, hmem⟩, ⟨c, cut, hmem, hfails, rfl⟩, fun d hd => by cases hd⟩

/-! ### A bootstrap -/

/-- Registries that are saved one after the other: the last one stays. -/
theorem applyAll_saves (fs : RegistryFiles) (rs : List ModelRegistry) :
    let save := fun r : ModelRegistry =>
      FileOp.replaceStorage (serializeData (RegistryData.ofRegistry r).build)
    fs.applyAll (rs.map save) = fs ∨ ∃ r ∈ rs, fs.applyAll (rs.map save) =
      { fs with storage := some (serializeData (RegistryData.ofRegistry r).build) } := by
  intro save
  induction rs generalizing fs with
  | nil => exact .inl rfl
  | cons r rs ih =>
    rcases ih (fs.apply (save r)) with h | ⟨r', hr', h⟩
    · exact .inr ⟨r, List.mem_cons_self, h⟩
    · exact .inr ⟨r', List.mem_cons_of_mem r hr', h⟩

/-- What a bootstrap leaves, wherever it crashes. -/
theorem applyAll_bootstrap (fs : RegistryFiles) (cut : Option Cut) :
    fs.applyAll (cutOps bootstrapOps cut) = fs ∨
    ∃ r ∈ bootstrapRegistries, fs.applyAll (cutOps bootstrapOps cut) =
      { fs with storage := some (serializeData (RegistryData.ofRegistry r).build) } := by
  cases cut with
  | none => exact applyAll_saves fs bootstrapRegistries
  | some cut =>
    have htear : cutOps bootstrapOps (some cut) =
        (bootstrapRegistries.take cut.after).map fun r =>
          .replaceStorage (serializeData (RegistryData.ofRegistry r).build) := by
      rw [cutOps, bootstrapOps, List.map_take, ← List.map_drop, List.head?_map, Option.map_map]
      cases (bootstrapRegistries.drop cut.after).head? with
      | none => exact List.append_nil _
      | some r => exact List.append_nil _
    rw [htear]
    rcases applyAll_saves fs (bootstrapRegistries.take cut.after) with h | ⟨r, hr, h⟩
    · exact .inl h
    · exact .inr ⟨r, List.mem_of_mem_take hr, h⟩

theorem construct_vanished {fs : RegistryFiles} (hmarker : fs.marker = none)
    (hstorage : fs.storage = none) (c : Corruption) :
    construct p fs c = (.bootstrapped, bootstrapOps) := by
  simp [construct, hmarker, hstorage]

theorem mem_bootstrapRegistries : ModelRegistry.bootstrap ∈ bootstrapRegistries :=
  List.mem_append_right _ (List.mem_singleton.2 rfl)

/-- The registries of a bootstrap are loaded again. -/
theorem loadRegistry_ofRegistry (r : ModelRegistry) :
    loadRegistry (serializeData (RegistryData.ofRegistry r).build) =
      some (RegistryData.ofRegistry r) :=
  (OpenRegistry.loadRegistry_serializeData _).trans
    (RegistryData.load_build (RegistryData.wellFormed_ofRegistry r))

/-- A construction of no file at all. -/
theorem phase_construct_vanished (hv : i.Vanished p past) (hmarker : s.files.marker = none)
    (hstorage : s.files.storage = none) (hquarantine : i.Quarantined p past s.files.quarantine)
    (c : Corruption) (cut : Option Cut) {registry : Option RegistryData}
    (hregistry : registry = none ∨
      cut = none ∧ registry = some (RegistryData.ofRegistry .bootstrap)) :
    i.Phase p (past ++ [.construct c cut])
      ⟨afterCall p s.files (.construct c cut), registry⟩ := by
  have hpre : past <+: past ++ [.construct c cut] := List.prefix_append ..
  have hlineage : ∀ r ∈ bootstrapRegistries, i.Lineage p (past ++ [.construct c cut])
      (.ofRegistry r) := fun r hr => .bootstrapped (hv.mono hpre) hr
  rw [afterCall, construct_vanished hmarker hstorage]
  have hwf : ∀ d, registry = some d → d.WellFormed ∧
      i.Lineage p (past ++ [.construct c cut]) d := by
    intro d hd
    rcases hregistry with h | ⟨-, h⟩
    · rw [h] at hd
      cases hd
    · rw [h] at hd
      obtain rfl := Option.some.inj hd
      exact ⟨RegistryData.wellFormed_ofRegistry _, hlineage _ mem_bootstrapRegistries⟩
  rcases applyAll_bootstrap s.files cut with h | ⟨r, hr, h⟩
  · rcases hregistry with hnone | ⟨rfl, hsome⟩
    · rw [h]
      exact .vanished (hv.mono hpre) hmarker hstorage (hquarantine.mono hpre) hnone
    · -- a whole bootstrap saves something
      have hsaved := (OpenRegistry.synced_bootstrap hmarker).storage
      obtain ⟨content, hcontent, -⟩ := hsaved
      have hnone : (s.files.applyAll (cutOps bootstrapOps none)).storage = none := by
        rw [h]
        exact hstorage
      cases hcontent.symm.trans hnone
  · rw [h]
    exact .inUse ⟨hmarker, hquarantine.mono hpre,
      ⟨_, _, rfl, loadRegistry_ofRegistry r, hlineage r hr⟩, hwf, .inl (hv.mono hpre)⟩

/-! ### A pending recovery -/

/-- Only the whole marker can be read. -/
theorem readMarker_pending {c : Corruption} {n : ℕ} {fs : RegistryFiles}
    (hmarker : fs.marker = some (Text.encode ((i.markerText p c).take n)))
    {ms : List (String × Json)} (hread : readMarker fs = some ms) :
    Json.obj ms = recoveryMarker p c i.content := by
  have hloads : Json.loads ((i.markerText p c).take n) = some (.obj ms) := by
    rw [readMarker, hmarker, Option.bind_some, Text.decode_encode, Option.bind_some] at hread
    cases h : Json.loads ((i.markerText p c).take n) with
    | none =>
      rw [h] at hread
      cases hread
    | some d =>
      rw [h] at hread
      cases d with
      | obj ms' =>
        obtain rfl := Option.some.inj hread
        rfl
      | null | bool b | int k | float f | str t | arr l => cases hread
  have hsplit := List.take_append_drop n (i.markerText p c)
  by_cases hrest : (i.markerText p c).drop n = []
  · rw [hrest, List.append_nil] at hsplit
    rw [hsplit, markerText, Json.loads_dumpsIndent] at hloads
    exact (Option.some.inj hloads).symm
  · have htorn : Json.loads ((i.markerText p c).take n) = none :=
      Json.loads_torn_indent hrest hsplit
    rw [htorn] at hloads
    cases hloads

/-- What is approved while the marker is there is attested for the file that was found. -/
theorem attested_of_approved {c : Corruption} {n : ℕ} {cut : Option Cut} {a : RecoveryAttestation}
    {verdict : Option Bool} {marker : List (String × Json)} {q : String}
    (h : i.Pending p past c n s) (happroved : Approved p s.files a verdict marker q)
    (hidentified : Identified p a q) :
    i.Attested p (past ++ [.restore a verdict cut]) a := by
  have hmarker := readMarker_pending h.marker happroved.read
  obtain rfl := Json.obj.inj hmarker
  have hhash : Json.str (p.sha256 i.content) = .str a.sourceRegistryHash :=
    Option.some.inj happroved.markerHash
  have hq : Json.str (p.quarantinePath c) = .str q := happroved.named
  obtain ⟨built, hmem⟩ := h.handled
  refine ⟨⟨cut, ?_⟩, happroved.complete, happroved.decision, (Json.str.inj hhash).symm,
    ⟨c, built, List.mem_append_left _ hmem, ?_⟩, happroved.digest⟩
  · rw [← happroved.verdict]
    exact List.mem_append_right _ (List.mem_singleton.2 rfl)
  · rw [hidentified.reference, ← Json.str.inj hq]

/-- The files after the operations of a restore. -/
theorem applyAll_restoreOps (fs : RegistryFiles) (a : RecoveryAttestation) :
    fs.applyAll (restoreOps p a) =
      { fs with
        storage := some (serializeData (.obj a.registryPayload))
        marker := none
        recoveryRecords := fs.recoveryRecords.set a.recoveryId (Text.encode (Json.dumpsIndent 0
          (recoveryRecord p a (p.sha256 (serializeData (.obj a.registryPayload)))))) } := by
  rw [← Dict.set_set fs.recoveryRecords a.recoveryId ByteArray.empty]
  rfl

/-- A restore that crashes before the marker is removed: the registry and the records may have
changed. -/
theorem applyAll_cut_restoreOps (fs : RegistryFiles) (a : RecoveryAttestation) {cut : Cut}
    (hcut : cut.after < 4) :
    ∃ storage records, fs.applyAll (cutOps (restoreOps p a) (some cut)) =
        { fs with storage := storage, recoveryRecords := records } ∧
      ∀ v, records.set a.recoveryId v = fs.recoveryRecords.set a.recoveryId v := by
  obtain ⟨after, into⟩ := cut
  rcases after with _ | _ | _ | _ | after
  · exact ⟨fs.storage, fs.recoveryRecords, rfl, fun v => rfl⟩
  · exact ⟨_, fs.recoveryRecords, rfl, fun v => rfl⟩
  · exact ⟨_, _, rfl, fun v => (Dict.set_set ..).trans (Dict.set_set ..)⟩
  · exact ⟨_, _, rfl, fun v => (Dict.set_set ..).trans (Dict.set_set ..)⟩
  · exact absurd hcut (by simp)

/-- A crash after the last operation is none of the files. -/
theorem cutOps_restoreOps {a : RecoveryAttestation} {cut : Cut} (hcut : ¬ cut.after < 4) :
    cutOps (restoreOps p a) (some cut) = restoreOps p a := by
  have hlength : (restoreOps p a).length ≤ cut.after := Nat.le_of_not_lt hcut
  simp only [cutOps]
  rw [List.take_of_length_le hlength, List.drop_eq_nil_of_le hlength]
  exact List.append_nil _

/-- An approved restore that went to its end. -/
theorem inUse_restore {c : Corruption} {n : ℕ} {cut : Option Cut} {a : RecoveryAttestation}
    {verdict : Option Bool} {marker : List (String × Json)} {q : String} {data : RegistryData}
    {registry : Option RegistryData} (h : i.Pending p past c n s)
    (happroved : Approved p s.files a verdict marker q) (hidentified : Identified p a q)
    (hload : RegistryData.load (.obj a.registryPayload) = some data)
    (hregistry : ∀ d, registry = some d → d.WellFormed ∧
      i.Lineage p (past ++ [.restore a verdict cut]) d) :
    i.InUse p (past ++ [.restore a verdict cut])
      ⟨s.files.applyAll (restoreOps p a), registry⟩ := by
  have hattested : i.Attested p (past ++ [.restore a verdict cut]) a :=
    attested_of_approved h happroved hidentified
  rw [applyAll_restoreOps]
  exact ⟨rfl, h.quarantine.mono (List.prefix_append ..),
    ⟨_, data, rfl, (OpenRegistry.loadRegistry_serializeData _).trans hload,
      .attested hattested hload (.inl rfl)⟩,
    hregistry, .inr ⟨a, hattested, Dict.get?_set_self ..⟩⟩

/-- The data of a payload, with a hardware profile that fits. -/
theorem wellFormed_restored {d : Json} {data : RegistryData} {hardware : List Json}
    (hload : RegistryData.load d = some data)
    (hhardware : hardware.length = hardwareFields.length) :
    RegistryData.WellFormed { data with hardware := hardware } := by
  have hwf := RegistryData.wellFormed_of_load hload
  exact ⟨hwf.models, hwf.bindings, hhardware, hwf.performance⟩

/-- A restore while the marker is there. -/
theorem phase_restore_pending {c : Corruption} {n : ℕ} (h : i.Pending p past c n s)
    (a : RecoveryAttestation) (verdict : Option Bool) (cut : Option Cut) :
    i.Phase p (past ++ [.restore a verdict cut]) (s.next p (.restore a verdict cut)) := by
  have hpre : past <+: past ++ [.restore a verdict cut] := List.prefix_append ..
  have hhandled : ∃ cut', RegistryEvent.construct c cut' ∈ past ++ [.restore a verdict cut] := by
    obtain ⟨cut', hmem⟩ := h.handled
    exact ⟨cut', List.mem_append_left _ hmem⟩
  have hstay : i.Pending p (past ++ [.restore a verdict cut]) c n s :=
    ⟨h.marker, hhandled, h.quarantine.mono hpre, h.registry⟩
  cases hregistry : s.registry with
  | none =>
    have hsame : s.next p (.restore a verdict cut) = s := by
      cases cut <;> simp [RegistryRun.next, hregistry]
    rw [hsame]
    exact .pending c n hstay
  | some old =>
    cases cut with
    | none =>
      cases hrestore : OpenRegistry.restore p ⟨old, s.files⟩ a verdict with
      | none =>
        have hsame : s.next p (.restore a verdict none) = s := by
          simp [RegistryRun.next, hregistry, hrestore]
        rw [hsame]
        exact .pending c n hstay
      | some r =>
        obtain ⟨data, hardware, hcases, ⟨marker, q, happroved, hidentified⟩, hload, rfl⟩ :=
          OpenRegistry.restore_eq_some hrestore
        have hnext : s.next p (.restore a verdict none) =
            ⟨s.files.applyAll (restoreOps p a), some { data with hardware := hardware }⟩ := by
          simp [RegistryRun.next, hregistry, hrestore]
        rw [hnext]
        refine .inUse (inUse_restore h happroved hidentified hload fun d hd => ?_)
        obtain rfl := Option.some.inj hd
        have hlength : hardware.length = hardwareFields.length := by
          rcases hcases with rfl | ⟨-, rfl⟩
          · exact (RegistryData.wellFormed_of_load hload).hardware
          · exact (h.registry old hregistry).hardware
        exact ⟨wellFormed_restored hload hlength,
          .attested (attested_of_approved h happroved hidentified) hload
            (hcases.imp id And.left)⟩
    | some cut =>
      have hnext : s.next p (.restore a verdict (some cut)) =
          ⟨afterCall p s.files (.restore a verdict (some cut)), none⟩ := by
        simp [RegistryRun.next, hregistry]
      rw [hnext, afterCall]
      cases hops : restoreFromAttestation p s.files a verdict with
      | none =>
        rw [Option.getD_none, cutOps_nil]
        exact .pending c n ⟨h.marker, hhandled, h.quarantine.mono hpre, fun d hd => by cases hd⟩
      | some ops =>
        obtain ⟨⟨marker, q, happroved, hidentified⟩, rfl⟩ := restoreFromAttestation_eq_some.1 hops
        rw [Option.getD_some]
        by_cases hcut : cut.after < 4
        · obtain ⟨storage, records, hfiles, -⟩ := applyAll_cut_restoreOps (p := p) s.files a hcut
          rw [hfiles]
          exact .pending c n ⟨h.marker, hhandled, h.quarantine.mono hpre, fun d hd => by cases hd⟩
        · obtain ⟨data, hload⟩ := Option.isSome_iff_exists.1 happroved.payload
          rw [cutOps_restoreOps hcut]
          exact .inUse (inUse_restore h happroved hidentified hload fun d hd => by cases hd)

/-- A construction while the marker is there raises, and does nothing. -/
theorem construct_marked {fs : RegistryFiles} {m : ByteArray} (hmarker : fs.marker = some m)
    (c : Corruption) : construct p fs c = (.recoveryRequired, []) :=
  staysBlocked_of_marker (by rw [hmarker]; rfl) c

theorem afterCall_marked {fs : RegistryFiles} {m : ByteArray} (hmarker : fs.marker = some m)
    (c : Corruption) (cut : Option Cut) : afterCall p fs (.construct c cut) = fs := by
  rw [afterCall, construct_marked hmarker, cutOps_nil]
  rfl

/-- **A step while the marker is there.** -/
theorem phase_next_pending {c : Corruption} {n : ℕ} (h : i.Pending p past c n s)
    (e : RegistryEvent) : i.Phase p (past ++ [e]) (s.next p e) := by
  have hpre : past <+: past ++ [e] := List.prefix_append ..
  have hhandled : ∃ cut, RegistryEvent.construct c cut ∈ past ++ [e] := by
    obtain ⟨cut, hmem⟩ := h.handled
    exact ⟨cut, List.mem_append_left _ hmem⟩
  have hstay : ∀ registry, (∀ d, registry = some d → d.WellFormed) →
      i.Phase p (past ++ [e]) ⟨s.files, registry⟩ := fun registry hwf =>
    .pending c n ⟨h.marker, hhandled, h.quarantine.mono hpre, hwf⟩
  cases e with
  | construct c' cut =>
    cases cut with
    | none =>
      have hnone : OpenRegistry.construct? p s.files c' = none := by
        rw [OpenRegistry.construct?, construct_marked h.marker]
      have hnext : s.next p (.construct c' none) = ⟨s.files, s.registry⟩ := by
        simp only [RegistryRun.next, hnone, afterCall_marked h.marker]
      rw [hnext]
      exact hstay s.registry h.registry
    | some cut =>
      have hnext : s.next p (.construct c' (some cut)) = ⟨s.files, none⟩ := by
        simp only [RegistryRun.next, afterCall_marked h.marker]
      rw [hnext]
      exact hstay none fun d hd => by cases hd
  | openForRecovery =>
    simp only [RegistryRun.next, OpenRegistry.openForRecovery]
    by_cases hpath : p.storagePath = ""
    · rw [if_pos hpath]
      exact hstay s.registry h.registry
    · have hmarked : s.files.marker.isNone = false := by rw [h.marker]; rfl
      rw [if_neg hpath, hmarked]
      refine hstay _ fun d hd => ?_
      obtain rfl := Option.some.inj hd
      exact RegistryData.wellFormed_ofRegistry .empty
  | restore a verdict cut => exact phase_restore_pending h a verdict cut
  | change x =>
    cases hr : s.registry.bind fun data => OpenRegistry.change ⟨data, s.files⟩ x with
    | none =>
      simp only [RegistryRun.next, hr]
      exact hstay s.registry h.registry
    | some r =>
      simp only [RegistryRun.next, hr]
      obtain ⟨data, hdata, hchange⟩ := Option.bind_eq_some_iff.1 hr
      have hwf : r.data.WellFormed := OpenRegistry.wellFormed_change (h.registry data hdata) hchange
      have hwf' : ∀ d, some r.data = some d → d.WellFormed := by
        intro d hd
        obtain rfl := Option.some.inj hd
        exact hwf
      rcases OpenRegistry.change_cases hchange with rfl | hsave
      · exact hstay _ hwf'
      · rw [hsave]
        exact .pending c n ⟨h.marker, hhandled, h.quarantine.mono hpre, hwf'⟩
  | close => exact hstay none fun d hd => by cases hd

/-! ### A registry in use -/

/-- Without a marker nothing is restored. -/
theorem restoreFromAttestation_unmarked {fs : RegistryFiles} (hmarker : fs.marker = none)
    (a : RecoveryAttestation) (verdict : Option Bool) :
    restoreFromAttestation p fs a verdict = none := by
  rw [Option.eq_none_iff_forall_ne_some]
  intro ops hops
  obtain ⟨⟨marker, q, happroved, -⟩, -⟩ := restoreFromAttestation_eq_some.1 hops
  have hread := happroved.read
  rw [readMarker, hmarker] at hread
  cases hread

theorem restore_unmarked {r : OpenRegistry} (hmarker : r.files.marker = none)
    (a : RecoveryAttestation) (verdict : Option Bool) :
    OpenRegistry.restore p r a verdict = none := by
  rw [OpenRegistry.restore, restoreFromAttestation_unmarked hmarker]
  rfl

/-- A restore without a marker: at most the runtime ends. -/
theorem next_restore_unmarked (hmarker : s.files.marker = none) (a : RecoveryAttestation)
    (verdict : Option Bool) (cut : Option Cut) :
    s.next p (.restore a verdict cut) = s ∨
      s.next p (.restore a verdict cut) = ⟨s.files, none⟩ := by
  cases cut with
  | none =>
    refine .inl ?_
    cases hregistry : s.registry with
    | none => simp [RegistryRun.next, hregistry]
    | some d =>
      have hnone : OpenRegistry.restore p ⟨d, s.files⟩ a verdict = none :=
        restore_unmarked hmarker a verdict
      simp [RegistryRun.next, hregistry, hnone]
  | some cut =>
    cases hregistry : s.registry with
    | none => exact .inl (by simp [RegistryRun.next, hregistry])
    | some d =>
      refine .inr ?_
      simp only [RegistryRun.next, hregistry, afterCall, restoreFromAttestation_unmarked hmarker,
        Option.getD_none, cutOps_nil]
      rfl

theorem next_restore_some {data : RegistryData} {a : RecoveryAttestation} {verdict : Option Bool}
    {r : OpenRegistry} (hregistry : s.registry = some data)
    (hr : OpenRegistry.restore p ⟨data, s.files⟩ a verdict = some r) :
    s.next p (.restore a verdict none) = ⟨r.files, some r.data⟩ := by
  simp only [RegistryRun.next, hregistry, Option.bind_some, hr]

theorem next_openForRecovery_marked (hpath : p.storagePath ≠ "")
    (hmarker : s.files.marker.isSome = true) :
    s.next p .openForRecovery = ⟨s.files, some {}⟩ := by
  have hnone : ¬ s.files.marker.isNone = true := by
    rw [Option.isNone_iff_eq_none]
    exact Option.isSome_iff_ne_none.1 hmarker
  simp only [RegistryRun.next, OpenRegistry.openForRecovery, if_neg hpath, if_neg hnone]

theorem next_openForRecovery_unmarked (hmarker : s.files.marker = none) :
    s.next p .openForRecovery = s := by
  by_cases hpath : p.storagePath = ""
  · simp only [RegistryRun.next, OpenRegistry.openForRecovery, if_pos hpath]
  · simp only [RegistryRun.next, OpenRegistry.openForRecovery, if_neg hpath, hmarker,
      Option.isNone_none, if_true]

/-- **A step of a registry in use.** -/
theorem inUse_next (h : i.InUse p past s) (e : RegistryEvent) :
    i.InUse p (past ++ [e]) (s.next p e) := by
  have hpre : past <+: past ++ [e] := List.prefix_append ..
  obtain ⟨content, d, hcontent, hload, hlineage⟩ := h.storage
  have hstay : ∀ registry, (∀ d, registry = some d → d.WellFormed ∧ i.Lineage p past d) →
      i.InUse p (past ++ [e]) ⟨s.files, registry⟩ := fun registry hregistry =>
    ⟨h.marker, h.quarantine.mono hpre, ⟨content, d, hcontent, hload, hlineage.mono hpre⟩,
      fun d hd => ⟨(hregistry d hd).1, (hregistry d hd).2.mono hpre⟩,
      h.record.imp (Vanished.mono hpre) (Recorded.mono hpre)⟩
  cases e with
  | construct c cut =>
    have hconstruct : construct p s.files c = (.loaded d, []) := by
      simp [construct, h.marker, hcontent, hload]
    cases cut with
    | none =>
      have hopened : OpenRegistry.construct? p s.files c = some ⟨d, s.files⟩ := by
        rw [OpenRegistry.construct?, hconstruct]
        rfl
      simp only [RegistryRun.next, hopened]
      refine hstay _ fun d' hd' => ?_
      obtain rfl := Option.some.inj hd'
      exact ⟨OpenRegistry.wellFormed_of_loadRegistry hload, hlineage⟩
    | some cut =>
      have hfiles : afterCall p s.files (.construct c (some cut)) = s.files := by
        rw [afterCall, hconstruct, cutOps_nil]
        rfl
      simp only [RegistryRun.next, hfiles]
      exact hstay none fun d hd => by cases hd
  | openForRecovery =>
    rw [next_openForRecovery_unmarked h.marker]
    exact hstay s.registry h.registry
  | restore a verdict cut =>
    rcases next_restore_unmarked h.marker a verdict cut with hnext | hnext
    · rw [hnext]
      exact hstay s.registry h.registry
    · rw [hnext]
      exact hstay none fun d hd => by cases hd
  | change x =>
    cases hr : s.registry.bind fun data => OpenRegistry.change ⟨data, s.files⟩ x with
    | none =>
      simp only [RegistryRun.next, hr]
      exact hstay s.registry h.registry
    | some r =>
      simp only [RegistryRun.next, hr]
      obtain ⟨data, hdata, hchange⟩ := Option.bind_eq_some_iff.1 hr
      obtain ⟨hwf, hdataLineage⟩ := h.registry data hdata
      have hwf' : r.data.WellFormed := OpenRegistry.wellFormed_change hwf hchange
      have hchanged : i.Lineage p (past ++ [.change x]) r.data :=
        .changed (hdataLineage.mono hpre) (List.mem_append_right _ (List.mem_singleton.2 rfl))
          hchange
      rcases OpenRegistry.change_cases hchange with rfl | hsave
      · refine hstay _ fun d hd => ?_
        obtain rfl := Option.some.inj hd
        exact ⟨hwf, hdataLineage⟩
      · rw [hsave]
        refine ⟨h.marker, h.quarantine.mono hpre, ⟨_, r.data, rfl, ?_, hchanged⟩, ?_,
          h.record.imp (Vanished.mono hpre) (Recorded.mono hpre)⟩
        · exact (OpenRegistry.loadRegistry_serializeData _).trans (RegistryData.load_build hwf')
        · intro d hd
          obtain rfl := Option.some.inj hd
          exact ⟨hwf', hchanged⟩
  | close => exact hstay none fun d hd => by cases hd

/-! ### Runs -/

/-- A step before anything was done. -/
theorem phase_next_found (hs : i.after p past = ⟨i.files, none⟩) (e : RegistryEvent) :
    i.Phase p (past ++ [e]) (RegistryRun.next p ⟨i.files, none⟩ e) := by
  cases e with
  | construct c cut =>
    have hphase := phase_construct_found hs c cut
    cases cut with
    | none =>
      have hnext : RegistryRun.next p ⟨i.files, none⟩ (.construct c none) =
          ⟨afterCall p i.files (.construct c none), none⟩ := by
        simp only [RegistryRun.next, construct?_found]
      rw [hnext]
      exact hphase
    | some cut => exact hphase
  | openForRecovery =>
    rw [next_openForRecovery_unmarked i.unmarked]
    exact .found rfl
  | restore a verdict cut => cases cut <;> exact .found rfl
  | change x => exact .found rfl
  | close => exact .found rfl

/-- A step when neither file is there. -/
theorem phase_next_vanished (hv : i.Vanished p past) (hmarker : s.files.marker = none)
    (hstorage : s.files.storage = none) (hquarantine : i.Quarantined p past s.files.quarantine)
    (hregistry : s.registry = none) (e : RegistryEvent) :
    i.Phase p (past ++ [e]) (s.next p e) := by
  have hpre : past <+: past ++ [e] := List.prefix_append ..
  have hstay : i.Phase p (past ++ [e]) s :=
    .vanished (hv.mono hpre) hmarker hstorage (hquarantine.mono hpre) hregistry
  cases e with
  | construct c cut =>
    cases cut with
    | none =>
      have hopened : OpenRegistry.construct? p s.files c =
          some ⟨.ofRegistry .bootstrap, s.files.applyAll bootstrapOps⟩ := by
        rw [OpenRegistry.construct?, construct_vanished hmarker hstorage]
      have hnext : s.next p (.construct c none) =
          ⟨afterCall p s.files (.construct c none),
            some (RegistryData.ofRegistry .bootstrap)⟩ := by
        simp only [RegistryRun.next, hopened, afterCall, construct_vanished hmarker hstorage]
        rfl
      rw [hnext]
      exact phase_construct_vanished hv hmarker hstorage hquarantine c none (.inr ⟨rfl, rfl⟩)
    | some cut =>
      exact phase_construct_vanished hv hmarker hstorage hquarantine c (some cut) (.inl rfl)
  | openForRecovery =>
    rw [next_openForRecovery_unmarked hmarker]
    exact hstay
  | restore a verdict cut =>
    have hsame : s.next p (.restore a verdict cut) = s := by
      cases cut <;> simp [RegistryRun.next, hregistry]
    rw [hsame]
    exact hstay
  | change x =>
    have hsame : s.next p (.change x) = s := by simp [RegistryRun.next, hregistry]
    rw [hsame]
    exact hstay
  | close =>
    have hsame : s.next p .close = s := by rw [RegistryRun.next, ← hregistry]
    rw [hsame]
    exact hstay

/-- **Every run is in one of the phases.** -/
theorem phase_after (p : Platform) (i : Incident) (past : List RegistryEvent) :
    i.Phase p past (i.after p past) := by
  induction past using List.reverseRecOn with
  | nil => exact .found rfl
  | append_singleton past e ih =>
    rw [after_concat]
    cases ih with
    | found h =>
      rw [h]
      exact phase_next_found h e
    | vanished hv hmarker hstorage hquarantine hregistry =>
      exact phase_next_vanished hv hmarker hstorage hquarantine hregistry e
    | pending c n h => exact phase_next_pending h e
    | inUse h => exact .inUse (inUse_next h e)

/-- Once in use, always in use. -/
theorem inUse_after (h : i.InUse p past (i.after p past)) (rest : List RegistryEvent) :
    i.InUse p (past ++ rest) (i.after p (past ++ rest)) := by
  induction rest using List.reverseRecOn with
  | nil =>
    rw [List.append_nil]
    exact h
  | append_singleton rest e ih =>
    rw [← List.append_assoc, after_concat]
    exact inUse_next ih e

/-- A runtime has a registry, and nothing is blocked. -/
theorem inUse_of_registry {data : RegistryData} (hregistry : (i.after p past).registry = some data)
    (hmarker : (i.after p past).files.marker = none) : i.InUse p past (i.after p past) := by
  cases phase_after p i past with
  | found h =>
    rw [h] at hregistry
    cases hregistry
  | vanished _ _ _ _ hnone => cases hnone.symm.trans hregistry
  | pending c n h => cases hmarker.symm.trans h.marker
  | inUse h => exact h

/-! ### A marker that cannot be read -/

/-- While the marker cannot be read, nothing removes it. -/
theorem marker_next_of_unreadable {m : ByteArray} (hmarker : s.files.marker = some m)
    (hread : readMarker s.files = none) (e : RegistryEvent) :
    (s.next p e).files.marker = some m := by
  have hrestore : ∀ a verdict, restoreFromAttestation p s.files a verdict = none := by
    intro a verdict
    rw [Option.eq_none_iff_forall_ne_some]
    intro ops hops
    obtain ⟨⟨marker, q, happroved, -⟩, -⟩ := restoreFromAttestation_eq_some.1 hops
    cases hread.symm.trans happroved.read
  cases e with
  | construct c cut =>
    cases cut with
    | none =>
      have hnone : OpenRegistry.construct? p s.files c = none := by
        rw [OpenRegistry.construct?, construct_marked hmarker]
      simp only [RegistryRun.next, hnone, afterCall_marked hmarker]
      exact hmarker
    | some cut =>
      simp only [RegistryRun.next, afterCall_marked hmarker]
      exact hmarker
  | openForRecovery =>
    simp only [RegistryRun.next, OpenRegistry.openForRecovery]
    by_cases hpath : p.storagePath = ""
    · rw [if_pos hpath]
      exact hmarker
    · have hmarked : s.files.marker.isNone = false := by rw [hmarker]; rfl
      rw [if_neg hpath, hmarked]
      exact hmarker
  | restore a verdict cut =>
    cases hregistry : s.registry with
    | none => cases cut <;> simpa [RegistryRun.next, hregistry] using hmarker
    | some d =>
      cases cut with
      | none => simpa [RegistryRun.next, hregistry, OpenRegistry.restore, hrestore] using hmarker
      | some cut =>
        simp only [RegistryRun.next, hregistry, afterCall, hrestore, Option.getD_none, cutOps_nil]
        exact hmarker
  | change x =>
    cases hr : s.registry.bind fun data => OpenRegistry.change ⟨data, s.files⟩ x with
    | none =>
      simp only [RegistryRun.next, hr]
      exact hmarker
    | some r =>
      simp only [RegistryRun.next, hr]
      obtain ⟨data, -, hchange⟩ := Option.bind_eq_some_iff.1 hr
      rcases OpenRegistry.change_cases hchange with rfl | hsave
      · exact hmarker
      · rw [hsave]
        exact hmarker
  | close => exact hmarker

theorem marker_after_of_unreadable {m : ByteArray}
    (hmarker : (i.after p past).files.marker = some m)
    (hread : readMarker (i.after p past).files = none) (rest : List RegistryEvent) :
    (i.after p (past ++ rest)).files.marker = some m := by
  induction rest using List.reverseRecOn with
  | nil =>
    rw [List.append_nil]
    exact hmarker
  | append_singleton rest e ih =>
    rw [← List.append_assoc, after_concat]
    refine marker_next_of_unreadable ih ?_ e
    rw [readMarker, ih]
    rw [readMarker, hmarker] at hread
    exact hread

/-- **Blocked for ever.**  A crash while the marker is written: no later event removes the marker,
so no registry is in use again. -/
theorem blocked_for_ever (p : Platform) (i : Incident) (c : Corruption) (n : ℕ)
    (hmoves : c.moveFails = false) (htorn : n < (i.markerText p c).length)
    (rest : List RegistryEvent) :
    (i.after p (.construct c (some ⟨2, n⟩) :: rest)).files.marker ≠ none := by
  have hfiles : (i.after p [.construct c (some ⟨2, n⟩)]).files =
      { i.moved p c with marker := some (Text.encode ((i.markerText p c).take n)) } := by
    show afterCall p i.files (.construct c (some ⟨2, n⟩)) = _
    rw [afterCall, construct_found, corruptionOps, hmoves]
    rfl
  have hmarker : (i.after p [.construct c (some ⟨2, n⟩)]).files.marker =
      some (Text.encode ((i.markerText p c).take n)) := by rw [hfiles]
  have hdrop : (i.markerText p c).drop n ≠ [] := by
    intro h
    have hle := List.drop_eq_nil_iff.1 h
    omega
  have hunread : readMarker (i.after p [.construct c (some ⟨2, n⟩)]).files = none := by
    rw [readMarker, hmarker, Option.bind_some, Text.decode_encode, Option.bind_some,
      Json.loads_torn_indent hdrop (List.take_append_drop n (i.markerText p c))]
  have hafter := marker_after_of_unreadable hmarker hunread rest
  rw [List.singleton_append] at hafter
  rw [hafter]
  exact Option.some_ne_none _

/-! ### Repeating a restore -/

/-- **A restore that crashed before the marker was removed is repeated.** -/
theorem restore_again (hmarker : s.files.marker ≠ none) (hpath : p.storagePath ≠ "")
    (a : RecoveryAttestation) (verdict : Option Bool) {cut : Cut} (hcut : cut.after < 4) :
    ((s.next p (.restore a verdict (some cut))).next p .openForRecovery).next p
        (.restore a verdict none) =
      (s.next p .openForRecovery).next p (.restore a verdict none) := by
  have hopen : ∀ t : RegistryRun, t.files.marker ≠ none →
      t.next p .openForRecovery = ⟨t.files, some {}⟩ := by
    intro t ht
    have hmarked : t.files.marker.isNone = false := by
      cases h : t.files.marker with
      | none => exact absurd h ht
      | some m => rfl
    simp only [RegistryRun.next, OpenRegistry.openForRecovery, if_neg hpath, hmarked,
      Bool.false_eq_true, if_false]
  cases hregistry : s.registry with
  | none =>
    have hsame : s.next p (.restore a verdict (some cut)) = s := by
      simp [RegistryRun.next, hregistry]
    rw [hsame]
  | some d =>
    have hcrashed : s.next p (.restore a verdict (some cut)) =
        ⟨afterCall p s.files (.restore a verdict (some cut)), none⟩ := by
      simp [RegistryRun.next, hregistry]
    rw [hcrashed, afterCall, hopen s hmarker]
    cases hops : restoreFromAttestation p s.files a verdict with
    | none =>
      have hfiles : s.files.applyAll (cutOps ((none : Option (List FileOp)).getD []) (some cut)) =
          s.files := by
        rw [Option.getD_none, cutOps_nil]
        rfl
      rw [hfiles, hopen ⟨s.files, none⟩ hmarker]
    | some ops =>
      obtain ⟨-, rfl⟩ := restoreFromAttestation_eq_some.1 hops
      obtain ⟨storage, records, hfiles, hrecords⟩ :=
        applyAll_cut_restoreOps (p := p) s.files a hcut
      have hopened := hopen
        ⟨{ s.files with storage := storage, recoveryRecords := records }, none⟩ hmarker
      rw [Option.getD_some, hfiles, hopened]
      -- the operations that are repeated take the place of the first ones
      have hagain : restoreFromAttestation p
          { s.files with storage := storage, recoveryRecords := records } a verdict =
            some (restoreOps p a) := hops
      have hrepeated : OpenRegistry.restore p
          ⟨{}, { s.files with storage := storage, recoveryRecords := records }⟩ a verdict =
            OpenRegistry.restore p ⟨{}, s.files⟩ a verdict := by
        rw [OpenRegistry.restore_of_ops (r := ⟨{}, s.files⟩) hops,
          OpenRegistry.restore_of_ops (r := ⟨{}, _⟩) hagain, applyAll_restoreOps,
          applyAll_restoreOps, hrecords]
      have hwhole : ∃ r, OpenRegistry.restore p ⟨{}, s.files⟩ a verdict = some r := by
        obtain ⟨⟨marker, q, happroved, -⟩, -⟩ := restoreFromAttestation_eq_some.1 hops
        obtain ⟨data, hload⟩ := Option.isSome_iff_exists.1 happroved.payload
        obtain ⟨hardware, -, hsome⟩ := OpenRegistry.exists_loadFromDisk
          (r := ⟨{}, s.files.applyAll (restoreOps p a)⟩) rfl hload
        exact ⟨_, (OpenRegistry.restore_of_ops hops).trans hsome⟩
      obtain ⟨r, hr⟩ := hwhole
      simp only [RegistryRun.next, Option.bind_some, hrepeated, hr]

/-! ### The lineage of what is open -/

/-- A registry that is cut off. -/
def sampleIncident : Incident where
  files := corruptedFiles
  content := Text.encode ['{']
  storage := rfl
  corrupted := loadRegistry_torn
  unmarked := rfl

/-- It is quarantined, and a runtime opens it for recovery. -/
def sampleBlocked : List RegistryEvent := [.construct sampleCorruption none, .openForRecovery]

theorem after_sampleBlocked :
    sampleIncident.after restorePlatform sampleBlocked = ⟨blockedFiles, some {}⟩ := by
  have hfiles : sampleIncident.files = corruptedFiles := rfl
  have hnone : OpenRegistry.construct? restorePlatform corruptedFiles sampleCorruption = none :=
    construct?_found (i := sampleIncident) sampleCorruption
  have hconstruct : RegistryRun.next restorePlatform ⟨corruptedFiles, none⟩
      (.construct sampleCorruption none) = ⟨blockedFiles, none⟩ := by
    simp only [RegistryRun.next, hnone, blockedFiles]
  rw [sampleBlocked, Incident.after, hfiles, List.foldl_cons, hconstruct, List.foldl_cons,
    next_openForRecovery_marked (by decide) isSome_blockedFiles, List.foldl_nil]

/-- The restore of the quarantined registry goes through. -/
theorem exists_restore_blockedFiles : ∃ r, r.files.marker = none ∧
    OpenRegistry.restore restorePlatform ⟨{}, blockedFiles⟩ (sampleAttestation "recovery-1")
      (some true) = some r := by
  obtain ⟨marker, happroved⟩ := approved_sampleAttestation "recovery-1" (by decide)
  have hops := restoreFromAttestation_eq_some.2
    ⟨⟨marker, _, happroved, identified_sampleAttestation⟩, rfl⟩
  obtain ⟨data, hload⟩ := Option.isSome_iff_exists.1 happroved.payload
  obtain ⟨hardware, -, hsome⟩ := OpenRegistry.exists_loadFromDisk
    (r := ⟨{}, blockedFiles.applyAll (restoreOps restorePlatform (sampleAttestation "recovery-1"))⟩)
    rfl hload
  refine ⟨_, ?_, (OpenRegistry.restore_of_ops (r := ⟨{}, blockedFiles⟩) hops).trans hsome⟩
  rw [applyAll_restoreOps]

end Incident

end Execution

end AnnyRuntime
