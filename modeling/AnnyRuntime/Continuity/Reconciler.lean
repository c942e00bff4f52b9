import AnnyRuntime.Continuity.Mutation

/-!
# Reconciling records, events and repositories

`Reconciler.reconcile` goes through the records and looks for three things: a change that was
prepared and not finalized, a step that is complete without an event of its change, and a record
of one mission that lacks evidence.  It saves what it finds and appends a gap event for it.

`reconcile_status` : it requires a reconciliation exactly when a record of the first two kinds is
there.
-/

namespace AnnyRuntime

namespace Continuity

/-- A fresh id and the time. -/
structure GapStamp where
  (eventId timestamp : String)
  deriving DecidableEq

/-- What reconciling takes from the outside, for the `n`-th record. -/
structure ReconcileWorld where
  /-- The commit that a repository is at, or nothing when git cannot say. -/
  head : ℕ → Json → String
  /-- The ids and the times of its gap events. -/
  stamp : ℕ → Fin 3 → GapStamp

/-- `_create_gap_event`. -/
def gapEvent (t : GapStamp) (r : ContinuityRecord) (reason : String) : EventRecord where
  eventId := .str t.eventId
  sequence := 0
  timestamp := .str t.timestamp
  missionId := r.missionId
  taskId := r.taskId
  stepId := r.stepId
  parentEventId := .null
  actorId := .str "SYSTEM"
  actorLevel := .str "L0"
  parentActorId := .null
  eventType := .str ContinuityEventType.blockerCreated.value
  target := .str "CONTINUITY"
  intent := .str "RECONCILIATION"
  inputs := .obj [("reason", .str reason)]
  repository := .null
  branch := .null
  commitBefore := .null
  commitAfter := .null
  filesChanged := .arr []
  observation := .str ("CONTINUITY_GAP: " ++ reason)
  result := .str "FAILED"
  evidenceRefs := .arr []
  testResults := .arr []
  decisionRef := .null
  stateChange := .str ContinuityStatus.blocked.value
  status := .str ContinuityStatus.blocked.value
  implementationState := .str ContinuityStatus.pending.value
  verificationState := .str ContinuityStatus.pending.value
  certificationState := .str ContinuityStatus.notCertified.value
  blockerRefs := .arr []
  nextAction := .str "RECONCILE_STATE"
  fabricNode := .null
  fabricTenant := .null
  fabricProject := .null
  resourceIds := .null
  stateBefore := .null
  stateAfter := .null
  executionId := .null

/-! ### One record -/

/-- The events of a step of the given types. -/
def stepEvents (events : List EventRecord) (stepId : Json) (types : List ContinuityEventType) :
    List EventRecord :=
  events.filter fun ev => ev.stepId = stepId ∧ ev.eventType ∈ types.map fun t => Json.str t.value

/-- The preparation of a record that was not finalized: its step has one, and nothing that
finalizes. -/
def unfinalized (events : List EventRecord) (r : ContinuityRecord) : Option EventRecord :=
  if r.implementationState = .str ContinuityStatus.active.value ∧ r.repository.truthy = true ∧
      stepEvents events r.stepId [.mutationFinalized] = [] then
    (stepEvents events r.stepId [.mutationPrepared]).getLast?
  else none

/-- A step is marked complete, without an event of its change. -/
def unrecorded (events : List EventRecord) (r : ContinuityRecord) : Bool :=
  r.status = .str ContinuityStatus.complete.value && r.repository.truthy &&
    stepEvents events r.stepId [.repositoryMutated, .mutationFinalized] = []

/-- What a record becomes when its preparation was not finalized, and why. -/
def orphanedRecord (head : String) (prep : EventRecord) (r : ContinuityRecord) :
    ContinuityRecord × String :=
  if head ≠ "" ∧ prep.commitBefore.truthy = true ∧ prep.commitBefore ≠ .str head then
    ({ r with status := .str "COMMITTED_UNFINALIZED" },
      "COMMITTED_UNFINALIZED: Found unfinalized commit " ++ head ++
        " for prepared mutation from " ++ prep.commitBefore.pyStr)
  else
    ({ r with status := .str "PREPARED_NO_COMMIT" },
      "PREPARED_NO_COMMIT: Process died before git commit was executed.")

/-- What a part of the check does: the record after it, its writes, and whether it requires a
reconciliation. -/
structure Check where
  record : ContinuityRecord
  writes : List Write := []
  required : Bool := false

/-- A preparation that was not finalized. -/
def checkPrepared (w : ReconcileWorld) (events : List EventRecord) (n : ℕ)
    (r : ContinuityRecord) : Check :=
  match unfinalized events r with
  | none => { record := r }
  | some prep =>
    let found := orphanedRecord (w.head n prep.repository) prep r
    { record := found.1
      writes := [.record found.1, .event (gapEvent (w.stamp n 0) found.1 found.2)]
      required := true }

/-- A complete step without an event of its change. -/
def checkComplete (w : ReconcileWorld) (events : List EventRecord) (n : ℕ)
    (r : ContinuityRecord) : Check :=
  if unrecorded events r then
    { record := r
      writes := [.event (gapEvent (w.stamp n 1) r
        ("Step marked COMPLETE with repository, but no MUTATION_FINALIZED or " ++
          "REPOSITORY_MUTATED event found."))]
      required := true }
  else { record := r }

/-- `reconcile_mission_002`, of the one mission it is for. -/
def checkMission002 (w : ReconcileWorld) (n : ℕ) (r : ContinuityRecord) : Check :=
  if r.missionId = .str "MISSION-002-R2-PHYSICAL" ∧ r.evidenceRefs.truthy = false ∧
      r.status = .str ContinuityStatus.complete.value then
    let r :=
      { r with
        status := .str "ORPHANED_REQUIRES_RECONCILIATION"
        reason := .str ("Mission 002-R2-PHYSICAL marked as COMPLETE but missing physical " ++
          "evidence refs.") }
    { record := r
      writes := [.record r, .event (gapEvent (w.stamp n 2) r
        "MISSION-002-R2-PHYSICAL is missing required evidence.")] }
  else { record := r }

/-- Everything that is checked about a record. -/
def checkRecord (w : ReconcileWorld) (events : List EventRecord) (n : ℕ) (r : ContinuityRecord) :
    Check :=
  let prepared := checkPrepared w events n r
  let complete := checkComplete w events n prepared.record
  let mission := checkMission002 w n complete.record
  { record := mission.record
    writes := prepared.writes ++ complete.writes ++ mission.writes
    required := prepared.required || complete.required }

/-! ### All records -/

/-- The checks of all records.  The list of events grows while they are made, by gap events, which
no check looks at. -/
def checks (w : ReconcileWorld) (e : ContinuityEngine) : List Check :=
  e.records.values.mapIdx (checkRecord w e.events)

/-- `reconcile`: the status. -/
def reconcile (w : ReconcileWorld) (e : ContinuityEngine) : BootstrapStatus :=
  if (checks w e).any (·.required) then .reconciliationRequired else .coherent

/-- What `reconcile` writes. -/
def reconcileWrites (w : ReconcileWorld) (e : ContinuityEngine) : List Write :=
  (checks w e).flatMap (·.writes)

/-! ### What is found -/

variable {w : ReconcileWorld} {events : List EventRecord} {n : ℕ} {r : ContinuityRecord}

theorem mem_stepEvents {stepId : Json} {types : List ContinuityEventType} {ev : EventRecord} :
    ev ∈ stepEvents events stepId types ↔
      ev ∈ events ∧ ev.stepId = stepId ∧ ∃ t ∈ types, ev.eventType = .str t.value := by
  simp only [stepEvents, List.mem_filter, decide_eq_true_eq, List.mem_map]
  exact and_congr_right fun _ => and_congr_right fun _ =>
    ⟨fun ⟨t, ht, he⟩ => ⟨t, ht, he.symm⟩, fun ⟨t, ht, he⟩ => ⟨t, ht, he.symm⟩⟩

theorem isSome_unfinalized :
    (unfinalized events r).isSome = true ↔
      r.implementationState = .str ContinuityStatus.active.value ∧ r.repository.truthy = true ∧
        stepEvents events r.stepId [.mutationFinalized] = [] ∧
        stepEvents events r.stepId [.mutationPrepared] ≠ [] := by
  unfold unfinalized
  split_ifs with h
  · obtain ⟨ha, hr, hf⟩ := h
    simp [List.getLast?_isSome, ha, hr, hf]
  · refine iff_of_false (by simp) ?_
    rintro ⟨ha, hr, hf, -⟩
    exact h ⟨ha, hr, hf⟩

theorem orphanedRecord_status (head : String) (prep : EventRecord) (r : ContinuityRecord) :
    (orphanedRecord head prep r).1.status ≠ .str ContinuityStatus.complete.value := by
  unfold orphanedRecord
  split_ifs <;> simp [ContinuityStatus.value]

theorem checkRecord_required :
    (checkRecord w events n r).required = true ↔
      (unfinalized events r).isSome = true ∨ unrecorded events r = true := by
  have hcomplete : ∀ r', (checkComplete w events n r').required = unrecorded events r' := by
    intro r'
    unfold checkComplete
    split_ifs with h <;> simp [h]
  rcases Option.eq_none_or_eq_some (unfinalized events r) with h | ⟨prep, h⟩
  · have hp : checkPrepared w events n r = { record := r } := by rw [checkPrepared, h]
    simp [checkRecord, hp, hcomplete, h]
  · have hp : (checkPrepared w events n r).required = true := by rw [checkPrepared, h]
    simp [checkRecord, hp, h]

/-- **When a reconciliation is required.** -/
theorem reconcile_status (w : ReconcileWorld) (e : ContinuityEngine) :
    reconcile w e = .reconciliationRequired ↔ ∃ r ∈ e.records.values,
      (unfinalized e.events r).isSome = true ∨ unrecorded e.events r = true := by
  have hif : reconcile w e = .reconciliationRequired ↔
      ∃ c ∈ checks w e, c.required = true := by
    rw [reconcile, ← List.any_eq_true]
    split_ifs with h <;> simp [h]
  rw [hif]
  constructor
  · rintro ⟨c, hc, hreq⟩
    obtain ⟨i, hi, rfl⟩ := List.mem_mapIdx.1 hc
    exact ⟨_, List.getElem_mem hi, checkRecord_required.1 hreq⟩
  · rintro ⟨r, hr, hreq⟩
    obtain ⟨i, hi, rfl⟩ := List.mem_iff_getElem.1 hr
    exact ⟨_, List.mem_mapIdx.2 ⟨i, hi, rfl⟩, checkRecord_required.2 hreq⟩

/-! ### What is written -/

/-- A record is another state of the same step, as the checks leave it. -/
structure SameStep (r r' : ContinuityRecord) : Prop where
  continuityId : r'.continuityId = r.continuityId
  stepId : r'.stepId = r.stepId
  implementationState : r'.implementationState = r.implementationState
  repository : r'.repository = r.repository
  status : r'.status = .str ContinuityStatus.complete.value →
    r.status = .str ContinuityStatus.complete.value

theorem SameStep.trans {r₁ r₂ r₃ : ContinuityRecord} (h : SameStep r₁ r₂) (h' : SameStep r₂ r₃) :
    SameStep r₁ r₃ :=
  ⟨h'.continuityId.trans h.continuityId, h'.stepId.trans h.stepId,
    h'.implementationState.trans h.implementationState, h'.repository.trans h.repository,
    fun hc => h.status (h'.status hc)⟩

/-- A write of the check of `r`: a state of the same step, or a gap event. -/
def CheckWrite (r : ContinuityRecord) : Write → Prop
  | .record r' => SameStep r r'
  | .event ev => ev.eventType = .str ContinuityEventType.blockerCreated.value

/-- A part of the check of `r` keeps to its step. -/
structure Check.KeepsTo (c : Check) (r : ContinuityRecord) : Prop where
  record : SameStep r c.record
  writes : ∀ x ∈ c.writes, CheckWrite r x

theorem SameStep.refl (r : ContinuityRecord) : SameStep r r := ⟨rfl, rfl, rfl, rfl, id⟩

theorem CheckWrite.of_sameStep {r r' : ContinuityRecord} (h : SameStep r r') :
    ∀ {x : Write}, CheckWrite r' x → CheckWrite r x
  | .record _, hx => h.trans hx
  | .event _, hx => hx

theorem keepsTo_checkPrepared (w : ReconcileWorld) (events : List EventRecord) (n : ℕ)
    (r : ContinuityRecord) : (checkPrepared w events n r).KeepsTo r := by
  have hrec : ∀ head prep, SameStep r (orphanedRecord head prep r).1 := by
    intro head prep
    have hstatus := orphanedRecord_status head prep r
    unfold orphanedRecord at hstatus ⊢
    split_ifs <;> exact ⟨rfl, rfl, rfl, rfl, fun h => absurd h (by simp [ContinuityStatus.value])⟩
  unfold checkPrepared
  cases unfinalized events r with
  | none => exact ⟨SameStep.refl r, by simp⟩
  | some prep => exact ⟨hrec _ _, by simpa [CheckWrite, gapEvent] using hrec _ _⟩

theorem keepsTo_checkComplete (w : ReconcileWorld) (events : List EventRecord) (n : ℕ)
    (r : ContinuityRecord) : (checkComplete w events n r).KeepsTo r := by
  unfold checkComplete
  split_ifs
  · exact ⟨SameStep.refl r, by simp [CheckWrite, gapEvent]⟩
  · exact ⟨SameStep.refl r, by simp⟩

theorem keepsTo_checkMission002 : (checkMission002 w n r).KeepsTo r := by
  have hrec : ∀ reason, SameStep r
      { r with status := .str "ORPHANED_REQUIRES_RECONCILIATION", reason := reason } := fun _ =>
    ⟨rfl, rfl, rfl, rfl, fun h => absurd h (by simp [ContinuityStatus.value])⟩
  unfold checkMission002
  split_ifs
  · exact ⟨hrec _, by simpa [CheckWrite, gapEvent] using hrec _⟩
  · exact ⟨SameStep.refl r, by simp⟩

theorem keepsTo_checkRecord : (checkRecord w events n r).KeepsTo r := by
  have hp := keepsTo_checkPrepared w events n r
  have hc := keepsTo_checkComplete w events n (checkPrepared w events n r).record
  have hm := keepsTo_checkMission002 (w := w) (n := n)
    (r := (checkComplete w events n (checkPrepared w events n r).record).record)
  have hpc := hp.record.trans hc.record
  refine ⟨hpc.trans hm.record, fun x hx => ?_⟩
  rcases List.mem_append.1 hx with hx | hx
  · rcases List.mem_append.1 hx with hx | hx
    · exact hp.writes x hx
    · exact (hc.writes x hx).of_sameStep hp.record
  · exact (hm.writes x hx).of_sameStep hpc

theorem mem_reconcileWrites {e : ContinuityEngine} {x : Write} (h : x ∈ reconcileWrites w e) :
    ∃ r ∈ e.records.values, CheckWrite r x := by
  obtain ⟨c, hc, hx⟩ := List.mem_flatMap.1 h
  obtain ⟨i, hi, rfl⟩ := List.mem_mapIdx.1 hc
  exact ⟨_, List.getElem_mem hi, keepsTo_checkRecord.writes x hx⟩

end Continuity

end AnnyRuntime
