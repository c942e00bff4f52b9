import AnnyRuntime.Continuity.Writes

/-!
# Recording a change to a repository

`RepositoryMutationContract` records a change in two phases: `prepareMutation` before the commit,
`finalizeMutation` after it.  Each saves the latest record of the step and then appends an event
about it; finalizing appends a second one, for readers of the older event type.

A call is the list of its writes; one that raises has none.
-/

namespace AnnyRuntime

namespace Continuity

/-- The record of a step that is written to: the latest one. -/
def stepRecord (e : ContinuityEngine) (missionId stepId : Json) : Option ContinuityRecord :=
  ((e.getRecordsByMission missionId).filter fun r => r.stepId = stepId).getLast?

/-! ### Preparing -/

/-- What `prepare_mutation` is given. -/
structure PrepareRequest where
  (missionId taskId stepId actorId actorLevel repository branch commitBefore : String)
  (reason action nextAction : String)
  executionId : Option String := none
  deriving DecidableEq

/-- What it takes from the outside: a fresh id, and the times. -/
structure PrepareStamp where
  (eventId updatedAt timestamp : String)
  deriving DecidableEq

/-- An execution id that is given, and not empty. -/
def PrepareRequest.executionGiven (q : PrepareRequest) : Option String :=
  q.executionId.filter (· ≠ "")

/-- The record of a step that is prepared. -/
def preparedRecord (q : PrepareRequest) (t : PrepareStamp) (r : ContinuityRecord) :
    ContinuityRecord :=
  { r with
    repository := .str q.repository
    branch := .str q.branch
    commitBefore := .str q.commitBefore
    reason := .str q.reason
    nextAction := .str q.nextAction
    executionId := (q.executionGiven.map Json.str).getD r.executionId
    implementationState := .str ContinuityStatus.active.value
    updatedAt := .str t.updatedAt }

/-- The event of a preparation, about the record as it was saved. -/
def preparedEvent (q : PrepareRequest) (t : PrepareStamp) (r : ContinuityRecord) : EventRecord where
  eventId := .str t.eventId
  sequence := 0
  timestamp := .str t.timestamp
  missionId := .str q.missionId
  taskId := .str q.taskId
  stepId := .str q.stepId
  parentEventId := .null
  actorId := .str q.actorId
  actorLevel := .str q.actorLevel
  parentActorId := .null
  eventType := .str ContinuityEventType.mutationPrepared.value
  target := .str q.repository
  intent := .str q.action
  inputs := .obj (("branch", .str q.branch) ::
    (q.executionGiven.map fun x => [("execution_id", Json.str x)]).getD [])
  repository := .str q.repository
  branch := .str q.branch
  commitBefore := .str q.commitBefore
  commitAfter := .null
  filesChanged := .arr []
  observation := .str ("Prepared mutation for repository " ++ q.repository)
  result := .str "PREPARED"
  evidenceRefs := .arr []
  testResults := .arr []
  decisionRef := .null
  stateChange := .str ContinuityStatus.active.value
  status := .str ContinuityStatus.active.value
  implementationState := .str ContinuityStatus.active.value
  verificationState := r.verificationState
  certificationState := r.certificationState
  blockerRefs := .arr []
  nextAction := .str q.nextAction
  fabricNode := .null
  fabricTenant := .null
  fabricProject := .null
  resourceIds := .null
  stateBefore := .null
  stateAfter := .null
  executionId := .ofOptString q.executionId

/-- `prepare_mutation`: what it writes, unless the step has no record. -/
def prepareMutation (e : ContinuityEngine) (q : PrepareRequest) (t : PrepareStamp) :
    Option (List Write) :=
  (stepRecord e (.str q.missionId) (.str q.stepId)).map fun r =>
    let r := preparedRecord q t r
    [.record r, .event (preparedEvent q t r)]

/-! ### Finalizing -/

/-- What `finalize_mutation` is given: the event that preparing returned, and the change. -/
structure FinalizeRequest where
  prepareEvent : EventRecord
  commitAfter : String
  (filesChanged tests evidenceRefs : List String)
  deriving DecidableEq

/-- What it takes from the outside: fresh ids, and the times. -/
structure FinalizeStamp where
  (eventId compatId updatedAt timestamp compatTimestamp : String)
  deriving DecidableEq

/-- `list.extend`, which nothing but a list has. -/
def extend : Json → List String → Option Json
  | .arr xs, l => some (.arr (xs ++ l.map Json.str))
  | _, _ => none

/-- The record of a step that is finalized. -/
def finalizedRecord (q : FinalizeRequest) (t : FinalizeStamp) (r : ContinuityRecord) :
    Option ContinuityRecord := do
  let filesChanged ← extend r.filesChanged q.filesChanged
  let tests ← extend r.tests q.tests
  let evidenceRefs ← extend r.evidenceRefs q.evidenceRefs
  return { r with
    commitAfter := .str q.commitAfter
    filesChanged := filesChanged
    tests := tests
    evidenceRefs := evidenceRefs
    implementationState := .str ContinuityStatus.complete.value
    updatedAt := .str t.updatedAt }

/-- What `observation` says of a change to a repository, which can be any value in a log. -/
def observationOf (verb : String) (repository : Json) : String :=
  verb ++ " repository " ++ repository.pyStr

/-- An event of a change that is finalized: its type, its id, its time, the event it refers to,
and what it observes. -/
def finalizeEvent (q : FinalizeRequest) (r : ContinuityRecord) (eventType : ContinuityEventType)
    (eventId timestamp : String) (parentEventId : Json) (verb : String) : EventRecord :=
  { q.prepareEvent with
    eventId := .str eventId
    sequence := 0
    timestamp := .str timestamp
    parentEventId := parentEventId
    parentActorId := .null
    eventType := .str eventType.value
    commitAfter := .str q.commitAfter
    filesChanged := .ofStrings q.filesChanged
    observation := .str (observationOf verb q.prepareEvent.repository)
    result := .str "SUCCESS"
    evidenceRefs := .ofStrings q.evidenceRefs
    testResults := .arr []
    decisionRef := .null
    stateChange := .str ContinuityStatus.complete.value
    status := .str ContinuityStatus.complete.value
    implementationState := .str ContinuityStatus.complete.value
    verificationState := r.verificationState
    certificationState := r.certificationState
    blockerRefs := .arr []
    fabricNode := .null
    fabricTenant := .null
    fabricProject := .null
    resourceIds := .null
    stateBefore := .null
    stateAfter := .null }

/-- The event that ends a change: it refers to the preparation. -/
def finalizedEvent (q : FinalizeRequest) (t : FinalizeStamp) (r : ContinuityRecord) : EventRecord :=
  finalizeEvent q r .mutationFinalized t.eventId t.timestamp q.prepareEvent.eventId
    "Finalized mutation for"

/-- The event for readers of the older type: it refers to the one before it. -/
def mutatedEvent (q : FinalizeRequest) (t : FinalizeStamp) (r : ContinuityRecord) : EventRecord :=
  finalizeEvent q r .repositoryMutated t.compatId t.compatTimestamp (.str t.eventId) "Mutated"

/-- `finalize_mutation`: what it writes, unless the step has no record, or one whose lists are no
lists. -/
def finalizeMutation (e : ContinuityEngine) (q : FinalizeRequest) (t : FinalizeStamp) :
    Option (List Write) := do
  let r ← stepRecord e q.prepareEvent.missionId q.prepareEvent.stepId
  let r ← finalizedRecord q t r
  return [.record r, .event (finalizedEvent q t r), .event (mutatedEvent q t r)]

/-! ### What they write -/

variable {e : ContinuityEngine}

theorem stepRecord_spec {missionId stepId : Json} {r : ContinuityRecord}
    (h : stepRecord e missionId stepId = some r) : r ∈ e.records.values ∧ r.stepId = stepId := by
  have hmem := List.mem_of_getLast? h
  rw [List.mem_filter, decide_eq_true_eq] at hmem
  exact ⟨(List.mem_filter.1 hmem.1).1, hmem.2⟩

theorem prepareMutation_eq_some {q : PrepareRequest} {t : PrepareStamp} {ws : List Write}
    (h : prepareMutation e q t = some ws) :
    ∃ r ∈ e.records.values, r.stepId = .str q.stepId ∧
      ws = [.record (preparedRecord q t r), .event (preparedEvent q t (preparedRecord q t r))] := by
  obtain ⟨r, hr, rfl⟩ := Option.map_eq_some_iff.1 h
  obtain ⟨hmem, hstep⟩ := stepRecord_spec hr
  exact ⟨r, hmem, hstep, rfl⟩

/-- What finalizing does to the record of a step. -/
structure Finalizes (r r' : ContinuityRecord) : Prop where
  continuityId : r'.continuityId = r.continuityId
  stepId : r'.stepId = r.stepId
  status : r'.status = r.status
  implementationState : r'.implementationState = .str ContinuityStatus.complete.value

theorem finalizeMutation_eq_some {q : FinalizeRequest} {t : FinalizeStamp} {ws : List Write}
    (h : finalizeMutation e q t = some ws) :
    ∃ r ∈ e.records.values, r.stepId = q.prepareEvent.stepId ∧ ∃ r', Finalizes r r' ∧
      ws = [.record r', .event (finalizedEvent q t r'), .event (mutatedEvent q t r')] := by
  simp only [finalizeMutation, Option.bind_eq_bind, Option.bind_eq_some_iff, Option.pure_def,
    Option.some.injEq] at h
  obtain ⟨r, hr, r', hr', rfl⟩ := h
  obtain ⟨hmem, hstep⟩ := stepRecord_spec hr
  refine ⟨r, hmem, hstep, r', ?_, rfl⟩
  simp only [finalizedRecord, Option.bind_eq_bind, Option.bind_eq_some_iff, Option.pure_def,
    Option.some.injEq] at hr'
  obtain ⟨files, -, tests, -, refs, -, rfl⟩ := hr'
  exact ⟨rfl, rfl, rfl, rfl⟩

end Continuity

end AnnyRuntime
