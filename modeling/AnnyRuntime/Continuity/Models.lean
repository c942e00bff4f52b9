import AnnyRuntime.Json.Dataclass
import AnnyRuntime.Json.RoundTrip

/-!
# Continuity records and events

The two dataclasses of the continuity log.  Nothing checks the types of their fields, so a field
of a record that was read from a log holds any JSON value.  Two fields are different:

* `continuityId` is used as a dictionary key as soon as a record is read, so a record whose id
  cannot be one is never built;
* `sequence` is compared with an integer as soon as an event is read, so an event whose sequence
  is no number is never kept.

`ofJson` builds an instance from a decoded line, and `toJson` is the value that is written.
-/

namespace AnnyRuntime

namespace Continuity

/-- The states a record goes through. -/
inductive ContinuityStatus where
  | pending
  | active
  | complete
  | failed
  | notCertified
  | certified
  | blocked
  deriving DecidableEq

/-- The text of a status. -/
def ContinuityStatus.value : ContinuityStatus → String
  | pending => "PENDING"
  | active => "ACTIVE"
  | complete => "COMPLETE"
  | failed => "FAILED"
  | notCertified => "NOT_CERTIFIED"
  | certified => "CERTIFIED"
  | blocked => "BLOCKED"

/-- What the reconciler finds. -/
inductive BootstrapStatus where
  | coherent
  | degraded
  | reconciliationRequired
  | unverified
  deriving DecidableEq

/-- The kinds of events that are written by the code modelled here. -/
inductive ContinuityEventType where
  | taskCreated
  | actionCompleted
  | actionFailed
  | repositoryMutated
  | mutationPrepared
  | mutationFinalized
  | blockerCreated
  deriving DecidableEq

/-- The text of an event type. -/
def ContinuityEventType.value : ContinuityEventType → String
  | taskCreated => "TASK_CREATED"
  | actionCompleted => "ACTION_COMPLETED"
  | actionFailed => "ACTION_FAILED"
  | repositoryMutated => "REPOSITORY_MUTATED"
  | mutationPrepared => "MUTATION_PREPARED"
  | mutationFinalized => "MUTATION_FINALIZED"
  | blockerCreated => "BLOCKER_CREATED"

/-! ### Records -/

/-- The state of one step of a mission. -/
structure ContinuityRecord where
  /-- The key of the record: it can key a dictionary. -/
  continuityId : Json.Key
  /-- The mission, the task and the step, and what they belong to. -/
  (missionId taskId parentTaskId stepId parentStepId : Json)
  /-- The times of its life. -/
  (createdAt startedAt updatedAt completedAt certifiedAt : Json)
  /-- Who acts. -/
  (actorId actorLevel parentActorId : Json)
  /-- Its four states. -/
  (status implementationState verificationState certificationState : Json)
  /-- What it is for. -/
  (objective reason : Json)
  /-- The repository it changes, and the change. -/
  (repository branch commitBefore commitAfter filesChanged changeSummary : Json)
  /-- What was done. -/
  (actions tools tests testResults : Json)
  /-- What it refers to. -/
  (evidenceRefs artifactRefs decisionRefs blockerRefs : Json)
  /-- The binding to the repository fabric. -/
  (fabricNode fabricTenant fabricProject resourceIds stateBefore stateAfter : Json)
  /-- Progress and handoff. -/
  (currentStep lastCompletedStep nextAction handoffTarget handoffStatus : Json)
  /-- The execution it belongs to. -/
  executionId : Json
  deriving DecidableEq

namespace ContinuityRecord

/-- The fields of a record. -/
def fields : List Json.Field :=
  [{ name := "continuity_id" }, { name := "mission_id" }, { name := "task_id" },
    { name := "parent_task_id" }, { name := "step_id" }, { name := "parent_step_id" },
    { name := "created_at" }, { name := "started_at" }, { name := "updated_at" },
    { name := "completed_at" }, { name := "certified_at" }, { name := "actor_id" },
    { name := "actor_level" }, { name := "parent_actor_id" }, { name := "status" },
    { name := "implementation_state" }, { name := "verification_state" },
    { name := "certification_state" }, { name := "objective" }, { name := "reason" },
    { name := "repository" }, { name := "branch" }, { name := "commit_before" },
    { name := "commit_after" }, { name := "files_changed" }, { name := "change_summary" },
    { name := "actions" }, { name := "tools" }, { name := "tests" }, { name := "test_results" },
    { name := "evidence_refs" }, { name := "artifact_refs" }, { name := "decision_refs" },
    { name := "blocker_refs" }, { name := "fabric_node" }, { name := "fabric_tenant" },
    { name := "fabric_project" }, { name := "resource_ids" }, { name := "state_before" },
    { name := "state_after" }, { name := "current_step" }, { name := "last_completed_step" },
    { name := "next_action" }, { name := "handoff_target", default := some .null },
    { name := "handoff_status", default := some .null },
    { name := "execution_id", default := some .null }]

/-- The values of the fields. -/
def values (r : ContinuityRecord) : List Json :=
  [r.continuityId.val, r.missionId, r.taskId, r.parentTaskId, r.stepId, r.parentStepId,
   r.createdAt, r.startedAt, r.updatedAt, r.completedAt, r.certifiedAt, r.actorId, r.actorLevel,
   r.parentActorId, r.status, r.implementationState, r.verificationState, r.certificationState,
   r.objective, r.reason, r.repository, r.branch, r.commitBefore, r.commitAfter, r.filesChanged,
   r.changeSummary, r.actions, r.tools, r.tests, r.testResults, r.evidenceRefs, r.artifactRefs,
   r.decisionRefs, r.blockerRefs, r.fabricNode, r.fabricTenant, r.fabricProject, r.resourceIds,
   r.stateBefore, r.stateAfter, r.currentStep, r.lastCompletedStep, r.nextAction,
   r.handoffTarget, r.handoffStatus, r.executionId]

/-- A record with the given values, in the order of the fields. -/
def ofValues : List Json → Option ContinuityRecord
  | continuityId :: missionId :: taskId :: parentTaskId :: stepId :: parentStepId :: createdAt ::
    startedAt :: updatedAt :: completedAt :: certifiedAt :: actorId :: actorLevel ::
    parentActorId :: status :: implementationState :: verificationState :: certificationState ::
    objective :: reason :: repository :: branch :: commitBefore :: commitAfter :: filesChanged ::
    changeSummary :: actions :: tools :: tests :: testResults :: evidenceRefs :: artifactRefs ::
    decisionRefs :: blockerRefs :: fabricNode :: fabricTenant :: fabricProject :: resourceIds ::
    stateBefore :: stateAfter :: currentStep :: lastCompletedStep :: nextAction ::
    handoffTarget :: handoffStatus :: executionId :: [] =>
    if h : continuityId.hashable = true then
      some ⟨⟨continuityId, h⟩, missionId, taskId, parentTaskId, stepId, parentStepId, createdAt,
        startedAt, updatedAt, completedAt, certifiedAt, actorId, actorLevel, parentActorId,
        status, implementationState, verificationState, certificationState, objective, reason,
        repository, branch, commitBefore, commitAfter, filesChanged, changeSummary, actions,
        tools, tests, testResults, evidenceRefs, artifactRefs, decisionRefs, blockerRefs,
        fabricNode, fabricTenant, fabricProject, resourceIds, stateBefore, stateAfter,
        currentStep, lastCompletedStep, nextAction, handoffTarget, handoffStatus, executionId⟩
    else none
  | _ => none

/-- The value that is written for a record. -/
def toJson (r : ContinuityRecord) : Json := .obj (Json.zipFields fields r.values)

/-- The record that a decoded line holds. -/
def ofJson : Json → Option ContinuityRecord
  | .obj ms => (Json.bindKwargs fields ms).bind ofValues
  | _ => none

theorem ofValues_values (r : ContinuityRecord) : ofValues r.values = some r :=
  dif_pos r.continuityId.property

theorem ofJson_toJson (r : ContinuityRecord) : ofJson r.toJson = some r := by
  rw [toJson, ofJson, Json.bindKwargs_zip (by decide) (by rfl)]
  exact ofValues_values r

/-- `ContinuityRecord.create`, with the fresh id and the time of day as arguments. -/
def create (uuid now missionId taskId stepId actorId actorLevel objective : String)
    (executionId : Option String) : ContinuityRecord where
  continuityId := .str uuid
  missionId := .str missionId
  taskId := .str taskId
  parentTaskId := .null
  stepId := .str stepId
  parentStepId := .null
  createdAt := .str now
  startedAt := .null
  updatedAt := .str now
  completedAt := .null
  certifiedAt := .null
  actorId := .str actorId
  actorLevel := .str actorLevel
  parentActorId := .null
  status := .str ContinuityStatus.pending.value
  implementationState := .str ContinuityStatus.pending.value
  verificationState := .str ContinuityStatus.pending.value
  certificationState := .str ContinuityStatus.notCertified.value
  objective := .str objective
  reason := .str ""
  repository := .null
  branch := .null
  commitBefore := .null
  commitAfter := .null
  filesChanged := .arr []
  changeSummary := .null
  actions := .arr []
  tools := .arr []
  tests := .arr []
  testResults := .arr []
  evidenceRefs := .arr []
  artifactRefs := .arr []
  decisionRefs := .arr []
  blockerRefs := .arr []
  fabricNode := .null
  fabricTenant := .null
  fabricProject := .null
  resourceIds := .arr []
  stateBefore := .null
  stateAfter := .null
  currentStep := .str stepId
  lastCompletedStep := .null
  nextAction := .null
  handoffTarget := .null
  handoffStatus := .null
  executionId := .ofOptString executionId

end ContinuityRecord

/-! ### Events -/

/-- An event of the log. -/
structure EventRecord where
  /-- The name of the event. -/
  eventId : Json
  /-- Its place in the log, which the engine sets. -/
  sequence : ℤ
  /-- When, where and what came before. -/
  (timestamp missionId taskId stepId parentEventId : Json)
  /-- Who acts. -/
  (actorId actorLevel parentActorId : Json)
  /-- What happens. -/
  (eventType target intent inputs : Json)
  /-- The repository it is about. -/
  (repository branch commitBefore commitAfter filesChanged : Json)
  /-- What came of it. -/
  (observation result evidenceRefs testResults decisionRef stateChange : Json)
  /-- The four states it reports. -/
  (status implementationState verificationState certificationState : Json)
  /-- What stands in the way, and what is next. -/
  (blockerRefs nextAction : Json)
  /-- The binding to the repository fabric. -/
  (fabricNode fabricTenant fabricProject resourceIds stateBefore stateAfter : Json)
  /-- The execution it belongs to. -/
  executionId : Json
  deriving DecidableEq, Inhabited

namespace EventRecord

/-- The fields of an event. -/
def fields : List Json.Field :=
  [{ name := "event_id" }, { name := "sequence" }, { name := "timestamp" },
    { name := "mission_id" }, { name := "task_id" }, { name := "step_id" },
    { name := "parent_event_id" }, { name := "actor_id" }, { name := "actor_level" },
    { name := "parent_actor_id" }, { name := "event_type" }, { name := "target" },
    { name := "intent" }, { name := "inputs" }, { name := "repository" }, { name := "branch" },
    { name := "commit_before" }, { name := "commit_after" }, { name := "files_changed" },
    { name := "observation" }, { name := "result" }, { name := "evidence_refs" },
    { name := "test_results" }, { name := "decision_ref" }, { name := "state_change" },
    { name := "status" }, { name := "implementation_state" }, { name := "verification_state" },
    { name := "certification_state" }, { name := "blocker_refs" }, { name := "next_action" },
    { name := "fabric_node", default := some .null },
    { name := "fabric_tenant", default := some .null },
    { name := "fabric_project", default := some .null },
    { name := "resource_ids", default := some .null },
    { name := "state_before", default := some .null },
    { name := "state_after", default := some .null },
    { name := "execution_id", default := some .null }]

/-- The values of the fields. -/
def values (e : EventRecord) : List Json :=
  [e.eventId, .int e.sequence, e.timestamp, e.missionId, e.taskId, e.stepId, e.parentEventId,
   e.actorId, e.actorLevel, e.parentActorId, e.eventType, e.target, e.intent, e.inputs,
   e.repository, e.branch, e.commitBefore, e.commitAfter, e.filesChanged, e.observation,
   e.result, e.evidenceRefs, e.testResults, e.decisionRef, e.stateChange, e.status,
   e.implementationState, e.verificationState, e.certificationState, e.blockerRefs, e.nextAction,
   e.fabricNode, e.fabricTenant, e.fabricProject, e.resourceIds, e.stateBefore, e.stateAfter,
   e.executionId]

/-- An event with the given values, in the order of the fields. -/
def ofValues : List Json → Option EventRecord
  | eventId :: sequence :: timestamp :: missionId :: taskId :: stepId :: parentEventId ::
    actorId :: actorLevel :: parentActorId :: eventType :: target :: intent :: inputs ::
    repository :: branch :: commitBefore :: commitAfter :: filesChanged :: observation ::
    result :: evidenceRefs :: testResults :: decisionRef :: stateChange :: status ::
    implementationState :: verificationState :: certificationState :: blockerRefs ::
    nextAction :: fabricNode :: fabricTenant :: fabricProject :: resourceIds :: stateBefore ::
    stateAfter :: executionId :: [] =>
    sequence.asInt.map fun sequence =>
      ⟨eventId, sequence, timestamp, missionId, taskId, stepId, parentEventId, actorId,
       actorLevel, parentActorId, eventType, target, intent, inputs, repository, branch,
       commitBefore, commitAfter, filesChanged, observation, result, evidenceRefs, testResults,
       decisionRef, stateChange, status, implementationState, verificationState,
       certificationState, blockerRefs, nextAction, fabricNode, fabricTenant, fabricProject,
       resourceIds, stateBefore, stateAfter, executionId⟩
  | _ => none

/-- The value that is written for an event. -/
def toJson (e : EventRecord) : Json := .obj (Json.zipFields fields e.values)

/-- The event that a decoded line holds. -/
def ofJson : Json → Option EventRecord
  | .obj ms => (Json.bindKwargs fields ms).bind ofValues
  | _ => none

theorem ofValues_values (e : EventRecord) : ofValues e.values = some e := rfl

theorem ofJson_toJson (e : EventRecord) : ofJson e.toJson = some e := by
  rw [toJson, ofJson, Json.bindKwargs_zip (by decide) (by rfl)]
  exact ofValues_values e

end EventRecord

end Continuity

end AnnyRuntime
