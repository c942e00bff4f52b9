import AnnyRuntime.Continuity.Engine
import AnnyRuntime.Core.Generation
import AnnyRuntime.Execution.Worker

/-!
# The execution manager

`submitTask` admits a task and queues an execution of it, `executeSync` runs a queued execution,
and `getExecution` finds an execution, in memory or by reconstructing it from the continuity log.

What the source takes from the outside (fresh ids, the time, the path of a new workspace, the
answers of executors) is an argument.  The telemetry and the copies of evidence files are not
modelled; creating a workspace can fail, other file operations do not.
-/

namespace AnnyRuntime

namespace Execution

open Continuity AnnyRuntime.Core

/-- The manager. -/
structure ExecutionManager where
  /-- The executions by their id. -/
  executions : Dict String TaskExecutionContext := Dict.empty
  /-- The tasks of the executions that were submitted here. -/
  tasks : Dict String Task := Dict.empty
  /-- The capabilities. -/
  registry : CapabilityRegistry := CapabilityRegistry.init
  policy : RuntimePolicy := {}
  selector : ExecutorSelector
  /-- The workers by their id. -/
  workers : Dict String WorkerDefinition := Dict.empty
  /-- The continuity engine, when there is one. -/
  continuityEngine : Option ContinuityEngine := none
  /-- The generation of the runtime engine, when there is one. -/
  runtimeEngine : Option RuntimeGeneration := none

/-- What a submission takes from the outside. -/
structure Submission where
  /-- Fresh ids. -/
  (executionId workerUuid continuityId eventUuid : String)
  /-- The time. -/
  now : String
  /-- The workspace, unless creating it fails. -/
  workspacePath : Option String
  deriving DecidableEq

/-- What running an execution takes from the outside. -/
structure Execute where
  world : World
  eventUuid : String
  now : String
  deriving DecidableEq

/-- How `execute_sync` ends. -/
inductive Returned where
  /-- It raises. -/
  | raised
  /-- It returns `None`, the execution being over. -/
  | nothing
  /-- It returns the context of an execution that was fenced off. -/
  | fenced (context : TaskExecutionContext)
  deriving DecidableEq

/-- The context that is returned, if one is. -/
def Returned.context? : Returned → Option TaskExecutionContext
  | fenced c => some c
  | raised | nothing => none

/-! ### What is written to the continuity log -/

/-- An event about an execution: one text is its result, its change of state and two of its
states. -/
def executionEvent (eventUuid now : String) (task : Task) (executionId : String)
    (eventType : ContinuityEventType) (intent : String) (inputs : List (String × Json))
    (observation result : String) (evidenceRefs : List Json) (verificationState : String)
    (nextAction : Json) : EventRecord where
  eventId := .str ("evt-" ++ eventUuid)
  sequence := 0
  timestamp := .str now
  missionId := .str "DEFAULT_MISSION"
  taskId := .str task.taskId
  stepId := .str task.capabilityId
  parentEventId := .null
  actorId := .str task.requestedBy
  actorLevel := .str "L0"
  parentActorId := .null
  eventType := .str eventType.value
  target := .str task.capabilityId
  intent := .str intent
  inputs := .obj inputs
  repository := .null
  branch := .null
  commitBefore := .null
  commitAfter := .null
  filesChanged := .arr []
  observation := .str observation
  result := .str result
  evidenceRefs := .arr evidenceRefs
  testResults := .arr []
  decisionRef := .null
  stateChange := .str result
  status := .str result
  implementationState := .str result
  verificationState := .str verificationState
  certificationState := .str "NOT_CERTIFIED"
  blockerRefs := .arr []
  nextAction := nextAction
  fabricNode := .null
  fabricTenant := .null
  fabricProject := .null
  resourceIds := .null
  stateBefore := .null
  stateAfter := .null
  executionId := .str executionId

/-- The record of a submission. -/
def submissionRecord (sub : Submission) (task : Task) : ContinuityRecord :=
  .create sub.continuityId sub.now "DEFAULT_MISSION" task.taskId task.capabilityId
    task.requestedBy "L0" ("Task queued: " ++ task.taskId) (some sub.executionId)

/-- How an execution is routed, as the inputs of an event. -/
def routingInputs (executionId : String) (c : TaskExecutionContext) : List (String × Json) :=
  [("execution_id", .str executionId), ("routing_class", c.routingClass),
    ("executor_type", c.executorType), ("executor_id", c.executorId), ("model_id", c.modelId),
    ("generation", c.generation)]

/-- How an execution failed, as the inputs of an event. -/
def failureInputs (c : TaskExecutionContext) : List (String × Json) :=
  [("failure_reason", .ofOptString (c.failureReason.map FailureReason.value)),
    ("error_message", .ofOptString c.errorMessage)]

/-- The event of a submission. -/
def submissionEvent (sub : Submission) (task : Task) (c : TaskExecutionContext) : EventRecord :=
  executionEvent sub.eventUuid sub.now task sub.executionId .taskCreated
    ("Task queued: " ++ task.taskId) (routingInputs sub.executionId c)
    ("Execution QUEUED (" ++ sub.executionId ++ ")") "QUEUED" [] "PENDING" (.str "EXECUTE")

/-- The event of an execution that was fenced off. -/
def fencedEvent (ex : Execute) (task : Task) (executionId : String) (c : TaskExecutionContext)
    (message : String) : EventRecord :=
  executionEvent ex.eventUuid ex.now task executionId .actionFailed
    ("Execution fenced for " ++ executionId) (routingInputs executionId c ++ failureInputs c)
    ("Fencing failed: " ++ message) "FAILED" [] "FAILED" .null

/-- The hash of the result, when there is one. -/
def resultHashes (c : TaskExecutionContext) : List Json :=
  match c.resultHash with
  | some h => if h = "" then [] else [.str h]
  | none => []

/-- The verification state of an execution that is over. -/
def verificationOf (s : ExecutionStatus) : String :=
  if s = .succeeded then "VERIFIED" else "FAILED"

/-- The event of an execution that is over. -/
def completionEvent (ex : Execute) (task : Task) (executionId : String)
    (c : TaskExecutionContext) : EventRecord :=
  executionEvent ex.eventUuid ex.now task executionId
    (if c.status = .succeeded then .actionCompleted else .actionFailed)
    ("Execution completed for " ++ executionId) (routingInputs executionId c ++ failureInputs c)
    ("Execution status: " ++ c.status.value) c.status.value (resultHashes c)
    (verificationOf c.status) .null

/-- The record of an execution that is over, before the hash of the result is added. -/
def completedRecord (r : ContinuityRecord) (now : String) (s : ExecutionStatus) :
    ContinuityRecord :=
  { r with
    status := .str s.value
    completedAt := .str now
    verificationState := .str (verificationOf s) }

namespace ExecutionManager

/-! ### Submitting -/

/-- The class of a route. -/
def routingClass (executorType : String) : String :=
  if executorType = "DETERMINISTIC" then "DETERMINISTIC"
  else if executorType = "LOCAL_MODEL" then "LOCAL_MODEL"
  else if executorType = "REMOTE_MODEL" then "FRONTIER_MODEL"
  else "UNKNOWN"

/-- The context of a new execution, as `create_worker` leaves it. -/
def newContext (m : ExecutionManager) (sub : Submission) (task : Task)
    (cap : CapabilityDefinition) (selection : ExecutorSelection) (path : String) :
    TaskExecutionContext where
  executionId := sub.executionId
  taskId := .str task.taskId
  capabilityId := .str task.capabilityId
  accountId := task.accountId
  projectId := task.projectId
  workspacePath := path
  allowedTools := cap.requiredTools
  deadline := task.deadline
  resourceLimits :=
    [("max_output_size", .int cap.maxOutput), ("max_workspace_size", .int (10 * 1024 * 1024))]
  networkPolicy := cap.networkPolicy
  writePolicy := cap.filesystemPolicy
  status := .queued
  executorType := .str selection.executorType.value
  executorId := .str selection.executorId
  executorVersion := some selection.executorVersion
  modelId := .ofOptString selection.modelId
  modelVersion := selection.modelVersion
  policyVersion := some selection.policyVersion
  routingClass := .str (routingClass selection.executorType.value)
  capabilityFamily := some (if cap.family = "" then "unknown" else cap.family)
  departmentId := task.departmentId
  generation := .int ((m.runtimeEngine.map RuntimeGeneration.current).getD 1)

/-- `create_worker`. -/
def newWorker (sub : Submission) (task : Task) (selection : ExecutorSelection)
    (c : TaskExecutionContext) : WorkerDefinition where
  workerId := "wrk-" ++ sub.workerUuid
  executionId := c.executionId
  taskId := c.taskId
  capabilityId := c.capabilityId
  accountId := c.accountId
  projectId := c.projectId
  executorType := selection.executorType.value
  executorId := selection.executorId
  modelId := selection.modelId
  workspaceId := c.workspacePath
  deadline := c.deadline
  resourceLimits := c.resourceLimits
  networkPolicy := c.networkPolicy
  filesystemPolicy := c.writePolicy
  departmentId := task.departmentId
  routingClass := some (routingClass selection.executorType.value)
  capabilityFamily := c.capabilityFamily

/-- The manager after a task was admitted. -/
def enqueue (m : ExecutionManager) (sub : Submission) (task : Task) (c : TaskExecutionContext)
    (worker : WorkerDefinition) : ExecutionManager :=
  { m with
    tasks := m.tasks.set sub.executionId task
    executions := m.executions.set sub.executionId c
    workers := m.workers.set worker.workerId worker
    continuityEngine := m.continuityEngine.map fun e =>
      (e.saveRecord (submissionRecord sub task)).appendEvent (submissionEvent sub task c) }

/-- `submit_task`: the context of the new execution, unless it raises, and the manager after it. -/
def submitTask (m : ExecutionManager) (sub : Submission) (task : Task) :
    Option TaskExecutionContext × ExecutionManager :=
  match m.registry.get task.capabilityId with
  | none => (none, m)
  | some cap =>
    if !cap.enabled then (none, m)
    else if cap.sideEffect ≠ "read" ∧ cap.deterministicAllowed = true then (none, m)
    else
      let selected := m.selector.select task cap m.policy
      let m := { m with selector := selected.2 }
      match selected.1, sub.workspacePath with
      | some selection, some path =>
        let c := m.newContext sub task cap selection path
        (some c, m.enqueue sub task c (newWorker sub task selection c))
      | _, _ => (none, m)

/-! ### Executing -/

/-- The worker of an execution. -/
def workerOf (m : ExecutionManager) (executionId : String) : Option WorkerDefinition :=
  m.workers.values.find? fun w => w.executionId = executionId

/-- The error that fences an execution off, if its generation is not the one of the runtime. -/
def fencing (m : ExecutionManager) (c : TaskExecutionContext) : Option StaleGenerationError :=
  match m.runtimeEngine with
  | none => none
  | some g =>
    if c.generation = .null then none
    else match g.fence c.generation with
      | .ok () => none
      | .error err => some err

/-- An execution is fenced off. -/
def fenceOff (m : ExecutionManager) (ex : Execute) (executionId : String) (task : Task)
    (c : TaskExecutionContext) (worker : WorkerDefinition) (message : String) :
    TaskExecutionContext × ExecutionManager :=
  let c := c.fail .failed .authorizationDenied (some message)
  (c,
    { m with
      executions := m.executions.set executionId c
      workers := m.workers.set worker.workerId { worker with state := .failed }
      continuityEngine := m.continuityEngine.map fun e =>
        e.appendEvent (fencedEvent ex task executionId c message) })

/-- The record that `execute_sync` takes for the one of an execution: the one under its id, or else
the last one of its task. -/
def recordOf (e : ContinuityEngine) (executionId : String) (task : Task) :
    Option ContinuityRecord :=
  match e.getRecord executionId with
  | some r => some r
  | none => (e.getRecordsByTask (.str task.taskId)).getLast?

/-- The engine after an execution is over, and whether writing to it raised: the hash of the result
can only be added to a list. -/
def complete (e : ContinuityEngine) (ex : Execute) (task : Task) (executionId : String)
    (c : TaskExecutionContext) : ContinuityEngine × Bool :=
  let finish (e : ContinuityEngine) : ContinuityEngine :=
    e.appendEvent (completionEvent ex task executionId c)
  match recordOf e executionId task with
  | none => (finish e, false)
  | some r =>
    let r := completedRecord r ex.now c.status
    match resultHashes c, r.evidenceRefs with
    | [], _ => (finish (e.saveRecord r), false)
    | hashes, .arr refs =>
      (finish (e.saveRecord { r with evidenceRefs := .arr (refs ++ hashes) }), false)
    -- the record in memory is changed already when the exception is raised
    | _, _ => ({ e with records := e.records.set r.continuityId.norm r }, true)

/-- `execute_sync`. -/
def executeSync (m : ExecutionManager) (ex : Execute) (executionId : String) :
    Returned × ExecutionManager :=
  match m.executions.get? executionId, m.tasks.get? executionId with
  | some c, some task =>
    match m.registry.get task.capabilityId, m.workerOf executionId with
    | some _, some worker =>
      match m.fencing c with
      | some err =>
        let fenced := m.fenceOff ex executionId task c worker err.text
        (.fenced fenced.1, fenced.2)
      | none =>
        match startWorker ex.world worker task c with
        | none => (.raised, m)
        | some (c, worker) =>
          let m :=
            { m with
              executions := m.executions.set executionId c
              workers := m.workers.set worker.workerId (terminateWorker worker) }
          match m.continuityEngine with
          | none => (.nothing, m)
          | some e =>
            let completed := complete e ex task executionId c
            (if completed.2 then .raised else .nothing,
              { m with continuityEngine := some completed.1 })
    | _, _ => (.raised, m)
  | _, _ => (.raised, m)

/-! ### Finding -/

/-- The context that a reconstruction gives. -/
def reconstructed (executionId : String) (deadline : ℕ) (r : ContinuityEngine.Reconstruction) :
    TaskExecutionContext where
  executionId := executionId
  taskId := r.taskId
  accountId := "RECONSTRUCTED"
  projectId := "RECONSTRUCTED"
  capabilityId := r.capabilityId
  workspacePath := ""
  deadline := deadline
  networkPolicy := "none"
  writePolicy := "none"
  status := (ExecutionStatus.ofValue? r.status).getD .failed
  routingClass := r.routingClass
  executorType := r.executorType
  executorId := r.executorId
  modelId := r.modelId
  generation := r.generation

/-- `get_execution`, at the time `now`. -/
def getExecution (m : ExecutionManager) (now : ℕ) (executionId : String) :
    Option TaskExecutionContext × ExecutionManager :=
  match m.executions.get? executionId with
  | some c => (some c, m)
  | none =>
    match m.continuityEngine.bind fun e => e.reconstructExecution executionId with
    | none => (none, m)
    | some r =>
      let c := reconstructed executionId now r
      (some c, { m with executions := m.executions.set executionId c })

/-- `ExecutionManager(...)`, over a model registry and with what else it is given. -/
def init (modelRegistry : ModelRegistry) (continuityEngine : Option ContinuityEngine)
    (runtimeEngine : Option RuntimeGeneration) : ExecutionManager where
  selector := ExecutorSelector.init modelRegistry
  continuityEngine := continuityEngine
  runtimeEngine := runtimeEngine

/-! ### What executing does -/

/-- The manager after an execution ran, up to its log. -/
def afterRun (m : ExecutionManager) (executionId : String) (c : TaskExecutionContext)
    (worker : WorkerDefinition) : ExecutionManager :=
  { m with
    executions := m.executions.set executionId c
    workers := m.workers.set worker.workerId (terminateWorker worker) }

/-- An execution that can be executed: it is known, and has a worker. -/
structure Executable (m : ExecutionManager) (executionId : String) (c : TaskExecutionContext)
    (task : Task) (worker : WorkerDefinition) : Prop where
  context : m.executions.get? executionId = some c
  submitted : m.tasks.get? executionId = some task
  capability : (m.registry.get task.capabilityId).isSome = true
  worker : m.workerOf executionId = some worker

variable {m : ExecutionManager} {ex : Execute} {executionId : String} {c : TaskExecutionContext}
  {task : Task} {worker : WorkerDefinition}

theorem executeSync_eq (h : m.Executable executionId c task worker) :
    m.executeSync ex executionId =
      match m.fencing c with
      | some err =>
        let fenced := m.fenceOff ex executionId task c worker err.text
        (.fenced fenced.1, fenced.2)
      | none =>
        match startWorker ex.world worker task c with
        | none => (.raised, m)
        | some (c, worker) =>
          match m.continuityEngine with
          | none => (.nothing, m.afterRun executionId c worker)
          | some e =>
            let completed := complete e ex task executionId c
            (if completed.2 then .raised else .nothing,
              { m.afterRun executionId c worker with continuityEngine := some completed.1 }) := by
  obtain ⟨hc, ht, hcap, hw⟩ := h
  obtain ⟨cap, hcap⟩ := Option.isSome_iff_exists.1 hcap
  unfold executeSync
  simp only [hc, ht, hcap, hw]
  rfl

/-- `execute_sync` raises when it is not called for an execution that it knows. -/
theorem executeSync_unknown (h : ∀ c task worker, ¬ m.Executable executionId c task worker) :
    m.executeSync ex executionId = (.raised, m) := by
  unfold executeSync
  split
  · rename_i c task hc ht
    split
    · rename_i cap worker hcap hw
      exact absurd ⟨hc, ht, by rw [hcap]; rfl, hw⟩ (h c task worker)
    · rfl
  · rfl

end ExecutionManager

end Execution

end AnnyRuntime
