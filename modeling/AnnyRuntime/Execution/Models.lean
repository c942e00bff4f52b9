import AnnyRuntime.Json.Basic

/-!
# Tasks, executions and workers

The data of the execution side of the runtime.  Times are a number of ticks; a field that the
source annotates with a type has that type here.

Some attributes are not fields of the dataclasses, but are read with `getattr` and a default; they
are fields with that default here.
-/

namespace AnnyRuntime

namespace Execution

/-- The status of an execution. -/
inductive ExecutionStatus where
  | queued
  | running
  | succeeded
  | failed
  | timedOut
  | cancelled
  | limitExceeded
  deriving DecidableEq

namespace ExecutionStatus

/-- The text of a status. -/
def value : ExecutionStatus → String
  | queued => "QUEUED"
  | running => "RUNNING"
  | succeeded => "SUCCEEDED"
  | failed => "FAILED"
  | timedOut => "TIMED_OUT"
  | cancelled => "CANCELLED"
  | limitExceeded => "LIMIT_EXCEEDED"

/-- All statuses. -/
def all : List ExecutionStatus :=
  [queued, running, succeeded, failed, timedOut, cancelled, limitExceeded]

/-- `ExecutionStatus(value)`, or a `ValueError`. -/
def ofValue? (v : Json) : Option ExecutionStatus := all.find? fun s => v = .str s.value

theorem ofValue?_value (s : ExecutionStatus) : ofValue? (.str s.value) = some s := by
  cases s <;> rfl

end ExecutionStatus

/-- Why an execution failed. -/
inductive FailureReason where
  | toolError
  | executionError
  | timeout
  | limitExceeded
  | authorizationDenied
  | invalidTask
  | unsupportedExecutor
  deriving DecidableEq

/-- The text of a failure reason. -/
def FailureReason.value : FailureReason → String
  | toolError => "TOOL_ERROR"
  | executionError => "EXECUTION_ERROR"
  | timeout => "TIMEOUT"
  | limitExceeded => "LIMIT_EXCEEDED"
  | authorizationDenied => "AUTHORIZATION_DENIED"
  | invalidTask => "INVALID_TASK"
  | unsupportedExecutor => "UNSUPPORTED_EXECUTOR"

/-- The state of a worker. -/
inductive WorkerState where
  | created
  | starting
  | running
  | succeeded
  | failed
  | timedOut
  | cancelled
  | limitExceeded
  | terminated
  deriving DecidableEq

/-- What runs a task. -/
inductive ExecutorType where
  | deterministic
  | localModel
  | remoteModel
  deriving DecidableEq

/-- The text of an executor type. -/
def ExecutorType.value : ExecutorType → String
  | deterministic => "DETERMINISTIC"
  | localModel => "LOCAL_MODEL"
  | remoteModel => "REMOTE_MODEL"

/-- `ExecutorType(value)`, or a `ValueError`. -/
def ExecutorType.ofValue? (v : String) : Option ExecutorType :=
  [deterministic, localModel, remoteModel].find? fun t => v = t.value

/-- A task. -/
structure Task where
  /-- Its name. -/
  taskId : String
  /-- The capability it asks for. -/
  capabilityId : String
  /-- The account and the project it runs for. -/
  (accountId projectId : String)
  /-- Its input. -/
  input : List (String × Json) := []
  /-- What it demands of an implementation. -/
  constraints : Option (List (String × Json)) := some []
  /-- When it has to be done. -/
  deadline : ℕ := 0
  /-- What happens to its workspace. -/
  workspacePolicy : String := "destroy_on_complete"
  /-- What evidence it needs. -/
  evidencePolicy : String := "standard"
  /-- Who asks. -/
  requestedBy : String := "ANNY"
  /-- When it was made. -/
  createdAt : ℕ := 0
  /-- The department it belongs to. -/
  departmentId : Option String := none
  /-- The attribute `type`. -/
  type : String := "unknown"
  /-- The attribute `requires_network`. -/
  requiresNetwork : Bool := false
  /-- The attribute `allow_frontier`. -/
  allowFrontier : Bool := false
  /-- The attribute `preferred_frontier_model`. -/
  preferredFrontierModel : String := "frontier-gpt4"
  deriving DecidableEq

/-- The policy of the runtime. -/
structure RuntimePolicy where
  /-- Its version. -/
  version : String := "1.0.0"
  /-- Inference is allowed. -/
  allowLlm : Bool := false
  /-- Executions are isolated. -/
  enforceStrictIsolation : Bool := true
  /-- The attribute `allow_frontier_fallback`. -/
  allowFrontierFallback : Bool := false
  deriving DecidableEq

/-- The state of one execution. -/
structure TaskExecutionContext where
  /-- Its id. -/
  executionId : String
  /-- Its task and what it runs, which a reconstruction takes from the log as they are. -/
  (taskId capabilityId : Json)
  /-- What it runs for. -/
  (accountId projectId : String)
  /-- Where it runs. -/
  workspacePath : String
  /-- Its environment variables. -/
  environment : List (String × String) := []
  /-- The tools it may use. -/
  allowedTools : List String := []
  /-- When it has to be done. -/
  deadline : ℕ
  /-- Its limits. -/
  resourceLimits : List (String × Json) := []
  /-- What it may reach and write. -/
  (networkPolicy writePolicy : String)
  /-- Its status. -/
  status : ExecutionStatus := .queued
  /-- Its result, and how it failed. -/
  result : Option Json := none
  failureReason : Option FailureReason := none
  errorMessage : Option String := none
  /-- What runs it. -/
  executorType : Json := .null
  executorId : Json := .null
  executorVersion : Option String := none
  modelId : Json := .null
  modelVersion : Option String := none
  policyVersion : Option String := none
  /-- The hash of its result. -/
  resultHash : Option String := none
  /-- How it was routed. -/
  routingClass : Json := .null
  capabilityFamily : Option String := none
  departmentId : Option String := none
  /-- The generation of the runtime that took it. -/
  generation : Json := .null
  deriving DecidableEq

/-- A worker. -/
structure WorkerDefinition where
  /-- The worker and its execution. -/
  (workerId executionId : String)
  /-- Its task and what it runs. -/
  (taskId capabilityId : Json)
  /-- What it runs for. -/
  (accountId projectId : String)
  /-- What runs it. -/
  (executorType executorId : String)
  modelId : Option String
  /-- Where it runs. -/
  workspaceId : String
  /-- When it has to be done. -/
  deadline : ℕ
  /-- Its limits. -/
  resourceLimits : List (String × Json)
  (networkPolicy filesystemPolicy : String)
  /-- Its state. -/
  state : WorkerState := .created
  /-- When it started and finished. -/
  (startedAt finishedAt : Option ℕ := none)
  departmentId : Option String := none
  routingClass : Option String := none
  capabilityFamily : Option String := none
  deriving DecidableEq

/-! ### Models -/

/-- The state of a model. -/
inductive ModelState where
  | registered
  | available
  | unavailable
  | installRequired
  | disabled
  | deprecated
  | quarantined
  deriving DecidableEq

/-- The text of a model state. -/
def ModelState.value : ModelState → String
  | registered => "REGISTERED"
  | available => "AVAILABLE"
  | unavailable => "UNAVAILABLE"
  | installRequired => "INSTALL_REQUIRED"
  | disabled => "DISABLED"
  | deprecated => "DEPRECATED"
  | quarantined => "QUARANTINED"

/-- All model states. -/
def ModelState.all : List ModelState :=
  [registered, available, unavailable, installRequired, disabled, deprecated, quarantined]

/-- `ModelState(value)`, or a `ValueError`. -/
def ModelState.ofValue? (v : Json) : Option ModelState := all.find? fun s => v = .str s.value

theorem ModelState.ofValue?_value (s : ModelState) : ofValue? (.str s.value) = some s := by
  cases s <;> rfl

/-- What the evidence says about an implementation. -/
inductive CertificationStatus where
  | certified
  | stale
  | requiresRebenchmark
  | revoked
  | valid
  deriving DecidableEq

/-- The text of a certification status. -/
def CertificationStatus.value : CertificationStatus → String
  | certified => "CERTIFIED"
  | stale => "STALE"
  | requiresRebenchmark => "REQUIRES_REBENCHMARK"
  | revoked => "REVOKED"
  | valid => "VALID"

/-- A model of the registry. -/
structure ModelDefinition where
  /-- Its id. -/
  modelId : String
  /-- Its name, and who provides it. -/
  (displayName provider : String)
  /-- What runs it. -/
  executorType : String
  /-- Its version. -/
  version : String
  /-- Its state. -/
  status : ModelState
  /-- What it is good for. -/
  capabilitiesSupported : List String
  /-- What it must not be used for. -/
  capabilitiesForbidden : List String
  /-- What it needs. -/
  hardwareRequirements : List (String × Json) := []
  memoryRequirements : List (String × Json) := []
  contextWindow : ℕ := 0
  quantization : String := ""
  /-- Where it is. -/
  artifactUri : String
  artifactSha256 : String := ""
  /-- How it is called. -/
  runtimeInterface : String
  /-- Its limits. -/
  maxConcurrency : ℕ := 1
  maxRuntime : ℕ := 0
  maxInputSize : ℕ := 0
  maxOutputSize : ℕ := 0
  networkPolicy : String := "none"
  evidencePolicy : String := "required"
  /-- The attribute `certification_status`, when the model has it. -/
  certificationStatus : Option CertificationStatus := none
  /-- The attribute `performance_score` is above 0.8. -/
  highPerformance : Bool := true
  /-- The attribute `requires_gpu`. -/
  requiresGpu : Bool := false
  deriving DecidableEq

/-- What a model may do with a capability. -/
structure ModelCapabilityBinding where
  /-- The model and the capability. -/
  (modelId capabilityId : String)
  /-- `allowed` or `forbidden`. -/
  authorization : String
  qualityProfile : String
  riskLimit : String
  preferred : Bool
  fallback : Bool
  reason : String
  deriving DecidableEq

end Execution

end AnnyRuntime
