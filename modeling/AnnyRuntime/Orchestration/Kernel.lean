import AnnyRuntime.Execution.Capability
import AnnyRuntime.Execution.Registry
import AnnyRuntime.Fabric.Contract
import AnnyRuntime.Orchestration.Plan

/-!
# The orchestration kernel

`Orchestrator.planTask` turns a task into a plan.  The checks are made in the order of the
source, each with an early return; a task that needs inference is then given to the intelligence
layer, after the layer's profiles were brought in line with the model registry
(`reconcileRegistries`).

Planning changes the layer, so a plan comes with the orchestrator after it.
-/

namespace AnnyRuntime

namespace Orchestration

open Execution Intelligence Fabric

/-- The orchestrator and its collaborators. -/
structure Orchestrator where
  capabilityRegistry : CapabilityRegistry
  modelRegistry : ModelRegistry
  intelligenceLayer : LocalIntelligenceLayer
  frontierExecutor : FrontierExecutor
  /-- What reading the contract does, when there is a fabric adapter. -/
  fabricAdapter : Option ContractRead := none

namespace Orchestrator

/-! ### Reconciling the registries -/

/-- The model is run remotely. -/
def isRemote (m : ModelDefinition) : Bool :=
  m.executorType = "REMOTE_MODEL" || m.executorType = "FRONTIER_MODEL"

/-- The availability of a model: a remote one has to be accepted by the frontier executor. -/
def modelAvailable (reg : ModelRegistry) (fe : FrontierExecutor) (m : ModelDefinition) : Bool :=
  reg.isAvailable m.modelId && (!isRemote m || fe.isAvailable (some m.modelId))

/-- The capabilities of a model; an empty list stands for document classification. -/
def modelCapabilities (m : ModelDefinition) : List String :=
  if m.capabilitiesSupported = [] then ["document.classify"] else m.capabilitiesSupported

/-- The profile of a registered model: the old one brought up to date, or a new one. -/
def syncProfile (reg : ModelRegistry) (fe : FrontierExecutor) (m : ModelDefinition) :
    Option ImplementationProfile → ImplementationProfile
  | some profile =>
    { profile with
      availability := modelAvailable reg fe m
      executionClass := m.executorType
      capabilityIds := modelCapabilities m
      certification := m.certificationStatus.getD profile.certification }
  | none =>
    { implementationId := m.modelId
      capabilityIds := modelCapabilities m
      qualityProfile := if m.highPerformance then "high" else "standard"
      resourceProfile := [("gpu_present", .bool m.requiresGpu)]
      availability := modelAvailable reg fe m
      certification := m.certificationStatus.getD .certified
      executionClass := m.executorType }

/-- One model of the registry. -/
def reconcileModel (reg : ModelRegistry) (fe : FrontierExecutor) (layer : LocalIntelligenceLayer)
    (m : ModelDefinition) : LocalIntelligenceLayer :=
  layer.registerImplementation (syncProfile reg fe m (layer.implementations.get? m.modelId))

/-- One profile: it goes when its model is not registered any more. -/
def dropUnregistered (reg : ModelRegistry) (layer : LocalIntelligenceLayer) (implId : String) :
    LocalIntelligenceLayer :=
  if reg.models.contains implId then layer else layer.removeImplementation implId

/-- The layer after the two loops of `_reconcile_registries`. -/
def reconcileLayer (reg : ModelRegistry) (fe : FrontierExecutor) (layer : LocalIntelligenceLayer) :
    LocalIntelligenceLayer :=
  let layer := reg.listModels.foldl (reconcileModel reg fe) layer
  layer.implementations.keys.foldl (dropUnregistered reg) layer

/-- `_reconcile_registries`. -/
def reconcileRegistries (o : Orchestrator) : Orchestrator :=
  { o with
    intelligenceLayer := reconcileLayer o.modelRegistry o.frontierExecutor o.intelligenceLayer }

/-- `Orchestrator(...)`: the collaborators are reconciled at once. -/
def init (capabilityRegistry : CapabilityRegistry) (modelRegistry : ModelRegistry)
    (intelligenceLayer : LocalIntelligenceLayer) (frontierExecutor : FrontierExecutor)
    (fabricAdapter : Option ContractRead) : Orchestrator :=
  reconcileRegistries
    ⟨capabilityRegistry, modelRegistry, intelligenceLayer, frontierExecutor, fabricAdapter⟩

/-! ### Planning -/

/-- The capability that a task asks for. -/
def requestedCapability (task : Task) : String :=
  if task.capabilityId = "" then task.type else task.capabilityId

/-- What is known of a plan before any check. -/
def baseProvenance (task : Task) (policy : RuntimePolicy) : Provenance where
  taskId := task.taskId
  requestedCapability := requestedCapability task
  policyApplied := policy.version

/-- What is known of a plan once its capability is. -/
def capProvenance (task : Task) (policy : RuntimePolicy) (cap : CapabilityDefinition) :
    Provenance :=
  { baseProvenance task policy with
    capabilityVersion := some cap.version
    riskLevel := some cap.riskLevel }

/-- A plan that blocks the task. -/
def blockedPlan (task : Task) (policy : RuntimePolicy) (capabilityVersion : String)
    (reason : DecisionReason) (provenance : Provenance) : ExecutionPlan where
  taskId := task.taskId
  capabilityId := requestedCapability task
  capabilityVersion := capabilityVersion
  routingClass := .blocked
  executorType := "NONE"
  executorId := "none"
  policyVersion := policy.version
  decisionReason := reason
  provenance := provenance

/-- The contract revokes the capability, when there is an adapter to read one. -/
def revokes (o : Orchestrator) (capId : String) : Bool :=
  o.fabricAdapter.any fun read => read.revokes capId

/-- What the layer is asked about a task. -/
def assessmentRequest (task : Task) (cap : CapabilityDefinition) : CapabilityAssessmentRequest where
  capabilityId := requestedCapability task
  qualityRequired := 17 / 20
  resourceConstraints := task.constraints
  policyConstraints := some [("network", cap.networkPolicy)]

/-- The registered models that can be used, which the layer is asked to look at. -/
def availableModels (reg : ModelRegistry) : List String :=
  (reg.listModels.map (·.modelId)).filter reg.isAvailable

/-- The assessment of a task, after the registries are reconciled. -/
def assess (o : Orchestrator) (task : Task) (cap : CapabilityDefinition) :
    CapabilityAssessmentResponse :=
  o.reconcileRegistries.intelligenceLayer.assessCapability (assessmentRequest task cap)
    (some (availableModels o.modelRegistry))

/-- The implementation that the assessment delegates to. -/
def delegated (r : CapabilityAssessmentResponse) : Option ImplementationCandidate :=
  if r.decision = .delegate then r.selectedImplementation else none

/-- A remote model may be used when no candidate is good enough. -/
def frontierAuthorized (task : Task) (policy : RuntimePolicy) (cap : CapabilityDefinition) : Bool :=
  cap.fallbackExecutor = some .remoteModel || policy.allowFrontierFallback || task.allowFrontier

/-- A plan that gives the task to a candidate. -/
def delegatedPlan (task : Task) (policy : RuntimePolicy) (cap : CapabilityDefinition)
    (candidate : ImplementationCandidate) (reason : AssessmentReason) (provenance : Provenance) :
    ExecutionPlan :=
  let remote := candidate.executionClass = ExecutorType.remoteModel.value ∨
    candidate.executionClass = "FRONTIER_MODEL"
  let executorId := if remote then "frontier-executor" else "local-model-executor"
  { taskId := task.taskId
    capabilityId := requestedCapability task
    capabilityVersion := cap.version
    routingClass := if remote then .frontierModel else .localModel
    executorType :=
      if remote then ExecutorType.remoteModel.value else ExecutorType.localModel.value
    executorId := executorId
    modelId := some candidate.implementationId
    modelVersion := some "1.0.0"
    policyVersion := policy.version
    authority := "anny-governed-" ++ executorId
    decisionReason := .assessed reason
    provenance :=
      { provenance with selectedImplementation := some candidate.implementationId } }

/-- A plan that gives the task to the frontier executor, for want of a candidate. -/
def fallbackPlan (task : Task) (policy : RuntimePolicy) (cap : CapabilityDefinition)
    (reason : AssessmentReason) (provenance : Provenance) : ExecutionPlan where
  taskId := task.taskId
  capabilityId := requestedCapability task
  capabilityVersion := cap.version
  routingClass := .frontierModel
  executorType := ExecutorType.remoteModel.value
  executorId := "frontier-executor"
  modelId := some task.preferredFrontierModel
  modelVersion := some "1.0.0"
  policyVersion := policy.version
  authority := "anny-governed-frontier"
  decisionReason := .frontierFallback reason
  provenance :=
    { provenance with
      selectedExecutor := some "frontier-executor"
      frontierModelId := some task.preferredFrontierModel }

/-- A plan that runs the task without a model. -/
def deterministicPlan (task : Task) (policy : RuntimePolicy) (cap : CapabilityDefinition) :
    ExecutionPlan where
  taskId := task.taskId
  capabilityId := requestedCapability task
  capabilityVersion := cap.version
  routingClass := .deterministic
  executorType := ExecutorType.deterministic.value
  executorId := "deterministic-v1"
  policyVersion := policy.version
  authority := "anny-governed-deterministic"
  decisionReason := .deterministic
  provenance :=
    { capProvenance task policy cap with selectedExecutor := some "deterministic-v1" }

/-- The plan of a task that needs inference. -/
def planInference (o : Orchestrator) (task : Task) (policy : RuntimePolicy)
    (cap : CapabilityDefinition) : ExecutionPlan :=
  let assessment := o.assess task cap
  let provenance :=
    { capProvenance task policy cap with
      availableRegistryModels := some (availableModels o.modelRegistry)
      eligibleCandidates := some assessment.eligibleCandidates
      rejectionReasons := assessment.rejectionReasons }
  match delegated assessment with
  | some candidate => delegatedPlan task policy cap candidate assessment.reason provenance
  | none =>
    if frontierAuthorized task policy cap && o.frontierExecutor.isAvailable none then
      fallbackPlan task policy cap assessment.reason provenance
    else
      blockedPlan task policy cap.version (.noExecutor (requestedCapability task) assessment.reason)
        { provenance with downgradePrevented := true }

/-- `plan_task`. -/
def planTask (o : Orchestrator) (task : Task) (policy : RuntimePolicy) :
    ExecutionPlan × Orchestrator :=
  let capId := requestedCapability task
  match o.capabilityRegistry.get capId with
  | none =>
    ({ blockedPlan task policy "0.0.0" (.unknownCapability capId) (baseProvenance task policy) with
        capabilityId := if capId = "" then "unknown" else capId }, o)
  | some cap =>
    let blocked (reason : DecisionReason) : ExecutionPlan :=
      blockedPlan task policy cap.version reason (capProvenance task policy cap)
    if o.revokes capId then (blocked (.revoked capId), o)
    else if !cap.enabled then (blocked (.disabled capId), o)
    else if cap.inferenceRequired && !policy.allowLlm then (blocked .llmDisabled, o)
    else if cap.networkPolicy = "disabled" && task.requiresNetwork then
      (blocked (.networkForbidden capId), o)
    else if !cap.inferenceRequired then
      if cap.deterministicAllowed then (deterministicPlan task policy cap, o)
      else (blocked (.notDeterministic capId), o)
    else (o.planInference task policy cap, o.reconcileRegistries)

end Orchestrator

end Orchestration

end AnnyRuntime
