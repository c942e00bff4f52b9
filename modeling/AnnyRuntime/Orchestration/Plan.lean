import AnnyRuntime.Intelligence.Layer

/-!
# Execution plans

What the orchestration kernel decides about a task, and the boundary to remote models.
-/

namespace AnnyRuntime

namespace Orchestration

open Execution Intelligence

/-- How a task is routed. -/
inductive RoutingClass where
  | deterministic
  | localModel
  | frontierModel
  | blocked
  | escalated
  | deferred
  deriving DecidableEq

/-- The text of a routing class. -/
def RoutingClass.value : RoutingClass → String
  | deterministic => "DETERMINISTIC"
  | localModel => "LOCAL_MODEL"
  | frontierModel => "FRONTIER_MODEL"
  | blocked => "BLOCKED"
  | escalated => "ESCALATED"
  | deferred => "DEFERRED"

/-- Why a plan is as it is. -/
inductive DecisionReason where
  | unknownCapability (capId : String)
  | revoked (capId : String)
  | disabled (capId : String)
  | llmDisabled
  | networkForbidden (capId : String)
  | deterministic
  | notDeterministic (capId : String)
  | assessed (reason : AssessmentReason)
  | frontierFallback (reason : AssessmentReason)
  | noExecutor (capId : String) (reason : AssessmentReason)
  deriving DecidableEq

/-- The text of a reason; `num` writes a number. -/
def DecisionReason.text (num : ℚ → String) : DecisionReason → String
  | unknownCapability capId => "Unknown capability: '" ++ capId ++ "'"
  | revoked capId =>
    "Fabric contract denial: Capability '" ++ capId ++ "' is revoked by Fabric contract"
  | disabled capId => "Capability '" ++ capId ++ "' is disabled"
  | llmDisabled => "Policy denial: LLM capabilities are disabled by runtime policy"
  | networkForbidden capId =>
    "Policy denial: Capability '" ++ capId ++ "' forbids network access"
  | deterministic => "Non-inference capability routed to deterministic executor"
  | notDeterministic capId =>
    "Capability '" ++ capId ++
      "' requires non-inference execution but deterministic_allowed is False"
  | assessed reason => reason.text num
  | frontierFallback reason =>
    "Local model unavailable (" ++ reason.text num ++ "); routed to authorized frontier model"
  | noExecutor capId reason =>
    "No valid executor available for inference-required capability '" ++ capId ++ "' (" ++
      reason.text num ++ ")"

/-- How a plan came about. -/
structure Provenance where
  (taskId requestedCapability policyApplied : String)
  consideredImplementations : List String := []
  rejectionReasons : List (String × Rejection) := []
  (capabilityVersion riskLevel : Option String := none)
  availableRegistryModels : Option (List String) := none
  eligibleCandidates : Option (List String) := none
  (selectedExecutor selectedImplementation frontierModelId : Option String := none)
  downgradePrevented : Bool := false
  deriving DecidableEq

/-- A plan. -/
structure ExecutionPlan where
  (taskId capabilityId capabilityVersion : String)
  /-- How the task is routed. -/
  routingClass : RoutingClass
  /-- What runs it. -/
  (executorType executorId : String)
  (modelId modelVersion : Option String := none)
  policyVersion : String
  authority : String := "anny-kernel"
  decisionReason : DecisionReason
  provenance : Provenance
  deriving DecidableEq

/-! ### The frontier -/

/-- The boundary to remote models: whether a model, or any, is available. -/
structure FrontierExecutor where
  /-- `is_available`. -/
  isAvailable : Option String → Bool

/-- `DefaultFrontierExecutor(enabled, available_models)`. -/
def defaultFrontierExecutor (enabled : Bool := false) (availableModels : List String := []) :
    FrontierExecutor where
  isAvailable modelId :=
    let models :=
      if availableModels = [] then ["frontier-gpt4", "frontier-claude-3-5-sonnet"]
      else availableModels
    enabled && match modelId with
      | some m => models.contains m
      | none => !models.isEmpty

end Orchestration

end AnnyRuntime
