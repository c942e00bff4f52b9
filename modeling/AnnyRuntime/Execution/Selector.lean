import AnnyRuntime.Orchestration.Kernel

/-!
# The executor selector

The selector plans a task with an orchestrator of its own.  The orchestrator shares the model
registry with the rest of the runtime, has its own capabilities, and has no adapter to read a
Fabric contract with (`ExecutorSelector.ungoverned`).
-/

namespace AnnyRuntime

namespace Execution

open Intelligence Orchestration

/-- What runs a task. -/
structure ExecutorSelection where
  executorType : ExecutorType
  (executorId executorVersion : String)
  (modelId modelVersion : Option String)
  reason : DecisionReason
  (policyVersion riskClass : String)
  executionMode : Option String
  deriving DecidableEq

/-- The selector. -/
structure ExecutorSelector where
  orchestrator : Orchestrator
  /-- It has no Fabric adapter. -/
  ungoverned : orchestrator.fabricAdapter = none

namespace ExecutorSelector

/-- `ExecutorSelector(registry, intelligence_layer)`. -/
def init (registry : ModelRegistry) (intelligenceLayer : Option LocalIntelligenceLayer := none) :
    ExecutorSelector where
  orchestrator := Orchestrator.init CapabilityRegistry.init registry
    (intelligenceLayer.getD LocalIntelligenceLayer.init) defaultFrontierExecutor none
  ungoverned := rfl

/-- The orchestrator that plans a task for a capability: the capability is registered first. -/
def planner (s : ExecutorSelector) (cap : CapabilityDefinition) : Orchestrator :=
  { s.orchestrator with
    capabilityRegistry := s.orchestrator.capabilityRegistry.register cap }

/-- The selection that a plan makes, or a `ValueError`. -/
def ofPlan (plan : ExecutionPlan) (cap : CapabilityDefinition) : Option ExecutorSelection :=
  if plan.routingClass = .blocked then none
  else
    (ExecutorType.ofValue? plan.executorType).map fun t =>
      { executorType := t
        executorId := plan.executorId
        executorVersion := "1.0.0"
        modelId := plan.modelId
        modelVersion := plan.modelVersion
        reason := plan.decisionReason
        policyVersion := plan.policyVersion
        riskClass := cap.riskLevel
        executionMode := some plan.routingClass.value }

theorem fabricAdapter_planTask {o : Orchestrator} {task : Task} {policy : RuntimePolicy} :
    (o.planTask task policy).2.fabricAdapter = o.fabricAdapter := by
  unfold Orchestrator.planTask
  dsimp only
  split
  · rfl
  · split_ifs <;> rfl

/-- `select`: the selection, if the plan makes one, and the selector after planning. -/
def select (s : ExecutorSelector) (task : Task) (cap : CapabilityDefinition)
    (policy : RuntimePolicy) : Option ExecutorSelection × ExecutorSelector :=
  let planned :=
    (s.planner cap).planTask { task with capabilityId := cap.capabilityId } policy
  (ofPlan planned.1 cap, ⟨planned.2, fabricAdapter_planTask.trans s.ungoverned⟩)

end ExecutorSelector

end Execution

end AnnyRuntime
