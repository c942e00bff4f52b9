import AnnyRuntime.Core.Inventory
import AnnyRuntime.Orchestration.Routing

/-!
# What planning authorizes

Two authorities stand over a plan, and planning asks neither of them everything that it says.

* The Fabric contract: discovery wants a capability granted and not revoked, while planning only
  looks at the revocations, and takes a contract that it cannot read as one that revokes nothing
  (`failsClosed_iff`).
* The model registry: a model says which capabilities it supports and which are forbidden to it,
  and bindings can forbid more.  The assessment only looks at the first of these, and takes a model
  without capabilities for one that classifies documents (`selectsAuthorized_iff`).
-/

namespace AnnyRuntime

namespace Orchestration

namespace Orchestrator

open Execution Intelligence Fabric LocalIntelligenceLayer

variable {o : Orchestrator} {task : Task} {policy : RuntimePolicy}

/-! ### The contract -/

/-- The orchestrator without its contract. -/
def ungoverned (o : Orchestrator) : Orchestrator := { o with fabricAdapter := none }

/-- The task can be routed as far as everything but the contract is concerned. -/
def Routable (o : Orchestrator) (task : Task) (policy : RuntimePolicy) : Prop :=
  RoutedDeterministic o.ungoverned task ∨ RoutedInference o.ungoverned task policy

theorem admissible_iff_ungoverned {cap : CapabilityDefinition} :
    Admissible o task cap ↔
      o.revokes (requestedCapability task) = false ∧ Admissible o.ungoverned task cap :=
  ⟨fun h => ⟨h.unrevoked, h.registered, rfl, h.enabled, h.network⟩,
    fun ⟨hr, h⟩ => ⟨h.registered, hr, h.enabled, h.network⟩⟩

theorem suitable_ungoverned {cap : CapabilityDefinition} {m : ModelDefinition} :
    Suitable o.ungoverned task cap m ↔ Suitable o task cap m :=
  ⟨fun ⟨h1, h2, h3, h4, h5, h6, h7, h8⟩ => ⟨h1, h2, h3, h4, h5, h6, h7, h8⟩,
    fun ⟨h1, h2, h3, h4, h5, h6, h7, h8⟩ => ⟨h1, h2, h3, h4, h5, h6, h7, h8⟩⟩

theorem routedDeterministic_iff_ungoverned :
    RoutedDeterministic o task ↔
      o.revokes (requestedCapability task) = false ∧ RoutedDeterministic o.ungoverned task := by
  unfold RoutedDeterministic
  simp only [admissible_iff_ungoverned (o := o), and_assoc, exists_and_left]

theorem routedInference_iff_ungoverned :
    RoutedInference o task policy ↔
      o.revokes (requestedCapability task) = false ∧
        RoutedInference o.ungoverned task policy := by
  unfold RoutedInference
  simp only [admissible_iff_ungoverned (o := o), suitable_ungoverned, and_assoc, exists_and_left]
  rfl

/-- A contract can only block: what is not blocked is what is not revoked and can be routed. -/
theorem not_blocked_iff (o : Orchestrator) (task : Task) (policy : RuntimePolicy) :
    (o.planTask task policy).1.routingClass ≠ .blocked ↔
      o.revokes (requestedCapability task) = false ∧ Routable o task policy := by
  rw [Routable, and_or_left, ← routedDeterministic_iff_ungoverned,
    ← routedInference_iff_ungoverned]
  rcases planTask_cases o task policy with ⟨h, hd, hi⟩ | ⟨h | h, hi, hd⟩ | ⟨h, hd, hi⟩ <;>
    simp [h, hd, hi]

/-- Planning fails closed on a task: no plan without a contract that authorizes the capability. -/
def FailsClosed (o : Orchestrator) (read : ContractRead) (task : Task) (policy : RuntimePolicy) :
    Prop :=
  (({ o with fabricAdapter := some read }).planTask task policy).1.routingClass ≠ .blocked →
    ∃ contract, read.contract = some contract ∧
      Core.Authorized contract (requestedCapability task)

/-- **When planning fails closed.**  Whatever reading the contract does, planning is closed on a
task exactly when the contract can be read and authorizes the capability, or revokes it, or when
the task cannot be routed anyway.  It is open on all other tasks: those whose capability is missing
from a list of grants that is not empty, and all of them when the contract cannot be read. -/
theorem failsClosed_iff (o : Orchestrator) (read : ContractRead) (task : Task)
    (policy : RuntimePolicy) :
    FailsClosed o read task policy ↔
      (∃ contract, read.contract = some contract ∧
        Core.Authorized contract (requestedCapability task)) ∨
      read.revokes (requestedCapability task) = true ∨ ¬ Routable o task policy := by
  have hrev : ({ o with fabricAdapter := some read }).revokes (requestedCapability task) =
      read.revokes (requestedCapability task) := by
    simp [revokes]
  have hroute : Routable { o with fabricAdapter := some read } task policy ↔
      Routable o task policy := Iff.rfl
  rw [FailsClosed, not_blocked_iff, hrev, hroute]
  by_cases hauth : ∃ contract, read.contract = some contract ∧
      Core.Authorized contract (requestedCapability task)
  · simp [hauth]
  · cases read.revokes (requestedCapability task) <;> simp [hauth]

/-- An orchestrator as a first start builds it, with a benchmark store. -/
def fresh (benchmarks : List BenchmarkResult) (reg : ModelRegistry) : Orchestrator where
  capabilityRegistry := CapabilityRegistry.init
  modelRegistry := reg
  intelligenceLayer := benchmarks.foldl addBenchmarkResult LocalIntelligenceLayer.init
  frontierExecutor := defaultFrontierExecutor

/-- A task that lists files. -/
def listTask : Task where
  taskId := "t-1"
  capabilityId := "filesystem.list"
  accountId := "account"
  projectId := "project"

/-- A contract that cannot be read does not stop a task. -/
theorem not_failsClosed_unreadable :
    ¬ FailsClosed (fresh [] .bootstrap) none listTask {} := by
  intro h
  obtain ⟨contract, hc, -⟩ := h (by decide)
  exact absurd hc (by simp [ContractRead.contract])

/-! ### The model registry -/

/-- The registry lets the model take the capability. -/
structure ModelAuthorized (reg : ModelRegistry) (capId modelId : String) : Prop where
  /-- The model is registered, for the capability, and not forbidden to take it. -/
  registered : ∃ m, reg.getModel modelId = some m ∧ capId ∈ m.capabilitiesSupported ∧
    capId ∉ m.capabilitiesForbidden
  available : reg.isAvailable modelId = true
  /-- No binding forbids it. -/
  unbound : ∀ b ∈ reg.getBindingsForCapability capId, b.modelId = modelId →
    b.authorization ≠ "forbidden"

/-- The models that planning selects through the assessment. -/
def Selects (o : Orchestrator) (task : Task) (policy : RuntimePolicy) (modelId : String) : Prop :=
  (o.planTask task policy).1.provenance.selectedImplementation = some modelId

theorem selectedImplementation_planInference {cap : CapabilityDefinition} :
    (o.planInference task policy cap).provenance.selectedImplementation =
      (delegated (o.assess task cap)).map (·.implementationId) := by
  simp only [planInference]
  cases delegated (o.assess task cap) with
  | some c => rfl
  | none =>
    simp only
    split_ifs <;> rfl

/-- What is selected: the best ranked of the suitable models of a task that inference is for. -/
theorem selects_iff {modelId : String} :
    Selects o task policy modelId ↔
      ∃ cap m, Admissible o task cap ∧ cap.inferenceRequired = true ∧ policy.allowLlm = true ∧
        Ranking.FirstBest (modelRank o task) (suitableModels o task cap) m ∧
        m.modelId = modelId := by
  have hnone : ∀ {plan : ExecutionPlan}, plan.provenance.selectedImplementation = none →
      ¬ plan.provenance.selectedImplementation = some modelId := fun h => by simp [h]
  cases h : o.capabilityRegistry.get (requestedCapability task) with
  | none =>
    rw [Selects, planTask, h]
    refine iff_of_false (hnone rfl) ?_
    rintro ⟨cap, m, ha, -⟩
    exact absurd (h.symm.trans ha.registered) (by simp)
  | some cap =>
    rw [Selects]
    rcases planTask_known policy h with ⟨hadm, reason, hp⟩ | ⟨hadm, hinf, hp⟩ |
      ⟨hadm, hinf, hllm, hp⟩ | ⟨hadm, hinf, hllm, hp⟩ <;> rw [hp]
    · refine iff_of_false (hnone rfl) ?_
      rintro ⟨cap', m, ha, -⟩
      exact hadm (Option.some.inj (h.symm.trans ha.registered) ▸ ha)
    · refine iff_of_false (hnone ?_) ?_
      · split_ifs <;> rfl
      · rintro ⟨cap', m, ha, hi, -⟩
        rw [← admissible_unique hadm ha, hinf] at hi
        exact absurd hi (by decide)
    · refine iff_of_false (hnone rfl) ?_
      rintro ⟨cap', m, -, -, hl, -⟩
      rw [hllm] at hl
      exact absurd hl (by decide)
    · -- the planner names the implementation by the id of its model
      rw [selectedImplementation_planInference, Option.map_eq_some_iff]
      constructor
      · rintro ⟨c, hc, rfl⟩
        obtain ⟨m, rfl, hm⟩ := delegated_assess.1 hc
        exact ⟨cap, m, hadm, hinf, hllm, hm, (implementationId_profileOf m).symm⟩
      · rintro ⟨cap', m, ha, -, -, hm, rfl⟩
        obtain rfl := admissible_unique hadm ha
        exact ⟨_, delegated_assess.2 ⟨m, rfl, hm⟩, implementationId_profileOf m⟩

/-- What a model lacks that is suitable for the assessment: the capability itself when its list is
empty, and the permissions that the assessment does not ask for. -/
structure Permitted (reg : ModelRegistry) (capId : String) (m : ModelDefinition) : Prop where
  listed : m.capabilitiesSupported ≠ []
  notForbidden : capId ∉ m.capabilitiesForbidden
  unbound : ∀ b ∈ reg.bindings, b.capabilityId = capId → b.modelId = m.modelId →
    b.authorization ≠ "forbidden"

theorem modelAuthorized_iff {cap : CapabilityDefinition} {m : ModelDefinition}
    (hm : Suitable o task cap m) :
    ModelAuthorized o.modelRegistry (requestedCapability task) m.modelId ↔
      Permitted o.modelRegistry (requestedCapability task) m := by
  have hsup := hm.supports
  unfold modelCapabilities at hsup
  have hbind : ∀ b, b ∈ o.modelRegistry.getBindingsForCapability (requestedCapability task) ↔
      b ∈ o.modelRegistry.bindings ∧ b.capabilityId = requestedCapability task := by
    simp [ModelRegistry.getBindingsForCapability]
  constructor
  · rintro ⟨⟨m', hm', hs, hf⟩, -, hb⟩
    obtain rfl := Option.some.inj (hm.registered.symm.trans hm')
    exact ⟨List.ne_nil_of_mem hs, hf, fun b h hc => hb b ((hbind b).2 ⟨h, hc⟩)⟩
  · rintro ⟨hl, hf, hb⟩
    rw [if_neg hl] at hsup
    exact ⟨⟨m, hm.registered, hsup, hf⟩, hm.available, fun b h => hb b ((hbind b).1 h).1
      ((hbind b).1 h).2⟩

/-- Planning selects no model that the registry does not authorize. -/
def SelectsAuthorized (o : Orchestrator) (task : Task) (policy : RuntimePolicy) : Prop :=
  ∀ modelId, Selects o task policy modelId →
    ModelAuthorized o.modelRegistry (requestedCapability task) modelId

/-- A model that classifies documents. -/
def classifier : ModelDefinition where
  modelId := "classifier"
  displayName := "Classifier"
  provider := "local"
  executorType := "LOCAL_MODEL"
  version := "1.0"
  status := .available
  capabilitiesSupported := ["document.classify"]
  capabilitiesForbidden := []
  artifactUri := "local://models/classifier"
  runtimeInterface := "llama.cpp"

/-- A binding that forbids it to. -/
def forbiddenBinding : ModelCapabilityBinding where
  modelId := "classifier"
  capabilityId := "document.classify"
  authorization := "forbidden"
  qualityProfile := "none"
  riskLimit := "none"
  preferred := false
  fallback := false
  reason := "Not to be trusted with documents"

/-- A registry in which a binding forbids what the model supports. -/
def boundRegistry : ModelRegistry :=
  ModelRegistry.run .bootstrap [.registerModel classifier, .addBinding forbiddenBinding]

/-- A result that makes the model good enough. -/
def classifierBenchmark : BenchmarkResult where
  benchmarkId := "b-1"
  implementationId := "classifier"
  capabilityId := "document.classify"
  score := 9 / 10
  confidence := 9 / 10
  latency := 1

/-- A task for the model. -/
def classifyTask : Task where
  taskId := "t-1"
  capabilityId := "document.classify"
  accountId := "account"
  projectId := "project"

end Orchestrator

end Orchestration

end AnnyRuntime
