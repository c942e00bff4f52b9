import AnnyRuntime.Orchestration.Routing

/-!
# Reconciling converges

The layer agrees with the registry (`Agrees`) when it knows the registered models and nothing else,
each with the availability, the execution class and the capabilities that the registry has for it.
A layer in which every profile is already what reconciling makes of it (`Settled`) is a fixed point
of both loops (`Settled.reconcileLayer_eq`), and reconciling settles every layer.

* `reconcile_converges` : **reconciling agrees, keeps the benchmarks, and the second time changes
  nothing**, also when planning does it after the registry was changed.

An empty list of capabilities stands for document classification, and planning reconciles nothing
for a task that it refuses before (`not_converges`).
-/

namespace AnnyRuntime

namespace Orchestration

namespace Orchestrator

open Execution Intelligence LocalIntelligenceLayer

variable {reg : ModelRegistry} {fe : FrontierExecutor} {layer : LocalIntelligenceLayer}

/-! ### Agreement -/

/-- A profile agrees with a registered model. -/
structure ProfileAgrees (reg : ModelRegistry) (fe : FrontierExecutor) (m : ModelDefinition)
    (p : ImplementationProfile) : Prop where
  /-- A remote model also has to be accepted by the frontier executor. -/
  availability : p.availability = true ↔ reg.isAvailable m.modelId = true ∧
    (isRemote m = true → fe.isAvailable (some m.modelId) = true)
  executionClass : p.executionClass = m.executorType
  capabilities : p.capabilityIds = modelCapabilities m

/-- The layer agrees with the registry. -/
structure Agrees (reg : ModelRegistry) (fe : FrontierExecutor) (layer : LocalIntelligenceLayer) :
    Prop where
  /-- The implementations are exactly the registered models. -/
  ids : ∀ id, id ∈ layer.implementations.keys ↔ id ∈ reg.models.keys
  profiles : ∀ id m p, reg.getModel id = some m → layer.implementations.get? id = some p →
    ProfileAgrees reg fe m p

/-- Reconciling has converged: the layer agrees, with the benchmark results it had, and the next
time changes nothing. -/
structure Converged (o : Orchestrator) (benchmarks : Dict String BenchmarkResult) : Prop where
  agrees : Agrees o.modelRegistry o.frontierExecutor o.intelligenceLayer
  untouched : o.intelligenceLayer.benchmarks = benchmarks
  fixed : o.reconcileRegistries = o

theorem profileAgrees_syncProfile (m : ModelDefinition) (p : Option ImplementationProfile) :
    ProfileAgrees reg fe m (syncProfile reg fe m p) := by
  have hiff : modelAvailable reg fe m = true ↔ reg.isAvailable m.modelId = true ∧
      (isRemote m = true → fe.isAvailable (some m.modelId) = true) := by
    rw [modelAvailable, Bool.and_eq_true, Bool.or_eq_true, Bool.not_eq_true', ← Bool.not_eq_true,
      imp_iff_not_or]
  cases p with
  | none => exact ⟨hiff, rfl, rfl⟩
  | some p => exact ⟨hiff, rfl, rfl⟩

theorem agrees_reconcileLayer (reg : ModelRegistry) (fe : FrontierExecutor)
    (layer : LocalIntelligenceLayer) : Agrees reg fe (reconcileLayer reg fe layer) := by
  refine ⟨fun id => ?_, fun id m p hm hp => ?_⟩
  · rw [← not_iff_not, ← Dict.get?_eq_none_iff, ← Dict.get?_eq_none_iff, get?_reconcileLayer,
      Option.map_eq_none_iff]
    rfl
  · rw [get?_reconcileLayer, hm, Option.map_some, Option.some.injEq] at hp
    rw [← hp]
    exact profileAgrees_syncProfile m _

/-! ### The fixed point -/

/-- Every profile is what reconciling makes of it. -/
def Settled (reg : ModelRegistry) (fe : FrontierExecutor) (layer : LocalIntelligenceLayer) : Prop :=
  ∀ id, layer.implementations.get? id = (reg.getModel id).map (profileOf reg fe layer)

/-- Bringing a profile up to date twice is bringing it up to date. -/
theorem syncProfile_syncProfile (m : ModelDefinition) (p : Option ImplementationProfile) :
    syncProfile reg fe m (some (syncProfile reg fe m p)) = syncProfile reg fe m p := by
  cases p <;> simp only [syncProfile] <;> cases m.certificationStatus <;> rfl

theorem settled_reconcileLayer (reg : ModelRegistry) (fe : FrontierExecutor)
    (layer : LocalIntelligenceLayer) : Settled reg fe (reconcileLayer reg fe layer) := by
  intro id
  rw [get?_reconcileLayer]
  cases h : reg.getModel id with
  | none => rfl
  | some m =>
    have hm : reg.getModel m.modelId = some m := by rw [reg.keyed id m h]; exact h
    rw [Option.map_some, Option.map_some, profileOf, profileOf, get?_reconcileLayer, hm,
      Option.map_some, profileOf, syncProfile_syncProfile]

namespace Settled

variable (h : Settled reg fe layer)

include h

theorem reconcileModel_eq {m : ModelDefinition} (hm : m ∈ reg.listModels) :
    reconcileModel reg fe layer m = layer := by
  have hget : layer.implementations.get? m.modelId =
      some (syncProfile reg fe m (layer.implementations.get? m.modelId)) := by
    have := h m.modelId
    rw [ModelRegistry.mem_listModels.1 hm] at this
    exact this
  have himpl : (reconcileModel reg fe layer m).implementations = layer.implementations := by
    rw [implementations_reconcileModel, Dict.set_of_get? hget]
  obtain ⟨implementations, benchmarks, keyed⟩ := layer
  simp only [reconcileModel, registerImplementation] at himpl ⊢
  congr 1

theorem dropUnregistered_eq {id : String} (hid : id ∈ layer.implementations.keys) :
    dropUnregistered reg layer id = layer := by
  refine if_pos ?_
  have hsome : (reg.getModel id).map (profileOf reg fe layer) ≠ none := by
    rw [← h id, ne_eq, Dict.get?_eq_none_iff, not_not]
    exact hid
  rw [ne_eq, Option.map_eq_none_iff, ← ne_eq, Option.ne_none_iff_isSome] at hsome
  exact hsome

/-- **A settled layer is a fixed point** of reconciling. -/
theorem reconcileLayer_eq : reconcileLayer reg fe layer = layer := by
  have hmodels : ∀ ms : List ModelDefinition, (∀ m ∈ ms, m ∈ reg.listModels) →
      ms.foldl (reconcileModel reg fe) layer = layer := by
    intro ms hms
    induction ms with
    | nil => rfl
    | cons m ms ih =>
      rw [List.foldl_cons, h.reconcileModel_eq (hms m List.mem_cons_self)]
      exact ih fun m' hm' => hms m' (List.mem_cons_of_mem _ hm')
  have hids : ∀ ids : List String, (∀ id ∈ ids, id ∈ layer.implementations.keys) →
      ids.foldl (dropUnregistered reg) layer = layer := by
    intro ids hsub
    induction ids with
    | nil => rfl
    | cons id ids ih =>
      rw [List.foldl_cons, h.dropUnregistered_eq (hsub id List.mem_cons_self)]
      exact ih fun id' hid' => hsub id' (List.mem_cons_of_mem _ hid')
  rw [reconcileLayer, hmodels _ fun m hm => hm]
  exact hids _ fun id hid => hid

end Settled

/-! ### Convergence -/

theorem converged_reconcileRegistries (o : Orchestrator) :
    Converged o.reconcileRegistries o.intelligenceLayer.benchmarks where
  agrees := agrees_reconcileLayer _ _ _
  untouched := benchmarks_reconcileLayer
  fixed := by
    have hfixed := (settled_reconcileLayer o.modelRegistry o.frontierExecutor
      o.intelligenceLayer).reconcileLayer_eq
    simp only [reconcileRegistries, hfixed]

/-- The orchestrator when calls have changed the registry and the frontier executor answers as `fe`
does. -/
def changed (o : Orchestrator) (cs : List ModelRegistry.Call) (fe : FrontierExecutor) :
    Orchestrator :=
  { o with modelRegistry := o.modelRegistry.run cs, frontierExecutor := fe }

/-- **Reconciling converges**, and it does so again when a task that needs inference is planned
after any changes of the registry, unless planning refuses the task before it looks for a model. -/
theorem reconcile_converges (o : Orchestrator) :
    Converged o.reconcileRegistries o.intelligenceLayer.benchmarks ∧
    ∀ cs fe task policy cap, Admissible (o.changed cs fe) task cap → cap.inferenceRequired = true →
      policy.allowLlm = true →
      Converged ((o.changed cs fe).planTask task policy).2 o.intelligenceLayer.benchmarks := by
  refine ⟨converged_reconcileRegistries o, fun cs fe task policy cap hadm hinf hllm => ?_⟩
  rcases planTask_known policy hadm.registered with ⟨hno, -⟩ | ⟨-, hno, -⟩ | ⟨-, -, hno, -⟩ |
    ⟨-, -, -, hplan⟩
  · exact absurd hadm hno
  · exact absurd hinf (by rw [hno]; decide)
  · exact absurd hllm (by rw [hno]; decide)
  · rw [hplan]
    exact converged_reconcileRegistries (o.changed cs fe)

/-- A new orchestrator with the initial registries. -/
def started : Orchestrator :=
  init .init .bootstrap .init (defaultFrontierExecutor true) none

/-- A document is to be classified. -/
def documentTask : Task where
  taskId := "task-1"
  capabilityId := "document.classify"
  accountId := "acct"
  projectId := "proj"

/-- A model leaves the registry and the task is planned. -/
theorem reconcile_converges_started :
    Converged ((started.changed [.unregister "luna"] (defaultFrontierExecutor true)).planTask
      documentTask { allowLlm := true }).2 Dict.empty :=
  (reconcile_converges started).2 _ _ _ _ _
    { registered := rfl
      unrevoked := rfl
      enabled := rfl
      network := by decide } rfl rfl

/-- A registry with a model that lists no capabilities. -/
def silentRegistry : ModelRegistry :=
  ModelRegistry.empty.put { ModelRegistry.luna with capabilitiesSupported := [] }

/-- **Where it does not converge to the registry**: a model without capabilities gets one, and a
model that left the registry stays known when the policy forbids inference. -/
theorem not_converges :
    ((silentRegistry.getModel "luna").map (·.capabilitiesSupported) = some [] ∧
      ((init .init silentRegistry .init (defaultFrontierExecutor true) none).intelligenceLayer
        |>.implementations.get? "luna").map (·.capabilityIds) = some ["document.classify"]) ∧
    let o := started.changed [.unregister "luna"] (defaultFrontierExecutor true)
    let o' := (o.planTask documentTask {}).2
    ((o.capabilityRegistry.get "document.classify").map (·.inferenceRequired) = some true ∧
      "luna" ∉ o'.modelRegistry.models.keys ∧
      "luna" ∈ o'.intelligenceLayer.implementations.keys) := by
  refine ⟨⟨?_, ?_⟩, ?_, ?_, ?_⟩
  · decide +kernel
  · decide +kernel
  · decide +kernel
  · decide +kernel
  · decide +kernel

end Orchestrator

end Orchestration

end AnnyRuntime
