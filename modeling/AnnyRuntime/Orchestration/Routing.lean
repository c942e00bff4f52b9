import AnnyRuntime.Orchestration.Reconcile

/-!
# How tasks are routed

`planTask_routing` says exactly when a plan is deterministic, when it uses a model, and when the
task is blocked, in terms of the registries, the benchmark results, the policy, the contract and
the task alone:

* `Admissible` : the capability is registered, enabled, not revoked, and its network policy suits
  the task;
* `Suitable` : a registered model can be used, supports the capability, is certified, is good
  enough and fits;
* `RoutedDeterministic`, `RoutedInference` : what makes a plan of each kind.

`delegated_assess` says which model is chosen: the best ranked suitable one.
-/

namespace AnnyRuntime

namespace Orchestration

namespace Orchestrator

open Execution Intelligence LocalIntelligenceLayer

/-- The capability of the task passes the checks that no executor matters for. -/
structure Admissible (o : Orchestrator) (task : Task) (cap : CapabilityDefinition) : Prop where
  registered : o.capabilityRegistry.get (requestedCapability task) = some cap
  unrevoked : o.revokes (requestedCapability task) = false
  enabled : cap.enabled = true
  network : ¬ (cap.networkPolicy = "disabled" ∧ task.requiresNetwork = true)

/-- The model can take the task. -/
structure Suitable (o : Orchestrator) (task : Task) (cap : CapabilityDefinition)
    (m : ModelDefinition) : Prop where
  /-- It is registered, available, and accepted by the frontier executor if it is remote. -/
  registered : o.modelRegistry.getModel m.modelId = some m
  available : o.modelRegistry.isAvailable m.modelId = true
  accepted : isRemote m = true → o.frontierExecutor.isAvailable (some m.modelId) = true
  /-- It supports the capability. -/
  supports : requestedCapability task ∈ modelCapabilities m
  /-- Its certification holds. -/
  certified : (profileOf o.modelRegistry o.frontierExecutor o.intelligenceLayer m).certification ∉
    invalidCertifications
  /-- Its mean benchmark score is high enough. -/
  quality : 17 / 20 ≤
    (o.intelligenceLayer.getBenchmarkStats m.modelId (requestedCapability task)).1
  /-- It has the GPU that the task demands. -/
  gpu : missesGpu task.constraints
    (profileOf o.modelRegistry o.frontierExecutor o.intelligenceLayer m).resourceProfile = false
  /-- It does not need a network that the capability forbids. -/
  offline : needsNetwork (some [("network", cap.networkPolicy)])
    (profileOf o.modelRegistry o.frontierExecutor o.intelligenceLayer m).resourceProfile = false

/-- What makes a plan deterministic. -/
def RoutedDeterministic (o : Orchestrator) (task : Task) : Prop :=
  ∃ cap, Admissible o task cap ∧ cap.inferenceRequired = false ∧ cap.deterministicAllowed = true

/-- What makes a plan use a model. -/
def RoutedInference (o : Orchestrator) (task : Task) (policy : RuntimePolicy) : Prop :=
  ∃ cap, Admissible o task cap ∧ cap.inferenceRequired = true ∧ policy.allowLlm = true ∧
    ((∃ m, Suitable o task cap m) ∨
      (frontierAuthorized task policy cap = true ∧ o.frontierExecutor.isAvailable none = true))

/-! ### The assessment -/

section Assess

variable {o : Orchestrator} {task : Task} {cap : CapabilityDefinition} {m : ModelDefinition}

theorem implementationId_profileOf (m : ModelDefinition) :
    (profileOf o.modelRegistry o.frontierExecutor o.intelligenceLayer m).implementationId =
      m.modelId := implementationId_syncProfile m

theorem availability_profileOf (m : ModelDefinition) :
    (profileOf o.modelRegistry o.frontierExecutor o.intelligenceLayer m).availability =
      modelAvailable o.modelRegistry o.frontierExecutor m := by
  unfold profileOf
  cases o.intelligenceLayer.implementations.get? m.modelId <;> rfl

theorem capabilityIds_profileOf (m : ModelDefinition) :
    (profileOf o.modelRegistry o.frontierExecutor o.intelligenceLayer m).capabilityIds =
      modelCapabilities m := by
  unfold profileOf
  cases o.intelligenceLayer.implementations.get? m.modelId <;> rfl

/-- The layer qualifies the profile of a registered model exactly when the model is suitable. -/
theorem qualified_profileOf (task : Task) (cap : CapabilityDefinition)
    (hm : o.modelRegistry.getModel m.modelId = some m) :
    Qualified o.reconcileRegistries.intelligenceLayer (assessmentRequest task cap)
        (profileOf o.modelRegistry o.frontierExecutor o.intelligenceLayer m) ↔
      Suitable o task cap m := by
  have hstats : (o.reconcileRegistries.intelligenceLayer.getBenchmarkStats m.modelId
      (requestedCapability task)) =
      o.intelligenceLayer.getBenchmarkStats m.modelId (requestedCapability task) :=
    getBenchmarkStats_reconcileLayer _ _
  constructor
  · rintro ⟨h1, h2, h3, h4, h5, h6⟩
    rw [availability_profileOf, modelAvailable, Bool.and_eq_true, Bool.or_eq_true] at h1
    rw [capabilityIds_profileOf] at h2
    rw [implementationId_profileOf, assessmentRequest, hstats] at h6
    refine ⟨hm, h1.1, fun hr => h1.2.resolve_left (by simp [hr]), h2, h3, h6, h4, h5⟩
  · rintro ⟨-, h1, h1', h2, h3, h6, h4, h5⟩
    refine ⟨?_, by rw [capabilityIds_profileOf]; exact h2, h3, h4, h5, ?_⟩
    · rw [availability_profileOf, modelAvailable, h1, Bool.true_and, Bool.or_eq_true]
      cases hr : isRemote m
      · exact Or.inl rfl
      · exact Or.inr (h1' hr)
    · rw [implementationId_profileOf, assessmentRequest, hstats]
      exact h6

instance : DecidablePred (Suitable o task cap) := fun m =>
  decidable_of_iff
    (o.modelRegistry.getModel m.modelId = some m ∧
      Qualified o.reconcileRegistries.intelligenceLayer (assessmentRequest task cap)
        (profileOf o.modelRegistry o.frontierExecutor o.intelligenceLayer m))
    ⟨fun ⟨h, hq⟩ => (qualified_profileOf task cap h).1 hq,
      fun h => ⟨h.registered, (qualified_profileOf task cap h.registered).2 h⟩⟩

/-- The suitable models, in the order of the layer. -/
def suitableModels (o : Orchestrator) (task : Task) (cap : CapabilityDefinition) :
    List ModelDefinition :=
  (rankedModels o.modelRegistry o.intelligenceLayer).filter (Suitable o task cap)

/-- How a model ranks for a capability: by its mean score, and then by its mean confidence. -/
def modelRank (o : Orchestrator) (task : Task) (m : ModelDefinition) : ℚ ×ₗ ℚ :=
  let stats := o.intelligenceLayer.getBenchmarkStats m.modelId (requestedCapability task)
  toLex (stats.1, stats.2.1)

theorem mem_suitableModels : m ∈ suitableModels o task cap ↔ Suitable o task cap m := by
  rw [suitableModels, List.mem_filter, mem_rankedModels, decide_eq_true_eq]
  exact ⟨fun h => h.2, fun h => ⟨h.registered, h⟩⟩

/-- The profiles that the assessment qualifies. -/
theorem filter_assessed :
    (o.reconcileRegistries.intelligenceLayer.assessed
        (some (availableModels o.modelRegistry))).filter
        (Qualified o.reconcileRegistries.intelligenceLayer (assessmentRequest task cap)) =
      (suitableModels o task cap).map
        (profileOf o.modelRegistry o.frontierExecutor o.intelligenceLayer) := by
  have hvals : o.reconcileRegistries.intelligenceLayer.implementations.values =
      (rankedModels o.modelRegistry o.intelligenceLayer).map
        (profileOf o.modelRegistry o.frontierExecutor o.intelligenceLayer) :=
    values_reconcileLayer
  rw [assessed, hvals, List.filter_map, List.filter_map, List.filter_filter, suitableModels]
  refine congrArg _ (List.filter_congr fun m hm => ?_)
  have hreg := mem_rankedModels.1 hm
  have hiff := qualified_profileOf task cap hreg
  simp only [Function.comp, implementationId_profileOf]
  rw [← Bool.decide_and, decide_eq_decide]
  constructor
  · rintro ⟨hq, -⟩
    exact hiff.1 hq
  · intro hs
    refine ⟨hiff.2 hs, List.mem_filter.2 ⟨?_, hs.available⟩⟩
    exact List.mem_map_of_mem (ModelRegistry.mem_listModels.2 hreg)

/-- **What the assessment delegates to**: the best ranked suitable model. -/
theorem delegated_assess {c : ImplementationCandidate} :
    delegated (o.assess task cap) = some c ↔
      ∃ m, c = o.reconcileRegistries.intelligenceLayer.toCandidate (requestedCapability task)
          (profileOf o.modelRegistry o.frontierExecutor o.intelligenceLayer m) ∧
        Ranking.FirstBest (modelRank o task) (suitableModels o task cap) m := by
  have hq : 0 < (assessmentRequest task cap).qualityRequired := by
    change (0 : ℚ) < 17 / 20
    norm_num
  have hdel : delegated (o.assess task cap) = some c ↔
      (o.assess task cap).decision = .delegate ∧
        (o.assess task cap).selectedImplementation = some c := by
    unfold delegated
    split_ifs with h <;> simp [h]
  -- reconciling the registries changes none of the statistics that the rank is made of
  have hrank : (o.reconcileRegistries.intelligenceLayer.rankOf
        (assessmentRequest task cap).capabilityId) ∘
      (profileOf o.modelRegistry o.frontierExecutor o.intelligenceLayer) = modelRank o task := by
    funext m
    have hstats : (o.reconcileRegistries.intelligenceLayer.getBenchmarkStats m.modelId
        (requestedCapability task)) =
        o.intelligenceLayer.getBenchmarkStats m.modelId (requestedCapability task) :=
      getBenchmarkStats_reconcileLayer _ _
    simp only [Function.comp, rankOf, rank, toCandidate, assessmentRequest,
      implementationId_profileOf, hstats, modelRank]
  rw [hdel, assess, assessCapability_selects hq, filter_assessed]
  simp only [Ranking.firstBest_map, hrank]
  constructor
  · rintro ⟨-, rfl, m, rfl, h⟩
    exact ⟨m, rfl, h⟩
  · rintro ⟨m, rfl, h⟩
    exact ⟨_, rfl, m, rfl, h⟩

theorem delegated_assess_isSome :
    (∃ c, delegated (o.assess task cap) = some c) ↔ ∃ m, Suitable o task cap m := by
  constructor
  · rintro ⟨c, hc⟩
    obtain ⟨m, -, hm⟩ := delegated_assess.1 hc
    exact ⟨m, mem_suitableModels.1 hm.mem⟩
  · rintro ⟨m, hm⟩
    obtain ⟨m', hm'⟩ : ∃ m', Ranking.FirstBest (modelRank o task) (suitableModels o task cap) m' :=
      Ranking.exists_firstBest (List.ne_nil_of_mem (mem_suitableModels.2 hm))
    exact ⟨_, delegated_assess.2 ⟨m', rfl, hm'⟩⟩

end Assess

/-! ### The plan -/

section Plan

variable {o : Orchestrator} {task : Task} {policy : RuntimePolicy} {cap : CapabilityDefinition}

/-- A plan uses a model. -/
def UsesModel (plan : ExecutionPlan) : Prop :=
  plan.routingClass = .localModel ∨ plan.routingClass = .frontierModel

theorem usesModel_delegatedPlan (c : ImplementationCandidate) (r : AssessmentReason)
    (p : Provenance) : UsesModel (delegatedPlan task policy cap c r p) := by
  simp only [UsesModel, delegatedPlan]
  split_ifs <;> simp

/-- A task that needs inference: a suitable model, the frontier, or nothing. -/
theorem planInference_routing (o : Orchestrator) (task : Task) (policy : RuntimePolicy)
    (cap : CapabilityDefinition) :
    UsesModel (o.planInference task policy cap) ∧
        ((∃ m, Suitable o task cap m) ∨
          (frontierAuthorized task policy cap = true ∧
            o.frontierExecutor.isAvailable none = true)) ∨
      (o.planInference task policy cap).routingClass = .blocked ∧
        ¬ ((∃ m, Suitable o task cap m) ∨
          (frontierAuthorized task policy cap = true ∧
            o.frontierExecutor.isAvailable none = true)) := by
  simp only [planInference]
  cases hd : delegated (o.assess task cap) with
  | some c =>
    exact Or.inl ⟨usesModel_delegatedPlan _ _ _, Or.inl (delegated_assess_isSome.1 ⟨c, hd⟩)⟩
  | none =>
    have hno : ¬ ∃ m, Suitable o task cap m := fun h => by
      obtain ⟨c, hc⟩ := delegated_assess_isSome.2 h
      rw [hd] at hc
      exact absurd hc (by simp)
    by_cases hf : (frontierAuthorized task policy cap &&
        o.frontierExecutor.isAvailable none) = true
    · simp only [hf, ↓reduceIte]
      exact Or.inl ⟨Or.inr rfl, Or.inr (by rwa [Bool.and_eq_true] at hf)⟩
    · simp only [hf, Bool.false_eq_true, ↓reduceIte]
      refine Or.inr ⟨rfl, ?_⟩
      rintro (h | h)
      · exact hno h
      · exact hf (by rw [Bool.and_eq_true]; exact h)

theorem planTask_unknown (h : o.capabilityRegistry.get (requestedCapability task) = none) :
    (o.planTask task policy).1.routingClass = .blocked := by
  rw [planTask, h]
  rfl

theorem admissible_unique {cap' : CapabilityDefinition} (h : Admissible o task cap)
    (h' : Admissible o task cap') : cap = cap' :=
  Option.some.inj (h.registered.symm.trans h'.registered)

/-- The plan that blocks a task of a known capability. -/
def capBlocked (task : Task) (policy : RuntimePolicy) (cap : CapabilityDefinition)
    (reason : DecisionReason) : ExecutionPlan :=
  blockedPlan task policy cap.version reason (capProvenance task policy cap)

/-- All that planning does with a known capability, the checks being made in this order. -/
theorem planTask_known (policy : RuntimePolicy)
    (h : o.capabilityRegistry.get (requestedCapability task) = some cap) :
    (¬ Admissible o task cap ∧
      ∃ reason, o.planTask task policy = (capBlocked task policy cap reason, o)) ∨
    (Admissible o task cap ∧ cap.inferenceRequired = false ∧
      o.planTask task policy =
        (if cap.deterministicAllowed then deterministicPlan task policy cap
          else capBlocked task policy cap (.notDeterministic (requestedCapability task)), o)) ∨
    (Admissible o task cap ∧ cap.inferenceRequired = true ∧ policy.allowLlm = false ∧
      o.planTask task policy = (capBlocked task policy cap .llmDisabled, o)) ∨
    (Admissible o task cap ∧ cap.inferenceRequired = true ∧ policy.allowLlm = true ∧
      o.planTask task policy = (o.planInference task policy cap, o.reconcileRegistries)) := by
  by_cases hrev : o.revokes (requestedCapability task) = true
  · refine Or.inl ⟨fun ha => absurd ha.unrevoked (by simp [hrev]),
      .revoked (requestedCapability task), ?_⟩
    simp only [planTask, h, hrev, ↓reduceIte, capBlocked]
  by_cases hen : cap.enabled = true
  swap
  · refine Or.inl ⟨fun ha => hen ha.enabled, .disabled (requestedCapability task), ?_⟩
    simp only [planTask, h, hrev, hen, Bool.not_false, Bool.false_eq_true, ↓reduceIte, capBlocked]
  by_cases hllm : (cap.inferenceRequired && !policy.allowLlm) = true
  · have hb : o.planTask task policy = (capBlocked task policy cap .llmDisabled, o) := by
      simp only [planTask, h, hrev, hen, hllm, Bool.not_true, Bool.false_eq_true, ↓reduceIte,
        capBlocked]
    rw [Bool.and_eq_true, Bool.not_eq_true'] at hllm
    -- the network check comes after this one, so the capability need not be admissible here
    by_cases hadm : Admissible o task cap
    · exact Or.inr (Or.inr (Or.inl ⟨hadm, hllm.1, hllm.2, hb⟩))
    · exact Or.inl ⟨hadm, _, hb⟩
  by_cases hnet : (cap.networkPolicy = "disabled" && task.requiresNetwork) = true
  · refine Or.inl ⟨fun ha => ha.network (by simpa using hnet),
      .networkForbidden (requestedCapability task), ?_⟩
    simp only [planTask, h, hrev, hen, hllm, hnet, Bool.not_true, Bool.false_eq_true, ↓reduceIte,
      capBlocked]
  have hadm : Admissible o task cap :=
    ⟨h, by simpa using hrev, hen, fun hn => hnet (by simpa using hn)⟩
  cases hinf : cap.inferenceRequired with
  | true =>
    have hallow : policy.allowLlm = true := by simpa [hinf] using hllm
    refine Or.inr (Or.inr (Or.inr ⟨hadm, rfl, hallow, ?_⟩))
    simp only [planTask, h, hrev, hen, hnet, hinf, hallow, Bool.not_true, Bool.and_false,
      Bool.false_eq_true, ↓reduceIte]
  | false =>
    refine Or.inr (Or.inl ⟨hadm, rfl, ?_⟩)
    simp only [planTask, h, hrev, hen, hnet, hinf, Bool.not_true, Bool.not_false, Bool.false_and,
      Bool.false_eq_true, ↓reduceIte, capBlocked]
    split_ifs <;> rfl

theorem not_routed_of_not_admissible (h : o.capabilityRegistry.get (requestedCapability task) =
    some cap) (hadm : ¬ Admissible o task cap) :
    ¬ RoutedDeterministic o task ∧ ¬ RoutedInference o task policy := by
  refine ⟨?_, ?_⟩
  · rintro ⟨cap', ha, -⟩
    exact hadm (Option.some.inj (h.symm.trans ha.registered) ▸ ha)
  · rintro ⟨cap', ha, -⟩
    exact hadm (Option.some.inj (h.symm.trans ha.registered) ▸ ha)

/-- What is routed how, as one case distinction. -/
theorem planTask_cases (o : Orchestrator) (task : Task) (policy : RuntimePolicy) :
    ((o.planTask task policy).1.routingClass = .deterministic ∧ RoutedDeterministic o task ∧
      ¬ RoutedInference o task policy) ∨
    (UsesModel (o.planTask task policy).1 ∧ RoutedInference o task policy ∧
      ¬ RoutedDeterministic o task) ∨
    ((o.planTask task policy).1.routingClass = .blocked ∧ ¬ RoutedDeterministic o task ∧
      ¬ RoutedInference o task policy) := by
  cases h : o.capabilityRegistry.get (requestedCapability task) with
  | none =>
    refine Or.inr (Or.inr ⟨planTask_unknown h, ?_, ?_⟩)
    · rintro ⟨cap, ha, -⟩
      exact absurd (h.symm.trans ha.registered) (by simp)
    · rintro ⟨cap, ha, -⟩
      exact absurd (h.symm.trans ha.registered) (by simp)
  | some cap =>
    rcases planTask_known policy h with ⟨hadm, reason, hp⟩ | ⟨hadm, hinf, hp⟩ |
      ⟨hadm, hinf, hllm, hp⟩ | ⟨hadm, hinf, hllm, hp⟩ <;> rw [hp]
    · exact Or.inr (Or.inr ⟨rfl, not_routed_of_not_admissible h hadm⟩)
    · -- no inference is needed
      have hno : ¬ RoutedInference o task policy := by
        rintro ⟨cap', ha, hi, -⟩
        rw [← admissible_unique hadm ha, hinf] at hi
        exact absurd hi (by decide)
      by_cases hdet : cap.deterministicAllowed = true
      · rw [if_pos hdet]
        exact Or.inl ⟨rfl, ⟨cap, hadm, hinf, hdet⟩, hno⟩
      · rw [if_neg hdet]
        refine Or.inr (Or.inr ⟨rfl, ?_, hno⟩)
        rintro ⟨cap', ha, -, hd⟩
        exact hdet (admissible_unique hadm ha ▸ hd)
    · -- inference is needed, and no model is allowed
      refine Or.inr (Or.inr ⟨rfl, ?_, ?_⟩)
      · rintro ⟨cap', ha, hi, -⟩
        rw [← admissible_unique hadm ha, hinf] at hi
        exact absurd hi (by decide)
      · rintro ⟨cap', ha, -, hl, -⟩
        rw [hllm] at hl
        exact absurd hl (by decide)
    · -- inference is needed and allowed, so the planner decides
      have hno : ¬ RoutedDeterministic o task := by
        rintro ⟨cap', ha, hi, -⟩
        rw [← admissible_unique hadm ha, hinf] at hi
        exact absurd hi (by decide)
      rcases planInference_routing o task policy cap with
        ⟨hu, hcan⟩ | ⟨hb, hcannot⟩
      · exact Or.inr (Or.inl ⟨hu, ⟨cap, hadm, hinf, hllm, hcan⟩, hno⟩)
      · refine Or.inr (Or.inr ⟨hb, hno, ?_⟩)
        rintro ⟨cap', ha, -, -, hcan⟩
        exact hcannot (admissible_unique hadm ha ▸ hcan)

end Plan

end Orchestrator

end Orchestration

end AnnyRuntime
