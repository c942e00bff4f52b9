import AnnyRuntime.Execution.Manager
import AnnyRuntime.Orchestration.Routing

/-!
# The frontier boundary

Two frontier executors are asked about a remote model: the one of the orchestrator when the task is
planned, and the one of the worker manager when its worker starts.  The fallback asks the first one
whether any model is available and then takes the model that the task prefers; a worker manager
without an executor asks a default one that is enabled.

* `planTask_frontier_iff` : the frontier plans, with their models (`FrontierChoice`).
* `executed_iff` : when a worker runs a remote model.
* `frontier_executable_iff` : **frontier plans are executable exactly when the preferred model is
  accepted and nothing that the manager's executor accepts is refused by the one that planned.**
-/

namespace AnnyRuntime

namespace Execution

open Intelligence Orchestration Orchestrator

/-! ### Frontier plans -/

/-- Nothing suits the task, so that it falls back to the frontier. -/
def FallsBack (o : Orchestrator) (task : Task) (policy : RuntimePolicy) : Prop :=
  ∃ cap, Admissible o task cap ∧ cap.inferenceRequired = true ∧ policy.allowLlm = true ∧
    (¬ ∃ m, Suitable o task cap m) ∧ frontierAuthorized task policy cap = true ∧
    o.frontierExecutor.isAvailable none = true

/-- The best model that suits the task is a remote one. -/
def DelegatesTo (o : Orchestrator) (task : Task) (policy : RuntimePolicy) (modelId : String) :
    Prop :=
  ∃ cap, Admissible o task cap ∧ cap.inferenceRequired = true ∧ policy.allowLlm = true ∧
    ∃ m, Ranking.FirstBest (modelRank o task) (suitableModels o task cap) m ∧ isRemote m = true ∧
      m.modelId = modelId

/-- The model of a frontier plan. -/
def FrontierChoice (o : Orchestrator) (task : Task) (policy : RuntimePolicy) (modelId : String) :
    Prop :=
  DelegatesTo o task policy modelId ∨
    (FallsBack o task policy ∧ modelId = task.preferredFrontierModel)

/-- A plan gives its task to a model at the frontier. -/
def ToFrontier (plan : ExecutionPlan) (modelId : String) : Prop :=
  plan.routingClass = .frontierModel ∧ plan.modelId = some modelId

section Plan

variable {o : Orchestrator} {task : Task} {policy : RuntimePolicy} {cap : CapabilityDefinition}
  {modelId : String}

theorem executionClass_profileOf (m : ModelDefinition) :
    (profileOf o.modelRegistry o.frontierExecutor o.intelligenceLayer m).executionClass =
      m.executorType := by
  unfold profileOf
  cases o.intelligenceLayer.implementations.get? m.modelId <;> rfl

/-- A delegated plan is a frontier plan when its candidate is remote. -/
theorem toFrontier_delegatedPlan (c : ImplementationCandidate) (r : AssessmentReason)
    (p : Provenance) :
    ToFrontier (delegatedPlan task policy cap c r p) modelId ↔
      (c.executionClass = "REMOTE_MODEL" ∨ c.executionClass = "FRONTIER_MODEL") ∧
        c.implementationId = modelId := by
  simp only [ToFrontier, delegatedPlan, Option.some.injEq]
  refine and_congr_left fun _ => ?_
  by_cases h : c.executionClass = ExecutorType.remoteModel.value ∨
      c.executionClass = "FRONTIER_MODEL"
  · rw [if_pos h]
    exact iff_of_true rfl h
  · rw [if_neg h]
    exact iff_of_false (by decide) h

theorem toFrontier_planInference :
    ToFrontier (o.planInference task policy cap) modelId ↔
      (∃ m, Ranking.FirstBest (modelRank o task) (suitableModels o task cap) m ∧
        isRemote m = true ∧ m.modelId = modelId) ∨
      ((¬ ∃ m, Suitable o task cap m) ∧ frontierAuthorized task policy cap = true ∧
        o.frontierExecutor.isAvailable none = true ∧ modelId = task.preferredFrontierModel) := by
  simp only [planInference]
  cases hd : delegated (o.assess task cap) with
  | some c =>
    have hsome : ∃ m, Suitable o task cap m := delegated_assess_isSome.1 ⟨c, hd⟩
    obtain ⟨m, hc, hm⟩ := delegated_assess.1 hd
    have hclass : c.executionClass = m.executorType := by
      rw [hc]
      exact executionClass_profileOf m
    have hid : c.implementationId = m.modelId := by
      rw [hc]
      exact implementationId_profileOf m
    rw [toFrontier_delegatedPlan, hclass, hid]
    constructor
    · rintro ⟨hr, hmid⟩
      exact Or.inl ⟨m, hm, by simpa [isRemote] using hr, hmid⟩
    · rintro (⟨m', hm', hr, hmid⟩ | ⟨hno, -⟩)
      · obtain rfl := hm'.unique hm
        exact ⟨by simpa [isRemote] using hr, hmid⟩
      · exact absurd hsome hno
  | none =>
    have hno : ¬ ∃ m, Suitable o task cap m := fun h => by
      obtain ⟨c, hc⟩ := delegated_assess_isSome.2 h
      rw [hd] at hc
      cases hc
    have hnobest : ¬ ∃ m, Ranking.FirstBest (modelRank o task) (suitableModels o task cap) m ∧
        isRemote m = true ∧ m.modelId = modelId := by
      rintro ⟨m, hm, -⟩
      exact hno ⟨m, mem_suitableModels.1 hm.mem⟩
    by_cases hf : (frontierAuthorized task policy cap &&
        o.frontierExecutor.isAvailable none) = true
    · simp only [hf, ↓reduceIte]
      rw [Bool.and_eq_true] at hf
      constructor
      · rintro ⟨-, hmid⟩
        exact Or.inr ⟨hno, hf.1, hf.2, (Option.some.inj hmid).symm⟩
      · rintro (h | ⟨-, -, -, rfl⟩)
        · exact absurd h hnobest
        · exact ⟨rfl, rfl⟩
    · simp only [hf, Bool.false_eq_true, ↓reduceIte]
      refine iff_of_false ?_ ?_
      · rintro ⟨hclass, -⟩
        cases hclass
      · rintro (h | ⟨-, hauth, havail, -⟩)
        · exact hnobest h
        · exact hf (by rw [hauth, havail]; rfl)

/-- Without inference there is no frontier plan. -/
theorem not_toFrontier_of_class {plan : ExecutionPlan}
    (h : plan.routingClass = .blocked ∨ plan.routingClass = .deterministic) :
    ¬ ToFrontier plan modelId := by
  rintro ⟨hfrontier, -⟩
  rw [hfrontier] at h
  rcases h with h | h <;> cases h

/-- **The frontier plans.** -/
theorem planTask_frontier_iff (o : Orchestrator) (task : Task) (policy : RuntimePolicy)
    (modelId : String) :
    ToFrontier (o.planTask task policy).1 modelId ↔ FrontierChoice o task policy modelId := by
  -- the capability that a choice is made for decides which branch planning takes
  have hchoice : FrontierChoice o task policy modelId ↔ ∃ cap, Admissible o task cap ∧
      cap.inferenceRequired = true ∧ policy.allowLlm = true ∧
      ToFrontier (o.planInference task policy cap) modelId := by
    simp only [FrontierChoice, DelegatesTo, FallsBack, toFrontier_planInference]
    constructor
    · rintro (⟨cap, ha, hi, hl, h⟩ | ⟨⟨cap, ha, hi, hl, hno, hauth, havail⟩, hmid⟩)
      · exact ⟨cap, ha, hi, hl, Or.inl h⟩
      · exact ⟨cap, ha, hi, hl, Or.inr ⟨hno, hauth, havail, hmid⟩⟩
    · rintro ⟨cap, ha, hi, hl, h | ⟨hno, hauth, havail, hmid⟩⟩
      · exact Or.inl ⟨cap, ha, hi, hl, h⟩
      · exact Or.inr ⟨⟨cap, ha, hi, hl, hno, hauth, havail⟩, hmid⟩
  rw [hchoice]
  cases h : o.capabilityRegistry.get (requestedCapability task) with
  | none =>
    refine iff_of_false (not_toFrontier_of_class (Or.inl (planTask_unknown h))) ?_
    rintro ⟨cap, ha, -⟩
    rw [ha.registered] at h
    cases h
  | some cap =>
    rcases planTask_known policy h with ⟨hadm, reason, hp⟩ | ⟨hadm, hinf, hp⟩ |
      ⟨hadm, hinf, hllm, hp⟩ | ⟨hadm, hinf, hllm, hp⟩ <;> rw [hp]
    · refine iff_of_false (not_toFrontier_of_class (Or.inl rfl)) ?_
      rintro ⟨cap', ha, -⟩
      obtain rfl := Option.some.inj (h.symm.trans ha.registered)
      exact hadm ha
    · refine iff_of_false (not_toFrontier_of_class ?_) ?_
      · split_ifs
        · exact Or.inr rfl
        · exact Or.inl rfl
      · rintro ⟨cap', ha, hi, -⟩
        rw [← admissible_unique hadm ha, hinf] at hi
        cases hi
    · refine iff_of_false (not_toFrontier_of_class (Or.inl rfl)) ?_
      rintro ⟨-, -, -, hl, -⟩
      rw [hllm] at hl
      cases hl
    · constructor
      · intro hto
        exact ⟨cap, hadm, hinf, hllm, hto⟩
      · rintro ⟨cap', ha, -, -, hto⟩
        obtain rfl := admissible_unique hadm ha
        exact hto

/-- Every frontier plan has a model, and a remote executor. -/
theorem exists_toFrontier (h : (o.planTask task policy).1.routingClass = .frontierModel) :
    (∃ modelId, ToFrontier (o.planTask task policy).1 modelId) ∧
      (o.planTask task policy).1.executorType = "REMOTE_MODEL" := by
  cases hcap : o.capabilityRegistry.get (requestedCapability task) with
  | none =>
    rw [planTask_unknown hcap] at h
    cases h
  | some cap =>
    rcases planTask_known policy hcap with ⟨-, reason, hp⟩ | ⟨-, -, hp⟩ | ⟨-, -, -, hp⟩ |
      ⟨-, -, -, hp⟩ <;> rw [hp] at h ⊢
    · cases h
    · dsimp only at h
      split_ifs at h <;> cases h
    · cases h
    · simp only [planInference, ToFrontier] at h ⊢
      split at h
      · simp only [delegatedPlan] at h ⊢
        split_ifs at h ⊢ with hremote
        exact ⟨⟨_, rfl, rfl⟩, rfl⟩
      · split_ifs at h ⊢
        · exact ⟨⟨_, rfl, rfl⟩, rfl⟩
        · cases h

end Plan

/-! ### Running a frontier plan -/

/-- The frontier executor that `start_worker` asks: the one of the manager, or a default one that is
enabled. -/
def consulted (frontierExecutor : Option FrontierExecutor) : FrontierExecutor :=
  frontierExecutor.getD (defaultFrontierExecutor true)

/-- The model that `start_worker` has the frontier executor run. -/
def executed (frontierExecutor : Option FrontierExecutor) (w : World) (worker : WorkerDefinition) :
    Option String :=
  let modelId := frontierModelId worker.modelId
  if worker.state = .created ∧ w.late = false ∧
      (worker.executorType = "REMOTE_MODEL" ∨ worker.executorType = "FRONTIER_MODEL") ∧
      (consulted frontierExecutor).isAvailable (some modelId) = true then some modelId
  else none

/-- The world in which the frontier executor answers about a model, when it is available. -/
def World.withFrontier (w : World) (frontierExecutor : Option FrontierExecutor)
    (worker : WorkerDefinition) (answer : String → Except Raised Json) : World :=
  { w with
    frontier :=
      if (consulted frontierExecutor).isAvailable (some (frontierModelId worker.modelId)) then
        some (answer (frontierModelId worker.modelId))
      else none }

/-- A worker that was created for a plan. -/
def CreatedFor (plan : ExecutionPlan) (worker : WorkerDefinition) : Prop :=
  ∃ sub task selection c cap, ExecutorSelector.ofPlan plan cap = some selection ∧
    worker = ExecutionManager.newWorker sub task selection c

section Run

variable {fe : Option FrontierExecutor} {w : World} {worker : WorkerDefinition}
  {plan : ExecutionPlan} {modelId : String}

/-- What starting a remote worker leaves of its execution. -/
theorem endContext_withFrontier (answer : String → Except Raised Json) (task : Task)
    (c : TaskExecutionContext) (hstate : worker.state = .created) (hlate : w.late = false)
    (hremote : worker.executorType = "REMOTE_MODEL") :
    endContext (w.withFrontier fe worker answer) worker task c =
      match executed fe w worker with
      | none =>
        c.fail .failed .executionError
          (some ("Frontier model " ++ frontierModelId worker.modelId ++ " unavailable"))
      | some m =>
        match answer m with
        | .error r => handle c r
        | .ok result =>
          { c with
            status := .succeeded
            result := some result
            resultHash := some "frontier_exec_hash" } := by
  by_cases h : (consulted fe).isAvailable (some (frontierModelId worker.modelId)) = true
  · simp only [endContext, runWorker, World.withFrontier, executed, executeFrontier, hstate, hlate,
      hremote, h, true_or, and_self, ↓reduceIte]
    cases answer (frontierModelId worker.modelId) <;> rfl
  · simp only [endContext, runWorker, World.withFrontier, executed, executeFrontier, hstate, hlate,
      hremote, h]
    rfl

theorem executed_iff (hstate : worker.state = .created) (hlate : w.late = false)
    (hremote : worker.executorType = "REMOTE_MODEL") :
    (executed fe w worker).isSome ↔
      (consulted fe).isAvailable (some (frontierModelId worker.modelId)) = true := by
  simp only [executed, hstate, hlate, hremote, true_or, true_and]
  split_ifs with h
  · exact iff_of_true rfl h
  · exact iff_of_false (by simp) h

theorem available_of_executed (h : (executed fe w worker).isSome) :
    (consulted fe).isAvailable (some (frontierModelId worker.modelId)) = true := by
  dsimp only [executed] at h
  split_ifs at h with hrun
  · exact hrun.2.2.2
  · cases h

/-- A worker for a frontier plan can be started, and has the model of the plan. -/
theorem CreatedFor.of_remote (h : CreatedFor plan worker)
    (hremote : plan.executorType = "REMOTE_MODEL") :
    worker.state = .created ∧ worker.executorType = "REMOTE_MODEL" ∧
      worker.modelId = plan.modelId := by
  obtain ⟨sub, task, selection, c, cap, hsel, rfl⟩ := h
  unfold ExecutorSelector.ofPlan at hsel
  split_ifs at hsel
  rw [hremote] at hsel
  obtain rfl := Option.some.inj hsel
  exact ⟨rfl, rfl, rfl⟩

/-- A worker can be created for every frontier plan. -/
theorem exists_createdFor (hfrontier : plan.routingClass = .frontierModel)
    (hremote : plan.executorType = "REMOTE_MODEL") (sub : Submission) (task : Task)
    (c : TaskExecutionContext) (cap : CapabilityDefinition) : ∃ worker, CreatedFor plan worker := by
  have hsel : ∃ selection, ExecutorSelector.ofPlan plan cap = some selection := by
    rw [ExecutorSelector.ofPlan, if_neg (by rw [hfrontier]; decide), hremote]
    exact ⟨_, rfl⟩
  obtain ⟨selection, hsel⟩ := hsel
  exact ⟨_, sub, task, selection, c, cap, hsel, rfl⟩

end Run

/-! ### When frontier plans are executable -/

/-- A frontier plan is executable: the executor that planned accepts its model, and a worker runs it
only if that executor, which is `now` when the worker starts, accepts the model. -/
structure FrontierExecutable (o : Orchestrator) (task : Task) (policy : RuntimePolicy)
    (fe : Option FrontierExecutor) (now : FrontierExecutor) : Prop where
  accepted : (o.planTask task policy).1.routingClass = .frontierModel →
    ∃ modelId, (o.planTask task policy).1.modelId = some modelId ∧
      o.frontierExecutor.isAvailable (some modelId) = true
  enforced : ∀ modelId, ToFrontier (o.planTask task policy).1 modelId → ∀ w worker,
    CreatedFor (o.planTask task policy).1 worker → (executed fe w worker).isSome →
      now.isAvailable (some modelId) = true

/-- What a worker is created from. -/
def someSubmission : Submission :=
  ⟨"exec-1", "00000000", "cont-1", "evt-1", "now", some "/workspace"⟩

/-- A context of an execution. -/
def someContext : TaskExecutionContext where
  executionId := "exec-1"
  taskId := .str "task-1"
  capabilityId := .str "document.classify"
  accountId := "acct"
  projectId := "proj"
  workspacePath := "/workspace"
  deadline := 1
  networkPolicy := "disabled"
  writePolicy := "read_only"

/-- **When frontier plans are executable.**  The fallback has to find the model that the task
prefers, and what the executor of the worker manager accepts has to be accepted by the one that
planned. -/
theorem frontier_executable_iff (o : Orchestrator) (task : Task) (policy : RuntimePolicy)
    (fe : Option FrontierExecutor) (now : FrontierExecutor) :
    FrontierExecutable o task policy fe now ↔
      (FallsBack o task policy →
        o.frontierExecutor.isAvailable (some task.preferredFrontierModel) = true) ∧
      ∀ modelId, FrontierChoice o task policy modelId →
        (consulted fe).isAvailable (some (frontierModelId (some modelId))) = true →
          now.isAvailable (some modelId) = true := by
  constructor
  · rintro ⟨haccepted, henforced⟩
    refine ⟨fun hfall => ?_, fun modelId hchoice havail => ?_⟩
    · have hto := (planTask_frontier_iff o task policy _).2 (Or.inr ⟨hfall, rfl⟩)
      obtain ⟨m, hm, havail⟩ := haccepted hto.1
      obtain rfl := Option.some.inj (hto.2.symm.trans hm)
      exact havail
    · have hto := (planTask_frontier_iff o task policy _).2 hchoice
      have hremote := (exists_toFrontier hto.1).2
      obtain ⟨worker, hworker⟩ := exists_createdFor hto.1 hremote someSubmission task someContext
        (CapabilityRegistry.initialCapabilities.head (by decide))
      obtain ⟨hstate, htype, hmodel⟩ := hworker.of_remote hremote
      refine henforced modelId hto {} worker hworker ((executed_iff hstate rfl htype).2 ?_)
      rw [hmodel, hto.2]
      exact havail
  · rintro ⟨hfallback, hnow⟩
    refine ⟨fun hfrontier => ?_, fun modelId hto w worker hworker hrun => ?_⟩
    · obtain ⟨⟨modelId, hto⟩, -⟩ := exists_toFrontier hfrontier
      refine ⟨modelId, hto.2, ?_⟩
      rcases (planTask_frontier_iff o task policy _).1 hto with ⟨cap, -, -, -, m, hm, hr, rfl⟩ |
        ⟨hfall, rfl⟩
      · exact (mem_suitableModels.1 hm.mem).accepted hr
      · exact hfallback hfall
    · refine hnow modelId ((planTask_frontier_iff o task policy _).1 hto) ?_
      have havail := available_of_executed hrun
      rwa [(hworker.of_remote (exists_toFrontier hto.1).2).2.2, hto.2] at havail

/-! ### A boundary that is crossed -/

/-- An orchestrator whose frontier has one model. -/
def boundary : Orchestrator :=
  Orchestrator.init .init .bootstrap .init (defaultFrontierExecutor true ["frontier-test"]) none

/-- A document may be classified at the frontier. -/
def frontierTask : Task where
  taskId := "task-1"
  capabilityId := "document.classify"
  accountId := "acct"
  projectId := "proj"
  allowFrontier := true

/-- Inference is allowed. -/
def llmPolicy : RuntimePolicy := { allowLlm := true }

/-- **A model that is not on the list is planned, and run by a manager without an executor.** -/
theorem not_frontier_executable :
    ToFrontier (boundary.planTask frontierTask llmPolicy).1 "frontier-gpt4" ∧
      boundary.frontierExecutor.isAvailable (some "frontier-gpt4") = false ∧
      (∃ w worker, CreatedFor (boundary.planTask frontierTask llmPolicy).1 worker ∧
        executed none w worker = some "frontier-gpt4") ∧
      ¬ FrontierExecutable boundary frontierTask llmPolicy none boundary.frontierExecutor := by
  have hto : ToFrontier (boundary.planTask frontierTask llmPolicy).1 "frontier-gpt4" :=
    ⟨by decide +kernel, by decide +kernel⟩
  have hdenied : boundary.frontierExecutor.isAvailable (some "frontier-gpt4") = false := by decide
  refine ⟨hto, hdenied, ?_, fun h => ?_⟩
  · have hremote := (exists_toFrontier hto.1).2
    obtain ⟨worker, hworker⟩ := exists_createdFor hto.1 hremote someSubmission frontierTask
      someContext (CapabilityRegistry.initialCapabilities.head (by decide))
    obtain ⟨hstate, htype, hmodel⟩ := hworker.of_remote hremote
    refine ⟨{}, worker, hworker, ?_⟩
    simp only [executed, hstate, htype, hmodel, hto.2, true_or, true_and]
    decide
  · obtain ⟨m, hm, havail⟩ := h.accepted hto.1
    obtain rfl := Option.some.inj (hto.2.symm.trans hm)
    rw [hdenied] at havail
    cases havail


end Execution

end AnnyRuntime
