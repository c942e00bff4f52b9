import AnnyRuntime.Execution.Manager
import AnnyRuntime.Orchestration.Authorization

/-!
# What the manager admits

`submitTask` admits a task exactly when its capability is known, enabled and no ungoverned write,
an executor can be found, and a workspace can be made (`isSome_submitTask`).  The Fabric contract
is not among these: the orchestrator of the selector has no adapter to read it with.  So the
manager admits revoked capabilities too, and agrees with an orchestrator that has the adapter only
where the contract does not matter (`enforced_iff`).
-/

namespace AnnyRuntime

namespace Execution

open Fabric Orchestration

/-! ### Selecting -/

/-- A plan that does not block the task names an executor type. -/
theorem executorType_planTask {o : Orchestrator} {task : Task} {policy : RuntimePolicy}
    (h : (o.planTask task policy).1.routingClass ≠ .blocked) :
    ∃ t, ExecutorType.ofValue? (o.planTask task policy).1.executorType = some t := by
  cases hcap : o.capabilityRegistry.get (Orchestrator.requestedCapability task) with
  | none => exact absurd (Orchestrator.planTask_unknown hcap) h
  | some cap =>
    rcases Orchestrator.planTask_known policy hcap with ⟨-, reason, hp⟩ | ⟨-, -, hp⟩ |
      ⟨-, -, -, hp⟩ | ⟨-, -, -, hp⟩ <;> rw [hp] at h ⊢
    · exact absurd rfl h
    · split_ifs at h ⊢ with hdet
      · exact ⟨.deterministic, rfl⟩
      · exact absurd rfl h
    · exact absurd rfl h
    · -- a delegate is local or remote, and the frontier counts as a remote model
      simp only [Orchestrator.planInference] at h ⊢
      cases hd : Orchestrator.delegated (o.assess task cap) with
      | some c =>
        simp only [Orchestrator.delegatedPlan]
        split_ifs
        · exact ⟨.remoteModel, rfl⟩
        · exact ⟨.localModel, rfl⟩
      | none =>
        simp only [hd] at h ⊢
        split_ifs at h ⊢
        · exact ⟨.remoteModel, rfl⟩
        · exact absurd rfl h

namespace ExecutorSelector

variable {s : ExecutorSelector} {task : Task} {cap : CapabilityDefinition}
  {policy : RuntimePolicy}

theorem revokes_planner (s : ExecutorSelector) (cap : CapabilityDefinition) (capId : String) :
    (s.planner cap).revokes capId = false := by
  simp [Orchestrator.revokes, planner, s.ungoverned]

theorem isSome_select (s : ExecutorSelector) (task : Task) (cap : CapabilityDefinition)
    (policy : RuntimePolicy) :
    (s.select task cap policy).1.isSome = true ↔
      (s.planner cap).Routable { task with capabilityId := cap.capabilityId } policy := by
  have hrev := revokes_planner s cap (Orchestrator.requestedCapability
    { task with capabilityId := cap.capabilityId })
  have hiff := Orchestrator.not_blocked_iff (s.planner cap)
    { task with capabilityId := cap.capabilityId } policy
  rw [hrev, eq_self_iff_true, true_and] at hiff
  rw [← hiff]
  simp only [select, ofPlan]
  split_ifs with hb
  · simp [hb]
  · obtain ⟨t, ht⟩ := executorType_planTask hb
    rw [ht]
    exact iff_of_true rfl hb

end ExecutorSelector

namespace ExecutionManager

/-! ### Admitting -/

/-- What a task has to meet for the manager to take it. -/
structure Admitted (m : ExecutionManager) (sub : Submission) (task : Task)
    (cap : CapabilityDefinition) : Prop where
  registered : m.registry.get task.capabilityId = some cap
  enabled : cap.enabled = true
  /-- It is not one that a deterministic executor would write with. -/
  governed : ¬ (cap.sideEffect ≠ "read" ∧ cap.deterministicAllowed = true)
  /-- The orchestrator of the selector finds an executor. -/
  routable : (m.selector.planner cap).Routable task m.policy
  workspace : sub.workspacePath ≠ none

variable {m : ExecutionManager} {sub : Submission} {task : Task}

/-- The cases of `submitTask`. -/
theorem submitTask_cases (m : ExecutionManager) (sub : Submission) (task : Task) :
    ((m.submitTask sub task).1 = none ∧
      ∃ s, (m.submitTask sub task).2 = { m with selector := s }) ∨
    ∃ cap selection path,
      m.registry.get task.capabilityId = some cap ∧
      m.submitTask sub task =
        let m' := { m with selector := (m.selector.select task cap m.policy).2 }
        let c := m'.newContext sub task cap selection path
        (some c, m'.enqueue sub task c (newWorker sub task selection c)) := by
  unfold submitTask
  cases hcap : m.registry.get task.capabilityId with
  | none => exact Or.inl ⟨rfl, m.selector, rfl⟩
  | some cap =>
    dsimp only
    split_ifs
    · exact Or.inl ⟨rfl, m.selector, rfl⟩
    · exact Or.inl ⟨rfl, m.selector, rfl⟩
    · cases (m.selector.select task cap m.policy).1 with
      | none => exact Or.inl ⟨rfl, _, rfl⟩
      | some selection =>
        cases sub.workspacePath with
        | none => exact Or.inl ⟨rfl, _, rfl⟩
        | some path => exact Or.inr ⟨cap, selection, path, rfl, rfl⟩

/-- What the manager admits. -/
theorem isSome_submitTask :
    (m.submitTask sub task).1.isSome = true ↔ ∃ cap, Admitted m sub task cap := by
  unfold submitTask
  cases hcap : m.registry.get task.capabilityId with
  | none =>
    refine iff_of_false (by simp) ?_
    rintro ⟨cap, h⟩
    exact absurd (hcap.symm.trans h.registered) (by simp)
  | some cap =>
    -- the registry files every capability under its own id
    have hsame : { task with capabilityId := cap.capabilityId } = task := by
      rw [m.registry.keyed _ _ hcap]
    have hunique : ∀ cap', Admitted m sub task cap' → cap' = cap := fun cap' h =>
      Option.some.inj (h.registered.symm.trans hcap)
    have hsel := ExecutorSelector.isSome_select m.selector task cap m.policy
    rw [hsame] at hsel
    dsimp only
    split_ifs with hen hwrite
    · refine iff_of_false (by simp) ?_
      rintro ⟨cap', h⟩
      obtain rfl := hunique cap' h
      exact absurd h.enabled (by simpa using hen)
    · refine iff_of_false (by simp) ?_
      rintro ⟨cap', h⟩
      obtain rfl := hunique cap' h
      exact h.governed hwrite
    · cases hs : (m.selector.select task cap m.policy).1 with
      | none =>
        refine iff_of_false (by simp) ?_
        rintro ⟨cap', h⟩
        obtain rfl := hunique cap' h
        have := hsel.2 h.routable
        rw [hs] at this
        exact absurd this (by simp)
      | some selection =>
        have hroute := hsel.1 (by rw [hs]; rfl)
        cases hp : sub.workspacePath with
        | none =>
          refine iff_of_false (by simp) ?_
          rintro ⟨cap', h⟩
          exact h.workspace hp
        | some path =>
          refine iff_of_true rfl ⟨cap, hcap, by simpa using hen, hwrite, hroute, ?_⟩
          simp [hp]

/-- A task that is not admitted leaves no execution, no task, no worker and no trace in the log. -/
theorem submitTask_eq_none (h : (m.submitTask sub task).1 = none) :
    ∃ s, (m.submitTask sub task).2 = { m with selector := s } := by
  rcases submitTask_cases m sub task with ⟨-, hs⟩ | ⟨cap, selection, path, -, heq⟩
  · exact hs
  · rw [heq] at h
    exact absurd h (by simp)

/-! ### The contract -/

/-- The orchestrator that plans the task with the adapter that the selector lacks. -/
def governed (m : ExecutionManager) (read : ContractRead) (task : Task) : Orchestrator :=
  match m.registry.get task.capabilityId with
  | some cap => { m.selector.planner cap with fabricAdapter := some read }
  | none => { m.selector.orchestrator with fabricAdapter := some read }

/-- The manager enforces the contract on a task: it takes it only if planning with the contract
does not block it. -/
def Enforced (m : ExecutionManager) (read : ContractRead) (sub : Submission) (task : Task) :
    Prop :=
  (m.submitTask sub task).1.isSome = true →
    ((m.governed read task).planTask task m.policy).1.routingClass ≠ .blocked

/-- **When the contract is enforced.**  In every state of the manager, and whatever reading the
contract does, submitting a task agrees with planning it under the contract exactly when the
contract does not revoke the capability, or the task is not admitted for another reason. -/
theorem enforced_iff (m : ExecutionManager) (read : ContractRead) (sub : Submission)
    (task : Task) :
    Enforced m read sub task ↔
      read.revokes (Orchestrator.requestedCapability task) = false ∨
        ¬ ∃ cap, Admitted m sub task cap := by
  rw [Enforced, isSome_submitTask]
  by_cases hadm : ∃ cap, Admitted m sub task cap
  swap
  · exact iff_of_true (fun h => absurd h hadm) (Or.inr hadm)
  obtain ⟨cap, h⟩ := hadm
  have hgov : m.governed read task =
      { m.selector.planner cap with fabricAdapter := some read } := by
    rw [governed, h.registered]
  have hrev : (m.governed read task).revokes (Orchestrator.requestedCapability task) =
      read.revokes (Orchestrator.requestedCapability task) := by
    simp [hgov, Orchestrator.revokes]
  -- without the contract, the governed planner is the one of the selector
  have hroute : (m.governed read task).Routable task m.policy := by
    have hsame : (m.governed read task).ungoverned = (m.selector.planner cap).ungoverned := by
      rw [hgov]
      rfl
    rw [Orchestrator.Routable, hsame]
    exact h.routable
  rw [Orchestrator.not_blocked_iff, hrev]
  constructor
  · intro hp
    exact Or.inl (hp ⟨cap, h⟩).1
  · rintro (hr | hn) -
    · exact ⟨hr, hroute⟩
    · exact absurd ⟨cap, h⟩ hn

/-- A contract that revokes listing files. -/
def revokingContract : ContractRead :=
  some (.obj [("revoked_capabilities", .arr [.str "filesystem.list"])])

/-- A submission with a workspace. -/
def plainSubmission : Submission where
  executionId := "e-1"
  workerUuid := "00000001"
  continuityId := "c-1"
  eventUuid := "00000001"
  now := "2024-01-01T00:00:00+00:00"
  workspacePath := some "/tmp/anny-workspaces/project/e-1"

/-- The manager takes a task whose capability the contract revokes. -/
theorem not_enforced_revoked :
    ¬ Enforced (init .bootstrap none none) revokingContract plainSubmission
      Orchestrator.listTask := by
  intro h
  exact h (by decide +kernel) (by decide +kernel)

end ExecutionManager

end Execution

end AnnyRuntime
