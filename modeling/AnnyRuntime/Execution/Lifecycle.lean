import AnnyRuntime.Execution.Admission
import AnnyRuntime.Lib.Transition

/-!
# Workers and their executions

The state of a worker and the status of its execution are two records of one thing, and several
exits of `start_worker` and of `execute_sync` write only one of them: an executor that is
unavailable or unsupported leaves a worker without the time of its end, so does fencing, and
cancelling or terminating a worker leaves its execution as it was.  `lockstep_of_orderly` : **in
every run without those exits, a worker that has ended has the time of its end and its execution
has the corresponding status, and no execution is started twice.**
-/

namespace AnnyRuntime

namespace Execution

/-- The status that corresponds to the state of a worker that has ended. -/
def correspondingStatus : WorkerState → Option ExecutionStatus
  | .succeeded => some .succeeded
  | .failed => some .failed
  | .timedOut => some .timedOut
  | .limitExceeded => some .limitExceeded
  | .cancelled | .terminated => some .cancelled
  | .created | .starting | .running => none

/-- **Workers and executions are in step**: a worker that has ended has the time of its end, and its
execution the corresponding status. -/
def InStep (executions : Dict String TaskExecutionContext)
    (workers : Dict String WorkerDefinition) : Prop :=
  ∀ id worker, workers.get? id = some worker → worker.live = false →
    worker.finishedAt.isSome = true ∧ ∃ c, executions.get? worker.executionId = some c ∧
      correspondingStatus worker.state = some c.status

/-! ### Calls -/

/-- A call of the manager or of its workers, or an increment of the generation of the runtime. -/
inductive WorkerOp where
  | submit (sub : Submission) (task : Task)
  | execute (ex : Execute) (executionId : String)
  /-- `start_worker`, with the context and the task of an execution. -/
  | start (w : World) (workerId executionId : String)
  | cancel (now : ℕ) (workerId : String)
  | terminate (workerId : String)
  | generation (n : ℤ)

/-- A manager, and the executions that were started so far. -/
structure WorkerRun where
  manager : ExecutionManager
  /-- Each time a worker is started, the execution that it runs. -/
  started : List String := []

namespace ExecutionManager

/-- `execute_sync` starts the worker of the execution. -/
def starts (m : ExecutionManager) (executionId : String) : Bool :=
  match m.executions.get? executionId, m.tasks.get? executionId with
  | some c, some task => (m.registry.get task.capabilityId).isSome && (m.fencing c).isNone &&
      (m.workerOf executionId).any fun w => w.state = .created
  | _, _ => false

/-- An execution and its worker change. -/
def settle (m : ExecutionManager) (executionId : String) (c : TaskExecutionContext)
    (worker : WorkerDefinition) : ExecutionManager :=
  { m with
    executions := m.executions.set executionId c
    workers := m.workers.set worker.workerId worker }

/-- `start_worker` of a worker that exists, with an execution that exists. -/
def startWorkerOf (m : ExecutionManager) (w : World) (workerId executionId : String) :
    Option ExecutionManager :=
  match m.workers.get? workerId, m.executions.get? executionId, m.tasks.get? executionId with
  | some worker, some c, some task =>
    (startWorker w worker task c).map fun r => m.settle executionId r.1 r.2
  | _, _, _ => none

/-- A worker changes. -/
def updateWorker (m : ExecutionManager) (workerId : String)
    (f : WorkerDefinition → WorkerDefinition) : ExecutionManager :=
  match m.workers.get? workerId with
  | some worker => { m with workers := m.workers.set workerId (f worker) }
  | none => m

end ExecutionManager

namespace WorkerRun

open ExecutionManager

/-- The run after a call. -/
def next (s : WorkerRun) : WorkerOp → WorkerRun
  | .submit sub task => { s with manager := (s.manager.submitTask sub task).2 }
  | .execute ex executionId =>
    { manager := (s.manager.executeSync ex executionId).2
      started := s.started ++ if s.manager.starts executionId then [executionId] else [] }
  | .start w workerId executionId =>
    match s.manager.startWorkerOf w workerId executionId with
    | some m => { manager := m, started := s.started ++ [executionId] }
    | none => s
  | .cancel now workerId =>
    { s with manager := s.manager.updateWorker workerId (cancelWorker now) }
  | .terminate workerId => { s with manager := s.manager.updateWorker workerId terminateWorker }
  | .generation n =>
    { s with
      manager :=
        { s.manager with runtimeEngine := s.manager.runtimeEngine.map fun _ => ⟨n⟩ } }

/-- A call can happen: the ids that it draws are new. -/
def Legal (s : WorkerRun) : WorkerOp → Prop
  | .submit sub _ => s.manager.executions.get? sub.executionId = none ∧
      s.manager.workers.get? ("wrk-" ++ sub.workerUuid) = none
  | _ => True

/-- All runs of a manager that starts without executions. -/
def system : System WorkerRun WorkerOp where
  init s := s.manager.executions = Dict.empty ∧ s.manager.workers = Dict.empty ∧ s.started = []
  step s op t := s.Legal op ∧ t = s.next op

/-- Workers and executions are in step, and no execution was started twice. -/
structure Lockstep (s : WorkerRun) : Prop where
  inStep : InStep s.manager.executions s.manager.workers
  once : s.started.Nodup

/-- **The calls that keep them in step.**  A worker is started for its own execution, with an
executor that is supported and available; an execution that is fenced off has a worker that has
finished; and no worker is cancelled or terminated before it has ended. -/
def Orderly (s : WorkerRun) : WorkerOp → Prop
  | .submit .. | .generation _ => True
  | .execute ex executionId => ∀ c task worker, s.manager.Executable executionId c task worker →
      ((s.manager.fencing c).isSome = true → worker.finishedAt.isSome = true) ∧
        (s.manager.fencing c = none → worker.state = .created →
          returnsEarly ex.world worker = false)
  | .start w workerId executionId => ∀ worker, s.manager.workers.get? workerId = some worker →
      worker.state = .created → worker.executionId = executionId ∧ returnsEarly w worker = false
  | .cancel _ workerId | .terminate workerId => ∀ worker,
      s.manager.workers.get? workerId = some worker → worker.live = false

end WorkerRun

/-! ### What every call keeps -/

/-- Every worker is under its id and has an execution of its own, and an execution that was started
has a worker that is no longer new. -/
structure Owned (executions : Dict String TaskExecutionContext)
    (workers : Dict String WorkerDefinition) (started : List String) : Prop where
  keyed : ∀ id worker, workers.get? id = some worker → worker.workerId = id
  known : ∀ id worker, workers.get? id = some worker →
    (executions.get? worker.executionId).isSome = true
  single : ∀ id id' worker worker', workers.get? id = some worker →
    workers.get? id' = some worker' → worker.executionId = worker'.executionId → id = id'
  startedKnown : ∀ x ∈ started, (executions.get? x).isSome = true
  unstarted : ∀ id worker, workers.get? id = some worker → worker.state = .created →
    worker.executionId ∉ started
  once : started.Nodup

section Settle

variable {executions : Dict String TaskExecutionContext}
  {workers : Dict String WorkerDefinition} {started : List String}
  {worker worker' : WorkerDefinition} {c : TaskExecutionContext}

theorem isSome_set {x y : String} (h : (executions.get? y).isSome = true) :
    ((executions.set x c).get? y).isSome = true := by
  rw [Dict.get?_set]
  split_ifs
  · rfl
  · exact h

/-- A worker is under one id, or it is an old one under another. -/
theorem get?_settled {id : String} {v : WorkerDefinition} (hid : worker'.workerId = worker.workerId)
    (hv : (workers.set worker'.workerId worker').get? id = some v) :
    id = worker.workerId ∧ v = worker' ∨ id ≠ worker.workerId ∧ workers.get? id = some v := by
  rw [Dict.get?_set, hid] at hv
  split_ifs at hv with h
  · exact Or.inl ⟨h, (Option.some.inj hv).symm⟩
  · exact Or.inr ⟨h, hv⟩

/-- A worker changes, and is not new afterwards; it may have been started. -/
theorem Owned.update {executions' : Dict String TaskExecutionContext}
    (h : Owned executions workers started)
    (hknown : ∀ x, (executions.get? x).isSome = true → (executions'.get? x).isSome = true)
    (hworker : workers.get? worker.workerId = some worker)
    (hid : worker'.workerId = worker.workerId)
    (hexecution : worker'.executionId = worker.executionId) (hstate : worker'.state ≠ .created)
    {news : List String} (hnews : news = [] ∨ news = [worker.executionId] ∧
      worker.state = .created) :
    Owned executions' (workers.set worker'.workerId worker') (started ++ news) where
  keyed id v hv := by
    rcases get?_settled hid hv with ⟨rfl, rfl⟩ | ⟨-, hold⟩
    · exact hid
    · exact h.keyed id v hold
  known id v hv := by
    rcases get?_settled hid hv with ⟨rfl, rfl⟩ | ⟨-, hold⟩
    · rw [hexecution]
      exact hknown _ (h.known _ _ hworker)
    · exact hknown _ (h.known id v hold)
  single id id' v v' hv hv' he := by
    -- of two workers of one execution, each may be the one that changed
    rcases get?_settled hid hv with ⟨rfl, hvw⟩ | ⟨-, hold⟩ <;>
      rcases get?_settled hid hv' with ⟨rfl, hvw'⟩ | ⟨-, hold'⟩
    · rfl
    · exact h.single _ _ _ _ hworker hold' (by rw [← hexecution, ← hvw, he])
    · exact h.single _ _ _ _ hold hworker (by rw [← hexecution, ← hvw', he])
    · exact h.single _ _ _ _ hold hold' he
  startedKnown x hx := by
    rcases List.mem_append.1 hx with hx | hx
    · exact hknown _ (h.startedKnown x hx)
    · rcases hnews with rfl | ⟨rfl, -⟩
      · cases hx
      · rw [List.mem_singleton.1 hx]
        exact hknown _ (h.known _ _ hworker)
  unstarted id v hv hcreated hx := by
    rcases get?_settled hid hv with ⟨rfl, rfl⟩ | ⟨hne, hold⟩
    · exact hstate hcreated
    · rcases List.mem_append.1 hx with hx | hx
      · exact h.unstarted id v hold hcreated hx
      · -- the execution that is started now is not the one of another worker
        rcases hnews with rfl | ⟨rfl, -⟩
        · cases hx
        · exact hne (h.single _ _ _ _ hold hworker (List.mem_singleton.1 hx))
  once := by
    rcases hnews with rfl | ⟨rfl, hcreated⟩
    · rw [List.append_nil]
      exact h.once
    · -- a worker that is new has not been started
      rw [List.nodup_append]
      refine ⟨h.once, List.nodup_singleton _, fun a ha b hb hab => ?_⟩
      rw [hab, List.mem_singleton.1 hb] at ha
      exact h.unstarted _ _ hworker hcreated ha

/-- A new worker for a new execution. -/
theorem Owned.submit (h : Owned executions workers started) {x : String}
    (hx : executions.get? x = none) (hw : workers.get? worker.workerId = none)
    (hexecution : worker.executionId = x) :
    Owned (executions.set x c) (workers.set worker.workerId worker) started := by
  -- no old worker and no started execution has the new id
  have hold : ∀ id v, workers.get? id = some v → v.executionId ≠ x := by
    rintro id v hv rfl
    have hsome := h.known id v hv
    rw [hx] at hsome
    cases hsome
  have hstarted : x ∉ started := fun hmem => by
    have hsome := h.startedKnown x hmem
    rw [hx] at hsome
    cases hsome
  refine ⟨fun id v hv => ?_, fun id v hv => ?_, fun id id' v v' hv hv' he => ?_, fun y hy =>
    isSome_set (h.startedKnown y hy), fun id v hv hcreated hmem => ?_, h.once⟩
  · rcases get?_settled rfl hv with ⟨rfl, rfl⟩ | ⟨-, hv⟩
    · rfl
    · exact h.keyed id v hv
  · rcases get?_settled rfl hv with ⟨rfl, rfl⟩ | ⟨-, hv⟩
    · rw [hexecution, Dict.get?_set_self]
      rfl
    · exact isSome_set (h.known id v hv)
  · rcases get?_settled rfl hv with ⟨rfl, hvw⟩ | ⟨-, hv₁⟩ <;>
      rcases get?_settled rfl hv' with ⟨rfl, hvw'⟩ | ⟨-, hv₂⟩
    · rfl
    · exact absurd (by rw [← he, hvw, hexecution]) (hold _ _ hv₂)
    · exact absurd (by rw [he, hvw', hexecution]) (hold _ _ hv₁)
    · exact h.single _ _ _ _ hv₁ hv₂ he
  · rcases get?_settled rfl hv with ⟨rfl, rfl⟩ | ⟨-, hv⟩
    · exact hstarted (hexecution ▸ hmem)
    · exact h.unstarted id v hv hcreated hmem

theorem InStep.submit (h : InStep executions workers) {x : String}
    (hx : executions.get? x = none) (hcreated : worker.state = .created) :
    InStep (executions.set x c) (workers.set worker.workerId worker) := by
  intro id v hv hlive
  rcases get?_settled rfl hv with ⟨rfl, rfl⟩ | ⟨-, hv⟩
  · simp [WorkerDefinition.live, hcreated] at hlive
  · obtain ⟨hf, c', hc', hs⟩ := h id v hv hlive
    refine ⟨hf, c', ?_, hs⟩
    rw [Dict.get?_set_ne]
    · exact hc'
    · rintro rfl
      rw [hx] at hc'
      cases hc'

/-- Workers and executions stay in step when a worker and its execution change to states that
correspond. -/
theorem InStep.settle (h : InStep executions workers) (ho : Owned executions workers started)
    (hworker : workers.get? worker.workerId = some worker)
    (hid : worker'.workerId = worker.workerId)
    (hexecution : worker'.executionId = worker.executionId)
    (hfinished : worker'.finishedAt.isSome = true)
    (hstatus : correspondingStatus worker'.state = some c.status) :
    InStep (executions.set worker.executionId c) (workers.set worker'.workerId worker') := by
  intro id v hv hlive
  rcases get?_settled hid hv with ⟨rfl, rfl⟩ | ⟨hne, hv⟩
  · exact ⟨hfinished, c, by rw [hexecution, Dict.get?_set_self], hstatus⟩
  · obtain ⟨hf, c', hc', hs⟩ := h id v hv hlive
    refine ⟨hf, c', ?_, hs⟩
    rw [Dict.get?_set_ne fun he => hne (ho.single _ _ _ _ hv hworker he)]
    exact hc'

end Settle

/-! ### What each call does -/

namespace ExecutionManager

variable {m : ExecutionManager} {executionId : String}

theorem workerOf_eq_some {worker : WorkerDefinition} (h : m.workerOf executionId = some worker) :
    worker.executionId = executionId ∧ ∃ id, m.workers.get? id = some worker := by
  have hfound := List.find?_some h
  exact ⟨of_decide_eq_true hfound, Dict.exists_get?_of_mem_values (List.mem_of_find?_eq_some h)⟩

/-- What a submission adds, when it is accepted. -/
theorem submitTask_effect (sub : Submission) (task : Task) :
    ((m.submitTask sub task).2.executions = m.executions ∧
        (m.submitTask sub task).2.workers = m.workers) ∨
      ∃ c worker, worker.workerId = "wrk-" ++ sub.workerUuid ∧
        worker.executionId = sub.executionId ∧ worker.state = .created ∧
        (m.submitTask sub task).2.executions = m.executions.set sub.executionId c ∧
        (m.submitTask sub task).2.workers = m.workers.set worker.workerId worker := by
  unfold submitTask
  split
  · exact Or.inl ⟨rfl, rfl⟩
  · rename_i cap _
    split_ifs
    · exact Or.inl ⟨rfl, rfl⟩
    · exact Or.inl ⟨rfl, rfl⟩
    · dsimp only
      split
      · rename_i selection path _ _
        exact Or.inr ⟨newContext _ sub task cap selection path, newWorker sub task selection _,
          rfl, rfl, rfl, rfl, rfl⟩
      · exact Or.inl ⟨rfl, rfl⟩

theorem live_workerStateOf {worker : WorkerDefinition} {s : ExecutionStatus}
    (h : worker.state = workerStateOf s) : worker.live = false := by
  unfold WorkerDefinition.live
  rw [h]
  cases s <;> rfl

theorem terminateWorker_ended {w : World} {worker ended : WorkerDefinition} {task : Task}
    {c c' : TaskExecutionContext} (h : startWorker w worker task c = some (c', ended)) :
    terminateWorker ended = ended := by
  have hlive : ended.live = false := live_workerStateOf (by rw [(startWorker_eq_some.1 h).2.2]; rfl)
  rw [terminateWorker, hlive]
  rfl

/-- What `execute_sync` does to an execution and its worker, when it does anything. -/
theorem executeSync_effect (m : ExecutionManager) (executionId : String) (ex : Execute) :
    ((m.executeSync ex executionId).2.executions = m.executions ∧
        (m.executeSync ex executionId).2.workers = m.workers ∧ m.starts executionId = false) ∨
      ∃ c task worker, m.Executable executionId c task worker ∧ ∃ c' worker',
        (m.executeSync ex executionId).2.executions = m.executions.set executionId c' ∧
        (m.executeSync ex executionId).2.workers = m.workers.set worker'.workerId worker' ∧
        ((m.fencing c).isSome = true ∧ m.starts executionId = false ∧ c'.status = .failed ∧
            worker' = { worker with state := .failed } ∨
          m.fencing c = none ∧ m.starts executionId = true ∧
            startWorker ex.world worker task c = some (c', worker')) := by
  by_cases hex : ∃ c task worker, m.Executable executionId c task worker
  · obtain ⟨c, task, worker, hex⟩ := hex
    have hstarts : m.starts executionId =
        ((m.fencing c).isNone && decide (worker.state = .created)) := by
      simp only [starts, hex.context, hex.submitted, hex.capability, hex.worker, Option.any_some,
        Bool.true_and]
    rw [executeSync_eq hex]
    cases hf : m.fencing c with
    | some err =>
      refine Or.inr ⟨c, task, worker, hex, _, _, rfl, rfl, Or.inl ⟨by simp [hf], ?_, rfl, rfl⟩⟩
      rw [hstarts, hf]
      rfl
    | none =>
      dsimp only
      cases hs : startWorker ex.world worker task c with
      | none =>
        have hstate : worker.state ≠ .created := by
          intro hcreated
          rw [startWorker, if_neg (not_not.2 hcreated)] at hs
          cases hs
        refine Or.inl ⟨rfl, rfl, ?_⟩
        rw [hstarts, hf, decide_eq_false hstate, Bool.and_false]
      | some r =>
        obtain ⟨c', ended⟩ := r
        have hstate := (startWorker_eq_some.1 hs).1
        -- a worker that has ended is not terminated
        have hended : terminateWorker ended = ended := terminateWorker_ended hs
        refine Or.inr ⟨c, task, worker, hex, c', ended, ?_, ?_, Or.inr ⟨hf, ?_, hs⟩⟩
        · dsimp only
          cases m.continuityEngine <;> rfl
        · dsimp only [afterRun]
          rw [hended]
          cases m.continuityEngine <;> rfl
        · rw [hstarts, hf, decide_eq_true hstate]
          rfl
  · have hnone : ∀ c task worker, ¬ m.Executable executionId c task worker := fun c task worker h =>
      hex ⟨c, task, worker, h⟩
    rw [executeSync_unknown hnone]
    refine Or.inl ⟨rfl, rfl, ?_⟩
    by_contra hstarts
    rw [Bool.not_eq_false] at hstarts
    unfold starts at hstarts
    split at hstarts
    · rename_i c task hc ht
      simp only [Bool.and_eq_true] at hstarts
      obtain ⟨worker, hworker, -⟩ := (Option.any_eq_true _ _).1 hstarts.2
      exact hnone c task worker ⟨hc, ht, hstarts.1.1, hworker⟩
    · cases hstarts

end ExecutionManager

namespace WorkerRun

open ExecutionManager

/-- A worker is only started for its own execution. -/
def OwnStarts (s : WorkerRun) : WorkerOp → Prop
  | .start _ workerId executionId => ∀ worker, s.manager.workers.get? workerId = some worker →
      worker.state = .created → worker.executionId = executionId
  | _ => True

theorem OwnStarts.of_orderly {s : WorkerRun} {op : WorkerOp} (h : s.Orderly op) :
    s.OwnStarts op := by
  cases op with
  | start w workerId executionId => exact fun worker hw hc => (h worker hw hc).1
  | _ => trivial

/-- `Owned`, of a run. -/
def IsOwned (s : WorkerRun) : Prop := Owned s.manager.executions s.manager.workers s.started

variable {s : WorkerRun}

theorem settled_ne_created {w : World} {worker worker' : WorkerDefinition} {task : Task}
    {c c' : TaskExecutionContext} (h : startWorker w worker task c = some (c', worker')) :
    worker.state = .created ∧ worker'.workerId = worker.workerId ∧
      worker'.executionId = worker.executionId ∧ worker'.state ≠ .created := by
  obtain ⟨hstate, -, rfl⟩ := startWorker_eq_some.1 h
  exact ⟨hstate, rfl, rfl, workerStateOf_ne_created _⟩

/-- What `start_worker` does, when it starts a worker. -/
theorem startWorkerOf_eq_some {m m' : ExecutionManager} {w : World}
    {workerId executionId : String} (h : m.startWorkerOf w workerId executionId = some m') :
    ∃ worker c task c' worker', m.workers.get? workerId = some worker ∧
      m.executions.get? executionId = some c ∧
      startWorker w worker task c = some (c', worker') ∧ m' = m.settle executionId c' worker' := by
  unfold startWorkerOf at h
  split at h
  · rename_i worker c task hw hc ht
    obtain ⟨⟨c', worker'⟩, hs, rfl⟩ := Option.map_eq_some_iff.1 h
    exact ⟨worker, c, task, c', worker', hw, hc, hs, rfl⟩
  · cases h

theorem IsOwned.updateWorker (h : s.IsOwned) {workerId : String}
    {f : WorkerDefinition → WorkerDefinition} (hid : ∀ w, (f w).workerId = w.workerId)
    (hexecution : ∀ w, (f w).executionId = w.executionId)
    (hstate : ∀ w, (f w).state ≠ .created) :
    ({ s with manager := s.manager.updateWorker workerId f } : WorkerRun).IsOwned := by
  unfold IsOwned ExecutionManager.updateWorker
  split
  · rename_i worker hw
    have hkey := h.keyed _ _ hw
    have hkey' : workerId = (f worker).workerId := by rw [hid, hkey]
    have hupdate := Owned.update h (fun _ hx => hx) (hkey ▸ hw) (hid worker) (hexecution worker)
      (hstate worker) (Or.inl rfl)
    rw [List.append_nil, ← hkey'] at hupdate
    exact hupdate
  · exact h

theorem cancelWorker_state (now : ℕ) (w : WorkerDefinition) :
    (cancelWorker now w).state ≠ .created := by
  unfold cancelWorker WorkerDefinition.live
  split_ifs with h
  · simp
  · simp only [Bool.or_eq_true, not_or] at h
    exact fun hc => h.1.1 (decide_eq_true hc)

theorem terminateWorker_state (w : WorkerDefinition) : (terminateWorker w).state ≠ .created := by
  unfold terminateWorker WorkerDefinition.live
  split_ifs with h
  · simp
  · simp only [Bool.or_eq_true, not_or] at h
    exact fun hc => h.1.1 (decide_eq_true hc)

/-- **Step.**  A call keeps every worker with an execution of its own. -/
theorem IsOwned.next (h : s.IsOwned) {op : WorkerOp} (hl : s.Legal op) (ho : s.OwnStarts op) :
    (s.next op).IsOwned := by
  cases op with
  | generation n => exact h
  | cancel now workerId =>
    refine h.updateWorker (fun w => ?_) (fun w => ?_) (cancelWorker_state now)
    · unfold cancelWorker
      split_ifs <;> rfl
    · unfold cancelWorker
      split_ifs <;> rfl
  | terminate workerId =>
    refine h.updateWorker (fun w => ?_) (fun w => ?_) terminateWorker_state
    · unfold terminateWorker
      split_ifs <;> rfl
    · unfold terminateWorker
      split_ifs <;> rfl
  | submit sub task =>
    unfold IsOwned WorkerRun.next
    rcases submitTask_effect (m := s.manager) sub task with ⟨he, hw⟩ |
      ⟨c, worker, hid, hexecution, -, he, hw⟩
    · simp only [he, hw]
      exact h
    · simp only [he, hw]
      exact Owned.submit h hl.1 (hid ▸ hl.2) hexecution
  | execute ex executionId =>
    unfold IsOwned WorkerRun.next
    rcases executeSync_effect s.manager executionId ex with
      ⟨he, hw, hs⟩ | ⟨c, task, worker, hex, c', worker', he, hw, hcase⟩
    · simp only [he, hw, hs, Bool.false_eq_true, if_false, List.append_nil]
      exact h
    · obtain ⟨hown, id, hget⟩ := workerOf_eq_some hex.worker
      have hget' : s.manager.workers.get? worker.workerId = some worker := by
        rw [h.keyed _ _ hget]
        exact hget
      have hknown : ∀ x, (s.manager.executions.get? x).isSome = true →
          ((s.manager.executions.set executionId c').get? x).isSome = true :=
        fun x => isSome_set
      simp only [he, hw]
      -- a fenced execution runs nothing; otherwise the worker is started unless it had been before
      rcases hcase with ⟨-, hs, -, rfl⟩ | ⟨-, hs, hstart⟩
      · have hid : ({ worker with state := .failed } : WorkerDefinition).workerId =
            worker.workerId := rfl
        rw [hs]
        exact Owned.update h hknown hget' hid rfl (by simp) (Or.inl rfl)
      · obtain ⟨hcreated, hid, hexecution, hstate⟩ := settled_ne_created hstart
        rw [hs]
        exact Owned.update h hknown hget' hid hexecution hstate
          (Or.inr ⟨by simp [hown], hcreated⟩)
  | start w workerId executionId =>
    unfold IsOwned WorkerRun.next
    dsimp only
    split
    · rename_i m hm
      obtain ⟨worker, c, task, c', worker', hget, -, hstart, rfl⟩ := startWorkerOf_eq_some hm
      obtain ⟨hcreated, hid, hexecution, hstate⟩ := settled_ne_created hstart
      -- `start_worker` does not compare the two ids itself
      have hown := ho worker hget hcreated
      have hkey := h.keyed _ _ hget
      exact Owned.update h (fun x => isSome_set) (hkey ▸ hget) hid hexecution hstate
        (Or.inr ⟨by rw [hown], hcreated⟩)
    · exact h

/-- Changing a worker that has ended changes nothing. -/
theorem updateWorker_ended {m : ExecutionManager} {workerId : String}
    {f : WorkerDefinition → WorkerDefinition} (hf : ∀ w, w.live = false → f w = w)
    (h : ∀ w, m.workers.get? workerId = some w → w.live = false)
    (hin : InStep m.executions m.workers) :
    InStep (m.updateWorker workerId f).executions (m.updateWorker workerId f).workers := by
  unfold ExecutionManager.updateWorker
  split
  · rename_i worker hw
    rw [hf worker (h worker hw)]
    intro id v hv hlive
    obtain ⟨-, rfl⟩ | ⟨-, hv⟩ := Dict.of_get?_set hv
    · exact hin workerId _ hw hlive
    · exact hin id v hv hlive
  · exact hin

/-- A worker that ends with its execution, in time. -/
theorem ended_inStep {w : World} {worker worker' : WorkerDefinition} {task : Task}
    {c c' : TaskExecutionContext} (h : startWorker w worker task c = some (c', worker'))
    (hearly : returnsEarly w worker = false) :
    worker'.finishedAt.isSome = true ∧ correspondingStatus worker'.state = some c'.status := by
  have hfinal := (status_startWorker h).1
  obtain ⟨-, -, rfl⟩ := startWorker_eq_some.1 h
  refine ⟨by simp [endWorker, hearly], ?_⟩
  simp only [finalStatuses, List.mem_cons, List.not_mem_nil, or_false] at hfinal
  rcases hfinal with hs | hs | hs | hs <;> rw [hs] <;> rfl

/-- **Step.**  An orderly call keeps workers and executions in step. -/
theorem inStep_next (h : InStep s.manager.executions s.manager.workers) (howned : s.IsOwned)
    {op : WorkerOp} (hl : s.Legal op) (ho : s.Orderly op) :
    InStep (s.next op).manager.executions (s.next op).manager.workers := by
  cases op with
  | generation n => exact h
  | cancel now workerId =>
    -- the condition leaves only workers that have ended, and those stay as they are
    exact updateWorker_ended (fun w hw => by rw [cancelWorker, hw]; rfl) ho h
  | terminate workerId =>
    exact updateWorker_ended (fun w hw => by rw [terminateWorker, hw]; rfl) ho h
  | submit sub task =>
    simp only [WorkerRun.next]
    rcases submitTask_effect (m := s.manager) sub task with ⟨he, hw⟩ |
      ⟨c, worker, -, -, hcreated, he, hw⟩
    · rw [he, hw]
      exact h
    · rw [he, hw]
      exact h.submit hl.1 hcreated
  | execute ex executionId =>
    simp only [WorkerRun.next]
    rcases executeSync_effect s.manager executionId ex with
      ⟨he, hw, -⟩ | ⟨c, task, worker, hex, c', worker', he, hw, hcase⟩
    · rw [he, hw]
      exact h
    · obtain ⟨rfl, id, hget⟩ := workerOf_eq_some hex.worker
      have hget' : s.manager.workers.get? worker.workerId = some worker := by
        rw [howned.keyed _ _ hget]
        exact hget
      obtain ⟨hfenced, hrun⟩ := ho c task worker hex
      rw [he, hw]
      rcases hcase with ⟨hf, -, hstatus, rfl⟩ | ⟨hf, -, hstart⟩
      · -- a worker that had finished fails along with its execution
        exact h.settle howned hget' rfl rfl (hfenced hf) (by rw [hstatus]; rfl)
      · obtain ⟨hcreated, hid, hexecution, -⟩ := settled_ne_created hstart
        obtain ⟨hfinished, hcorresponds⟩ := ended_inStep hstart (hrun hf hcreated)
        exact h.settle howned hget' hid hexecution hfinished hcorresponds
  | start w workerId executionId =>
    simp only [WorkerRun.next]
    split
    · rename_i m hm
      obtain ⟨worker, c, task, c', worker', hget, -, hstart, rfl⟩ := startWorkerOf_eq_some hm
      obtain ⟨hcreated, hid, hexecution, -⟩ := settled_ne_created hstart
      obtain ⟨rfl, hearly⟩ := ho worker hget hcreated
      obtain ⟨hfinished, hcorresponds⟩ := ended_inStep hstart hearly
      have hkey := howned.keyed _ _ hget
      exact h.settle howned (hkey ▸ hget) hid hexecution hfinished hcorresponds
    · exact h

/-! ### Runs -/

theorem isOwned_init (h : system.init s) : s.IsOwned := by
  obtain ⟨he, hw, hs⟩ := h
  unfold IsOwned
  rw [he, hw, hs]
  exact ⟨fun _ _ h => absurd h (by simp), fun _ _ h => absurd h (by simp),
    fun _ _ _ _ h => absurd h (by simp), fun _ h => absurd h (by simp),
    fun _ _ h => absurd h (by simp), List.nodup_nil⟩

theorem isOwned_invariant : (system.restrict OwnStarts).Invariant IsOwned where
  init _ h := isOwned_init h
  step _ _ _ h hstep := hstep.2.2 ▸ h.next hstep.2.1 hstep.1

/-- As long as workers are started for their own executions, none is started twice. -/
theorem once_of_ownStarts (h : (system.restrict OwnStarts).Reachable s) : s.started.Nodup :=
  (isOwned_invariant.holds h).once

theorem inStep_invariant : (system.restrict Orderly).Invariant fun s =>
    s.IsOwned ∧ InStep s.manager.executions s.manager.workers where
  init s h := by
    refine ⟨isOwned_init h, ?_⟩
    rw [h.1, h.2.1]
    exact fun _ _ h => absurd h (by simp)
  step s op t h hstep := by
    obtain ⟨ho, hl, rfl⟩ := hstep
    exact ⟨h.1.next hl (.of_orderly ho), inStep_next h.2 h.1 hl ho⟩

/-- **When workers and executions are in step.**  In every run of orderly calls, a worker that has
ended has the time of its end and an execution with the corresponding status, and no execution is
started twice. -/
theorem lockstep_of_orderly (h : (system.restrict Orderly).Reachable s) : s.Lockstep := by
  obtain ⟨howned, hin⟩ := inStep_invariant.holds h
  exact ⟨hin, howned.once⟩

/-! ### A run, and a worker that is cancelled -/

/-- A manager without a continuity engine. -/
def unused : WorkerRun := { manager := .init .bootstrap none none }

/-- The submission of a task. -/
def submitPlain : WorkerOp := .submit plainSubmission Orchestration.Orchestrator.listTask

/-- One task was submitted. -/
def submitted : WorkerRun := unused.next submitPlain

theorem reachable_submitted : (system.restrict Orderly).Reachable submitted := by
  have hinit : (system.restrict Orderly).Reachable unused := .init ⟨rfl, rfl, rfl⟩
  have horderly : unused.Orderly submitPlain := trivial
  have hlegal : unused.Legal submitPlain := ⟨rfl, rfl⟩
  exact .step hinit ⟨horderly, hlegal, rfl⟩

/-- The task is executed, and its handler lists an empty directory. -/
def executePlain : WorkerOp :=
  .execute ⟨{ handler := .ok (.arr [], none) }, "00000002", "2024-01-01T00:00:01+00:00"⟩
    plainSubmission.executionId

/-- One task is submitted and executed. -/
theorem lockstep_executed : (submitted.next executePlain).started = [plainSubmission.executionId] ∧
    (submitted.next executePlain).Lockstep := by
  refine ⟨by decide +kernel, lockstep_of_orderly
    (.step (a := executePlain) reachable_submitted ⟨?_, trivial, rfl⟩)⟩
  intro c task worker hex
  have hworker : (submitted.manager.workerOf plainSubmission.executionId).all
      (fun w => w.executorType = "DETERMINISTIC") = true := by decide +kernel
  rw [hex.worker, Option.all_some, decide_eq_true_eq] at hworker
  refine ⟨fun hf => ?_, fun _ _ => ?_⟩
  · have hnone : submitted.manager.runtimeEngine = none := by decide +kernel
    rw [fencing, hnone] at hf
    cases hf
  · simp [returnsEarly, hworker]

/-- The worker of a task is cancelled before it starts: its execution stays queued. -/
theorem not_lockstep_cancelled : ¬ ∀ s, system.Reachable s → s.Lockstep := by
  intro h
  let cancel : WorkerOp := .cancel 5 ("wrk-" ++ plainSubmission.workerUuid)
  let cancelled := submitted.next cancel
  have hlegal : submitted.Legal cancel := trivial
  have hstep := (h cancelled (.step reachable_submitted.of_restrict ⟨hlegal, rfl⟩)).inStep
  have hworker : (cancelled.manager.workers.get? ("wrk-" ++ plainSubmission.workerUuid)).map
      (fun w => (w.state, w.executionId)) = some (.cancelled, plainSubmission.executionId) := by
    decide +kernel
  have hcontext : (cancelled.manager.executions.get? plainSubmission.executionId).map
      (fun c => c.status) = some .queued := by decide +kernel
  obtain ⟨worker, hget, heq⟩ := Option.map_eq_some_iff.1 hworker
  obtain ⟨hstate, hexecution⟩ := Prod.mk.inj heq
  obtain ⟨-, c, hc, hs⟩ := hstep _ worker hget (by simp [WorkerDefinition.live, hstate])
  rw [hexecution] at hc
  rw [hc, Option.map_some, Option.some.injEq] at hcontext
  rw [hstate, hcontext] at hs
  cases hs

end WorkerRun

end Execution

end AnnyRuntime
