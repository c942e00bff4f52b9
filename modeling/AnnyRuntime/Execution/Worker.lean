import AnnyRuntime.Execution.Selector

/-!
# Workers

A worker runs one execution.  What its executor does to the outside world is not modelled; what it
answers is an argument (`World`).  `startWorker` turns the answer into the status of the execution
and the state of the worker.
-/

namespace AnnyRuntime

namespace Execution

/-- What an executor raises. -/
inductive Raised where
  /-- `TimeoutError`. -/
  | timeout (message : String)
  /-- `ExecutorLimitsExceeded`. -/
  | limits (message : String)
  /-- `ExecutorSecurityError`. -/
  | security (message : String)
  /-- Any other exception. -/
  | other (message : String)
  deriving DecidableEq

/-- The answer of a tool behind the gateway. -/
structure ToolResult where
  succeeded : Bool
  outputData : Json
  resultHash : Option String
  status : String
  errorMessage : String
  deriving DecidableEq

/-- What the outside world answers when a worker is started. -/
structure World where
  /-- The time at the start and at the end. -/
  (startedAt finishedAt : ℕ := 0)
  /-- The deadline is past. -/
  late : Bool := false
  /-- The gateway, when there is one. -/
  gateway : Option (Except Raised ToolResult) := none
  /-- The handler of a deterministic capability: what it finds, and what it raises after that is
  stored. -/
  handler : Except Raised (Json × Option Raised) := .ok (.null, none)
  /-- Writing the result into the workspace, when that exists: the hash of the result, and whether
  the workspace is too large then. -/
  workspace : Except Raised (Option (String × Bool)) := .ok none
  /-- The local model, when its artifact is there: its answer and the hash of it. -/
  localModel : Option (Except Raised (Json × Option String)) := none
  /-- The frontier model, when it is available. -/
  frontier : Option (Except Raised Json) := none
  deriving DecidableEq

namespace TaskExecutionContext

/-- The execution ends with a failure. -/
def fail (c : TaskExecutionContext) (status : ExecutionStatus) (reason : FailureReason)
    (message : Option String) : TaskExecutionContext :=
  { c with status := status, failureReason := some reason, errorMessage := message }

/-- An executor catches what a handler raises. -/
def caught (c : TaskExecutionContext) : Raised → TaskExecutionContext
  | .limits m => c.fail .limitExceeded .limitExceeded (some m)
  | .security m => c.fail .failed .authorizationDenied (some m)
  | .timeout m => c.fail .timedOut .timeout (some m)
  | .other m => c.fail .failed .executionError (some m)

/-- The execution runs. -/
def running (c : TaskExecutionContext) : TaskExecutionContext := { c with status := .running }

/-- The limit on the output. -/
def maxOutputSize (c : TaskExecutionContext) : ℤ :=
  ((Json.lookup "max_output_size" c.resourceLimits).bind Json.asInt).getD (1024 * 1024)

/-- `_limit_output`: the result is stored, unless it is too large. -/
def limitOutput (c : TaskExecutionContext) (result : Json) : Except Raised TaskExecutionContext :=
  if c.maxOutputSize < (Json.dumps result).length then
    .error (.limits "Output size exceeded maximum limit")
  else .ok { c with result := some result }

/-- A handler runs: it stores its result within the limit, and the execution has succeeded unless
something was raised. -/
def handled (c : TaskExecutionContext) :
    Except Raised (Json × Option Raised) → TaskExecutionContext
  | .error r => c.caught r
  | .ok (result, raised) =>
    match c.limitOutput result with
    | .error r => c.caught r
    | .ok c =>
      match raised with
      | some r => c.caught r
      | none => { c with status := .succeeded }

/-- `_finalize_workspace`: the context after it, and what it raises. -/
def finalizeWorkspace (c : TaskExecutionContext) :
    Except Raised (Option (String × Bool)) → TaskExecutionContext × Option Raised
  | .error r => (c, some r)
  | .ok none => (c, none)
  | .ok (some (hash, tooLarge)) =>
    let c := { c with resultHash := some hash }
    if tooLarge then
      (c.fail .limitExceeded .limitExceeded (some "Workspace size limit exceeded"), none)
    else (c, none)

end TaskExecutionContext

/-- The capabilities of the deterministic executor. -/
def supportedCapabilities : List String :=
  ["filesystem.inspect", "filesystem.list", "filesystem.hash", "repository.inspect",
    "repository.search", "repository.read", "repository.diff", "artifact.metadata"]

/-- The capabilities that go through the gateway. -/
def externalCapabilities : List String :=
  ["fabric.read", "repository.read", "repository.search", "fabric.register"]

/-- `DeterministicExecutor.execute`. -/
def executeDeterministic (w : World) (task : Task) (c : TaskExecutionContext) :
    TaskExecutionContext × Option Raised :=
  if c.status ≠ .queued then
    (c.fail .failed .invalidTask (some "Execution context is not QUEUED"), none)
  else
    if task.capabilityId ∉ supportedCapabilities then
      (c.running.fail .failed .invalidTask
        (some ("Unsupported deterministic capability: " ++ task.capabilityId)), none)
    else (c.running.handled w.handler).finalizeWorkspace w.workspace

/-- A supported capability runs its handler. -/
theorem executeDeterministic_supported {w : World} {task : Task} {c : TaskExecutionContext}
    (hc : c.status = .queued) (hs : task.capabilityId ∈ supportedCapabilities) :
    executeDeterministic w task c = (c.running.handled w.handler).finalizeWorkspace w.workspace := by
  rw [executeDeterministic, if_neg (not_not.2 hc), if_neg (not_not.2 hs)]

/-- A capability behind the gateway. -/
def executeExternal (w : World) (c : TaskExecutionContext) :
    TaskExecutionContext × Option Raised :=
  match w.gateway with
  | none => (c, some (.other "MCP Gateway not configured for external capabilities"))
  | some (.error r) => (c, some r)
  | some (.ok result) =>
    if result.succeeded then
      { c with
        status := .succeeded
        result := some result.outputData
        resultHash := result.resultHash }.finalizeWorkspace w.workspace
    else if result.status = "DENIED" then (c, some (.security result.errorMessage))
    else if result.status = "TIMED_OUT" then (c, some (.timeout result.errorMessage))
    else (c, some (.other result.errorMessage))

/-- A local model. -/
def executeLocal (w : World) (c : TaskExecutionContext) : TaskExecutionContext × Option Raised :=
  match w.localModel with
  | none => (c.fail .failed .executionError (some "Local model unavailable"), none)
  | some (.error r) => (c, some r)
  | some (.ok (result, hash)) =>
    ({ c with status := .succeeded, result := some result, resultHash := hash }, none)

/-- The model that a remote worker asks for: `worker.model_id or "luna"`. -/
def frontierModelId (modelId : Option String) : String :=
  if modelId.getD "" = "" then "luna" else modelId.getD ""

/-- A frontier model. -/
def executeFrontier (w : World) (modelId : Option String) (c : TaskExecutionContext) :
    TaskExecutionContext × Option Raised :=
  match w.frontier with
  | none =>
    (c.fail .failed .executionError
      (some ("Frontier model " ++ frontierModelId modelId ++ " unavailable")), none)
  | some (.error r) => (c, some r)
  | some (.ok result) =>
    ({ c with
        status := .succeeded
        result := some result
        resultHash := some "frontier_exec_hash" }, none)

/-- The body of `start_worker`, inside its `try`. -/
def runWorker (w : World) (worker : WorkerDefinition) (task : Task) (c : TaskExecutionContext) :
    TaskExecutionContext × Option Raised :=
  if w.late then (c, some (.timeout "Deadline exceeded before execution"))
  else if worker.executorType = "DETERMINISTIC" then
    if task.capabilityId ∈ externalCapabilities then executeExternal w c
    else executeDeterministic w task c
  else if worker.executorType = "LOCAL_MODEL" then executeLocal w c
  else if worker.executorType = "REMOTE_MODEL" ∨ worker.executorType = "FRONTIER_MODEL" then
    executeFrontier w worker.modelId c
  else ({ c with status := .failed, failureReason := some .unsupportedExecutor }, none)

/-- The state of a worker whose execution has a status. -/
def workerStateOf : ExecutionStatus → WorkerState
  | .succeeded => .succeeded
  | .timedOut => .timedOut
  | .limitExceeded => .limitExceeded
  | _ => .failed

/-- What the handlers of `start_worker` make of an exception. -/
def handle (c : TaskExecutionContext) : Raised → TaskExecutionContext
  | .timeout _ => { c with status := .timedOut, failureReason := some .timeout }
  | .limits m => c.fail .limitExceeded .limitExceeded (some m)
  | .security m => c.fail .failed .authorizationDenied (some m)
  | .other m => c.fail .failed .executionError (some ("Worker crash: " ++ m))

/-- `start_worker` returns from the middle of its `try`, before the end of the worker is noted. -/
def returnsEarly (w : World) (worker : WorkerDefinition) : Bool :=
  !w.late &&
    if worker.executorType = "DETERMINISTIC" then false
    else if worker.executorType = "LOCAL_MODEL" then w.localModel.isNone
    else if worker.executorType = "REMOTE_MODEL" ∨ worker.executorType = "FRONTIER_MODEL" then
      w.frontier.isNone
    else true

/-- The execution after `start_worker`. -/
def endContext (w : World) (worker : WorkerDefinition) (task : Task) (c : TaskExecutionContext) :
    TaskExecutionContext :=
  let ran := runWorker w worker task c
  match ran.2 with
  | none => ran.1
  | some r => handle ran.1 r

/-- The worker after `start_worker` left its execution in a status. -/
def endWorker (w : World) (worker : WorkerDefinition) (s : ExecutionStatus) : WorkerDefinition :=
  { worker with
    state := workerStateOf s
    startedAt := some w.startedAt
    finishedAt := if returnsEarly w worker then worker.finishedAt else some w.finishedAt }

/-- `start_worker`, or a `ValueError` when the worker was started before. -/
def startWorker (w : World) (worker : WorkerDefinition) (task : Task) (c : TaskExecutionContext) :
    Option (TaskExecutionContext × WorkerDefinition) :=
  if worker.state ≠ .created then none
  else
    let c := endContext w worker task c
    some (c, endWorker w worker c.status)

/-- The worker has not ended. -/
def WorkerDefinition.live (worker : WorkerDefinition) : Bool :=
  worker.state = .created || worker.state = .starting || worker.state = .running

/-- `cancel_worker`, at the time `now`. -/
def cancelWorker (now : ℕ) (worker : WorkerDefinition) : WorkerDefinition :=
  if worker.live then { worker with state := .cancelled, finishedAt := some now } else worker

/-- `terminate_worker`. -/
def terminateWorker (worker : WorkerDefinition) : WorkerDefinition :=
  if worker.live then { worker with state := .terminated } else worker

/-! ### What a worker leaves -/

/-- The statuses that an execution ends with. -/
def finalStatuses : List ExecutionStatus := [.succeeded, .failed, .timedOut, .limitExceeded]

theorem succeeded_mem : ExecutionStatus.succeeded ∈ finalStatuses := by decide

theorem failed_mem : ExecutionStatus.failed ∈ finalStatuses := by decide

theorem timedOut_mem : ExecutionStatus.timedOut ∈ finalStatuses := by decide

theorem limitExceeded_mem : ExecutionStatus.limitExceeded ∈ finalStatuses := by decide

/-- An executor that raises nothing leaves a final status. -/
def EndsFinal (r : TaskExecutionContext × Option Raised) : Prop :=
  r.2 = none → r.1.status ∈ finalStatuses

theorem endsFinal_raised (c : TaskExecutionContext) (r : Raised) : EndsFinal (c, some r) :=
  fun h => absurd h (by simp)

theorem endsFinal_finalizeWorkspace {c : TaskExecutionContext}
    {ws : Except Raised (Option (String × Bool))} (h : c.status ∈ finalStatuses) :
    EndsFinal (c.finalizeWorkspace ws) := by
  unfold TaskExecutionContext.finalizeWorkspace
  split
  · exact endsFinal_raised _ _
  · exact fun _ => h
  · dsimp only
    split_ifs
    · exact fun _ => limitExceeded_mem
    · exact fun _ => h

theorem status_caught (c : TaskExecutionContext) (r : Raised) :
    (c.caught r).status ∈ finalStatuses := by
  cases r with
  | timeout m => exact timedOut_mem
  | limits m => exact limitExceeded_mem
  | security m => exact failed_mem
  | other m => exact failed_mem

theorem status_handled (c : TaskExecutionContext) (h : Except Raised (Json × Option Raised)) :
    (c.handled h).status ∈ finalStatuses := by
  unfold TaskExecutionContext.handled
  split
  · exact status_caught _ _
  · split
    · exact status_caught _ _
    · split
      · exact status_caught _ _
      · exact succeeded_mem

theorem endsFinal_executeDeterministic (w : World) (task : Task) (c : TaskExecutionContext) :
    EndsFinal (executeDeterministic w task c) := by
  unfold executeDeterministic
  split_ifs
  · exact fun _ => failed_mem
  · exact endsFinal_finalizeWorkspace (status_handled _ _)
  · exact fun _ => failed_mem

theorem endsFinal_executeExternal (w : World) (c : TaskExecutionContext) :
    EndsFinal (executeExternal w c) := by
  unfold executeExternal
  split
  · exact endsFinal_raised _ _
  · exact endsFinal_raised _ _
  · split_ifs
    · exact endsFinal_finalizeWorkspace succeeded_mem
    all_goals exact endsFinal_raised _ _

theorem endsFinal_executeLocal (w : World) (c : TaskExecutionContext) :
    EndsFinal (executeLocal w c) := by
  unfold executeLocal
  split
  · exact fun _ => failed_mem
  · exact endsFinal_raised _ _
  · exact fun _ => succeeded_mem

theorem endsFinal_executeFrontier (w : World) (m : Option String) (c : TaskExecutionContext) :
    EndsFinal (executeFrontier w m c) := by
  unfold executeFrontier
  split
  · exact fun _ => failed_mem
  · exact endsFinal_raised _ _
  · exact fun _ => succeeded_mem

theorem endsFinal_runWorker (w : World) (worker : WorkerDefinition) (task : Task)
    (c : TaskExecutionContext) : EndsFinal (runWorker w worker task c) := by
  unfold runWorker
  split_ifs
  · exact endsFinal_raised _ _
  · exact endsFinal_executeExternal w c
  · exact endsFinal_executeDeterministic w task c
  · exact endsFinal_executeLocal w c
  · exact endsFinal_executeFrontier w _ c
  · exact fun _ => failed_mem

theorem status_handle (c : TaskExecutionContext) (r : Raised) :
    (handle c r).status ∈ finalStatuses := by
  cases r with
  | timeout m => exact timedOut_mem
  | limits m => exact limitExceeded_mem
  | security m => exact failed_mem
  | other m => exact failed_mem

theorem status_endContext (w : World) (worker : WorkerDefinition) (task : Task)
    (c : TaskExecutionContext) : (endContext w worker task c).status ∈ finalStatuses := by
  unfold endContext
  dsimp only
  split
  · rename_i hran
    exact endsFinal_runWorker w worker task c hran
  · exact status_handle _ _

/-- What a worker that can be started leaves. -/
theorem startWorker_eq_some {w : World} {worker worker' : WorkerDefinition} {task : Task}
    {c c' : TaskExecutionContext} :
    startWorker w worker task c = some (c', worker') ↔
      worker.state = .created ∧ c' = endContext w worker task c ∧
        worker' = endWorker w worker c'.status := by
  unfold startWorker
  split_ifs with hstate
  · simp [hstate]
  · rw [ne_eq, not_not] at hstate
    dsimp only
    rw [Option.some.injEq, Prod.mk.injEq]
    constructor
    · rintro ⟨rfl, rfl⟩
      exact ⟨hstate, rfl, rfl⟩
    · rintro ⟨-, rfl, rfl⟩
      exact ⟨rfl, rfl⟩

theorem workerStateOf_ne_created (s : ExecutionStatus) : workerStateOf s ≠ .created := by
  cases s <;> simp [workerStateOf]

/-- A worker that was started leaves a final status, and cannot be started again. -/
theorem status_startWorker {w : World} {worker worker' : WorkerDefinition} {task : Task}
    {c c' : TaskExecutionContext} (h : startWorker w worker task c = some (c', worker')) :
    c'.status ∈ finalStatuses ∧ worker'.state ≠ .created := by
  obtain ⟨-, rfl, rfl⟩ := startWorker_eq_some.1 h
  exact ⟨status_endContext w worker task c, workerStateOf_ne_created _⟩

end Execution

end AnnyRuntime
