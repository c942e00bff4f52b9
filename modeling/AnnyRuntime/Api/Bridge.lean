import AnnyRuntime.Execution.Admission
import AnnyRuntime.Json.RoundTrip

/-!
# The bridge

`handleCreateTask` checks a request, submits its task, executes it, and writes what becomes of it to
the operation journal: an entry when it is queued, one when it runs, and one with its status when it
is over.

The last entry needs the context that `execute_sync` returns, and `execute_sync` returns one only
when it fences the execution off (`executeSync_returns_iff`).  So every execution of the current
generation that the bridge takes is answered with an error, and its journal ends with `RUNNING`
(`completion_unreported`), whatever became of it.

The journal is the list of the entries in its file.
-/

namespace AnnyRuntime

namespace Api

open Execution

/-! ### The journal -/

/-- An entry of the operation journal. -/
structure JournalEntry where
  (entryId operationId executionId sessionId tenantId accountId projectId : String)
  (actorId workspaceId tool state startedAt : String)
  runtimeGeneration : ℤ
  finishedAt : Option String := none
  metadata : List (String × Json) := []
  deriving DecidableEq

/-- The operation journal. -/
abbrev OperationJournal := List JournalEntry

/-- `record`. -/
def OperationJournal.record (j : OperationJournal) (e : JournalEntry) : OperationJournal := j ++ [e]

/-- `get_operation`. -/
def OperationJournal.getOperation (j : OperationJournal) (operationId : String) :
    List JournalEntry := j.filter fun e => e.operationId = operationId

/-! ### Requests -/

/-- `ALLOWED_CAPABILITIES`. -/
def allowedCapabilities : List String :=
  ["fabric.read", "repository.read", "repository.search", "fabric.register"]

/-- `ALLOWED_FIELDS`. -/
def allowedFields : List String := ["intent", "requested_capability", "input", "constraints"]

/-- `FORBIDDEN_CONSTRAINTS`. -/
def forbiddenConstraints : List String := ["network", "admin"]

/-- What a handler does: it sends an answer, or an exception escapes. -/
inductive Response where
  | json (status : ℕ) (body : List (String × Json))
  | raised
  deriving DecidableEq

/-- `_send_error`. -/
def sendError (errorType message : String) (status : ℕ) : Response :=
  .json status [("error", .str errorType), ("message", .str message)]

/-- A request to create a task. -/
structure CreateTask where
  intent : Json
  capability : String
  /-- The input; one that is no object is kept as an empty one, since no function modelled here
  tells them apart. -/
  input : List (String × Json)
  constraints : List (String × Json)
  deriving DecidableEq

/-- The members of an object. -/
def members : Json → List (String × Json)
  | .obj ms => ms
  | _ => []

/-- The fields of a request, or how it is refused. -/
def readFields (ms : List (String × Json)) : Except Response CreateTask :=
  if ms.any fun m => m.1 ∉ allowedFields then
    .error (sendError "BRIDGE_INVALID_REQUEST" "Prohibited fields in request" 400)
  else
    let intent := (Json.lookup "intent" ms).getD .null
    let capability := (Json.lookup "requested_capability" ms).getD .null
    let input := (Json.lookup "input" ms).getD (.obj [])
    let constraints := (Json.lookup "constraints" ms).getD (.obj [])
    if !intent.truthy || !capability.truthy then
      .error (sendError "BRIDGE_INVALID_REQUEST" "Missing intent or requested_capability" 400)
    else match constraints, capability with
      | .obj cs, capability =>
        if cs.any fun m => m.1 ∈ forbiddenConstraints then
          .error (sendError "POLICY_DENIED" "Constraint override not permitted" 403)
        else
          let notFound := sendError "CAPABILITY_NOT_FOUND" "Capability not available via bridge" 404
          match capability with
          | .str s =>
            if s ∈ allowedCapabilities then .ok ⟨intent, s, members input, cs⟩
            else .error notFound
          -- a list or an object cannot be looked up in a set
          | v => .error (if v.hashable then notFound else .raised)
      | _, _ => .error .raised

/-- The body of a request, or how it is refused. -/
def readRequest (body : List Char) : Except Response CreateTask :=
  if body = [] then .error (sendError "BRIDGE_INVALID_REQUEST" "Empty request body" 400)
  else match Json.loads body with
    | none => .error (sendError "BRIDGE_INVALID_REQUEST" "Invalid JSON" 400)
    | some (.obj ms) => readFields ms
    | some _ => .error .raised

/-! ### Creating a task -/

/-- What creating a task takes from the outside. -/
structure BridgeCall where
  taskUuid : String
  /-- The time of the request, and the texts of the times at the start and at the end. -/
  now : ℕ
  (startedAt finishedAt : String)
  submission : Submission
  execute : Execute

/-- What a handler leaves. -/
structure Handled where
  response : Response
  manager : Option ExecutionManager
  journal : OperationJournal

/-- The task of a request. -/
def taskOf (call : BridgeCall) (req : CreateTask) : Task where
  taskId := "tsk-" ++ call.taskUuid
  capabilityId := req.capability
  accountId := "bridge-account"
  projectId := "bridge-project"
  input := req.input
  constraints := some req.constraints
  deadline := call.now + 60
  workspacePolicy := "keep"
  evidencePolicy := "journal"
  requestedBy := "chatgpt_luna"
  createdAt := call.now

/-- The entry of a phase of an execution. -/
def entryOf (call : BridgeCall) (req : CreateTask) (phase : String) (c : TaskExecutionContext)
    (state : String) (finishedAt : Option String) : JournalEntry where
  entryId := "ev-" ++ phase ++ "-" ++ c.executionId
  operationId := (taskOf call req).taskId
  executionId := c.executionId
  sessionId := "bridge_session"
  tenantId := "test-tenant"
  accountId := "bridge-account"
  projectId := "bridge-project"
  actorId := "chatgpt_luna"
  workspaceId := c.workspacePath
  tool := req.capability
  state := state
  startedAt := call.startedAt
  runtimeGeneration := 1
  finishedAt := finishedAt
  metadata := [("intent", req.intent), ("source", .str "chatgpt_luna")]

/-- The task failed, and nothing more is said. -/
def executionFailed : Response := sendError "EXECUTION_FAILED" "Task execution failed" 500

/-- A request that was accepted is submitted and executed. -/
def createTask (m : ExecutionManager) (j : OperationJournal) (call : BridgeCall)
    (req : CreateTask) : Handled :=
  match m.submitTask call.submission (taskOf call req) with
  | (none, m) => ⟨executionFailed, some m, j⟩
  | (some c, m) =>
    let j := j.record (entryOf call req "q" c "QUEUED" none)
    let j := j.record (entryOf call req "r" c "RUNNING" none)
    let executed := m.executeSync call.execute c.executionId
    match executed.1.context? with
    -- an exception, or `None`, which has no status
    | none => ⟨executionFailed, some executed.2, j⟩
    | some c =>
      ⟨.json 201 [("task_id", .str (taskOf call req).taskId), ("execution_id", .str c.executionId),
          ("status", .str c.status.value), ("source", .str "chatgpt_luna")],
        some executed.2,
        j.record (entryOf call req "t" c c.status.value (some call.finishedAt))⟩

/-- `handle_create_task`. -/
def handleCreateTask (m : Option ExecutionManager) (j : OperationJournal) (call : BridgeCall)
    (body : List Char) : Handled :=
  match readRequest body, m with
  | .error response, m => ⟨response, m, j⟩
  | .ok _, none => ⟨sendError "EXECUTION_FAILED" "Execution subsystem unavailable" 503, none, j⟩
  | .ok req, some m => createTask m j call req

/-! ### What is reported -/

/-- **`execute_sync` reports completion**: it returns the context of the execution, as the manager
has it then, with a final status. -/
def ReportsContext (m : ExecutionManager) (ex : Execute) (executionId : String) : Prop :=
  ∃ c, (m.executeSync ex executionId).1.context? = some c ∧ c.status ∈ finalStatuses ∧
    (m.executeSync ex executionId).2.executions.get? executionId = some c

/-- **The journal reports completion**: its last entry for a task has the status of the execution,
which is final. -/
def ReportsStatus (h : Handled) (taskId executionId : String) : Prop :=
  ∃ m c e, h.manager = some m ∧ m.executions.get? executionId = some c ∧
    (h.journal.getOperation taskId).getLast? = some e ∧ e.state = c.status.value ∧
    c.status ∈ finalStatuses

variable {m : ExecutionManager} {ex : Execute} {executionId : String} {c : TaskExecutionContext}
  {task : Task} {worker : WorkerDefinition}

/-- `execute_sync` returns a context exactly when it fences the execution off. -/
theorem executeSync_returns_iff (ex : Execute)
    (h : m.Executable executionId c task worker) :
    ((m.executeSync ex executionId).1.context?).isSome = true ↔ (m.fencing c).isSome = true := by
  rw [ExecutionManager.executeSync_eq h]
  cases m.fencing c with
  | some err => exact iff_of_true rfl rfl
  | none =>
    refine iff_of_false ?_ (by simp)
    dsimp only
    cases startWorker ex.world worker task c with
    | none => simp [Returned.context?]
    | some r =>
      dsimp only
      cases m.continuityEngine with
      | none => simp [Returned.context?]
      | some e =>
        dsimp only
        split_ifs <;> simp [Returned.context?]

/-- A new execution is of the current generation. -/
theorem fencing_submitted {sub : Submission} {m' : ExecutionManager}
    (h : m.submitTask sub task = (some c, m')) :
    m'.executions.get? c.executionId = some c ∧ m'.fencing c = none := by
  unfold ExecutionManager.submitTask at h
  split at h
  · cases h
  · rename_i cap _
    split_ifs at h
    · cases h
    · cases h
    · dsimp only at h
      split at h
      · rename_i selection path _ _
        obtain ⟨hc, hm⟩ := Prod.mk.inj h
        obtain rfl := Option.some.inj hc
        subst hm
        refine ⟨Dict.get?_set_self _ _, ?_⟩
        unfold ExecutionManager.fencing
        cases hr : m.runtimeEngine with
        | none => simp [ExecutionManager.enqueue]
        | some g =>
          -- the context is given the generation that it is compared with
          have hfence : g.fence (.int g.current) = .ok () :=
            Core.RuntimeGeneration.fence_eq_ok_iff.2 rfl
          simp [ExecutionManager.enqueue, ExecutionManager.newContext, hfence]
      · cases h

/-- Executing an execution that is not fenced off returns no context. -/
theorem context?_of_not_fenced (hc : m.executions.get? executionId = some c)
    (hf : m.fencing c = none) : (m.executeSync ex executionId).1.context? = none := by
  by_cases hex : ∃ task worker, m.Executable executionId c task worker
  · obtain ⟨task, worker, hex⟩ := hex
    have hno := mt (executeSync_returns_iff ex hex).1 (by rw [hf]; simp)
    rwa [Option.not_isSome_iff_eq_none] at hno
  · rw [ExecutionManager.executeSync_unknown]
    · rfl
    · intro c' task worker h
      obtain rfl := Option.some.inj (hc.symm.trans h.context)
      exact hex ⟨task, worker, h⟩

/-- What the bridge leaves of a task that was submitted: an error, and a journal that ends with
`RUNNING`. -/
theorem createTask_submitted {j : OperationJournal} {call : BridgeCall} {req : CreateTask}
    {m' : ExecutionManager} (h : m.submitTask call.submission (taskOf call req) = (some c, m')) :
    createTask m j call req =
      ⟨executionFailed, some (m'.executeSync call.execute c.executionId).2,
        (j.record (entryOf call req "q" c "QUEUED" none)).record
          (entryOf call req "r" c "RUNNING" none)⟩ := by
  obtain ⟨hc, hf⟩ := fencing_submitted h
  unfold createTask
  rw [h]
  simp only [context?_of_not_fenced hc hf]

theorem value_ne_running {s : ExecutionStatus} (h : s ∈ finalStatuses) : "RUNNING" ≠ s.value := by
  simp only [finalStatuses, List.mem_cons, List.not_mem_nil, or_false] at h
  rcases h with rfl | rfl | rfl | rfl <;> decide

/-- **Completion is never reported.**  `execute_sync` returns no context for an execution of the
current generation, whatever its executor does, and no task that the bridge submits has a journal
that ends with a final status. -/
theorem completion_unreported (m : ExecutionManager) :
    (∀ (ex : Execute) (executionId : String) (c : TaskExecutionContext),
      m.executions.get? executionId = some c → m.fencing c = none →
        ¬ ReportsContext m ex executionId) ∧
    ∀ (j : OperationJournal) (call : BridgeCall) (body : List Char)
      (req : CreateTask) (c : TaskExecutionContext) (m' : ExecutionManager),
      readRequest body = .ok req →
        m.submitTask call.submission (taskOf call req) = (some c, m') →
          ¬ ReportsStatus (handleCreateTask (some m) j call body) (taskOf call req).taskId
            c.executionId := by
  refine ⟨fun ex executionId c hc hf => ?_, fun j call body req c m' hreq hsub => ?_⟩
  · rintro ⟨c', hret, -, -⟩
    rw [context?_of_not_fenced hc hf] at hret
    cases hret
  · rintro ⟨m₂, c₂, e, -, -, hlast, hstate, hfinal⟩
    have hhandled : handleCreateTask (some m) j call body = createTask m j call req := by
      unfold handleCreateTask
      rw [hreq]
    rw [hhandled, createTask_submitted hsub] at hlast
    -- the last entry that the handler wrote is the one of the running task
    simp only [OperationJournal.record, OperationJournal.getOperation] at hlast
    have hown : decide ((entryOf call req "r" c "RUNNING" none).operationId =
        (taskOf call req).taskId) = true := decide_eq_true rfl
    rw [List.filter_append, List.filter_singleton, hown, cond_true, List.getLast?_append,
      List.getLast?_singleton, Option.some_or, Option.some.injEq] at hlast
    rw [← hlast] at hstate
    exact value_ne_running hfinal hstate

/-! ### Reading a repository -/

/-- A request to read a repository. -/
def readRepository : CreateTask := ⟨.str "read", "repository.read", [], []⟩

/-- Its body. -/
def readBody : List Char := Json.dumps (.obj [("intent", .str "read"),
  ("requested_capability", .str "repository.read")])

theorem readRequest_readBody : readRequest readBody = .ok readRepository := by
  have hne : readBody ≠ [] := by decide
  rw [readRequest, if_neg hne, readBody, Json.loads_dumps]
  rfl

/-- A call of the bridge whose tool succeeds. -/
def plainCall : BridgeCall where
  taskUuid := "000000000001"
  now := 0
  startedAt := "2024-01-01T00:00:00+00:00"
  finishedAt := "2024-01-01T00:00:02+00:00"
  submission := ExecutionManager.plainSubmission
  execute :=
    { world := { gateway := some (.ok ⟨true, .str "content", some "hash", "SUCCEEDED", "None"⟩) }
      eventUuid := "00000002"
      now := "2024-01-01T00:00:01+00:00" }

/-- A manager that takes the task. -/
def plainManager : ExecutionManager := .init .bootstrap none none

/-- The manager after the task was submitted. -/
def submittedManager : ExecutionManager :=
  (plainManager.submitTask plainCall.submission (taskOf plainCall readRepository)).2

theorem exists_submitted : ∃ c, plainManager.submitTask plainCall.submission
    (taskOf plainCall readRepository) = (some c, submittedManager) := by
  have hsome : (plainManager.submitTask plainCall.submission
      (taskOf plainCall readRepository)).1.isSome = true := by decide +kernel
  obtain ⟨c, hc⟩ := Option.isSome_iff_exists.1 hsome
  exact ⟨c, Prod.ext hc rfl⟩

/-- The bridge reads a repository: nothing reports that it is done. -/
theorem unreported_readRepository : ∃ c,
    plainManager.submitTask plainCall.submission (taskOf plainCall readRepository) =
        (some c, submittedManager) ∧
      ¬ ReportsContext submittedManager plainCall.execute c.executionId ∧
      ¬ ReportsStatus (handleCreateTask (some plainManager) [] plainCall readBody)
        (taskOf plainCall readRepository).taskId c.executionId := by
  obtain ⟨c, hc⟩ := exists_submitted
  obtain ⟨hget, hf⟩ := fencing_submitted hc
  exact ⟨c, hc, (completion_unreported _).1 _ _ c hget hf,
    (completion_unreported _).2 _ _ _ _ c _ readRequest_readBody hc⟩

/-- Not every execution of the current generation that can be executed is reported: the reading of
the repository succeeds, and `execute_sync` returns nothing. -/
theorem not_reported_readRepository : ¬ ∀ (m : ExecutionManager) (ex : Execute)
    (executionId : String) (c : TaskExecutionContext) (task : Task) (worker : WorkerDefinition),
    m.Executable executionId c task worker → m.fencing c = none →
      ReportsContext m ex executionId := by
  intro h
  obtain ⟨c, hc⟩ := exists_submitted
  obtain ⟨hget, hf⟩ := fencing_submitted hc
  have hsub : submittedManager.executions.get? ExecutionManager.plainSubmission.executionId =
      some c := by
    have hid : c.executionId = ExecutionManager.plainSubmission.executionId := by
      have hids : (plainManager.submitTask plainCall.submission
          (taskOf plainCall readRepository)).1.map (fun c => c.executionId) =
          some ExecutionManager.plainSubmission.executionId := by decide +kernel
      rw [hc] at hids
      exact Option.some.inj hids
    rw [← hid]
    exact hget
  have hready :
      ((submittedManager.tasks.get? ExecutionManager.plainSubmission.executionId).all fun t =>
        (submittedManager.registry.get t.capabilityId).isSome) = true ∧
      (submittedManager.tasks.get? ExecutionManager.plainSubmission.executionId).isSome = true ∧
      (submittedManager.workerOf ExecutionManager.plainSubmission.executionId).isSome = true := by
    decide +kernel
  obtain ⟨hcap, htask, hworker⟩ := hready
  obtain ⟨task, htask⟩ := Option.isSome_iff_exists.1 htask
  obtain ⟨worker, hworker⟩ := Option.isSome_iff_exists.1 hworker
  rw [htask, Option.all_some] at hcap
  obtain ⟨c', hret, -, -⟩ := h submittedManager plainCall.execute
    ExecutionManager.plainSubmission.executionId c task worker ⟨hsub, htask, hcap, hworker⟩ hf
  rw [context?_of_not_fenced hsub hf] at hret
  cases hret

end Api

end AnnyRuntime
