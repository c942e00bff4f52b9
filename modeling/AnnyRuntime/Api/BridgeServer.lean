import AnnyRuntime.Api.Bridge

/-!
# What the bridge tells about its tasks

The bridge takes tasks and answers questions about them, from the journal.  A task is accepted when
an authenticated request for it can be read and the manager takes it.

* `journal_run` : in every run, with crashes between two writes, the journal is that of the tasks
  that were accepted.
* `bridge_tells` : so a question about a task is answered by the last accepted one with this
  identifier, and its state is `RUNNING`, or `QUEUED` after a crash, whatever became of it.
-/

namespace AnnyRuntime

namespace Api

open Execution

/-! ### Requests to the bridge -/

/-- What the secret backend has as `bridge_token`. -/
inductive BridgeSecret where
  | noBackend
  /-- Reading or decoding it raises. -/
  | fails
  | value (expected : Option String)

/-- A request to the bridge, and the manager when it comes. -/
structure BridgeRequest where
  (method path : String)
  token : Option String
  secret : BridgeSecret
  body : List Char
  manager : Option ExecutionManager
  call : BridgeCall

namespace BridgeRequest

/-- `_authenticate`: whether the request is let in, unless it raises something else. -/
def authenticate (r : BridgeRequest) : Option Bool :=
  if r.token.getD "" = "" then some false
  else match r.secret with
    | .noBackend => some false
    | .fails => none
    | .value expected => some (decide (r.token = expected))

/-- What follows the last slash of the path. -/
def lastPart (r : BridgeRequest) : String :=
  String.ofList (r.path.toList.reverse.takeWhile (· ≠ '/')).reverse

/-- It asks for a new task. -/
def IsCreate (r : BridgeRequest) : Prop := r.method = "POST" ∧ r.path = "/api/v1/bridge/tasks"

instance (r : BridgeRequest) : Decidable r.IsCreate := inferInstanceAs (Decidable (_ ∧ _))

/-- It asks about something under the given path. -/
def IsGet (r : BridgeRequest) (under : String) : Prop :=
  r.method = "GET" ∧ under.toList.isPrefixOf r.path.toList = true

instance (r : BridgeRequest) (under : String) : Decidable (r.IsGet under) :=
  inferInstanceAs (Decidable (_ ∧ _))

end BridgeRequest

/-- `get_execution`. -/
def OperationJournal.getExecution (j : OperationJournal) (executionId : String) :
    List JournalEntry := j.filter fun e => e.executionId = executionId

/-- The answer about a task, by its last entry. -/
def taskAnswer (latest : JournalEntry) : Response :=
  .json 200 [("task_id", .str latest.operationId), ("execution_id", .str latest.executionId),
    ("capability", .str latest.tool), ("state", .str latest.state),
    ("intent", (Json.lookup "intent" latest.metadata).getD (.str "")),
    ("source", (Json.lookup "source" latest.metadata).getD (.str "chatgpt_luna"))]

/-- The answer about an execution, by its last entry. -/
def executionAnswer (latest : JournalEntry) : Response :=
  .json 200 [("execution_id", .str latest.executionId), ("task_id", .str latest.operationId),
    ("capability", .str latest.tool), ("state", .str latest.state),
    ("source", (Json.lookup "source" latest.metadata).getD (.str "chatgpt_luna")),
    ("evidence_durability", .str "DURABLE")]

/-- `handle_get_task`. -/
def handleGetTask (j : OperationJournal) (taskId : String) : Response :=
  match (j.getOperation taskId).getLast? with
  | none => sendError "RESULT_UNAVAILABLE" "Task not found" 404
  | some latest => taskAnswer latest

/-- `handle_get_execution`. -/
def handleGetExecution (j : OperationJournal) (executionId : String) : Response :=
  match (j.getExecution executionId).getLast? with
  | none => sendError "RESULT_UNAVAILABLE" "Execution not found" 404
  | some latest => executionAnswer latest

/-- `dispatch`. -/
def BridgeRequest.dispatch (r : BridgeRequest) (j : OperationJournal) : Handled :=
  match r.authenticate with
  | none => ⟨.raised, r.manager, j⟩
  | some false =>
    ⟨sendError "BRIDGE_AUTH_ERROR" "Invalid or missing credentials" 401, r.manager, j⟩
  | some true =>
    if r.IsCreate then handleCreateTask r.manager j r.call r.body
    else if r.IsGet "/api/v1/bridge/tasks/" then ⟨handleGetTask j r.lastPart, r.manager, j⟩
    else if r.IsGet "/api/v1/bridge/executions/" then
      ⟨handleGetExecution j r.lastPart, r.manager, j⟩
    else ⟨sendError "NOT_FOUND" "Unknown bridge endpoint" 404, r.manager, j⟩

/-- What happens to the bridge.  Everything else that uses the manager may run in between, so each
request comes with the manager as it is then. -/
inductive BridgeEvent where
  | request (r : BridgeRequest)
  /-- The process dies in a request that has written some of its entries. -/
  | crash (r : BridgeRequest) (written : ℕ)

/-- The journal after an event. -/
def OperationJournal.next (j : OperationJournal) : BridgeEvent → OperationJournal
  | .request r => (r.dispatch j).journal
  | .crash r written => j ++ ((r.dispatch j).journal.drop j.length).take written

/-! ### Accepted tasks -/

/-- A task that the bridge accepted. -/
structure Accepted where
  call : BridgeCall
  req : CreateTask
  context : TaskExecutionContext
  /-- It was not interrupted before it was said to run. -/
  running : Bool

/-- The entries of an accepted task. -/
def Accepted.entries (a : Accepted) : List JournalEntry :=
  entryOf a.call a.req "q" a.context "QUEUED" none ::
    if a.running then [entryOf a.call a.req "r" a.context "RUNNING" none] else []

/-- The last of them. -/
def Accepted.latest (a : Accepted) : JournalEntry :=
  if a.running then entryOf a.call a.req "r" a.context "RUNNING" none
  else entryOf a.call a.req "q" a.context "QUEUED" none

/-- The task that a request gets accepted. -/
def BridgeRequest.accepted (r : BridgeRequest) : Option Accepted :=
  if r.authenticate = some true ∧ r.IsCreate then
    match readRequest r.body, r.manager with
    | .ok req, some m =>
      (m.submitTask r.call.submission (taskOf r.call req)).1.map fun c => ⟨r.call, req, c, true⟩
    | _, _ => none
  else none

/-- The task that an event gets accepted. -/
def BridgeEvent.accepted : BridgeEvent → Option Accepted
  | .request r => r.accepted
  | .crash r written =>
    if written = 0 then none
    else r.accepted.map fun a => { a with running := decide (2 ≤ written) }

section

variable {r : BridgeRequest} {j : OperationJournal} {m : ExecutionManager}

/-- What the creation of a task does: it is accepted, and writes two entries, or it writes none. -/
theorem createTask_cases (m : ExecutionManager) (j : OperationJournal) (call : BridgeCall)
    (req : CreateTask) :
    (createTask m j call req).response = executionFailed ∧
      (createTask m j call req).journal =
        match (m.submitTask call.submission (taskOf call req)).1 with
        | none => j
        | some c => j ++ Accepted.entries ⟨call, req, c, true⟩ := by
  cases h : m.submitTask call.submission (taskOf call req) with
  | mk submitted m' =>
    cases submitted with
    | none =>
      rw [createTask, h]
      exact ⟨rfl, rfl⟩
    | some c =>
      rw [createTask_submitted h]
      refine ⟨rfl, ?_⟩
      show (j ++ [_]) ++ [_] = _
      rw [List.append_assoc]
      rfl

/-- **A request writes the entries of the task it gets accepted**, and nothing else. -/
theorem journal_dispatch (r : BridgeRequest) (j : OperationJournal) :
    (r.dispatch j).journal = j ++ (r.accepted.map Accepted.entries).getD [] := by
  unfold BridgeRequest.dispatch BridgeRequest.accepted
  cases ha : r.authenticate with
  | none => simp
  | some b =>
    cases b with
    | false => simp
    | true =>
      by_cases hc : r.IsCreate
      · simp only [hc, and_self, if_true]
        unfold handleCreateTask
        cases hread : readRequest r.body with
        | error response => simp
        | ok req =>
          cases hm : r.manager with
          | none => simp
          | some m =>
            dsimp only
            rw [(createTask_cases m j r.call req).2]
            cases (m.submitTask r.call.submission (taskOf r.call req)).1 <;> simp
      · simp only [hc, and_false, if_false]
        by_cases ht : r.IsGet "/api/v1/bridge/tasks/"
        · simp [ht]
        · by_cases he : r.IsGet "/api/v1/bridge/executions/"
          · simp [ht, he]
          · simp [ht, he]

theorem running_of_accepted {a : Accepted} (h : r.accepted = some a) : a.running = true := by
  unfold BridgeRequest.accepted at h
  split at h
  · split at h
    · rw [Option.map_eq_some_iff] at h
      obtain ⟨c, -, rfl⟩ := h
      rfl
    · cases h
  · cases h

/-- An event writes the entries of the task it gets accepted. -/
theorem journal_next (j : OperationJournal) (e : BridgeEvent) :
    j.next e = j ++ (e.accepted.map Accepted.entries).getD [] := by
  cases e with
  | request r => exact journal_dispatch r j
  | crash r written =>
    show j ++ ((r.dispatch j).journal.drop j.length).take written = _
    rw [journal_dispatch, List.drop_left, BridgeEvent.accepted]
    cases ha : r.accepted with
    | none => simp
    | some a =>
      have hrunning : a.running = true := running_of_accepted ha
      match written with
      | 0 => simp
      | 1 => simp [Accepted.entries, hrunning]
      | n + 2 => simp [Accepted.entries, hrunning]

/-- **In every run**, the journal is that of the tasks that were accepted. -/
theorem journal_run (es : List BridgeEvent) (j : OperationJournal) :
    es.foldl OperationJournal.next j =
      j ++ (es.filterMap BridgeEvent.accepted).flatMap Accepted.entries := by
  induction es generalizing j with
  | nil => simp
  | cons e es ih =>
    rw [List.foldl_cons, ih, journal_next, List.append_assoc]
    cases he : e.accepted with
    | none => rw [List.filterMap_cons_none he]; simp
    | some a => rw [List.filterMap_cons_some he]; simp

/-! ### Answers -/

/-- The last entry of all that meet a condition on which the entries of one task agree. -/
theorem getLast?_filter_entries (p : JournalEntry → Bool) (tasks : List Accepted)
    (hp : ∀ a ∈ tasks, ∀ e ∈ a.entries, p e = p a.latest) :
    ((tasks.flatMap Accepted.entries).filter p).getLast? =
      (tasks.filter fun a => p a.latest).getLast?.map Accepted.latest := by
  induction tasks using List.reverseRecOn with
  | nil => rfl
  | append_singleton tasks a ih =>
    have hentries : (a.entries.filter p).getLast? =
        if p a.latest then some a.latest else none := by
      have hagree : a.entries.filter p = if p a.latest then a.entries else [] := by
        by_cases hl : p a.latest = true
        · rw [if_pos hl, List.filter_eq_self]
          intro e he
          rw [hp a (by simp) e he, hl]
        · rw [if_neg hl, List.filter_eq_nil_iff]
          intro e he
          rw [hp a (by simp) e he]
          exact hl
      rw [hagree]
      by_cases hl : p a.latest = true
      · rw [if_pos hl, if_pos hl, Accepted.entries, Accepted.latest]
        cases a.running <;> rfl
      · rw [if_neg hl, if_neg hl]
        rfl
    have hrest := ih fun b hb => hp b (by simp [hb])
    rw [List.flatMap_append, List.filter_append, List.getLast?_append, hrest, List.filter_append,
      List.getLast?_append, List.flatMap_singleton, hentries]
    by_cases hl : p a.latest = true
    · simp [hl]
    · simp [hl]

/-- The last accepted task whose last entry meets a condition. -/
def lastAccepted (p : JournalEntry → Bool) (es : List BridgeEvent) : Option Accepted :=
  ((es.filterMap BridgeEvent.accepted).filter fun a => p a.latest).getLast?

/-- What the bridge reads: a capability of its list, and no constraint that it forbids. -/
theorem of_readFields {ms : List (String × Json)} {req : CreateTask}
    (h : readFields ms = .ok req) :
    req.capability ∈ allowedCapabilities ∧
      ∀ member ∈ req.constraints, member.1 ∉ forbiddenConstraints := by
  unfold readFields at h
  by_cases hfields : (ms.any fun m => m.1 ∉ allowedFields) = true
  · rw [if_pos hfields] at h
    cases h
  · rw [if_neg hfields] at h
    dsimp only at h
    split at h
    · cases h
    · split at h
      · rename_i cs capability _
        split at h
        · cases h
        · rename_i hforbidden
          split at h
          · rename_i s
            split at h
            · rename_i hallowed
              cases h
              refine ⟨hallowed, fun member hmember hmem => hforbidden ?_⟩
              exact List.any_eq_true.2 ⟨member, hmember, decide_eq_true hmem⟩
            · cases h
          · cases h
      · cases h

theorem of_readRequest {body : List Char} {req : CreateTask} (h : readRequest body = .ok req) :
    req.capability ∈ allowedCapabilities ∧
      ∀ member ∈ req.constraints, member.1 ∉ forbiddenConstraints := by
  unfold readRequest at h
  split at h
  · cases h
  · split at h
    · cases h
    · exact of_readFields h
    · cases h

/-- What an accepted task is like. -/
def Accepted.IsPermitted (a : Accepted) : Prop :=
  a.req.capability ∈ allowedCapabilities ∧
    ∀ member ∈ a.req.constraints, member.1 ∉ forbiddenConstraints

theorem isPermitted_of_accepted {a : Accepted} (h : r.accepted = some a) : a.IsPermitted := by
  unfold BridgeRequest.accepted at h
  split at h
  · split at h
    · rename_i req m hread _
      rw [Option.map_eq_some_iff] at h
      obtain ⟨c, -, rfl⟩ := h
      exact of_readRequest hread
    · cases h
  · cases h

theorem isPermitted_of_event {e : BridgeEvent} {a : Accepted} (h : e.accepted = some a) :
    a.IsPermitted := by
  cases e with
  | request r => exact isPermitted_of_accepted h
  | crash r written =>
    rw [BridgeEvent.accepted] at h
    split at h
    · cases h
    · rw [Option.map_eq_some_iff] at h
      obtain ⟨b, hb, rfl⟩ := h
      have hpermitted : b.IsPermitted := isPermitted_of_accepted hb
      exact hpermitted

/-- The answer to a question about the last accepted task of some kind. -/
def answerOf (answer : JournalEntry → Response) (missing : String) (found : Option Accepted) :
    Response :=
  match found with
  | none => sendError "RESULT_UNAVAILABLE" missing 404
  | some a => answer a.latest

theorem operationId_of_mem {a : Accepted} {e : JournalEntry} (h : e ∈ a.entries) :
    e.operationId = a.latest.operationId ∧ e.executionId = a.latest.executionId := by
  unfold Accepted.entries at h
  unfold Accepted.latest
  cases ha : a.running with
  | true =>
    rw [ha, if_pos rfl, List.mem_cons, List.mem_singleton] at h
    rcases h with rfl | rfl
    · exact ⟨rfl, rfl⟩
    · exact ⟨rfl, rfl⟩
  | false =>
    rw [ha, if_neg Bool.false_ne_true, List.mem_singleton] at h
    subst h
    exact ⟨rfl, rfl⟩

theorem handleGetTask_run (es : List BridgeEvent) (taskId : String) :
    handleGetTask (es.foldl OperationJournal.next []) taskId =
      answerOf taskAnswer "Task not found" (lastAccepted (fun e => e.operationId = taskId) es) := by
  have hlast := getLast?_filter_entries (fun e => e.operationId = taskId)
    (es.filterMap BridgeEvent.accepted) fun a _ e he => by rw [(operationId_of_mem he).1]
  rw [handleGetTask, OperationJournal.getOperation, journal_run, List.nil_append, hlast]
  show _ = answerOf _ _ (List.getLast? _)
  cases (List.filter _ _).getLast? <;> rfl

theorem handleGetExecution_run (es : List BridgeEvent) (executionId : String) :
    handleGetExecution (es.foldl OperationJournal.next []) executionId =
      answerOf executionAnswer "Execution not found"
        (lastAccepted (fun e => e.executionId = executionId) es) := by
  have hlast := getLast?_filter_entries (fun e => e.executionId = executionId)
    (es.filterMap BridgeEvent.accepted) fun a _ e he => by rw [(operationId_of_mem he).2]
  rw [handleGetExecution, OperationJournal.getExecution, journal_run, List.nil_append, hlast]
  show _ = answerOf _ _ (List.getLast? _)
  cases (List.filter _ _).getLast? <;> rfl

/-- A response that is no success. -/
def Response.IsError : Response → Prop
  | .json status _ => 400 ≤ status
  | .raised => True

theorem isError_sendError {errorType message : String} {status : ℕ} (h : 400 ≤ status) :
    (sendError errorType message status).IsError := h

theorem isError_of_readFields {ms : List (String × Json)} {response : Response}
    (h : readFields ms = .error response) : response.IsError := by
  unfold readFields at h
  dsimp only at h
  split at h
  · cases h
    exact isError_sendError (by omega)
  · split at h
    · cases h
      exact isError_sendError (by omega)
    · split at h
      · split at h
        · cases h
          exact isError_sendError (by omega)
        · split at h
          · split at h
            · cases h
            · cases h
              exact isError_sendError (by omega)
          · cases h
            split
            · exact isError_sendError (by omega)
            · trivial
      · cases h
        trivial

theorem isError_of_readRequest {body : List Char} {response : Response}
    (h : readRequest body = .error response) : response.IsError := by
  unfold readRequest at h
  split at h
  · cases h
    exact isError_sendError (by omega)
  · split at h
    · cases h
      exact isError_sendError (by omega)
    · exact isError_of_readFields h
    · cases h
      trivial

/-- A request for a new task is never answered with success. -/
theorem isError_create (hc : r.IsCreate) (j : OperationJournal) :
    (r.dispatch j).response.IsError := by
  unfold BridgeRequest.dispatch
  split
  · trivial
  · exact isError_sendError (by omega)
  · rw [if_pos hc]
    unfold handleCreateTask
    split
    · rename_i hread
      exact isError_of_readRequest hread
    · exact isError_sendError (by omega)
    · rw [(createTask_cases _ j r.call _).1]
      exact isError_sendError (by omega)

theorem dispatch_getTask (ha : r.authenticate = some true) (h : r.IsGet "/api/v1/bridge/tasks/")
    (j : OperationJournal) : (r.dispatch j).response = handleGetTask j r.lastPart := by
  have hc : ¬ r.IsCreate := by
    intro hc
    exact absurd (hc.1.symm.trans h.1) (by decide)
  rw [BridgeRequest.dispatch, ha]
  dsimp only
  rw [if_neg hc, if_pos h]

theorem dispatch_getExecution (ha : r.authenticate = some true)
    (h : r.IsGet "/api/v1/bridge/executions/") (j : OperationJournal) :
    (r.dispatch j).response = handleGetExecution j r.lastPart := by
  have hc : ¬ r.IsCreate := by
    intro hc
    exact absurd (hc.1.symm.trans h.1) (by decide)
  have ht : ¬ r.IsGet "/api/v1/bridge/tasks/" := by
    intro ht
    have htasks := List.isPrefixOf_iff_prefix.1 ht.2
    have hexecutions := List.isPrefixOf_iff_prefix.1 h.2
    have heq := List.prefix_of_prefix_length_le htasks hexecutions (by decide)
    exact absurd heq (by decide)
  rw [BridgeRequest.dispatch, ha]
  dsimp only
  rw [if_neg hc, if_neg ht, if_pos h]

/-- **What the bridge tells.**  In every run of requests and crashes, every task that was accepted
was permitted; a question about a task or an execution that is let in is answered by the last
accepted task with this identifier, whose state is `RUNNING` or, when the process died in between,
`QUEUED`; and a request for a new task is never answered with success. -/
theorem bridge_tells (es : List BridgeEvent) (r : BridgeRequest) :
    let answer := (r.dispatch (es.foldl OperationJournal.next [])).response
    (∀ a ∈ es.filterMap BridgeEvent.accepted, a.IsPermitted) ∧
    (r.authenticate = some true → r.IsGet "/api/v1/bridge/tasks/" →
      answer = answerOf taskAnswer "Task not found"
        (lastAccepted (fun e => e.operationId = r.lastPart) es)) ∧
    (r.authenticate = some true → r.IsGet "/api/v1/bridge/executions/" →
      answer = answerOf executionAnswer "Execution not found"
        (lastAccepted (fun e => e.executionId = r.lastPart) es)) ∧
    (r.IsCreate → answer.IsError) := by
  refine ⟨?_, ?_, ?_, ?_⟩
  · intro a ha
    obtain ⟨e, -, he⟩ := List.mem_filterMap.1 ha
    exact isPermitted_of_event he
  · intro hauth hget
    rw [dispatch_getTask hauth hget]
    exact handleGetTask_run es _
  · intro hauth hget
    rw [dispatch_getExecution hauth hget]
    exact handleGetExecution_run es _
  · intro hc
    exact isError_create hc _

/-- A request with the right token. -/
def plainRequest (method path : String) (body : List Char) : BridgeRequest where
  method := method
  path := path
  token := some "secret"
  secret := .value (some "secret")
  body := body
  manager := some plainManager
  call := plainCall

/-- When a request gets a task accepted. -/
theorem accepted_eq_some {req : CreateTask} {c : TaskExecutionContext}
    (hlet : r.authenticate = some true ∧ r.IsCreate) (hread : readRequest r.body = .ok req)
    (hm : r.manager = some m)
    (hsubmitted : (m.submitTask r.call.submission (taskOf r.call req)).1 = some c) :
    r.accepted = some ⟨r.call, req, c, true⟩ := by
  rw [BridgeRequest.accepted, if_pos hlet, hread, hm]
  dsimp only
  rw [hsubmitted, Option.map_some]

theorem lastAccepted_singleton {p : JournalEntry → Bool} {e : BridgeEvent} {a : Accepted}
    (he : e.accepted = some a) (hp : p a.latest = true) : lastAccepted p [e] = some a := by
  rw [lastAccepted, List.filterMap_cons_some he, List.filterMap_nil, List.filter_singleton, hp]
  rfl

/-- The bridge reads a repository, and says that the task is running. -/
theorem bridge_tells_running : ∃ c,
    ((plainRequest "GET" "/api/v1/bridge/tasks/tsk-000000000001" []).dispatch
      ([.request (plainRequest "POST" "/api/v1/bridge/tasks" readBody)].foldl
        OperationJournal.next [])).response =
      taskAnswer (entryOf plainCall readRepository "r" c "RUNNING" none) := by
  obtain ⟨c, hc⟩ := exists_submitted
  refine ⟨c, ?_⟩
  have haccepted : (BridgeEvent.request
      (plainRequest "POST" "/api/v1/bridge/tasks" readBody)).accepted =
        some ⟨plainCall, readRepository, c, true⟩ :=
    accepted_eq_some (r := plainRequest "POST" "/api/v1/bridge/tasks" readBody)
      (m := plainManager) (by decide) readRequest_readBody rfl (congrArg Prod.fst hc)
  have hid : (taskOf plainCall readRepository).taskId =
      (plainRequest "GET" "/api/v1/bridge/tasks/tsk-000000000001" []).lastPart := by
    decide
  rw [(bridge_tells _ _).2.1 (by decide) (by decide),
    lastAccepted_singleton haccepted (decide_eq_true hid)]
  rfl

end

end Api

end AnnyRuntime
