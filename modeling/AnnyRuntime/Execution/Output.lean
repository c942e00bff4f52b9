import AnnyRuntime.Execution.Worker
import AnnyRuntime.Json.Access
import AnnyRuntime.Json.Number
import AnnyRuntime.Json.RoundTrip
import AnnyRuntime.Mcp.Quota

/-!
# The size of results

A result comes from the gateway, from a deterministic handler, from a local model or from a frontier
model (`Route`).  A deterministic handler stores its result through `_limit_output`; the other
routes store theirs as it is, and nothing compares it with the limit of the capability or with the
one of the policy of the tool.  So the limits hold exactly when what the other routes produce fits
them anyway (`outputBounded_iff`).
-/

namespace AnnyRuntime

namespace Execution

/-! ### Sizes and limits -/

/-- `size > limit`, which raises a `TypeError` when the limit is no number. -/
def exceeds (A : FloatArith) (size : ℕ) (limit : Json) : Except Raised Bool :=
  match limit.number? with
  | some n => .ok (PyNumber.lt A n (.int size))
  | none => .error (.other ("'>' not supported between instances of 'int' and '" ++
      limit.typeName ++ "'"))

theorem exceeds_int (A : FloatArith) (size : ℕ) (n : ℤ) :
    exceeds A size (.int n) = .ok (decide (n < size)) := by
  simp [exceeds, Json.number?, PyNumber.lt_int]

/-! ### Through the gateway -/

/-- The request that a worker makes of the gateway. -/
def toolRequest (requestId : String) (worker : WorkerDefinition) (task : Task)
    (c : TaskExecutionContext) : Mcp.ToolRequest where
  requestId := .str requestId
  toolId := .str task.capabilityId
  capabilityId := .str task.capabilityId
  workerId := .str worker.workerId
  executionId := .str c.executionId
  inputData := .ofJson (.obj task.input)
  deadline := some c.deadline
  callerContext := .ok (.ofList [("workspace_path", .str c.workspacePath)])

/-- What a worker sees of an invocation; the text of an exception that escapes is not modelled. -/
def answerOf (i : Mcp.Invocation) : Except Raised ToolResult :=
  match i.result with
  | none => .error (.other "")
  | some r => .ok
      { succeeded := r.succeeded
        outputData := (r.outputData.encode true).getD .null
        resultHash := r.evidence.resultHash?
        status := r.status.value
        errorMessage := r.errorMessage.getD "None" }

/-- A worker of a manager that has this gateway. -/
def World.through (w : World) (g : Mcp.MCPGateway) (tools : Mcp.World) (requestId : String)
    (worker : WorkerDefinition) (task : Task) (c : TaskExecutionContext) : World :=
  { w with gateway := some (answerOf (g.invoke tools (toolRequest requestId worker task c))) }

/-! ### Routes and what they produce -/

/-- Where a result comes from. -/
inductive Route where
  | gateway
  | handler
  | localModel
  | frontier
  deriving DecidableEq

/-- The route of a worker's task, when its executor is supported. -/
def routeOf (worker : WorkerDefinition) (task : Task) : Option Route :=
  if worker.executorType = "DETERMINISTIC" then
    if task.capabilityId ∈ externalCapabilities then some .gateway else some .handler
  else if worker.executorType = "LOCAL_MODEL" then some .localModel
  else if worker.executorType = "REMOTE_MODEL" ∨ worker.executorType = "FRONTIER_MODEL" then
    some .frontier
  else none

/-- What a route comes up with. -/
def Route.produces (w : World) (task : Task) : Route → Option Json
  | gateway => match w.gateway with
    | some (.ok r) => if r.succeeded then some r.outputData else none
    | _ => none
  | handler => match w.handler with
    | .ok (result, _) => if task.capabilityId ∈ supportedCapabilities then some result else none
    | .error _ => none
  | localModel => match w.localModel with
    | some (.ok (result, _)) => some result
    | _ => none
  | frontier => match w.frontier with
    | some (.ok result) => some result
    | _ => none

/-- What the executor of a worker comes up with, unless the worker is late. -/
def produced (w : World) (worker : WorkerDefinition) (task : Task) : Option Json :=
  if w.late then none else (routeOf worker task).bind (Route.produces w task)

/-- The limits on a result: that of the capability, and behind the gateway that of the tool. -/
def bounds (policy : Option Mcp.ToolPolicy) (worker : WorkerDefinition) (task : Task)
    (c : TaskExecutionContext) : List ℤ :=
  c.maxOutputSize ::
    if routeOf worker task = some .gateway then
      (policy.map Mcp.ToolPolicy.maxOutputSize).toList
    else []

/-- A result is within the limits. -/
def Fits (limits : List ℤ) (j : Json) : Prop := ∀ n ∈ limits, ((Json.dumps j).length : ℤ) ≤ n

/-- **The bound on results.**  A result of an execution that succeeded is within the limits, and an
executor that comes up with a larger one leaves a limit exceeded and no result. -/
structure OutputBounded (limits : List ℤ) (made : Option Json) (c : TaskExecutionContext) :
    Prop where
  succeeded : c.status = .succeeded → ∀ j, c.result = some j → Fits limits j
  limited : ∀ j, made = some j → ¬ Fits limits j → c.status = .limitExceeded ∧ c.result = none

/-- An execution as a submission leaves it. -/
structure Fresh (c : TaskExecutionContext) : Prop where
  status : c.status = .queued
  result : c.result = none

/-! ### What keeps a result -/

@[simp] theorem result_fail (c : TaskExecutionContext) (s : ExecutionStatus) (r : FailureReason)
    (m : Option String) : (c.fail s r m).result = c.result := rfl

@[simp] theorem result_caught (c : TaskExecutionContext) (r : Raised) :
    (c.caught r).result = c.result := by
  cases r <;> rfl

@[simp] theorem result_handle (c : TaskExecutionContext) (r : Raised) :
    (handle c r).result = c.result := by
  cases r <;> rfl

@[simp] theorem result_finalizeWorkspace (c : TaskExecutionContext)
    (ws : Except Raised (Option (String × Bool))) :
    (c.finalizeWorkspace ws).1.result = c.result := by
  unfold TaskExecutionContext.finalizeWorkspace
  split
  · rfl
  · rfl
  · dsimp only
    split_ifs <;> rfl

theorem result_endContext (w : World) (worker : WorkerDefinition) (task : Task)
    (c : TaskExecutionContext) :
    (endContext w worker task c).result = (runWorker w worker task c).1.result := by
  unfold endContext
  dsimp only
  split
  · rfl
  · exact result_handle _ _

variable {w : World} {worker : WorkerDefinition} {task : Task} {c : TaskExecutionContext}

/-! ### The routes that store what they produce -/

theorem result_executeExternal (hc : c.result = none) :
    (executeExternal w c).1.result = Route.gateway.produces w task := by
  simp only [executeExternal, Route.produces]
  cases w.gateway with
  | none => exact hc
  | some answer =>
    cases answer with
    | error r => exact hc
    | ok r =>
      cases hr : r.succeeded with
      | true => simp [hr]
      | false =>
        simp only [hr, Bool.false_eq_true, if_false]
        split_ifs <;> exact hc

theorem result_executeLocal (hc : c.result = none) :
    (executeLocal w c).1.result = Route.localModel.produces w task := by
  simp only [executeLocal, Route.produces]
  cases w.localModel with
  | none => exact hc
  | some answer =>
    cases answer with
    | error r => exact hc
    | ok found => rfl

theorem result_executeFrontier (hc : c.result = none) (m : Option String) :
    (executeFrontier w m c).1.result = Route.frontier.produces w task := by
  simp only [executeFrontier, Route.produces]
  cases w.frontier with
  | none => exact hc
  | some answer =>
    cases answer with
    | error r => exact hc
    | ok result => rfl

/-! ### The handler, which stores within the limit -/

/-- A result that is too large is not stored. -/
theorem handled_large {result : Json} (h : c.maxOutputSize < (Json.dumps result).length)
    (raised : Option Raised) : c.handled (.ok (result, raised)) =
      c.caught (.limits "Output size exceeded maximum limit") := by
  simp only [TaskExecutionContext.handled, TaskExecutionContext.limitOutput, if_pos h]

/-- A result within the limit is stored. -/
theorem result_handled {result : Json} (h : ¬ c.maxOutputSize < (Json.dumps result).length)
    (raised : Option Raised) : (c.handled (.ok (result, raised))).result = some result := by
  simp only [TaskExecutionContext.handled, TaskExecutionContext.limitOutput, if_neg h]
  cases raised with
  | none => rfl
  | some r => exact result_caught _ r

/-- What a handler leaves: what it came up with, unless that is too large. -/
theorem result_executeDeterministic (hc : Fresh c) :
    (executeDeterministic w task c).1.result =
      (Route.handler.produces w task).filter fun j =>
        ¬ c.maxOutputSize < (Json.dumps j).length := by
  simp only [Route.produces]
  by_cases hs : task.capabilityId ∈ supportedCapabilities
  · rw [executeDeterministic_supported hc.status hs, result_finalizeWorkspace]
    simp only [hs, if_true]
    cases w.handler with
    | error r => exact (result_caught _ r).trans hc.result
    | ok found =>
      obtain ⟨result, raised⟩ := found
      by_cases hlarge : c.maxOutputSize < (Json.dumps result).length
      · rw [handled_large (c := c.running) hlarge, result_caught]
        simp only [Option.filter, hlarge, not_true_eq_false, decide_false]
        exact hc.result
      · rw [result_handled (c := c.running) hlarge]
        simp [Option.filter, not_lt.1 hlarge]
  · unfold executeDeterministic
    rw [if_neg (not_not.2 hc.status), if_pos hs]
    simp only [hs, if_false]
    cases w.handler <;> exact hc.result

/-- When the result of a handler is too large, the execution exceeds its limit, unless writing to
its workspace raises something. -/
theorem executeDeterministic_large (hc : Fresh c) (hs : task.capabilityId ∈ supportedCapabilities)
    {result : Json} {raised : Option Raised} (hw : w.handler = .ok (result, raised))
    (hlarge : c.maxOutputSize < (Json.dumps result).length) :
    (executeDeterministic w task c).1.status = .limitExceeded ∧
      ∀ r, (executeDeterministic w task c).2 = some r ↔ w.workspace = .error r := by
  rw [executeDeterministic_supported hc.status hs, hw, handled_large (c := c.running) hlarge]
  unfold TaskExecutionContext.finalizeWorkspace
  cases w.workspace with
  | error r => simp [TaskExecutionContext.caught, TaskExecutionContext.fail]
  | ok found =>
    cases found with
    | none => simp [TaskExecutionContext.caught, TaskExecutionContext.fail]
    | some p =>
      obtain ⟨hash, tooLarge⟩ := p
      cases tooLarge <;> simp [TaskExecutionContext.caught, TaskExecutionContext.fail]

/-! ### The bound -/

/-- What a worker does, by its route. -/
theorem runWorker_eq : runWorker w worker task c =
    if w.late then (c, some (.timeout "Deadline exceeded before execution"))
    else match routeOf worker task with
      | some .gateway => executeExternal w c
      | some .handler => executeDeterministic w task c
      | some .localModel => executeLocal w c
      | some .frontier => executeFrontier w worker.modelId c
      | none => ({ c with status := .failed, failureReason := some .unsupportedExecutor }, none) := by
  unfold runWorker routeOf
  split_ifs <;> rfl

/-- The result of an execution is what its route came up with, except that a handler does not keep
what is too large. -/
theorem result_endContext_eq (w : World) (worker : WorkerDefinition) (task : Task)
    (hc : Fresh c) :
    (endContext w worker task c).result =
      if routeOf worker task = some .handler then
        (produced w worker task).filter fun j => ¬ c.maxOutputSize < (Json.dumps j).length
      else produced w worker task := by
  rw [result_endContext, runWorker_eq, produced]
  cases w.late with
  | true => simp [hc.result]
  | false =>
    simp only [Bool.false_eq_true, if_false]
    cases routeOf worker task with
    | none => simp [hc.result]
    | some route =>
      cases route with
      | gateway => simpa using result_executeExternal hc.result
      | handler => simpa using result_executeDeterministic hc
      | localModel => simpa using result_executeLocal hc.result
      | frontier => simpa using result_executeFrontier hc.result worker.modelId

/-- A handler that came up with too much leaves a limit exceeded, exactly when writing to the
workspace raises nothing but that. -/
theorem status_endContext_large (hc : Fresh c) (hroute : routeOf worker task = some .handler)
    {j : Json} (hj : produced w worker task = some j)
    (hlarge : c.maxOutputSize < (Json.dumps j).length) :
    (endContext w worker task c).status = .limitExceeded ↔
      ∀ r, w.workspace = .error r → ∃ m, r = .limits m := by
  -- an execution that is out of time has nothing to store
  have hlate : w.late = false := by
    by_contra h
    rw [produced, if_pos (by simpa using h)] at hj
    cases hj
  rw [produced, hlate, hroute] at hj
  simp only [Bool.false_eq_true, if_false, Option.bind_some, Route.produces] at hj
  split at hj
  · rename_i result raised hw
    split_ifs at hj with hs
    obtain rfl := Option.some.inj hj
    obtain ⟨hstatus, hraised⟩ := executeDeterministic_large hc hs hw hlarge
    have hrun : runWorker w worker task c = executeDeterministic w task c := by
      rw [runWorker_eq, hlate, hroute]
      rfl
    unfold endContext
    simp only [hrun]
    cases hr : (executeDeterministic w task c).2 with
    | none =>
      refine iff_of_true hstatus fun r hws => ?_
      rw [(hraised r).2 hws] at hr
      cases hr
    | some r =>
      rw [(hraised r).1 hr]
      cases r <;> simp [handle, TaskExecutionContext.fail]
  · cases hj

/-- **When results are bounded.**  The limits hold of an execution exactly when what its executor
comes up with is within them, or a deterministic handler came up with it and writing to the
workspace raises nothing but a limit. -/
theorem outputBounded_iff (g : Mcp.MCPGateway) (tools : Mcp.World) (requestId : String)
    (hc : Fresh c) :
    let world := w.through g tools requestId worker task c
    let limits := bounds (g.toolRegistry.policies.get? task.capabilityId) worker task c
    OutputBounded limits (produced world worker task) (endContext world worker task c) ↔
      ∀ j, produced world worker task = some j → Fits limits j ∨
        routeOf worker task = some .handler ∧
          ∀ r, w.workspace = .error r → ∃ m, r = .limits m := by
  intro world limits
  have hresult := result_endContext_eq world worker task hc
  by_cases hroute : routeOf worker task = some .handler
  · -- the only limit is that of the capability
    have hfits (j : Json) : Fits limits j ↔ ¬ c.maxOutputSize < (Json.dumps j).length := by
      simp [limits, bounds, hroute, Fits]
    rw [if_pos hroute] at hresult
    constructor
    · intro h j hj
      by_cases hlarge : c.maxOutputSize < (Json.dumps j).length
      · have hstatus := (h.limited j hj fun hf => (hfits j).1 hf hlarge).1
        exact Or.inr ⟨hroute, (status_endContext_large hc hroute hj hlarge).1 hstatus⟩
      · exact Or.inl ((hfits j).2 hlarge)
    · intro h
      refine ⟨fun _ j hj => ?_, fun j hj hlarge => ?_⟩
      · rw [hresult, Option.filter_eq_some_iff] at hj
        exact (hfits j).2 (by simpa using hj.2)
      · have hlarge' : c.maxOutputSize < (Json.dumps j).length := by
          rwa [hfits, not_not] at hlarge
        have hworkspace := ((h j hj).resolve_left hlarge).2
        refine ⟨(status_endContext_large hc hroute hj hlarge').2 hworkspace, ?_⟩
        rw [hresult, hj]
        simp [Option.filter, hlarge']
  · -- on the other routes the result is stored as it comes
    rw [if_neg hroute] at hresult
    constructor
    · intro h j hj
      by_contra hcon
      have hnone := (h.limited j hj fun hf => hcon (Or.inl hf)).2
      rw [hresult, hj] at hnone
      cases hnone
    · intro h
      have hfits (j : Json) (hj : produced world worker task = some j) : Fits limits j :=
        (h j hj).resolve_right fun hh => hroute hh.1
      refine ⟨fun _ j hj => hfits j (hresult ▸ hj), fun j hj hlarge => absurd (hfits j hj) hlarge⟩

/-! ### A listing, and an answer of a frontier model -/

/-- A task. -/
def sampleTask (capabilityId : String) : Task where
  taskId := "task-1"
  capabilityId := capabilityId
  accountId := "account"
  projectId := "project"

/-- Its execution. -/
def sampleContext (capabilityId : String) : TaskExecutionContext where
  executionId := "e-1"
  taskId := .str "task-1"
  capabilityId := .str capabilityId
  accountId := "account"
  projectId := "project"
  workspacePath := "/workspace"
  deadline := 100
  resourceLimits := [("max_output_size", .int (1024 * 1024))]
  networkPolicy := "disabled"
  writePolicy := "read_only"

/-- Its worker. -/
def sampleWorker (capabilityId executorType : String) : WorkerDefinition where
  workerId := "wrk-1"
  executionId := "e-1"
  taskId := .str "task-1"
  capabilityId := .str capabilityId
  accountId := "account"
  projectId := "project"
  executorType := executorType
  executorId := "executor"
  modelId := none
  workspaceId := "/workspace"
  deadline := 100
  resourceLimits := [("max_output_size", .int (1024 * 1024))]
  networkPolicy := "disabled"
  filesystemPolicy := "read_only"

theorem fresh_sampleContext (capabilityId : String) : Fresh (sampleContext capabilityId) :=
  ⟨rfl, rfl⟩

/-- The listing of an empty directory. -/
theorem outputBounded_listing :
    let w : World := { handler := .ok (.arr [], none) }
    let worker := sampleWorker "filesystem.list" "DETERMINISTIC"
    let task := sampleTask "filesystem.list"
    let c := sampleContext "filesystem.list"
    let world := w.through Mcp.Session.searchGateway
      (Mcp.Session.searching (.failed none)) "treq-1" worker task c
    OutputBounded (bounds none worker task c) (some (.arr [])) (endContext world worker task c) := by
  refine (@outputBounded_iff { handler := .ok (.arr [], none) }
    (sampleWorker "filesystem.list" "DETERMINISTIC") (sampleTask "filesystem.list") _
    Mcp.Session.searchGateway (Mcp.Session.searching (.failed none)) "treq-1"
    (fresh_sampleContext "filesystem.list")).2 fun j _ => Or.inr ⟨rfl, fun r hr => ?_⟩
  cases hr

/-- An answer of so many letters. -/
def longAnswer (n : ℕ) : Json := .str (String.ofList (List.replicate n 'a'))

theorem length_longAnswer (n : ℕ) : n < (Json.dumps (longAnswer n)).length := by
  have h := Json.length_le_flatMap (List.replicate n 'a')
  rw [List.length_replicate] at h
  simp only [longAnswer, Json.dumps, Json.quote, String.toList_ofList, List.length_cons,
    List.length_append]
  omega

/-- A frontier model answers with more than the limit of the capability: the execution succeeds. -/
theorem not_outputBounded_frontier : ¬ ∀ (w : World) (g : Mcp.MCPGateway) (tools : Mcp.World)
    (requestId : String) (worker : WorkerDefinition) (task : Task) (c : TaskExecutionContext),
    Fresh c →
      let world := w.through g tools requestId worker task c
      OutputBounded (bounds (g.toolRegistry.policies.get? task.capabilityId) worker task c)
        (produced world worker task) (endContext world worker task c) := by
  intro h
  have hb := h { frontier := some (.ok (longAnswer (1024 * 1024))) } Mcp.Session.searchGateway
    (Mcp.Session.searching (.failed none)) "treq-1" (sampleWorker "document.classify" "REMOTE_MODEL")
    (sampleTask "document.classify") (sampleContext "document.classify") (fresh_sampleContext _)
  have hlarge := (hb.limited (longAnswer (1024 * 1024)) rfl fun hfits => ?_).2
  · cases hlarge
  · have hle := hfits (1024 * 1024) (List.mem_cons_self)
    have hlt := length_longAnswer (1024 * 1024)
    omega

end Execution

end AnnyRuntime
