import AnnyRuntime.Execution.Capability
import AnnyRuntime.Mcp.Tools

/-!
# The gateway

`MCPGateway.invoke` checks a request, runs the implementation of its tool, and accounts for the
run: evidence, the count of invocations, an audit record.

The checks are one after the other (`Check.andThen`), and each passes, refuses the request or
raises.  `Invocation` is all that an invocation does: the gateway after it, the run of the
implementation when there is one, what is written to the audit log, and the result, unless an
exception escapes.
-/

namespace AnnyRuntime

namespace Mcp

open Execution

/-- The gateway. -/
structure MCPGateway where
  toolRegistry : ToolRegistry
  capabilityRegistry : CapabilityRegistry
  /-- There is an audit manager. -/
  auditing : Bool
  (workspacePath fabricDataDir : String)
  /-- The clients, or `None`. -/
  (githubClient fabricClient : PyVal)
  /-- The counts of invocations, by execution and tool. -/
  invocationCounts : Dict (String ⊕ ℕ) (Dict String ℕ) := Dict.empty

/-- What an invocation meets. -/
structure World where
  /-- The time at its start, at the check of the deadline, and at its end. -/
  (startedAt now completedAt : ℕ)
  /-- The implementations of the tools. -/
  implementations : String → Option Implementation
  /-- The audit manager records what it is given. -/
  records : Bool := true
  /-- The digest of the text of a value, with sorted keys. -/
  digest : Json → String

/-- A run of an implementation. -/
structure Run where
  toolId : String
  executionId : Field
  input : PyVal
  context : Context

/-- A record of the audit log. -/
structure AuditRecord where
  eventType : String
  details : String
  deriving DecidableEq

/-- What an invocation does. -/
structure Invocation where
  /-- The gateway after it. -/
  gateway : MCPGateway
  /-- The run of the implementation. -/
  ran : Option Run := none
  /-- What is recorded. -/
  audits : List AuditRecord := []
  /-- What it returns, unless it raises. -/
  result : Option ToolResult

/-! ### Checks -/

/-- How a check ends. -/
inductive Check where
  | admitted
  /-- The request is refused, perhaps with an audit record of this type. -/
  | refused (status : ToolInvocationStatus) (message : String) (audit : Option String)
  /-- An exception escapes. -/
  | raises
  deriving DecidableEq

/-- One check after the other. -/
def Check.andThen : Check → Check → Check
  | admitted, c => c
  | refused s m a, _ => refused s m a
  | raises, _ => raises

@[simp] theorem Check.andThen_eq_admitted {a b : Check} :
    a.andThen b = .admitted ↔ a = .admitted ∧ b = .admitted := by
  cases a <;> simp [andThen]

@[simp] theorem Check.andThen_eq_raises {a b : Check} :
    a.andThen b = .raises ↔ a = .raises ∨ a = .admitted ∧ b = .raises := by
  cases a <;> simp [andThen]

/-- `_validate_request`. -/
def validateRequest (req : ToolRequest) : Check :=
  if !req.toolId.truthy then .refused .failed "Missing tool_id" none
  else if !req.capabilityId.truthy then .refused .failed "Missing capability_id" none
  else if !req.workerId.truthy then
    .refused .failed "Missing worker_id (Phase 6: worker boundary)" none
  else if !req.executionId.truthy then .refused .failed "Missing execution_id" none
  else .admitted

/-- An `AuthorizationDeniedError`. -/
def unauthorized (message : String) : Check :=
  .refused .denied message (some "TOOL_AUTHORIZATION_DENIED")

/-- The text of a list of strings without quotes in them. -/
def listText (l : List String) : String :=
  "[" ++ ", ".intercalate (l.map fun s => "'" ++ s ++ "'") ++ "]"

namespace MCPGateway

/-- The capability may invoke the tool. -/
def checkCaller (tool : ToolDefinition) (policy : Option ToolPolicy) (req : ToolRequest) : Check :=
  match policy with
  | some p =>
    if req.capabilityId ∈ p.allowedCallers.map Field.str then .admitted
    else unauthorized ("Capability " ++ req.capabilityId.text
      ++ " is not authorized to invoke tool " ++ req.toolId.text ++ ". Allowed: "
      ++ listText p.allowedCallers)
  | none =>
    if req.capabilityId = .str tool.requiredCapability then .admitted
    else unauthorized ("Capability " ++ req.capabilityId.text ++ " does not match required "
      ++ tool.requiredCapability)

/-- The capability exists and is enabled. -/
def checkCapability (g : MCPGateway) (req : ToolRequest) : Check :=
  match req.capabilityId.lookup g.capabilityRegistry.capabilities with
  | none => .raises
  | some none => unauthorized ("Capability " ++ req.capabilityId.text ++ " not found in registry")
  | some (some cap) =>
    if cap.enabled then .admitted
    else unauthorized ("Capability " ++ req.capabilityId.text ++ " is disabled")

/-- `_authorize`. -/
def authorize (g : MCPGateway) (req : ToolRequest) : Check :=
  match g.toolRegistry.getTool req.toolId, g.toolRegistry.getPolicy req.toolId with
  | some none, _ => .refused .failed ("Tool " ++ req.toolId.text ++ " not registered") none
  | some (some tool), some policy => (checkCaller tool policy req).andThen (g.checkCapability req)
  | _, _ => .raises

/-- The tool is available. -/
def resolve (g : MCPGateway) (req : ToolRequest) : Check :=
  match g.toolRegistry.getTool req.toolId with
  | none => .raises
  | some tool =>
    if tool.any fun t => t.state = .available then .admitted
    else .refused .failed ("Tool " ++ req.toolId.text ++ " not available") none

/-- How often a tool was invoked for an execution. -/
def count (g : MCPGateway) (execution : String ⊕ ℕ) (toolId : String) : ℕ :=
  ((g.invocationCounts.get? execution).bind fun c => c.get? toolId).getD 0

/-- A `PolicyViolationError`. -/
def violation (message : String) : Check := .refused .denied message (some "TOOL_POLICY_VIOLATION")

/-- The input is not too large. -/
def checkInput (p : ToolPolicy) (input : PyVal) : Check :=
  match input.encode false with
  | none => .raises
  | some j =>
    let size := (Json.dumps j).length
    if p.maxInputSize < size then
      violation ("Input size " ++ toString size ++ " exceeds policy limit "
        ++ toString p.maxInputSize)
    else .admitted

/-- `_enforce_policy`. -/
def enforcePolicy (g : MCPGateway) (req : ToolRequest) : Check :=
  match g.toolRegistry.getPolicy req.toolId, req.executionId.key? with
  | some none, _ => .admitted
  | some (some p), some k =>
    let current := g.count k req.toolId.text
    if p.maxInvocationsPerExecution ≤ current then
      violation ("Tool " ++ req.toolId.text ++ " invocation limit exceeded: " ++ toString current
        ++ "/" ++ toString p.maxInvocationsPerExecution)
    else checkInput p req.inputData
  | _, _ => .raises

/-- The deadline is not past. -/
def checkDeadline (now : ℕ) (req : ToolRequest) : Check :=
  match req.deadline with
  | none => .raises
  | some d =>
    if d < now then .refused .timedOut "Deadline exceeded before execution" none else .admitted

/-- All that is checked before a tool is run. -/
def check (g : MCPGateway) (now : ℕ) (req : ToolRequest) : Check :=
  (validateRequest req).andThen <| (g.authorize req).andThen <| (g.resolve req).andThen <|
    (g.enforcePolicy req).andThen (checkDeadline now req)

/-! ### Running a tool -/

/-- What the gateway says in the context of a tool. -/
def ownContext (g : MCPGateway) (req : ToolRequest) : Context :=
  .ofList [("workspace_path", .str g.workspacePath), ("fabric_data_dir", .str g.fabricDataDir),
    ("max_output_size", .int (10 * 1024 * 1024)), ("caller_id", req.capabilityId.toPy),
    ("github_client", g.githubClient), ("fabric_client", g.fabricClient)]

/-- The context of a tool. -/
def context (g : MCPGateway) (req : ToolRequest) (callerContext : Dict String PyVal) : Context :=
  (g.ownContext req).update callerContext

/-- One more invocation. -/
def track (g : MCPGateway) (execution : String ⊕ ℕ) (toolId : String) : MCPGateway :=
  { g with
    invocationCounts := g.invocationCounts.set execution
      (((g.invocationCounts.get? execution).getD Dict.empty).set toolId
        (g.count execution toolId + 1)) }

/-- `_emit_audit`. -/
def emitAudit (g : MCPGateway) (w : World) (eventType : String) (req : ToolRequest)
    (details : String) : List AuditRecord :=
  if g.auditing && w.records then
    [⟨eventType, "tool=" ++ req.toolId.text ++ " cap=" ++ req.capabilityId.text ++ " worker="
      ++ req.workerId.text ++ " " ++ details⟩]
  else []

/-- `_make_error_result`. -/
def makeErrorResult (w : World) (req : ToolRequest) (message : String)
    (status : ToolInvocationStatus) : ToolResult where
  requestId := req.requestId
  toolId := req.toolId
  status := status
  outputData := .none
  errorMessage := some message
  startedAt := w.startedAt
  completedAt := w.completedAt
  durationMs := (w.completedAt : ℤ) - w.startedAt
  evidence := .error message status

/-- A tool crashed. -/
def crash (g : MCPGateway) (w : World) (req : ToolRequest) (ran : Option Run) (e : Crash) :
    Invocation :=
  match e.text with
  | none => { gateway := g, ran := ran, result := none }
  | some text =>
    { gateway := g
      ran := ran
      audits := g.emitAudit w "TOOL_CRASH" req text
      result := some (makeErrorResult w req ("Tool crash: " ++ e.type) .failed) }

/-- The audit details of a run that succeeded. -/
def successDetails (durationMs : ℤ) (resultHash : String) : String :=
  String.ofList (Json.dumps (.obj [("duration_ms", .int durationMs),
    ("result_hash", .str resultHash)]))

/-- A tool returned: the evidence, the count, the audit record and the result. -/
def succeed (g : MCPGateway) (w : World) (req : ToolRequest) (run : Run) (output input : PyVal) :
    Invocation :=
  let payload := evidencePayload req.requestId req.toolId .succeeded output
  match payload.encode true, input.encode true, req.executionId.key? with
  | some payload, some input, some k =>
    let durationMs := (w.completedAt : ℤ) - w.startedAt
    let resultHash := w.digest payload
    let result : ToolResult :=
      { requestId := req.requestId
        toolId := req.toolId
        status := .succeeded
        outputData := output
        errorMessage := none
        startedAt := w.startedAt
        completedAt := w.completedAt
        durationMs := durationMs
        evidence := .hashes resultHash (w.digest input) }
    { gateway := g.track k run.toolId
      ran := some run
      audits := g.emitAudit w "TOOL_INVOCATION_SUCCESS" req (successDetails durationMs resultHash)
      result := some result }
  -- the tool has run, but nothing accounts for it
  | _, _, _ => { gateway := g, ran := some run, result := none }

/-- How the run of a tool ends. -/
def conclude (g : MCPGateway) (w : World) (req : ToolRequest) (run : Run) : Outcome → Invocation
  | .failed (some text) =>
    { gateway := g
      ran := some run
      audits := g.emitAudit w "TOOL_EXECUTION_ERROR" req text
      result := some (makeErrorResult w req text .failed) }
  | .failed none | .aborted => { gateway := g, ran := some run, result := none }
  | .crashed e => g.crash w req (some run) e
  | .returned output input => g.succeed w req run output input

/-- A request that passed all checks. -/
def execute (g : MCPGateway) (w : World) (req : ToolRequest) : Invocation :=
  match w.implementations req.toolId.text, req.callerContext with
  | none, _ =>
    g.crash w req none
      ⟨"ToolNotFoundError", some ("No implementation for tool " ++ req.toolId.text)⟩
  | some _, .error e => g.crash w req none e
  | some impl, .ok callerContext =>
    let ctx := g.context req callerContext
    g.conclude w req ⟨req.toolId.text, req.executionId, req.inputData, ctx⟩
      (impl req.inputData ctx)

/-- `invoke`. -/
def invoke (g : MCPGateway) (w : World) (req : ToolRequest) : Invocation :=
  match g.check w.now req with
  | .raises => { gateway := g, result := none }
  | .refused status message audit =>
    { gateway := g
      audits := (audit.map fun eventType => g.emitAudit w eventType req message).getD []
      result := some (makeErrorResult w req message status) }
  | .admitted => g.execute w req

/-! ### Counting -/

variable {g : MCPGateway} {w : World} {req : ToolRequest}

@[simp] theorem count_track (k k' : String ⊕ ℕ) (t t' : String) :
    (g.track k t).count k' t' = g.count k' t' + if k' = k ∧ t' = t then 1 else 0 := by
  unfold track count
  rw [Dict.get?_set]
  by_cases hk : k' = k
  · subst hk
    rw [if_pos rfl, Option.bind_some, Dict.get?_set]
    by_cases ht : t' = t
    · subst ht
      simp
    · rw [if_neg ht, if_neg (fun h => ht h.2)]
      cases g.invocationCounts.get? k' with
      | none => simp
      | some c => simp
  · rw [if_neg hk, if_neg fun h => hk h.1]
    rfl

@[simp] theorem toolRegistry_track (k : String ⊕ ℕ) (t : String) :
    (g.track k t).toolRegistry = g.toolRegistry := rfl

/-! ### What an invocation does -/

/-- A tool that is looked up has a string for its id. -/
theorem lookup_eq_some {α : Type*} {d : Dict String α} {f : Field} {a : α}
    (h : f.lookup d = some (some a)) : ∃ s, f = .str s ∧ d.get? s = some a := by
  cases f with
  | str s => exact ⟨s, rfl, Option.some.inj h⟩
  | other o =>
    simp only [Field.lookup] at h
    split_ifs at h
    simp at h

/-- A request that is admitted is for an available tool, and within its policy. -/
theorem check_admitted (h : g.check w.now req = .admitted) :
    ∃ t tool, req.toolId = .str t ∧ g.toolRegistry.tools.get? t = some tool ∧
      tool.state = .available ∧
      ∀ p, g.toolRegistry.policies.get? t = some p →
        ∃ k, req.executionId.key? = some k ∧ (g.count k t : ℤ) < p.maxInvocationsPerExecution := by
  simp only [check, Check.andThen_eq_admitted] at h
  obtain ⟨-, -, hresolve, hpolicy, -⟩ := h
  unfold resolve at hresolve
  split at hresolve
  · cases hresolve
  rename_i found hfound
  split_ifs at hresolve with havailable
  obtain ⟨tool, rfl, hstate⟩ := (Option.any_eq_true _ _).1 havailable
  obtain ⟨t, ht, htool⟩ := lookup_eq_some hfound
  refine ⟨t, tool, ht, htool, of_decide_eq_true hstate, fun p hp => ?_⟩
  -- with a tool id that names a tool, the policy is looked up under the same text
  have hget : g.toolRegistry.getPolicy req.toolId = some (some p) := by
    rw [ht]
    exact congrArg some hp
  unfold enforcePolicy at hpolicy
  rw [hget] at hpolicy
  cases hk : req.executionId.key? with
  | none =>
    rw [hk] at hpolicy
    cases hpolicy
  | some k =>
    rw [hk, ht] at hpolicy
    dsimp only [Field.text] at hpolicy
    split_ifs at hpolicy with hlt
    · cases hpolicy
    · exact ⟨k, rfl, not_le.1 hlt⟩

theorem gateway_crash (ran : Option Run) (e : Crash) : (g.crash w req ran e).gateway = g := by
  unfold crash
  split <;> rfl

theorem ran_crash (ran : Option Run) (e : Crash) : (g.crash w req ran e).ran = ran := by
  unfold crash
  split <;> rfl

theorem ran_conclude (run : Run) (o : Outcome) : (g.conclude w req run o).ran = some run := by
  unfold conclude
  split
  · rfl
  · rfl
  · rfl
  · exact ran_crash _ _
  · unfold succeed
    dsimp only
    split <;> rfl

/-- A run is of a request that was admitted. -/
theorem ran_invoke {run : Run} (h : (g.invoke w req).ran = some run) :
    g.check w.now req = .admitted ∧
      ∃ impl callerContext, w.implementations req.toolId.text = some impl ∧
        req.callerContext = .ok callerContext ∧
        run = ⟨req.toolId.text, req.executionId, req.inputData, g.context req callerContext⟩ ∧
        g.invoke w req = g.conclude w req run (impl req.inputData run.context) := by
  unfold invoke at h ⊢
  split at h
  · cases h
  · cases h
  · rename_i hadmitted
    refine ⟨hadmitted, ?_⟩
    unfold execute at h ⊢
    split at h
    · rw [ran_crash] at h
      cases h
    · rw [ran_crash] at h
      cases h
    · rename_i impl cc himpl hcc
      rw [ran_conclude] at h
      obtain rfl := Option.some.inj h
      exact ⟨impl, cc, himpl, hcc, rfl, rfl⟩

/-- Without a run the gateway stays as it is. -/
theorem gateway_of_ran_eq_none (h : (g.invoke w req).ran = none) :
    (g.invoke w req).gateway = g := by
  unfold invoke at h ⊢
  split at h
  · rfl
  · rfl
  · unfold execute at h ⊢
    split at h
    · exact gateway_crash _ _
    · exact gateway_crash _ _
    · rw [ran_conclude] at h
      cases h

end MCPGateway

end Mcp

end AnnyRuntime
