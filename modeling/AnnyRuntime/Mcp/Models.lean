import AnnyRuntime.Json.Encode
import AnnyRuntime.Lib.Dict

/-!
# Tools

The tools behind the gateway, their policies, and what is asked of them and answered.
-/

namespace AnnyRuntime

namespace Mcp

/-- The state of a tool. -/
inductive ToolState where
  | registered
  | available
  | disabled
  | error
  deriving DecidableEq

/-- How far an invocation is. -/
inductive ToolInvocationStatus where
  | pending
  | authorized
  | executing
  | succeeded
  | failed
  | denied
  | timedOut
  deriving DecidableEq

/-- The text of a status. -/
def ToolInvocationStatus.value : ToolInvocationStatus → String
  | pending => "PENDING"
  | authorized => "AUTHORIZED"
  | executing => "EXECUTING"
  | succeeded => "SUCCEEDED"
  | failed => "FAILED"
  | denied => "DENIED"
  | timedOut => "TIMED_OUT"

/-- A tool. -/
structure ToolDefinition where
  /-- Its id. -/
  toolId : String
  /-- Who may ask for it, when no policy says so. -/
  requiredCapability : String
  state : ToolState := .registered
  deriving DecidableEq

/-- What may be asked of a tool. -/
structure ToolPolicy where
  /-- The tool. -/
  toolId : String
  maxInvocationsPerExecution : ℤ
  /-- The limits in bytes. -/
  (maxInputSize maxOutputSize : ℤ)
  /-- The capabilities that may invoke it. -/
  allowedCallers : List String
  deriving DecidableEq

/-! ### Requests -/

/-- A value that should have been a string id. -/
structure NoId where
  /-- Values that are equal have one name. -/
  name : ℕ
  text : String
  truthy : Bool
  /-- It can be a dictionary key. -/
  hashable : Bool
  deriving DecidableEq

/-- An id, as a request has it. -/
inductive Field where
  | str (s : String)
  | other (o : NoId)
  deriving DecidableEq

namespace Field

/-- Its text in a message. -/
def text : Field → String
  | str s => s
  | other o => o.text

/-- Its truth value. -/
def truthy : Field → Bool
  | str s => s ≠ ""
  | other o => o.truthy

/-- The dictionary key that it is, or a `TypeError`. -/
def key? : Field → Option (String ⊕ ℕ)
  | str s => some (.inl s)
  | other o => if o.hashable then some (.inr o.name) else none

/-- As a value. -/
def toPy : Field → PyVal
  | str s => .str s
  | other o => .object ⟨o.name, "object", some o.text, o.truthy⟩

/-- Looking up in a dictionary whose keys are strings, or a `TypeError`. -/
def lookup {α : Type*} (d : Dict String α) : Field → Option (Option α)
  | str s => some (d.get? s)
  | other o => if o.hashable then some none else none

end Field

/-- What merging something that is no dictionary raises: the type and the text. -/
structure Crash where
  /-- The type. -/
  type : String
  /-- Its `str`, unless that raises. -/
  text : Option String
  deriving DecidableEq

/-- A request to invoke a tool. -/
structure ToolRequest where
  requestId : PyVal
  (toolId capabilityId workerId executionId : Field)
  inputData : PyVal
  /-- When it has to be done, unless that does not compare with the time. -/
  deadline : Option ℕ
  /-- What the caller adds to the context of the tool, unless merging it raises. -/
  callerContext : Except Crash (Dict String PyVal) := .ok Dict.empty

/-! ### Results -/

/-- The evidence of a result. -/
inductive Evidence where
  /-- Why there is none. -/
  | error (message : String) (status : ToolInvocationStatus)
  /-- The hashes of the result and of the input. -/
  | hashes (result input : String)
  deriving DecidableEq

/-- `evidence.get("result_hash")`. -/
def Evidence.resultHash? : Evidence → Option String
  | error _ _ => none
  | hashes result _ => some result

/-- The result of an invocation. -/
structure ToolResult where
  requestId : PyVal
  toolId : Field
  status : ToolInvocationStatus
  outputData : PyVal
  errorMessage : Option String
  (startedAt completedAt : ℕ)
  durationMs : ℤ
  evidence : Evidence

/-- `succeeded`. -/
def ToolResult.succeeded (r : ToolResult) : Bool := r.status = .succeeded

/-- What the hash of a result is taken of. -/
def evidencePayload (requestId : PyVal) (toolId : Field) (status : ToolInvocationStatus)
    (outputData : PyVal) : PyVal :=
  .ofMembers [("request_id", requestId), ("tool_id", toolId.toPy), ("status", .str status.value),
    ("output_data", outputData)]

/-! ### The registry -/

/-- The tools and their policies. -/
structure ToolRegistry where
  /-- The tools. -/
  tools : Dict String ToolDefinition
  /-- The policies. -/
  policies : Dict String ToolPolicy
  /-- A tool is under its own id. -/
  toolsKeyed : ∀ k t, tools.get? k = some t → t.toolId = k
  /-- A policy is under the id of its tool. -/
  policiesKeyed : ∀ k p, policies.get? k = some p → p.toolId = k

namespace ToolRegistry

/-- A registry without tools. -/
def empty : ToolRegistry :=
  ⟨Dict.empty, Dict.empty, fun _ _ h => absurd h (by simp), fun _ _ h => absurd h (by simp)⟩

/-- `register_tool`. -/
def registerTool (r : ToolRegistry) (tool : ToolDefinition) : ToolRegistry where
  tools := r.tools.set tool.toolId tool
  policies := r.policies
  toolsKeyed k t h := by
    rw [Dict.get?_set] at h
    split_ifs at h with hk
    · rw [← Option.some.inj h, hk]
    · exact r.toolsKeyed k t h
  policiesKeyed := r.policiesKeyed

/-- `register_policy`. -/
def registerPolicy (r : ToolRegistry) (policy : ToolPolicy) : ToolRegistry where
  tools := r.tools
  policies := r.policies.set policy.toolId policy
  toolsKeyed := r.toolsKeyed
  policiesKeyed k p h := by
    rw [Dict.get?_set] at h
    split_ifs at h with hk
    · rw [← Option.some.inj h, hk]
    · exact r.policiesKeyed k p h

/-- `get_tool`, or a `TypeError`. -/
def getTool (r : ToolRegistry) (toolId : Field) : Option (Option ToolDefinition) :=
  toolId.lookup r.tools

/-- `get_policy`, or a `TypeError`. -/
def getPolicy (r : ToolRegistry) (toolId : Field) : Option (Option ToolPolicy) :=
  toolId.lookup r.policies

/-- The state of a tool changes. -/
def setState (r : ToolRegistry) (toolId : String) (state : ToolState) : ToolRegistry :=
  match r.tools.get? toolId with
  | some tool => r.registerTool { tool with state := state }
  | none => r

/-- `disable_tool`. -/
def disableTool (r : ToolRegistry) (toolId : String) : ToolRegistry := r.setState toolId .disabled

/-- `enable_tool`. -/
def enableTool (r : ToolRegistry) (toolId : String) : ToolRegistry := r.setState toolId .available

/-- The tools at the start. -/
def initialTools : List ToolDefinition :=
  [⟨"filesystem.inspect", "filesystem.inspect", .available⟩,
    ⟨"repository.read", "repository.inspect", .available⟩,
    ⟨"repository.search", "repository.search", .available⟩,
    ⟨"fabric.read", "fabric.read", .available⟩,
    ⟨"fabric.register", "fabric.register", .available⟩]

/-- The policies at the start. -/
def initialPolicies : List ToolPolicy :=
  [⟨"filesystem.inspect", 100, 4096, 1024 * 1024,
      ["filesystem.inspect", "filesystem.list", "filesystem.hash"]⟩,
    ⟨"repository.read", 50, 4096, 10 * 1024 * 1024,
      ["repository.inspect", "repository.search", "repository.diff"]⟩,
    ⟨"repository.search", 20, 4096, 10 * 1024 * 1024, ["repository.search"]⟩,
    ⟨"fabric.read", 50, 4096, 1024 * 1024, ["fabric.read", "repository.inspect"]⟩,
    ⟨"fabric.register", 10, 64 * 1024, 1024 * 1024, ["fabric.register"]⟩]

/-- `ToolRegistry()`. -/
def init : ToolRegistry :=
  initialPolicies.foldl registerPolicy (initialTools.foldl registerTool empty)

end ToolRegistry

end Mcp

end AnnyRuntime
