import AnnyRuntime.Json.Basic
import AnnyRuntime.Lib.Call
import AnnyRuntime.Lib.DateTime
import AnnyRuntime.Lib.Guard

/-!
# The authorized execution pipeline

`execute` checks the context of a request, looks the tool up, checks the capabilities and the
workspace that the tool's manifest asks for, and calls the tool's handler with the context and the
arguments of the request as keywords.  What the handler raises ends up in the receipt.

The clock of the pipeline is naive, and a context whose times are aware cannot be compared with it:
then a `TypeError` is raised (`ExecutionContext.isValid`).
-/

namespace AnnyRuntime

namespace Pipeline

/-- `execution_context.ExecutionContext`, with all of its fields. -/
structure ExecutionContext where
  tenantId : String
  accountId : String
  projectId : String
  annyInstanceId : String
  runtimeId : String
  sessionId : String
  actorId : String
  operationId : String
  executionId : String
  generation : ℤ
  issuedAt : DateTime
  expiresAt : DateTime
  workspaceId : Option String := none
  capabilities : List String := []
  deriving DecidableEq

namespace ExecutionContext

variable (c : ExecutionContext)

/-- `has_capability`. -/
def hasCapability (capability : String) : Bool := c.capabilities.contains capability

/-- `is_valid`, unless it compares an aware time with a naive one. -/
def isValid (currentTime : DateTime) (currentGeneration : ℤ) : Option Bool :=
  if c.generation ≠ currentGeneration then some false
  else
    (c.expiresAt.lt? currentTime).bind fun late =>
      if late then some false else (currentTime.lt? c.issuedAt).map (! ·)

/-- The workspace id is there and not empty. -/
def hasWorkspace : Bool := c.workspaceId.any (· ≠ "")

end ExecutionContext

/-- What the pipeline raises. -/
inductive Raised where
  | securityViolation (message : String)
  | typeError
  deriving DecidableEq

/-- What the runtime identity service answers. -/
structure RuntimeIdentity where
  tenantId : Option String
  generation : ℤ
  runtimeId : String
  deriving DecidableEq

/-- The checks of the context, at the time of the pipeline's clock. -/
def checkContext (runtime : RuntimeIdentity) (c : ExecutionContext) (now : DateTime) :
    Except Raised Unit := do
  Guard.ensure (c.executionId ≠ "" ∧ c.sessionId ≠ "")
    (.securityViolation "ExecutionContext structurally invalid")
  Guard.ensure (some c.tenantId = runtime.tenantId)
    (.securityViolation ("Tenant Binding failure: " ++ c.tenantId))
  let valid ← ((c.isValid now runtime.generation).elim (.error .typeError) .ok : Except Raised Bool)
  Guard.ensure (valid = true) (.securityViolation "Session expired or generation stale")
  Guard.ensure (c.runtimeId = runtime.runtimeId) (.securityViolation "Runtime Identity mismatch")

/-- `capability.gate.Capability`. -/
inductive Capability where
  | fileRead
  | fileWrite
  | processExecution
  | processControl
  | gitRead
  | gitWrite
  | remoteRepositoryMutation
  | secretUse
  | workspaceCreate
  | workspaceDelete
  | networkAccess
  deriving DecidableEq

/-- `Capability.name`. -/
def Capability.name : Capability → String
  | .fileRead => "FILE_READ"
  | .fileWrite => "FILE_WRITE"
  | .processExecution => "PROCESS_EXECUTION"
  | .processControl => "PROCESS_CONTROL"
  | .gitRead => "GIT_READ"
  | .gitWrite => "GIT_WRITE"
  | .remoteRepositoryMutation => "REMOTE_REPOSITORY_MUTATION"
  | .secretUse => "SECRET_USE"
  | .workspaceCreate => "WORKSPACE_CREATE"
  | .workspaceDelete => "WORKSPACE_DELETE"
  | .networkAccess => "NETWORK_ACCESS"

/-- `ToolManifest`: what the pipeline and its callers read of it. -/
structure ToolManifest where
  name : String
  inputSchema : List String
  requiredCapabilities : List Capability
  workspaceRequired : Bool
  deriving DecidableEq

/-- The values that handlers and services pass around. -/
inductive Value where
  | json (j : Json)
  | context (c : ExecutionContext)
  /-- An object with attributes. -/
  | object (attributes : List (String × Json))

/-- Why a call fails. -/
inductive Failure where
  /-- The arguments do not fit the signature. -/
  | signature
  /-- An operation on a value that does not have it. -/
  | value
  /-- The body raised. -/
  | body (text : String)
  deriving DecidableEq

/-- A registered handler: its parameters, and what it does with them to the world. -/
structure Handler (σ : Type*) where
  params : List (Call.Param Value)
  body : List Value → σ → Except Failure Value × σ

/-- `handler(*positional, **keywords)`. -/
def Handler.call {σ : Type*} (h : Handler σ) (positional : List Value)
    (keywords : Dict String Value) (w : σ) : Except Failure Value × σ :=
  match Call.bind h.params positional keywords with
  | none => (.error .signature, w)
  | some values => h.body values w

/-- `ExecutionReceipt`.  The status says whether there is a result. -/
structure ExecutionReceipt where
  executionId : String
  toolName : String
  status : String
  timestamp : DateTime
  result : Except Failure Value

/-- The tools of a registry. -/
abbrev ToolRegistry (σ : Type*) := Dict String (ToolManifest × Handler σ)

section Execute

variable {σ : Type*}

/-- The checks of the context and of the tool: the handler to call. -/
def authorize (runtime : RuntimeIdentity) (registry : ToolRegistry σ)
    (context : Option ExecutionContext) (toolName : String) (now : DateTime) :
    Except Raised (ExecutionContext × Handler σ) :=
  match context with
  | none => .error (.securityViolation "ExecutionContext missing")
  | some c =>
    match checkContext runtime c now with
    | .error e => .error e
    | .ok () =>
      match registry.get? toolName with
      | none => .error (.securityViolation ("Tool " ++ toolName ++ " not registered"))
      | some (manifest, handler) =>
        match manifest.requiredCapabilities.find? fun cap => !c.hasCapability cap.name with
        | some cap =>
          .error (.securityViolation
            ("Capability Authorization failure: missing " ++ cap.name))
        | none =>
          if manifest.workspaceRequired && !c.hasWorkspace then
            .error (.securityViolation
              "Resource Ownership failure: missing workspace_id in context")
          else .ok (c, handler)

/-- The receipt of an outcome. -/
def receipt (executionId toolName : String) (timestamp : DateTime) (result : Except Failure Value) :
    ExecutionReceipt where
  executionId := executionId
  toolName := toolName
  status := match result with
    | .ok _ => "SUCCESS"
    | .error _ => "FAILED"
  timestamp := timestamp
  result := result

/-- `AuthorizedExecutionPipeline.execute`, when the clock says `start` at first and `finish` at the
end. -/
def execute (runtime : RuntimeIdentity) (registry : ToolRegistry σ)
    (context : Option ExecutionContext) (toolName : String) (toolArgs : Dict String Value)
    (start finish : ℤ) (w : σ) : Except Raised ExecutionReceipt × σ :=
  match authorize runtime registry context toolName (.utcnow start) with
  | .error e => (.error e, w)
  | .ok (c, handler) =>
    let (result, w') := handler.call [.context c] toolArgs w
    (.ok (receipt c.executionId toolName (.utcnow finish) result), w')

end Execute

/-! ### What the checks pass -/

variable {runtime : RuntimeIdentity} {c : ExecutionContext} {now : DateTime}

theorem isValid_eq_some_true_iff {g : ℤ} :
    c.isValid now g = some true ↔
      c.generation = g ∧ (c.expiresAt.Aware ↔ now.Aware) ∧ (c.issuedAt.Aware ↔ now.Aware) ∧
        c.issuedAt.instant ≤ now.instant ∧ now.instant ≤ c.expiresAt.instant := by
  rw [ExecutionContext.isValid]
  by_cases hg : c.generation = g
  · rw [if_neg (not_not.2 hg), Option.bind_eq_some_iff]
    constructor
    · rintro ⟨late, hlate, h⟩
      obtain ⟨haware, rfl⟩ := DateTime.lt?_eq_some_iff.1 hlate
      split_ifs at h with hle
      · cases h
      · obtain ⟨early, hearly, hnot⟩ := Option.map_eq_some_iff.1 h
        obtain ⟨haware', rfl⟩ := DateTime.lt?_eq_some_iff.1 hearly
        simp only [decide_eq_true_eq, Bool.not_eq_true', decide_eq_false_iff_not] at hle hnot
        exact ⟨hg, haware, haware'.symm, by omega, by omega⟩
    · rintro ⟨-, haware, haware', hissued, hexpires⟩
      refine ⟨false, DateTime.lt?_eq_some_iff.2 ⟨haware, decide_eq_false (by omega)⟩, ?_⟩
      refine Option.map_eq_some_iff.2 ⟨false, ?_, rfl⟩
      exact DateTime.lt?_eq_some_iff.2 ⟨haware'.symm, decide_eq_false (by omega)⟩
  · rw [if_pos hg]
    exact ⟨nofun, fun h => absurd h.1 hg⟩

/-- **What the checks of the context let pass.** -/
theorem checkContext_eq_ok_iff {u : Unit} :
    checkContext runtime c now = .ok u ↔
      c.executionId ≠ "" ∧ c.sessionId ≠ "" ∧ some c.tenantId = runtime.tenantId ∧
        c.isValid now runtime.generation = some true ∧ c.runtimeId = runtime.runtimeId := by
  cases hv : c.isValid now runtime.generation with
  | none => simp [checkContext, hv]
  | some b => cases b <;> simp [checkContext, hv, and_assoc]

/-- **What all the checks let pass**: a context that the first ones let pass, for a registered tool
whose capabilities it carries, with a workspace id when the tool needs one. -/
theorem authorize_eq_ok_iff {σ : Type*} {registry : ToolRegistry σ}
    {context : Option ExecutionContext} {name : String} {h : Handler σ} :
    authorize runtime registry context name now = .ok (c, h) ↔
      context = some c ∧ checkContext runtime c now = .ok () ∧
        ∃ manifest, registry.get? name = some (manifest, h) ∧
          (∀ cap ∈ manifest.requiredCapabilities, c.hasCapability cap.name) ∧
          (manifest.workspaceRequired → c.hasWorkspace) := by
  cases context with
  | none => exact ⟨nofun, fun h => nomatch h.1⟩
  | some c' =>
    rw [authorize, Option.some_inj]
    cases ha : checkContext runtime c' now with
    | error e =>
      refine ⟨nofun, fun ⟨hc, h, _⟩ => ?_⟩
      rw [← hc, ha] at h
      cases h
    | ok u =>
      cases hr : registry.get? name with
      | none => exact ⟨nofun, fun ⟨_, _, _, h, _⟩ => nomatch h⟩
      | some entry =>
        obtain ⟨manifest, handler⟩ := entry
        dsimp only
        cases hf : manifest.requiredCapabilities.find? fun cap => !c'.hasCapability cap.name with
        | some cap =>
          refine ⟨nofun, fun ⟨hc, _, m, hm, hall, _⟩ => ?_⟩
          obtain ⟨rfl, -⟩ := Prod.mk.inj (Option.some.inj hm)
          have hcap := List.find?_some hf
          rw [hc, hall cap (List.mem_of_find?_eq_some hf)] at hcap
          cases hcap
        | none =>
          have hall : ∀ cap ∈ manifest.requiredCapabilities, c'.hasCapability cap.name :=
            fun cap hcap => by simpa using List.find?_eq_none.1 hf cap hcap
          cases hw : manifest.workspaceRequired && !c'.hasWorkspace with
          | true =>
            refine ⟨nofun, fun ⟨hc, _, m, hm, _, hws⟩ => ?_⟩
            obtain ⟨rfl, -⟩ := Prod.mk.inj (Option.some.inj hm)
            obtain ⟨hreq, hnot⟩ := Bool.and_eq_true_iff.1 hw
            rw [hc, hws hreq] at hnot
            cases hnot
          | false =>
            have hws : manifest.workspaceRequired → c'.hasWorkspace := fun hreq => by
              simpa [hreq] using hw
            constructor
            · intro heq
              obtain ⟨rfl, rfl⟩ := Prod.mk.inj (Except.ok.inj heq)
              exact ⟨rfl, ha, manifest, rfl, hall, hws⟩
            · rintro ⟨rfl, -, m, hm, -, -⟩
              obtain ⟨-, rfl⟩ := Prod.mk.inj (Option.some.inj hm)
              rfl

end Pipeline

end AnnyRuntime
