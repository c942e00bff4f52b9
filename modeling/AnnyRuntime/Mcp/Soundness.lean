import AnnyRuntime.Mcp.Accounting

/-!
# What a run is authorized by

Each stage of the checks admits a request for a reason of its own; together (`check_admitted_iff`)
they admit exactly the requests that name their tool and capability, are authorized (`Authorized`),
and are within their quota.  A request that is not admitted runs nothing, and no refusal is a
success.

* `invoke_sound` : **a tool is only run for an authorized request, and without a run nothing
  succeeds.**
-/

namespace AnnyRuntime

namespace Mcp

namespace MCPGateway

/-- The capability of the request may invoke the tool: it is a caller that the policy allows, or
without a policy the one that the tool requires. -/
def MayInvoke (req : ToolRequest) (tool : ToolDefinition) : Option ToolPolicy → Prop
  | some p => req.capabilityId ∈ p.allowedCallers.map Field.str
  | none => req.capabilityId = .str tool.requiredCapability

/-- The tool of the request is registered and available, and its capability may invoke it. -/
def ToolGranted (g : MCPGateway) (req : ToolRequest) : Prop :=
  ∃ tool policy, g.toolRegistry.getTool req.toolId = some (some tool) ∧ tool.state = .available ∧
    g.toolRegistry.getPolicy req.toolId = some policy ∧ MayInvoke req tool policy

/-- The capability of the request is registered and enabled. -/
def CapabilityEnabled (g : MCPGateway) (req : ToolRequest) : Prop :=
  ∃ cap, req.capabilityId.lookup g.capabilityRegistry.capabilities = some (some cap) ∧
    cap.enabled = true

/-- The encoded input has at most this many bytes. -/
def InputWithin (input : PyVal) (limit : ℤ) : Prop :=
  ∃ j, input.encode false = some j ∧ ((Json.dumps j).length : ℤ) ≤ limit

/-- **A request is authorized** at a time. -/
structure Authorized (g : MCPGateway) (now : ℕ) (req : ToolRequest) : Prop where
  worker : req.workerId.truthy = true
  execution : req.executionId.truthy = true
  tool : g.ToolGranted req
  capability : g.CapabilityEnabled req
  input : ∀ p, g.toolRegistry.getPolicy req.toolId = some (some p) →
    InputWithin req.inputData p.maxInputSize
  deadline : ∃ d, req.deadline = some d ∧ now ≤ d

/-- The request is within the quota of its tool. -/
def WithinCount (g : MCPGateway) (req : ToolRequest) : Prop :=
  ∀ p, g.toolRegistry.getPolicy req.toolId = some (some p) →
    ∃ k, req.executionId.key? = some k ∧
      (g.count k req.toolId.text : ℤ) < p.maxInvocationsPerExecution

variable {g : MCPGateway} {w : World} {req : ToolRequest} {now : ℕ}

/-! ### Why a stage admits a request -/

theorem validateRequest_admitted : validateRequest req = .admitted ↔
    req.toolId.truthy = true ∧ req.capabilityId.truthy = true ∧ req.workerId.truthy = true ∧
      req.executionId.truthy = true := by
  unfold validateRequest
  cases req.toolId.truthy <;> cases req.capabilityId.truthy <;> cases req.workerId.truthy <;>
    cases req.executionId.truthy <;> simp

theorem checkCaller_eq_admitted {tool : ToolDefinition} {policy : Option ToolPolicy} :
    checkCaller tool policy req = .admitted ↔ MayInvoke req tool policy := by
  unfold checkCaller MayInvoke unauthorized
  cases policy <;> dsimp only <;> split_ifs with h <;> simp [h]

theorem checkCapability_eq_admitted :
    g.checkCapability req = .admitted ↔ g.CapabilityEnabled req := by
  unfold checkCapability CapabilityEnabled unauthorized
  cases req.capabilityId.lookup g.capabilityRegistry.capabilities with
  | none => simp
  | some found =>
    cases found with
    | none => simp
    | some cap =>
      dsimp only
      split_ifs with h <;> simp [h]

theorem authorize_eq_admitted : g.authorize req = .admitted ↔
    (∃ tool policy, g.toolRegistry.getTool req.toolId = some (some tool) ∧
      g.toolRegistry.getPolicy req.toolId = some policy ∧ MayInvoke req tool policy) ∧
    g.CapabilityEnabled req := by
  unfold authorize
  cases g.toolRegistry.getTool req.toolId with
  | none => simp
  | some found =>
    cases found with
    | none => simp
    | some tool =>
      cases g.toolRegistry.getPolicy req.toolId with
      | none => simp
      | some policy => simp [checkCaller_eq_admitted, checkCapability_eq_admitted]

theorem resolve_eq_admitted : g.resolve req = .admitted ↔
    ∃ tool, g.toolRegistry.getTool req.toolId = some (some tool) ∧ tool.state = .available := by
  unfold resolve
  cases g.toolRegistry.getTool req.toolId with
  | none => simp
  | some found => cases found <;> simp

theorem checkInput_eq_admitted {p : ToolPolicy} {input : PyVal} :
    checkInput p input = .admitted ↔ InputWithin input p.maxInputSize := by
  unfold checkInput InputWithin violation
  cases input.encode false with
  | none => simp
  | some j =>
    dsimp only
    split_ifs with h
    · simpa using h
    · simpa using h

theorem enforcePolicy_eq_admitted (h : g.toolRegistry.getPolicy req.toolId ≠ none) :
    g.enforcePolicy req = .admitted ↔ g.WithinCount req ∧
      ∀ p, g.toolRegistry.getPolicy req.toolId = some (some p) →
        InputWithin req.inputData p.maxInputSize := by
  unfold enforcePolicy WithinCount
  cases hp : g.toolRegistry.getPolicy req.toolId with
  | none => exact absurd hp h
  | some policy =>
    cases policy with
    | none => simp
    | some p =>
      cases req.executionId.key? with
      | none => simp
      | some k =>
        dsimp only
        split_ifs with hle
        · simp [violation, hle]
        · simp [checkInput_eq_admitted, not_le.1 hle]

theorem checkDeadline_eq_admitted :
    checkDeadline now req = .admitted ↔ ∃ d, req.deadline = some d ∧ now ≤ d := by
  unfold checkDeadline
  cases req.deadline with
  | none => simp
  | some d =>
    dsimp only
    split_ifs with h
    · simpa using h
    · simpa using h

/-- **The requests that are admitted.** -/
theorem check_admitted_iff : g.check now req = .admitted ↔
    req.toolId.truthy = true ∧ req.capabilityId.truthy = true ∧ g.Authorized now req ∧
      g.WithinCount req := by
  simp only [check, Check.andThen_eq_admitted, validateRequest_admitted, authorize_eq_admitted,
    resolve_eq_admitted, checkDeadline_eq_admitted]
  constructor
  · rintro ⟨⟨htool, hcap, hworker, hexec⟩, ⟨⟨tool, policy, hget, hpolicy, hmay⟩, henabled⟩,
      ⟨tool', hget', hstate⟩, henforce, hdeadline⟩
    obtain rfl := Option.some.inj (Option.some.inj (hget.symm.trans hget'))
    rw [enforcePolicy_eq_admitted (by rw [hpolicy]; simp)] at henforce
    exact ⟨htool, hcap, ⟨hworker, hexec, ⟨tool, policy, hget, hstate, hpolicy, hmay⟩, henabled,
      henforce.2, hdeadline⟩, henforce.1⟩
  · rintro ⟨htool, hcap, ⟨hworker, hexec, ⟨tool, policy, hget, hstate, hpolicy, hmay⟩, henabled,
      hinput, hdeadline⟩, hcount⟩
    refine ⟨⟨htool, hcap, hworker, hexec⟩, ⟨⟨tool, policy, hget, hpolicy, hmay⟩, henabled⟩,
      ⟨tool, hget, hstate⟩, ?_, hdeadline⟩
    exact (enforcePolicy_eq_admitted (by rw [hpolicy]; simp)).2 ⟨hcount, hinput⟩

/-! ### No refusal is a success -/

theorem status_crash {ran : Option Run} {e : Crash} {r : ToolResult}
    (h : (g.crash w req ran e).result = some r) : r.status = .failed := by
  unfold crash at h
  split at h
  · cases h
  · obtain rfl := Option.some.inj h
    rfl

/-- Without a run there is no success. -/
theorem status_of_ran_eq_none {r : ToolResult} (hran : (g.invoke w req).ran = none)
    (hr : (g.invoke w req).result = some r) : r.status ≠ .succeeded := by
  unfold invoke at hran hr
  split at hr
  · cases hr
  · rename_i status message audit hcheck
    obtain rfl := Option.some.inj hr
    rintro (rfl : status = .succeeded)
    exact absurd (refusesOnly_check _ _ _ hcheck) (by decide)
  · rename_i hadmitted
    rw [hadmitted] at hran
    have hcrash : ∀ e, (g.crash w req none e).result = some r → r.status ≠ .succeeded := by
      intro e he
      rw [status_crash he]
      decide
    unfold execute at hran hr
    dsimp only at hran
    split at hr
    · exact hcrash _ hr
    · exact hcrash _ hr
    · rename_i himpl hcc
      simp only [himpl, hcc, ran_conclude] at hran
      cases hran

/-- **What a run is authorized by.**  A tool is only run for a request that is authorized when it is
checked; for any other request no tool is run and the result is not a success. -/
theorem invoke_sound (g : MCPGateway) (w : World) (req : ToolRequest) :
    ((g.invoke w req).ran ≠ none → g.Authorized w.now req) ∧
    (¬ g.Authorized w.now req → (g.invoke w req).ran = none ∧
      ∀ r, (g.invoke w req).result = some r → r.status ≠ .succeeded) := by
  have hsound : (g.invoke w req).ran ≠ none → g.Authorized w.now req := by
    intro h
    obtain ⟨run, hrun⟩ := Option.ne_none_iff_exists'.1 h
    exact (check_admitted_iff.1 (ran_invoke hrun).1).2.2.1
  refine ⟨hsound, fun h => ?_⟩
  have hran : (g.invoke w req).ran = none := by
    by_contra hne
    exact h (hsound hne)
  exact ⟨hran, fun r hr => status_of_ran_eq_none hran hr⟩

end MCPGateway

end Mcp

end AnnyRuntime
