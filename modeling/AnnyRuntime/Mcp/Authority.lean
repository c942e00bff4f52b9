import AnnyRuntime.Mcp.Quota

/-!
# Whose context a tool runs in

The gateway makes the context of a tool and then merges what the caller gave into it, all of it.  So
a caller can put its own value under every key, also under those that are the authority of the
gateway: the clients, the identity that is recorded as `observed_by`, the data directory and the
limit on the output.  Two requests are given the same authority exactly when, key by key, their
callers leave it the same (`Effective`); a caller that gives the owned keys nothing of its own
(`LeavesOwned`), as a worker does, can only choose the workspace.
-/

namespace AnnyRuntime

namespace Mcp

/-- The keys of a context that the gateway owns. -/
def ownedKeys : List String :=
  ["github_client", "fabric_client", "caller_id", "fabric_data_dir", "max_output_size"]

/-- Two runs have the same authority: the same values under the owned keys, and the same identity
in what they register. -/
structure SameAuthority (a b : Run) : Prop where
  values : ∀ k ∈ ownedKeys, a.context.get? k = b.context.get? k
  observedBy : ∀ ms call call', registerCall ms a.context = .ok call →
    registerCall ms b.context = .ok call' → call.observedBy = call'.observedBy

/-- The request with another context of its caller. -/
def ToolRequest.withContext (req : ToolRequest) (cc : Dict String PyVal) : ToolRequest :=
  { req with callerContext := .ok cc }

namespace MCPGateway

/-- What a tool finds under a key: the value of the caller, or that of the gateway. -/
def Effective (g : MCPGateway) (req : ToolRequest) (cc : Dict String PyVal) (k : String) :
    Option PyVal := (cc.get? k).or ((g.ownContext req).get? k)

/-- The caller gives no owned key a value other than the gateway's. -/
def LeavesOwned (g : MCPGateway) (req : ToolRequest) (cc : Dict String PyVal) : Prop :=
  ∀ k ∈ ownedKeys, ∀ v, cc.get? k = some v → (g.ownContext req).get? k = some v

/-- Callers that leave the owned keys alone can only choose the workspace: with one workspace path
the tools do the same for them. -/
def OnlyWorkspace (g : MCPGateway) (req : ToolRequest) : Prop :=
  ∀ cc cc', g.LeavesOwned req cc → g.LeavesOwned req cc' →
    cc.get? "workspace_path" = cc'.get? "workspace_path" →
      ∀ w toolId impl, toolImplementations w toolId = some impl →
        impl req.inputData (g.context req cc) = impl req.inputData (g.context req cc')

variable {g : MCPGateway} {req : ToolRequest} {cc cc' : Dict String PyVal}

theorem get?_context (k : String) : (g.context req cc).get? k = g.Effective req cc k :=
  Dict.get?_update cc k

theorem effective_of_leavesOwned (h : g.LeavesOwned req cc) {k : String} (hk : k ∈ ownedKeys) :
    g.Effective req cc k = (g.ownContext req).get? k := by
  unfold Effective
  cases hv : cc.get? k with
  | none => rfl
  | some v => exact (h k hk v hv).symm

/-- The identity that is registered is the one in the context. -/
theorem registerCall_observedBy {ms : List (PyKey × PyVal)} {ctx : Context} {call : RegisterCall}
    (h : registerCall ms ctx = .ok call) :
    call.observedBy = ctx.getD "caller_id" (.str "mcp_gateway") := by
  unfold registerCall at h
  dsimp only at h
  split_ifs at h
  split at h
  · rw [← Except.ok.inj h]
  · cases h

theorem sameAuthority_of_values {a b : Run}
    (h : ∀ k ∈ ownedKeys, a.context.get? k = b.context.get? k) : SameAuthority a b where
  values := h
  observedBy ms call call' hcall hcall' := by
    rw [registerCall_observedBy hcall, registerCall_observedBy hcall', Context.getD, Context.getD,
      h "caller_id" (by simp [ownedKeys])]

theorem onlyWorkspace : g.OnlyWorkspace req := by
  intro cc cc' h h' hw w toolId impl himpl
  refine ReadsSame.outcome_eq (fun k hk => ?_) himpl req.inputData
  rw [get?_context, get?_context]
  by_cases hown : k ∈ ownedKeys
  · rw [effective_of_leavesOwned h hown, effective_of_leavesOwned h' hown]
  · -- of the keys that tools read, only the workspace is not owned
    have hk : k = "workspace_path" := by
      simp only [readKeys, ownedKeys, List.mem_cons, List.not_mem_nil, or_false, not_or] at hk hown
      tauto
    rw [hk, Effective, Effective, hw]

/-- A worker only gives the path of its workspace. -/
theorem leavesOwned_worker (path : String) :
    g.LeavesOwned req (.ofList [("workspace_path", .str path)]) := by
  intro k hk v hv
  have hne : k ≠ "workspace_path" := by
    rintro rfl
    simp [ownedKeys] at hk
  simp only [Dict.ofList, List.foldl_cons, List.foldl_nil] at hv
  rw [Dict.get?_set_ne hne, Dict.get?_empty] at hv
  cases hv

/-- The checks do not look at the context of the caller. -/
theorem check_withContext (now : ℕ) :
    g.check now (req.withContext cc) = g.check now req := rfl

/-- **When callers cannot touch the authority of the gateway.**  Two requests that differ only in
the owned keys of their callers' contexts run with the same authority, whatever the tools are,
exactly when each owned key is left with the same value by both, or the request is never admitted.
And callers that leave the owned keys alone choose nothing but their workspace. -/
theorem sameAuthority_iff (h : ∀ k, k ∉ ownedKeys → cc.get? k = cc'.get? k) :
    ((∀ w a b, (g.invoke w (req.withContext cc)).ran = some a →
        (g.invoke w (req.withContext cc')).ran = some b →
          SameAuthority a b ∧ ∀ k, k ∉ ownedKeys → a.context.get? k = b.context.get? k) ↔
      (∀ k ∈ ownedKeys, g.Effective req cc k = g.Effective req cc' k) ∨
        ∀ now, g.check now req ≠ .admitted) ∧
      g.OnlyWorkspace req := by
  refine ⟨⟨fun hsame => ?_, ?_⟩, onlyWorkspace⟩
  · by_cases hnever : ∀ now, g.check now req ≠ .admitted
    · exact Or.inr hnever
    · -- any tool will do to compare the contexts
      obtain ⟨now, hnow⟩ := not_forall.1 hnever
      let w : World :=
        { startedAt := now
          now := now
          completedAt := now
          implementations := fun _ => some fun _ _ => .failed none
          digest := fun _ => "" }
      have hran (c : Dict String PyVal) : (g.invoke w (req.withContext c)).ran =
          some ⟨req.toolId.text, req.executionId, req.inputData, g.context req c⟩ := by
        unfold invoke
        rw [check_withContext, not_not.1 hnow]
        rfl
      refine Or.inl fun k hk => ?_
      have hvalues := (hsame w _ _ (hran cc) (hran cc')).1.values k hk
      rwa [get?_context, get?_context] at hvalues
  · -- a run was admitted, so that the effective values are the same
    rintro hcond w a b ha hb
    obtain ⟨hadmitted, impl, c, -, hc, rfl, -⟩ := ran_invoke ha
    obtain ⟨-, impl', c', -, hc', rfl, -⟩ := ran_invoke hb
    obtain rfl := Except.ok.inj hc
    obtain rfl := Except.ok.inj hc'
    have heffective := hcond.resolve_right fun hnever => hnever w.now hadmitted
    refine ⟨sameAuthority_of_values fun k hk => ?_, fun k hk => ?_⟩
    · show (g.context req cc).get? k = (g.context req cc').get? k
      rw [get?_context, get?_context, heffective k hk]
    · show (g.context req cc).get? k = (g.context req cc').get? k
      rw [get?_context, get?_context, Effective, Effective, h k hk]

/-! ### A caller that says who it is -/

/-- The context of a caller that names itself. -/
def naming (name : String) : Dict String PyVal := .ofList [("caller_id", .str name)]

theorem get?_naming {name k : String} (hk : k ≠ "caller_id") : (naming name).get? k = none := by
  simp only [naming, Dict.ofList, List.foldl_cons, List.foldl_nil]
  rw [Dict.get?_set_ne hk, Dict.get?_empty]

theorem naming_agrees (name : String) : ∀ k, k ∉ ownedKeys →
    (Dict.empty : Dict String PyVal).get? k = (naming name).get? k := by
  intro k hk
  have hne : k ≠ "caller_id" := by
    rintro rfl
    simp [ownedKeys] at hk
  rw [get?_naming hne, Dict.get?_empty]

/-- A caller that names itself as the gateway does leaves the caller's identity with its value. -/
theorem effective_naming {k : String} (hk : k ∈ ownedKeys) :
    Session.searchGateway.Effective (Session.searchRequest .none) Dict.empty k =
      Session.searchGateway.Effective (Session.searchRequest .none)
        (naming "repository.search") k := by
  have hempty : Session.searchGateway.LeavesOwned (Session.searchRequest .none) Dict.empty :=
    fun _ _ v hv => by cases hv
  rw [effective_of_leavesOwned hempty hk, effective_of_leavesOwned (fun k _ v hv => ?_) hk]
  by_cases hkey : k = "caller_id"
  · subst hkey
    exact hv
  · rw [get?_naming hkey] at hv
    cases hv

/-- A caller that says nothing, and one that names itself as the gateway does. -/
theorem sameAuthority_naming : ∃ a b,
    (Session.searchGateway.invoke (Session.searching (.returned (.list []) .none))
      ((Session.searchRequest .none).withContext Dict.empty)).ran = some a ∧
    (Session.searchGateway.invoke (Session.searching (.returned (.list []) .none))
      ((Session.searchRequest .none).withContext (naming "repository.search"))).ran = some b ∧
    SameAuthority a b ∧ Session.searchGateway.OnlyWorkspace (Session.searchRequest .none) := by
  obtain ⟨hiff, honly⟩ := sameAuthority_iff (naming_agrees "repository.search")
  have hsame := hiff.2 (Or.inl fun k hk => effective_naming hk)
  exact ⟨_, _, rfl, rfl,
    (hsame (Session.searching (.returned (.list []) .none)) _ _ rfl rfl).1, honly⟩

/-- A caller that names itself as it likes: that is the identity that is registered. -/
theorem not_sameAuthority_naming : ¬ ∀ (g : MCPGateway) (req : ToolRequest)
    (cc cc' : Dict String PyVal), (∀ k, k ∉ ownedKeys → cc.get? k = cc'.get? k) →
    ∀ w a b, (g.invoke w (req.withContext cc)).ran = some a →
      (g.invoke w (req.withContext cc')).ran = some b → SameAuthority a b := by
  intro h
  have hsame := (h Session.searchGateway (Session.searchRequest .none) Dict.empty
    (naming "administrator") (naming_agrees _) (Session.searching (.returned (.list []) .none))
    _ _ rfl rfl).values "caller_id" (by simp [ownedKeys])
  have hnames : PyVal.str "repository.search" = .str "administrator" := Option.some.inj hsame
  exact absurd (PyVal.str.inj hnames) (by decide)

end MCPGateway

end Mcp

end AnnyRuntime
