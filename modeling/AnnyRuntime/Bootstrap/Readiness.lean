import AnnyRuntime.Bootstrap.Authority
import AnnyRuntime.Tools.Builtins

/-!
# Can the runtime become ready?

Three mandatory gates ask the repository's own components for something that they do not have:

* `MODELS_INVENTORIED` reads the attribute `state` of a model, whose class calls it `status`; with
  no model there is nothing to inventory either (`models_not_inventoried`);
* `CRITICAL_ACCESS_VERIFIED` tests `repository.read` with the method `list_repos` of the GitHub
  client, whose class calls it `list_repositories` (`access_not_verified`);
* `CONTINUITY_COHERENT` reads the attribute `status` of the continuity engine, which has none
  (`continuity_not_coherent`).

So no answer of the outside makes the runtime ready.  When the outside answers well, these three
gates are the ones that fail (`AgreesOn.passed_iff`).
-/

namespace AnnyRuntime

namespace Bootstrap

open Core Execution Fabric

/-- The components that the repository has itself. -/
structure OwnComponents where
  dataDir : String
  fabric : Option GitHubFabricAdapter
  engine : Continuity.ContinuityEngine
  config : Option RuntimeConfig
  adminHost : String
  adminPort : ℤ
  capabilities : Option CapabilityRegistry
  tools : Option (List String)
  models : Option ModelRegistry
  workers : Option (Except PyException (List String))

/-- The bootstrap over these components. -/
def OwnComponents.bootstrap (c : OwnComponents) : ThreePlaneBootstrap where
  dataDir := c.dataDir
  github := some .own
  fabric := c.fabric
  continuity := some (.own c.engine)
  config := c.config
  adminHost := c.adminHost
  adminPort := c.adminPort
  capRegistry := c.capabilities
  toolRegistry := c.tools
  modelRegistry := c.models.map fun registry => registry.listModels.map .own
  workerManager := c.workers

namespace ThreePlaneBootstrap

variable (b : ThreePlaneBootstrap) (p : Platform) (w : World)

/-- `resolve` reports that the runtime is ready. -/
def Ready : Prop := ∃ r, b.resolve p w = .ok r ∧ r.annyReady = true

/-- The admin API answers with the binding and a healthy state. -/
def Healthy (fabric : GitHubFabricAdapter) (resp : Except PyException AdminResponse) : Prop :=
  ∃ body ms state, resp = .ok ⟨200, .ok body⟩ ∧ Json.loadsValue p (.str body) = .ok (.obj ms) ∧
    Json.lookup "state" ms = some (.str state) ∧ state ≠ "STOPPED" ∧ state ≠ "ERROR" ∧
      Json.lookup "fabric_org" ms = some (.str fabric.org) ∧
        Json.lookup "fabric_repo" ms = some (.str fabric.repo)

/-- The state of the fabric lists the runtime and agrees with the binding. -/
def ListsRuntime (fabric : GitHubFabricAdapter) (runtimeId : String)
    (read : Except PyException Json) : Prop :=
  ∃ ms l, read = .ok (.obj ms) ∧ Json.lookup "registered_runtimes" ms = some (.arr l) ∧
    .str runtimeId ∈ l ∧ Json.lookup "fabric_org" ms = some (.str fabric.org) ∧
      Json.lookup "fabric_repo" ms = some (.str fabric.repo)

/-- The outside answers well: every read succeeds, and the reads agree on the runtime, on the node
and on the repository. -/
structure AgreesOn (fabric : GitHubFabricAdapter) (runtimeId nodeId commit : String) : Prop where
  adapter : b.fabric = some fabric
  client : b.github.isSome = true
  configured : b.config = some ⟨some fabric.org, some fabric.repo, some commit⟩
  commitLength : 7 ≤ commit.length
  registry : (b.capRegistry.getD .init).listAll ≠ []
  tools : ∃ name names, b.toolRegistry = some (name :: names)
  loaded : ∃ ident, RuntimeIdentity.load w = .ok ident ∧ ident.runtimeId = .str runtimeId
  idNonempty : runtimeId ≠ ""
  nodeKnown : nodeId ≠ "UNKNOWN"
  principal : ∃ ms, w.request (.gate .githubConnected) "/user" = .ok (.obj ms)
  member : ∃ orgs names,
    w.request (.gate .githubOrgBound) "/user/orgs?per_page=100" = .ok (.arr orgs) ∧
      orgs.mapM orgName = .ok names ∧ .str fabric.org ∈ names
  repository : ∃ v,
    w.request (.gate .fabricReachable) ("/repos/" ++ fabric.org ++ "/" ++ fabric.repo) = .ok v
  node : ∀ m, ∃ node, fabric.readNodeConfig p (w.client m) = .ok node ∧ node.nodeId = .str nodeId
  head : ∃ ms, w.request (.gate .fabricNodeAtRemoteHead)
    ("/repos/" ++ fabric.org ++ "/" ++ fabric.repo ++ "/contents/fabric/node.json") = .ok (.obj ms)
  token : ∃ token, w.token = .ok token
  signature : ∀ key message, ∃ signature, p.hmac key message = .ok signature
  tenant : ∃ tenant, fabric.readTenantBinding p (w.client (.gate .fabricTenantBound))
    (.str runtimeId) = .ok tenant ∧ tenant.tenantId.truthy = true
  state : ∀ m, ListsRuntime fabric runtimeId (fabric.readFabricState p (w.client m))
  provenance : ∃ ms sha, w.request (.gate .fabricProvenanceValid)
    ("/repos/" ++ fabric.org ++ "/" ++ fabric.repo ++ "/commits/" ++ commit) = .ok (.obj ms) ∧
      Json.lookup "sha" ms = some sha ∧ sha.truthy = true
  admission : (fabric.checkAdmission p (w.client (.gate .runtimeAdmitted))
    (.str runtimeId)).verdict = "ALLOW"
  policy : ∃ ms, fabric.readPolicy p (w.client (.gate .policySnapshotFresh)) = .ok (.obj ms) ∧
    Json.lookup "_contract" ms = none
  contract : ∃ raw contract,
    fabric.readContract p (w.client (.gate .contractsDiscovered)) = .ok raw ∧
      FabricContract.fromDict raw = some contract ∧
        ∀ cap ∈ criticalCapabilities, ¬ contract.Withholds cap
  status : ∀ gate, Healthy p fabric (w.urlopen gate)
  directory : ∀ cap, ∃ mode, w.stat cap = .ok mode
  listing : ∃ entries, w.listdir = .ok entries
  modules : ∀ module symbol, ∃ found, w.imports module symbol = .ok found

end ThreePlaneBootstrap

section Failing

variable {c : OwnComponents} {p : Platform} {w : World}

/-- The engine has no status to be coherent. -/
theorem continuity_not_coherent : (c.bootstrap.gateContinuityCoherent p).passed = false := rfl

/-- The listing of the repositories raises. -/
theorem access_not_verified (authorized : List String) :
    (c.bootstrap.gateCriticalAccess p w authorized).passed = false := by
  change (c.bootstrap.verifier p w authorized).verify.passed = false
  rw [Bool.eq_false_iff]
  intro hpass
  have hread := (CriticalAccessVerifier.verify_passed_iff.1 hpass "repository.read" (by decide)).2
  exact absurd hread Bool.false_ne_true

/-- The loop over the models of a registry stops at the first one. -/
theorem discoverModels_own (ms : List ModelDefinition) {inv : ComponentInventory}
    (h : (ms.map ListedModel.own).foldlM discoverModel {} = .ok inv) : inv = {} := by
  cases ms with
  | nil => exact (Except.ok.inj h).symm
  | cons m ms => exact nomatch h

/-- The models that are listed are those of the given registry, or of a fresh one. -/
theorem modelRegistry_bootstrap :
    c.bootstrap.modelRegistry.getD (ModelRegistry.bootstrap.listModels.map .own) =
      (c.models.getD .bootstrap).listModels.map .own := by
  rw [OwnComponents.bootstrap]
  cases c.models <;> rfl

/-- No model is declared. -/
theorem models_not_inventoried :
    (ThreePlaneBootstrap.inventoried "models"
      (c.bootstrap.discovered p w).models).passed = false := by
  have hmodels : (c.bootstrap.discovered p w).models = {} := by
    change (InventoryDiscovery.discovered "models" ((c.bootstrap.modelRegistry.getD
      (ModelRegistry.bootstrap.listModels.map .own)).foldlM discoverModel {})).1 = {}
    rw [modelRegistry_bootstrap]
    cases hrun : ((c.models.getD .bootstrap).listModels.map ListedModel.own).foldlM
      discoverModel {} with
    | error e => rfl
    | ok inv => exact discoverModels_own _ hrun
  rw [hmodels]
  rfl

/-- An engine that is not coherent keeps the runtime from being ready. -/
theorem not_ready_of_incoherent {b : ThreePlaneBootstrap}
    (hfail : (b.gateContinuityCoherent p).passed = false) : ¬ b.Ready p w := by
  rintro ⟨r, h, hready⟩
  have hr := ThreePlaneBootstrap.resolved_of_resolve h
  obtain ⟨_, _, _, _, -, -, -, -, hgates⟩ := hr.gates
  have hmem : { b.gateContinuityCoherent p with gate := .continuityCoherent } ∈ r.gates := by
    rw [hgates]
    simp [ThreePlaneBootstrap.findings]
  exact hr.not_annyReady hmem hfail hready

/-- **The runtime is never ready** over its own components. -/
theorem never_ready (c : OwnComponents) (p : Platform) (w : World) :
    ¬ c.bootstrap.Ready p w :=
  not_ready_of_incoherent (@continuity_not_coherent c p)

end Failing

/-! ### When the outside answers well -/

namespace ThreePlaneBootstrap

namespace AgreesOn

variable {b : ThreePlaneBootstrap} {p : Platform} {w : World} {fabric : GitHubFabricAdapter}
  {runtimeId nodeId commit : String}

section Planes

variable (h : b.AgreesOn p w fabric runtimeId nodeId commit)

include h

theorem identity_eq : ∃ ident, ThreePlaneBootstrap.identity w = some ident ∧
    ident.runtimeId = .str runtimeId ∧ (gateRuntimeIdentity w).1.passed = true := by
  obtain ⟨ident, hload, hid⟩ := h.loaded
  refine ⟨ident, ?_, hid, ?_⟩
  · rw [ThreePlaneBootstrap.identity, gateRuntimeIdentity, hload]
  · rw [gateRuntimeIdentity, hload]

theorem connected : (b.gateGithubConnected w).passed = true := by
  obtain ⟨github, hgithub⟩ := Option.isSome_iff_exists.1 h.client
  obtain ⟨ms, hms⟩ := h.principal
  rw [gateGithubConnected, hgithub]
  simp only [hms]
  rfl

theorem requiredOrg_eq : b.requiredOrg = some fabric.org := by
  rw [requiredOrg, h.configured]
  simp [nonempty, fabric.bound.1]

theorem orgBound : (b.gateGithubOrgBound p w (b.ghConnected w)).passed = true := by
  obtain ⟨orgs, names, horgs, hnames, hmem⟩ := h.member
  have hconnected : b.ghConnected w = true := h.connected
  rw [gateGithubOrgBound, hconnected, h.requiredOrg_eq]
  simp only [Bool.not_true, Bool.false_eq_true, if_false, horgs, Guard.ok_seq, Json.iter, hnames,
    if_pos hmem]
  rfl

theorem canProceed : b.canProceedFabric p w = true := by
  obtain ⟨ident, hident, -, -⟩ := h.identity_eq
  have hconnected : b.ghConnected w = true := h.connected
  rw [canProceedFabric, h.orgBound, hident, hconnected]
  rfl

theorem fabricWhen_eq : b.fabricWhen true = some fabric := h.adapter

theorem reachable : (b.gateFabricReachable p w (b.canProceedFabric p w)).passed = true := by
  obtain ⟨v, hv⟩ := h.repository
  rw [gateFabricReachable, h.canProceed, h.fabricWhen_eq]
  simp only [GitHubFabricAdapter.probeReachability, World.client, hv]
  rfl

theorem canRead : b.canReadFabric p w = true := by
  rw [canReadFabric, h.reachable, h.canProceed]
  rfl

theorem idVerified {f : Finding}
    (hf : b.gateFabricIdentityVerified p w (b.canProceedFabric p w) = .ok f) : f.passed = true := by
  obtain ⟨node, hnode, -⟩ := h.node (.gate .fabricIdentityVerified)
  rw [gateFabricIdentityVerified, h.canProceed, h.fabricWhen_eq] at hf
  simp only [hnode] at hf
  exact Except.ok.inj hf ▸ rfl

theorem nodeAtHead :
    (b.gateFabricNodeAtRemoteHead p w (b.canProceedFabric p w)).passed = true := by
  obtain ⟨ms, hms⟩ := h.head
  rw [gateFabricNodeAtRemoteHead, h.canProceed, h.fabricWhen_eq]
  simp only [GitHubFabricAdapter.nodeJsonExistsAtRemoteHead, World.client, hms]
  rfl

theorem trusted : (b.gateFabricTrustVerified p w (b.canProceedFabric p w)
    (ThreePlaneBootstrap.identity w)).passed = true := by
  obtain ⟨ident, hident, -, -⟩ := h.identity_eq
  obtain ⟨node, hnode, -⟩ := h.node (.gate .fabricTrustVerified)
  obtain ⟨token, htoken⟩ := h.token
  obtain ⟨signature, hsignature⟩ := h.signature ident.privateKey (p.str ident.runtimeId ++ ":" ++
    p.str node.nodeId ++ ":" ++ w.issuedAt ++ ":" ++ token)
  have hissue : fabric.issueTrustToken p (w.client (.gate .fabricTrustVerified)) w.issuedAt
      w.expiresAt ident.runtimeId ident.privateKey =
        .ok ⟨ident.runtimeId, node.nodeId, w.issuedAt, w.expiresAt, signature, true⟩ := by
    have hclient : (w.client (.gate .fabricTrustVerified)).token = .ok token := htoken
    simp only [GitHubFabricAdapter.issueTrustToken, hclient, Except.mapError, Guard.ok_seq, hnode,
      hsignature]
  unfold gateFabricTrustVerified
  rw [h.canProceed, h.fabricWhen_eq, hident]
  simp only [hissue]
  rfl

theorem tenantBound {f : Finding}
    (hf : b.gateFabricTenantBound p w (b.canProceedFabric p w) (ThreePlaneBootstrap.identity w) =
      .ok f) : f.passed = true ∧ f.evidence.truthy = true := by
  obtain ⟨ident, hident, hid, -⟩ := h.identity_eq
  obtain ⟨tenant, htenant, htruthy⟩ := h.tenant
  unfold gateFabricTenantBound at hf
  rw [h.canProceed, h.fabricWhen_eq, hident] at hf
  simp only [hid, htenant] at hf
  exact Except.ok.inj hf ▸ ⟨rfl, htruthy⟩

theorem stateReadable {f : Finding}
    (hf : b.gateFabricStateReadable p w (b.canReadFabric p w) = .ok f) : f.passed = true := by
  obtain ⟨ms, l, hread, hlookup, -⟩ := h.state (.gate .fabricStateReadable)
  rw [gateFabricStateReadable, h.canRead, h.fabricWhen_eq] at hf
  cases ms with
  | nil => exact absurd hlookup (by simp [Json.lookup])
  | cons m ms =>
    simp only [hread] at hf
    exact Except.ok.inj hf ▸ rfl

theorem provenanceValid : (b.gateFabricProvenance p w (b.canReadFabric p w)).passed = true := by
  obtain ⟨ms, sha, hms, hsha, htruthy⟩ := h.provenance
  have hcommit : nonempty (b.config.bind (·.versionCommit)) = some commit := by
    rw [h.configured]
    refine nonempty_some fun hempty => ?_
    have hlength := h.commitLength
    rw [hempty] at hlength
    exact absurd hlength (by decide)
  have hvalid : fabric.validateProvenance p (w.client (.gate .fabricProvenanceValid)) commit =
      (true, none) := by
    simp only [GitHubFabricAdapter.validateProvenance, if_neg (Nat.not_lt.2 h.commitLength),
      Option.filter_none, Option.getD_none, ne_eq, not_true_eq_false, or_self, if_false,
      World.client, hms, Guard.ok_seq]
    simp [Json.isStr, Json.isDict, Json.get, hsha, htruthy]
  rw [gateFabricProvenance, h.canRead, h.fabricWhen_eq]
  simp only [hcommit, hvalid]
  rfl

theorem runtimeReachable : (b.gateRuntimeReachable w).passed = true := by
  obtain ⟨body, ms, state, hopen, -⟩ := h.status .runtimeReachable
  rw [gateRuntimeReachable, hopen]
  rfl

theorem healthVerified :
    (gateRuntimeHealthVerified p w (b.gateRuntimeReachable w).passed).passed = true := by
  obtain ⟨body, ms, state, hopen, hload, hstate, hstopped, herror, -⟩ :=
    h.status .runtimeHealthVerified
  rw [gateRuntimeHealthVerified, h.runtimeReachable]
  simp only [adminStatus, hopen, Guard.ok_seq, hload, Json.get, hstate]
  simp [hstopped, herror, Finding.attempt]

theorem bindingVerified :
    (b.gateRuntimeBindingVerified p w (b.gateRuntimeReachable w).passed).passed = true := by
  obtain ⟨body, ms, state, hopen, hload, -, -, -, horg, hrepo⟩ := h.status .runtimeBindingVerified
  have hbinding : b.expectedBinding = (some fabric.org, some fabric.repo) := by
    rw [expectedBinding, h.adapter]
  rw [gateRuntimeBindingVerified, h.runtimeReachable, hbinding, nonempty_some fabric.bound.1,
    nonempty_some fabric.bound.2]
  simp [adminStatus, hopen, Guard.ok_seq, hload, Json.get, horg, hrepo, Finding.attempt]

theorem admitted : (b.gateRuntimeAdmitted p w (b.canReadFabric p w)
    (ThreePlaneBootstrap.identity w)).passed = true := by
  obtain ⟨ident, hident, hid, -⟩ := h.identity_eq
  unfold gateRuntimeAdmitted
  rw [h.canRead, h.fabricWhen_eq, hident]
  simp only [hid, FabricAdmissionResult.isAdmitted, h.admission]
  rfl

/-- The policy is read, and carries no contract. -/
theorem policySnapshot_eq : ∃ policy, b.policySnapshot p w = .ok (policy, .null) := by
  obtain ⟨ms, hread, hnone⟩ := h.policy
  obtain ⟨policy, hpolicy⟩ : ∃ policy, FabricPolicy.fromDict (.obj ms) = .ok policy := ⟨_, rfl⟩
  refine ⟨policy, ?_⟩
  rw [policySnapshot, h.adapter]
  simp only [Option.elim_some, Guard.ok_seq, hread, hpolicy, Json.get, hnone, Option.getD_none]

theorem policyFresh : (b.gatePolicySnapshot p w (b.canReadFabric p w)).1.passed = true := by
  obtain ⟨policy, hpolicy⟩ := h.policySnapshot_eq
  rw [gatePolicySnapshot, h.canRead, hpolicy]
  rfl

theorem inlineContract_eq : b.inlineContract p w = .null := by
  obtain ⟨policy, hpolicy⟩ := h.policySnapshot_eq
  rw [inlineContract, gatePolicySnapshot, h.canRead, hpolicy]
  rfl

theorem reconciled {f : Finding}
    (hf : b.gatePlaneReconciliation p w (b.canProceedFabric p w) (ThreePlaneBootstrap.identity w)
      (b.gateFabricReachable p w (b.canProceedFabric p w)).passed
      (b.gateRuntimeReachable w).passed = .ok f) : f.passed = true := by
  obtain ⟨ident, hident, hid, -⟩ := h.identity_eq
  obtain ⟨ms, l, hread, hregistered, hmem, horg, hrepo⟩ := h.state (.gate .planeReconciliation)
  have hknown : (l.any (Json.str runtimeId).pyEq) = true :=
    List.any_eq_true.2 ⟨_, hmem, by simp [Json.pyEq, PyVal.ofJson, PyVal.beq]⟩
  have hissues : stateIssues p w fabric ident = .ok [] := by
    rw [stateIssues, hread]
    simp [Json.get, hregistered, Guard.ok_seq, Json.contains, hid, hknown, horg, hrepo]
  have hcompared : b.comparedIssues p w (some ident) true true = .ok [] := by
    simp [comparedIssues, h.adapter, hissues]
  rw [h.reachable, h.runtimeReachable, h.canProceed, hident, gatePlaneReconciliation] at hf
  simp only [Bool.not_true, Bool.false_eq_true, if_false, hcompared, Guard.ok_seq] at hf
  obtain rfl := Except.ok.inj hf
  simp [hid, Json.truthy_str, h.idNonempty, ThreePlaneBootstrap.reconciled]

theorem contracts : (b.gateContracts p w (b.inlineContract p w)).passed = true := by
  obtain ⟨raw, contract, hread, hcontract, -⟩ := h.contract
  rw [gateContracts, h.inlineContract_eq, h.adapter]
  simp [hread, Guard.ok_seq, hcontract, Finding.attempt]

theorem delegation {idVerified tenantBound : Finding}
    (hid : b.gateFabricIdentityVerified p w (b.canProceedFabric p w) = .ok idVerified)
    (htenant : b.gateFabricTenantBound p w (b.canProceedFabric p w)
      (ThreePlaneBootstrap.identity w) = .ok tenantBound) :
    (delegationContext p (ThreePlaneBootstrap.identity w) tenantBound
      (b.fabricNode p w idVerified.passed)).passed = true := by
  obtain ⟨ident, hident, hrid, -⟩ := h.identity_eq
  obtain ⟨node, hnode, hnid⟩ := h.node .fabricNode
  obtain ⟨hpassed, hevidence⟩ := h.tenantBound htenant
  have hfabricNode : b.fabricNode p w idVerified.passed = .str nodeId := by
    rw [fabricNode, h.adapter, h.idVerified hid]
    simp [hnode, hnid]
  rw [delegationContext, hident, hfabricNode]
  simp [hrid, Json.truthy_str, h.idNonempty, hpassed, hevidence, h.nodeKnown]

/-! #### The inventories -/

omit h in
theorem inventoried_passed {name : String} {component : ComponentInventory}
    (hdeclared : component.declared ≠ []) : (inventoried name component).passed = true :=
  decide_eq_true (List.length_pos_iff.2 hdeclared)

theorem capabilities_declared : (b.discovered p w).capabilities.declared ≠ [] := by
  rw [discovered, h.inlineContract_eq]
  change ((b.capRegistry.getD .init).listAll.foldl (discoverCapability ([], [])) {}).declared ≠ []
  rw [InventoryDiscovery.declared_discoverCapabilities]
  simpa using h.registry

theorem tools_declared : (b.discovered p w).tools.declared ≠ [] := by
  obtain ⟨name, names, htools⟩ := h.tools
  exact InventoryDiscovery.declared_discoverTools htools

theorem connectors_declared : (b.discovered p w).connectors.declared ≠ [] :=
  InventoryDiscovery.declared_discoverConnectors h.modules

end Planes

/-- A bootstrap that the outside answers well ends in a verdict. -/
theorem exists_resolve (h : b.AgreesOn p w fabric runtimeId nodeId commit) :
    ∃ r, b.resolve p w = .ok r := by
  rw [exists_resolve_iff, exists_gatePlaneReconciliation_iff]
  intro fabric' ident state hfabric _ _ _ hread
  obtain rfl := Option.some.inj (h.adapter.symm.trans hfabric)
  obtain ⟨ms, l, hms, hregistered, -⟩ := h.state (.gate .planeReconciliation)
  obtain rfl := Except.ok.inj (hms.symm.trans hread)
  exact ⟨ms, rfl, by rw [hregistered]; trivial⟩

/-- The gates that ask the repository's components for something that they do not have. -/
def failing : List ReadinessGate :=
  [.modelsInventoried, .criticalAccessVerified, .continuityCoherent]

/-- **What fails when the outside answers well**: three gates, and these always. -/
theorem passed_iff {c : OwnComponents} (h : c.bootstrap.AgreesOn p w fabric runtimeId nodeId commit)
    {r : BootstrapReport} (hr : c.bootstrap.resolve p w = .ok r) {g : GateResult}
    (hg : g ∈ r.gates) : g.passed = true ↔ g.gate ∉ failing := by
  obtain ⟨idVerified, tenantBound, stateReadable, reconciled, hid, htenant, hstate, hrec, hgates⟩ :=
    (resolved_of_resolve hr).gates
  obtain ⟨ident, -, -, hident⟩ := h.identity_eq
  rw [hgates, List.mem_map] at hg
  obtain ⟨⟨gate, finding⟩, hmem, rfl⟩ := hg
  change finding.passed = true ↔ gate ∉ failing
  have pass : ∀ {gate : ReadinessGate} {f : Finding}, f.passed = true → gate ∉ failing →
      (f.passed = true ↔ gate ∉ failing) := iff_of_true
  have fail : ∀ {gate : ReadinessGate} {f : Finding}, f.passed = false → gate ∈ failing →
      (f.passed = true ↔ gate ∉ failing) := fun hf hgate =>
    iff_of_false (by rw [hf]; decide) (not_not_intro hgate)
  simp only [findings, List.mem_cons, Prod.mk.injEq, List.not_mem_nil, or_false] at hmem
  obtain ⟨rfl, rfl⟩ | ⟨rfl, rfl⟩ | ⟨rfl, rfl⟩ | ⟨rfl, rfl⟩ | ⟨rfl, rfl⟩ | ⟨rfl, rfl⟩ | ⟨rfl, rfl⟩ |
    ⟨rfl, rfl⟩ | ⟨rfl, rfl⟩ | ⟨rfl, rfl⟩ | ⟨rfl, rfl⟩ | ⟨rfl, rfl⟩ | ⟨rfl, rfl⟩ | ⟨rfl, rfl⟩ |
    ⟨rfl, rfl⟩ | ⟨rfl, rfl⟩ | ⟨rfl, rfl⟩ | ⟨rfl, rfl⟩ | ⟨rfl, rfl⟩ | ⟨rfl, rfl⟩ | ⟨rfl, rfl⟩ |
    ⟨rfl, rfl⟩ | ⟨rfl, rfl⟩ | ⟨rfl, rfl⟩ | ⟨rfl, rfl⟩ := hmem
  · exact pass hident (by decide)
  · exact pass h.connected (by decide)
  · exact pass h.orgBound (by decide)
  · exact pass h.reachable (by decide)
  · exact pass (h.idVerified hid) (by decide)
  · exact pass h.nodeAtHead (by decide)
  · exact pass h.trusted (by decide)
  · exact pass (h.tenantBound htenant).1 (by decide)
  · exact pass (h.stateReadable hstate) (by decide)
  · exact pass h.provenanceValid (by decide)
  · exact pass h.runtimeReachable (by decide)
  · exact pass h.healthVerified (by decide)
  · exact pass h.bindingVerified (by decide)
  · exact pass h.admitted (by decide)
  · exact pass h.policyFresh (by decide)
  · exact pass (h.reconciled hrec) (by decide)
  · exact pass (inventoried_passed h.capabilities_declared) (by decide)
  · exact pass (inventoried_passed h.tools_declared) (by decide)
  · exact fail models_not_inventoried (by decide)
  · exact pass (inventoried_passed InventoryDiscovery.declared_discoverWorkers) (by decide)
  · exact pass (inventoried_passed h.connectors_declared) (by decide)
  · exact fail (access_not_verified _) (by decide)
  · exact pass h.contracts (by decide)
  · exact pass (h.delegation hid htenant) (by decide)
  · exact fail (@continuity_not_coherent c p) (by decide)

end AgreesOn

end ThreePlaneBootstrap

/-! ### An environment that answers well -/

/-- The files of a fabric that knows the runtime. -/
def agreeingFiles : List RepositoryFile :=
  [⟨"fabric/node.json",
      "eyJub2RlX2lkIjogIk5PREUtMSIsICJvcmciOiAib3JnIiwgInJlcG8iOiAiZmFicmljIn0=\n",
      "\x7b\"node_id\": \"NODE-1\", \"org\": \"org\", \"repo\": \"fabric\"\x7d"⟩,
    ⟨"fabric/tenants/RT-1.json",
      "eyJ0ZW5hbnRfaWQiOiAiVEVOQU5ULTEiLCAicnVudGltZV9pZCI6ICJSVC0xIn0=\n",
      "\x7b\"tenant_id\": \"TENANT-1\", \"runtime_id\": \"RT-1\"\x7d"⟩,
    ⟨"fabric/admissions/RT-1.json",
      "eyJ2ZXJkaWN0IjogIkFMTE9XIiwgInJlYXNvbiI6ICJlbnJvbGxlZCJ9\n",
      "\x7b\"verdict\": \"ALLOW\", \"reason\": \"enrolled\"\x7d"⟩,
    ⟨"fabric/state.json",
      "eyJyZWdpc3RlcmVkX3J1bnRpbWVzIjogWyJSVC0xIl0sICJmYWJyaWNfb3JnIjogIm9yZyIsICJm\nYW" ++
        "JyaWNfcmVwbyI6ICJmYWJyaWMifQ==\n",
      "\x7b\"registered_runtimes\": [\"RT-1\"], \"fabric_org\": \"org\", \"fabric_rep" ++
        "o\": \"fabric\"\x7d"⟩,
    ⟨"fabric/policy.json",
      "eyJyZXZpc2lvbiI6ICIxIn0=\n",
      "\x7b\"revision\": \"1\"\x7d"⟩,
    ⟨"fabric/contract.json",
      "eyJncmFudGVkX2NhcGFiaWxpdGllcyI6IFsicmVwb3NpdG9yeS5yZWFkIiwgInJlcG9zaXRvcnku\nc2" ++
        "VhcmNoIiwgImZpbGVzeXN0ZW0uaW5zcGVjdCIsICJmaWxlc3lzdGVtLmxpc3QiLCAiZmFicmlj\nLnJl" ++
        "YWQiLCAicnVudGltZS5zdGF0dXMiLCAicnVudGltZS5leGVjdXRpb24iLCAidG9vbC5yZXNv\nbHZlIi" ++
        "wgIm1vZGVsLnJlc29sdmUiLCAid29ya2VyLnJlc29sdmUiXSwgInJldm9rZWRfY2FwYWJp\nbGl0aWVz" ++
        "IjogW119\n",
      "\x7b\"granted_capabilities\": [\"repository.read\", \"repository.search\", \"f" ++
        "ilesystem.inspect\", \"filesystem.list\", \"fabric.read\", \"runtime.status\"," ++
        " \"runtime.execution\", \"tool.resolve\", \"model.resolve\", \"worker.resolve\"" ++
        "], \"revoked_capabilities\": []\x7d"⟩]

/-- The repository's components over a clean log, with the builtin tools. -/
def freshComponents : OwnComponents where
  dataDir := "/var/lib/anny-runtime"
  fabric := some orgFabric
  engine := { disk := {} }
  config := some ⟨some "org", some "fabric", some "0123456789abcdef"⟩
  adminHost := "127.0.0.1"
  adminPort := 3643
  capabilities := some .init
  tools := some (Tools.builtins.map (·.manifest.name))
  models := some .bootstrap
  workers := none

/-- A reader returns what `json.dumps` wrote into its file. -/
theorem readDocument_of_dumps {a : GitHubFabricAdapter} {p : Platform} {gh : GitHubClient}
    {code path malformed text : String} {v : Json}
    (hfile : gh.getFile p a.org a.repo path = .ok (.str text))
    (htext : text.toList = Json.dumps v) : a.readDocument p gh code path malformed = .ok v := by
  rw [GitHubFabricAdapter.readDocument, GitHubFabricAdapter.load, hfile]
  show (Json.loadsValue p (.str text)).mapError _ = _
  rw [Json.loadsValue, htext, Json.loads_dumps]
  rfl

section Agreeing

/-- The API client, at any moment. -/
def agreeingClient : GitHubClient := ⟨.ok "token", answer agreeingFiles⟩

/-- The interpreter that reads these files. -/
def agreeingPlatform : Platform := platformReading agreeingFiles

/-- What the readers find in these files.  The checks are one after the other here: each of them
evaluates the decoder on a whole file. -/
structure AgreeingReads : Prop where
  node : orgFabric.readNodeConfig agreeingPlatform agreeingClient =
    .ok ⟨.str "NODE-1", .str "org", .str "fabric", .str "REPOSITORY_FABRIC", .str ""⟩
  tenant : orgFabric.readTenantBinding agreeingPlatform agreeingClient (.str "RT-1") =
    .ok ⟨.str "TENANT-1", .str "RT-1", .arr [], .str "", .null⟩
  state : orgFabric.readFabricState agreeingPlatform agreeingClient =
    .ok (.obj [("registered_runtimes", .arr [.str "RT-1"]), ("fabric_org", .str "org"),
      ("fabric_repo", .str "fabric")])
  admission : (orgFabric.checkAdmission agreeingPlatform agreeingClient (.str "RT-1")).verdict =
    "ALLOW"
  policy : orgFabric.readPolicy agreeingPlatform agreeingClient =
    .ok (.obj [("revision", .str "1")])
  contract : orgFabric.readContract agreeingPlatform agreeingClient =
    .ok (.obj [("granted_capabilities", Json.ofStrings criticalCapabilities),
      ("revoked_capabilities", .arr [])])
  status : Json.loadsValue agreeingPlatform
    (.str ("\x7b\"state\": \"WAITING_FOR_SESSION\", " ++
      "\"fabric_org\": \"org\", \"fabric_repo\": \"fabric\"\x7d")) =
    .ok (.obj [("state", .str "WAITING_FOR_SESSION"), ("fabric_org", .str "org"),
      ("fabric_repo", .str "fabric")])

/-- The text of the contract. -/
def contractText : String :=
  "\x7b\"granted_capabilities\": [\"repository.read\", \"repository.search\", \"f" ++
    "ilesystem.inspect\", \"filesystem.list\", \"fabric.read\", \"runtime.status\"," ++
    " \"runtime.execution\", \"tool.resolve\", \"model.resolve\", \"worker.resolve\"" ++
    "], \"revoked_capabilities\": []\x7d"

theorem getFile_contract : agreeingClient.getFile agreeingPlatform orgFabric.org orgFabric.repo
    "fabric/contract.json" = .ok (.str contractText) := by
  decide +kernel

-- The text is evaluated piece by piece: the kernel takes long over the characters of a long one.
theorem toList_contractText : contractText.toList =
    Json.dumps (.obj [("granted_capabilities", Json.ofStrings criticalCapabilities),
      ("revoked_capabilities", .arr [])]) := by
  unfold contractText
  simp only [String.toList_append, -String.reduceToList, -String.reduceAppend]
  decide +kernel

theorem agreeingReads : AgreeingReads where
  node := by decide +kernel
  tenant := by decide +kernel
  state := by decide +kernel
  admission := by decide +kernel
  policy := by decide +kernel
  contract := readDocument_of_dumps getFile_contract toList_contractText
  status := by decide +kernel

/-- Everything outside answers well. -/
theorem agreeing_agreesOn :
    freshComponents.bootstrap.AgreesOn agreeingPlatform (.serving agreeingFiles)
      orgFabric "RT-1" "NODE-1" "0123456789abcdef" where
  adapter := rfl
  client := rfl
  configured := rfl
  commitLength := by decide
  registry := by decide +kernel
  tools := ⟨"workspace.create", _, rfl⟩
  loaded := ⟨_, rfl, rfl⟩
  idNonempty := by decide
  nodeKnown := by decide
  principal := ⟨[("login", .str "anny")], rfl⟩
  member := ⟨[.obj [("login", .str "org")]], [.str "org"], by decide +kernel, by decide +kernel,
    List.mem_singleton_self _⟩
  repository := ⟨.obj [("name", .str "fabric")], by decide +kernel⟩
  node _ := ⟨_, agreeingReads.node, rfl⟩
  head := ⟨[("encoding", .str "base64"), ("content", .str
    "eyJub2RlX2lkIjogIk5PREUtMSIsICJvcmciOiAib3JnIiwgInJlcG8iOiAiZmFicmljIn0=\n")],
    by decide +kernel⟩
  token := ⟨_, rfl⟩
  signature _ _ := ⟨_, rfl⟩
  tenant := ⟨_, agreeingReads.tenant, rfl⟩
  state _ := ⟨_, _, agreeingReads.state, rfl, List.mem_singleton_self _, rfl, rfl⟩
  provenance := ⟨[("sha", .str "0123456789abcdef")], _, by decide +kernel, rfl, rfl⟩
  admission := agreeingReads.admission
  policy := ⟨_, agreeingReads.policy, by decide +kernel⟩
  contract := ⟨_, ⟨.str "UNKNOWN", .str "UNKNOWN", Json.ofStrings criticalCapabilities, .arr []⟩,
    agreeingReads.contract, rfl, fun cap hcap hwithholds => hwithholds.elim
      (fun ⟨l, hl, hmem⟩ => by cases hl; cases hmem)
      (fun hnone => hnone.2 ⟨_, rfl, List.mem_map_of_mem hcap⟩)⟩
  status _ := ⟨_, _, _, rfl, agreeingReads.status, rfl, by decide, by decide, rfl, rfl⟩
  directory _ := ⟨_, rfl⟩
  listing := ⟨_, rfl⟩
  modules _ _ := ⟨_, rfl⟩

/-- And the runtime is not ready. -/
theorem agreeing_not_ready :
    freshComponents.bootstrap.AgreesOn agreeingPlatform (.serving agreeingFiles)
        orgFabric "RT-1" "NODE-1" "0123456789abcdef" ∧
      ¬ freshComponents.bootstrap.Ready agreeingPlatform (.serving agreeingFiles) :=
  ⟨agreeing_agreesOn, not_ready_of_incoherent rfl⟩

end Agreeing

end Bootstrap

end AnnyRuntime
