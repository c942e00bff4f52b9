import AnnyRuntime.Bootstrap.Access

/-!
# The three-plane bootstrap

`resolve` evaluates the gates one after the other.  Most of them turn every exception into a
failed gate; `_gate_fabric_identity_verified`, `_gate_fabric_tenant_bound`,
`_gate_fabric_state_readable` and `_gate_plane_reconciliation` only catch a `FabricError`, so they
are computations that may raise.
-/

namespace AnnyRuntime

namespace Bootstrap

open Core Execution Fabric

/-- `RuntimeIdentity`, with whatever its file has in the fields. -/
structure RuntimeIdentity where
  (runtimeId installationId : Json)
  privateKey : ByteArray
  (publicKey platform runtimeVersion protocolVersion generation createdAt : Json)

/-- `RuntimeIdentity.load`. -/
def RuntimeIdentity.load (w : World) : Except PyException RuntimeIdentity := do
  let data ← w.identityFile
  let privateKey ← w.privateKey
  let runtimeId ← data.item "runtime_id"
  let installationId ← data.item "installation_id"
  let publicKey ← data.item "public_key"
  let platform ← data.item "platform"
  let runtimeVersion ← data.item "runtime_version"
  let protocolVersion ← data.item "protocol_version"
  let generation ← data.item "generation"
  let createdAt ← data.item "created_at"
  .ok ⟨runtimeId, installationId, privateKey, publicKey, platform, runtimeVersion,
    protocolVersion, generation, createdAt⟩

/-- The value of an attribute that counts as true. -/
def nonempty (s : Option String) : Option String := s.filter (· ≠ "")

theorem nonempty_some {s : String} (h : s ≠ "") : nonempty (some s) = some s := by
  simp [nonempty, h]

namespace ThreePlaneBootstrap

variable (b : ThreePlaneBootstrap) (p : Platform) (w : World)

/-- The fabric client, when the prerequisites of a gate are met. -/
def fabricWhen (canProceed : Bool) : Option GitHubFabricAdapter :=
  if canProceed then b.fabric else none

/-- `_gate_runtime_identity`. -/
def gateRuntimeIdentity : Finding × Option RuntimeIdentity :=
  match RuntimeIdentity.load w with
  | .ok ident => (⟨true, "Identity loaded from disk", ident.runtimeId⟩, some ident)
  | .error e => (.fail e.text, none)

/-- `_gate_github_connected`. -/
def gateGithubConnected : Finding :=
  match b.github with
  | none => .fail "No GitHub client provided"
  | some _ =>
    let login : Except PyException Json := do
      let principal ← w.request (.gate .githubConnected) "/user"
      principal.get "login" (.str "UNKNOWN")
    match login with
    | .ok login => ⟨true, "Authenticated", login⟩
    | .error e =>
      if e.kind = .githubAuthError then .fail ("Auth error: " ++ e.text) else .fail e.text

/-- The organization that the principal must be in. -/
def requiredOrg : Option String :=
  (nonempty (b.config.bind (·.fabricOrg))).or (nonempty (b.fabric.map (·.org)))

/-- An element of `{org["login"] for org in orgs}`. -/
def orgName (org : Json) : Except PyException Json := do
  let login ← org.item "login"
  if login.hashable then .ok login
  else .error ⟨.other, "unhashable type: '" ++ login.typeName ++ "'"⟩

/-- `_gate_github_org_bound`. -/
def gateGithubOrgBound (ghConnected : Bool) : Finding :=
  if !ghConnected then .fail "GitHub not connected"
  else
    match b.requiredOrg with
    | none => .fail "fabric_org not configured — cannot verify org membership"
    | some requiredOrg =>
      .attempt do
        let orgs ← w.request (.gate .githubOrgBound) "/user/orgs?per_page=100"
        let orgNames ← (← orgs.iter).mapM orgName
        if .str requiredOrg ∈ orgNames then
          .ok ⟨true, "Member of " ++ requiredOrg, .str requiredOrg⟩
        else
          let listed ← p.sorted orgNames
          .ok (.fail ("Not a member of " ++ requiredOrg ++ ". Orgs: " ++ listed))

/-- `_gate_fabric_reachable`. -/
def gateFabricReachable (canProceed : Bool) : Finding :=
  match b.fabricWhen canProceed with
  | none => .fail "Prerequisites not met"
  | some fabric =>
    let (reachable, error) := fabric.probeReachability p (w.client (.gate .fabricReachable))
    if reachable then
      ⟨true, "Fabric reachable (" ++ w.latency ++ "ms)", .str (fabric.org ++ "/" ++ fabric.repo)⟩
    else .fail error

/-- `_gate_fabric_identity_verified`. -/
def gateFabricIdentityVerified (canProceed : Bool) : Except PyException Finding :=
  match b.fabricWhen canProceed with
  | none => .ok (.fail "Prerequisites not met")
  | some fabric =>
    Finding.catchFabric do
      let node ← fabric.readNodeConfig p (w.client (.gate .fabricIdentityVerified))
      .ok ⟨true, "Node config read from Fabric", node.nodeId⟩

/-- `_gate_fabric_node_at_remote_head`. -/
def gateFabricNodeAtRemoteHead (canProceed : Bool) : Finding :=
  match b.fabricWhen canProceed with
  | none => .fail "Prerequisites not met"
  | some fabric =>
    let (found, sha) :=
      fabric.nodeJsonExistsAtRemoteHead p (w.client (.gate .fabricNodeAtRemoteHead))
    if found then ⟨true, "fabric/node.json confirmed at remote HEAD", sha⟩
    else
      .fail ("fabric/node.json not found at remote HEAD of " ++ fabric.org ++ "/" ++ fabric.repo)

/-- `_gate_fabric_trust_verified`. -/
def gateFabricTrustVerified (canProceed : Bool) (identity : Option RuntimeIdentity) : Finding :=
  match b.fabricWhen canProceed, identity with
  | some fabric, some ident =>
    .attempt do
      let token ← fabric.issueTrustToken p (w.client (.gate .fabricTrustVerified)) w.issuedAt
        w.expiresAt ident.runtimeId ident.privateKey
      .ok ⟨true, "Trust token issued",
        .str (String.ofList (token.signature.toList.take 8) ++ "...")⟩
  | _, _ => .fail "Prerequisites not met"

/-- `_gate_fabric_tenant_bound`. -/
def gateFabricTenantBound (canProceed : Bool) (identity : Option RuntimeIdentity) :
    Except PyException Finding :=
  match b.fabricWhen canProceed, identity with
  | some fabric, some ident =>
    Finding.catchFabric do
      let tenant ← fabric.readTenantBinding p (w.client (.gate .fabricTenantBound)) ident.runtimeId
      .ok ⟨true, "Tenant binding found", tenant.tenantId⟩
  | _, _ => .ok (.fail "Prerequisites not met")

/-- The node of the report: that of a second read, when there is one. -/
def fabricNode (idVerified : Bool) : Json :=
  match b.fabric with
  | some fabric =>
    if idVerified then
      match fabric.readNodeConfig p (w.client .fabricNode) with
      | .ok node => node.nodeId
      | .error _ => .str "UNKNOWN"
    else .str "UNKNOWN"
  | none => .str "UNKNOWN"

/-- `_gate_fabric_state_readable`. -/
def gateFabricStateReadable (canProceed : Bool) : Except PyException Finding :=
  match b.fabricWhen canProceed with
  | none => .ok (.fail "Prerequisites not met")
  | some fabric =>
    Finding.catchFabric do
      match ← fabric.readFabricState p (w.client (.gate .fabricStateReadable)) with
      | .obj (m :: ms) =>
        let keys := (Dict.ofList (m :: ms)).keys
        .ok ⟨true, "Fabric state read successfully",
          .str ("keys=" ++ p.str (Json.ofStrings (keys.take 5)))⟩
      | _ => .ok (.fail "fabric/state.json is empty or malformed")

/-- `_gate_fabric_provenance`: a `RuntimeIdentity` has no `origin_commit`, so the commit is the
configuration's. -/
def gateFabricProvenance (canProceed : Bool) : Finding :=
  match b.fabricWhen canProceed with
  | none => .fail "Prerequisites not met"
  | some fabric =>
    match nonempty (b.config.bind (·.versionCommit)) with
    | none => .fail "No commit SHA available for provenance check"
    | some commitSha =>
      let short := GitHubFabricAdapter.short commitSha
      let (valid, error) :=
        fabric.validateProvenance p (w.client (.gate .fabricProvenanceValid)) commitSha
      if valid then ⟨true, "Commit " ++ short ++ " confirmed at Fabric remote", .str short⟩
      else .fail ((nonempty error).getD ("Commit " ++ short ++ " not found in Fabric"))

/-- `_gate_runtime_reachable`. -/
def gateRuntimeReachable : Finding :=
  let address := b.adminHost ++ ":" ++ toString b.adminPort
  match w.urlopen .runtimeReachable with
  | .ok resp =>
    if resp.status = 200 then
      ⟨true, "Admin API responded 200 at " ++ address, .str ("http://" ++ address ++ "/api/status")⟩
    else .fail ("Admin API returned HTTP " ++ toString resp.status)
  | .error e =>
    match e.kind with
    | .urlError reason => .fail ("Admin API not reachable at " ++ address ++ ": " ++ reason)
    | _ => .fail e.text

/-- The decoded body of `/api/status`. -/
def adminStatus (gate : ReadinessGate) : Except PyException Json := do
  let resp ← w.urlopen gate
  let raw ← resp.body
  Json.loadsValue p (.str raw)

/-- `_gate_runtime_health_verified`. -/
def gateRuntimeHealthVerified (rtReachable : Bool) : Finding :=
  if !rtReachable then .fail "Runtime not reachable"
  else
    .attempt do
      let data ← adminStatus p w .runtimeHealthVerified
      let state ← data.get "state" (.str "UNKNOWN")
      if state ≠ .str "STOPPED" ∧ state ≠ .str "ERROR" then
        .ok ⟨true, "Runtime state: " ++ p.str state, state⟩
      else .ok (.fail ("Runtime in unhealthy state: " ++ p.str state))

/-- The binding that the runtime must report. -/
def expectedBinding : Option String × Option String :=
  match b.fabric with
  | some fabric => (some fabric.org, some fabric.repo)
  | none => (b.config.bind (·.fabricOrg), b.config.bind (·.fabricRepo))

/-- `_gate_runtime_binding_verified`. -/
def gateRuntimeBindingVerified (rtReachable : Bool) : Finding :=
  if !rtReachable then .fail "Runtime not reachable"
  else
    match nonempty b.expectedBinding.1, nonempty b.expectedBinding.2 with
    | some expectedOrg, some expectedRepo =>
      .attempt do
        let expected := expectedOrg ++ "/" ++ expectedRepo
        let data ← adminStatus p w .runtimeBindingVerified
        let reportedOrg ← data.get "fabric_org"
        let reportedRepo ← data.get "fabric_repo"
        if reportedOrg = .str expectedOrg ∧ reportedRepo = .str expectedRepo then
          .ok ⟨true, "Binding matches: " ++ expected, .str expected⟩
        else
          .ok (.fail ("Binding mismatch: expected " ++ expected ++ ", got " ++
            p.str reportedOrg ++ "/" ++ p.str reportedRepo))
    | _, _ => .fail "Cannot verify binding: fabric_org/repo not configured"

/-- `_gate_runtime_admitted`. -/
def gateRuntimeAdmitted (canProceed : Bool) (identity : Option RuntimeIdentity) : Finding :=
  match b.fabricWhen canProceed, identity with
  | some fabric, some ident =>
    let admission := fabric.checkAdmission p (w.client (.gate .runtimeAdmitted)) ident.runtimeId
    if admission.isAdmitted then
      ⟨true, "Fabric ALLOW: " ++ p.str admission.reason, .str admission.verdict⟩
    else .fail ("Fabric verdict=" ++ admission.verdict ++ ": " ++ p.str admission.reason)
  | _, _ => .fail "Prerequisites not met"

/-- The policy that phase E reads, and its member `_contract` as it is in the file. -/
def policySnapshot : Except PyException (FabricPolicy × Json) := do
  let fabric ← b.fabric.elim (.error (attributeError "NoneType" "read_policy")) .ok
  let raw ← fabric.readPolicy p (w.client (.gate .policySnapshotFresh))
  let policy ← FabricPolicy.fromDict raw
  let contract ← raw.get "_contract"
  .ok (policy, contract)

/-- `_gate_policy_snapshot`: the finding, the revision and the contract. -/
def gatePolicySnapshot (canProceed : Bool) : Finding × Option Json × Json :=
  if !canProceed then (.fail "Prerequisites not met", none, .null)
  else
    match b.policySnapshot p w with
    | .ok (policy, contract) =>
      (⟨true, "Policy snapshot fetched, revision=" ++ p.str policy.revision, policy.revision⟩,
        some policy.revision, contract)
    | .error e => (.fail e.text, none, .null)

/-- The issues that the state of the fabric gives rise to. -/
def stateIssues (fabric : GitHubFabricAdapter) (ident : RuntimeIdentity) :
    Except PyException (List String) :=
  match fabric.readFabricState p (w.client (.gate .planeReconciliation)) with
  | .error e =>
    if e.kind = .fabricError then
      .ok ["Could not read fabric state for reconciliation: " ++ e.text]
    else .error e
  | .ok fabricState => do
    let registered ← fabricState.get "registered_runtimes" (.arr [])
    let known ← registered.contains ident.runtimeId
    let stateOrg ← fabricState.get "fabric_org"
    let stateRepo ← fabricState.get "fabric_repo"
    let unknown :=
      if known then [] else [p.str ident.runtimeId ++ " not in fabric state registered_runtimes"]
    let wrongOrg :=
      if stateOrg.truthy ∧ stateOrg ≠ .str fabric.org then
        ["Fabric org mismatch: expected " ++ fabric.org ++ ", got " ++ p.str stateOrg]
      else []
    let wrongRepo :=
      if stateRepo.truthy ∧ stateRepo ≠ .str fabric.repo then
        ["Fabric repo mismatch: expected " ++ fabric.repo ++ ", got " ++ p.str stateRepo]
      else []
    .ok (unknown ++ wrongOrg ++ wrongRepo)

/-- The issues that the comparison with the fabric gives rise to, when both planes answer. -/
def comparedIssues (identity : Option RuntimeIdentity) (fabReachable rtReachable : Bool) :
    Except PyException (List String) :=
  match identity with
  | some ident =>
    if fabReachable ∧ rtReachable then
      match b.fabric with
      | some fabric => stateIssues p w fabric ident
      | none => .error (attributeError "NoneType" "read_fabric_state")
    else .ok []
  | none => .ok []

/-- The result of the reconciliation, from its issues. -/
def reconciled (identity : Option RuntimeIdentity) (issues : List String) : Finding :=
  if issues = [] then
    ⟨true, "All planes agree", (identity.map (·.runtimeId)).getD (.str "UNKNOWN")⟩
  else .fail ("; ".intercalate issues)

/-- `_gate_plane_reconciliation`. -/
def gatePlaneReconciliation (canProceed : Bool) (identity : Option RuntimeIdentity)
    (fabReachable rtReachable : Bool) : Except PyException Finding :=
  if !canProceed then .ok (.fail "Prerequisites not met")
  else do
    let idIssues :=
      if identity.any (·.runtimeId.truthy) then [] else ["runtime_id missing from identity"]
    let fabIssues := if fabReachable then [] else ["Fabric not reachable — cannot reconcile"]
    let rtIssues := if rtReachable then [] else ["Runtime not reachable — cannot reconcile"]
    let compared ← b.comparedIssues p w identity fabReachable rtReachable
    .ok (reconciled identity (idIssues ++ fabIssues ++ rtIssues ++ compared))

/-- The inventory of phase G. -/
def inventory (fabricContract : Json) : BootstrapInventory :=
  InventoryDiscovery.discover
    { capRegistry := b.capRegistry
      toolRegistry := b.toolRegistry
      modelRegistry := b.modelRegistry
      workerManager := b.workerManager
      fabricContract
      imports := w.imports }

/-- What `_gate_inventory` finds of one kind of component. -/
def inventoried (name : String) (component : ComponentInventory) : Finding :=
  let count := component.declared.length
  let enabled := component.authorized.length
  ⟨0 < count, name ++ ": " ++ toString count ++ " declared, " ++ toString enabled ++ " authorized",
    .str (toString count ++ "/" ++ toString enabled)⟩

/-- The verifier of phase H. -/
def verifier (authorizedCapabilities : List String) : CriticalAccessVerifier where
  authorized := authorizedCapabilities
  dataDir := b.dataDir
  fabric := b.fabric
  github := b.github
  platform := p
  client := w.client (.gate .criticalAccessVerified)
  stat := w.stat
  listdir := w.listdir
  pathExists := w.pathExists
  imports := w.imports

/-- `_gate_critical_access`. -/
def gateCriticalAccess (authorizedCapabilities : List String) : Finding :=
  let result := (b.verifier p w authorizedCapabilities).verify
  let evidence := ", ".intercalate ((result.results.filter (·.passed)).map (·.evidence))
  ⟨result.passed,
    "tested=" ++ toString result.results.length ++ ", failures=" ++
      p.str (Json.ofStrings result.criticalFailures),
    if evidence = "" then .null else .str evidence⟩

/-- `_gate_contracts`.  The contract of the policy is a value of a JSON file, so it has no attribute
`contract_id`. -/
def gateContracts (fabricContract : Json) : Finding :=
  if fabricContract ≠ .null then ⟨true, "Contract: INLINED", .str "INLINED"⟩
  else
    match b.fabric with
    | none => .fail "No fabric client — cannot discover contracts"
    | some fabric =>
      .attempt do
        let raw ← fabric.readContract p (w.client (.gate .contractsDiscovered))
        let contract ← (FabricContract.fromDict raw).elim
          (.error (attributeError raw.typeName "get")) .ok
        .ok ⟨true, "Contract: " ++ p.str contract.contractId, contract.contractId⟩

/-- The context of a delegation, from what has been bound so far. -/
def delegationContext (identity : Option RuntimeIdentity) (tenantGate : Finding)
    (fabricNode : Json) : Finding :=
  let idIssues := if identity.any (·.runtimeId.truthy) then [] else ["runtime_id unknown"]
  let tenantIssues :=
    if tenantGate.passed ∧ tenantGate.evidence.truthy then [] else ["tenant_id not bound"]
  let nodeIssues := if fabricNode = .str "UNKNOWN" then ["fabric_node not resolved"] else []
  let issues := idIssues ++ tenantIssues ++ nodeIssues
  if issues = [] then
    ⟨true, "Delegation context complete",
      .str ("runtime_id=" ++ p.str ((identity.map (·.runtimeId)).getD .null) ++ " | tenant_id=" ++
        p.str tenantGate.evidence ++ " | fabric_node=" ++ p.str fabricNode)⟩
  else .fail ("; ".intercalate issues)

/-- `_gate_delegation_context`. -/
def gateDelegationContext (report : BootstrapReport) (identity : Option RuntimeIdentity) :
    Finding :=
  delegationContext p identity (report.getGate .fabricTenantBound).toFinding report.fabricNode

/-- `_gate_continuity_coherent`. -/
def gateContinuityCoherent : Finding :=
  match b.continuity with
  | none => .fail "No continuity engine"
  | some continuity =>
    .attempt do
      let status ← continuity.status
      let state ← status.get "state" (.str "UNKNOWN")
      if state = .str "COHERENT" then .ok ⟨true, "Continuity coherent", state⟩
      else .ok (.fail ("Continuity state: " ++ p.str state))

/-! ### The sequence -/

/-- The identity that was loaded. -/
def identity : Option RuntimeIdentity := (gateRuntimeIdentity w).2

/-- The principal is authenticated. -/
def ghConnected : Bool := (b.gateGithubConnected w).passed

/-- `can_proceed_fabric`. -/
def canProceedFabric : Bool :=
  (identity w).isSome && b.ghConnected w && (b.gateGithubOrgBound p w (b.ghConnected w)).passed

/-- `can_proceed_fabric and fab_reachable`. -/
def canReadFabric : Bool :=
  b.canProceedFabric p w && (b.gateFabricReachable p w (b.canProceedFabric p w)).passed

/-- `resolve`. -/
def resolve : Except PyException BootstrapReport := do
  let ident := identity w
  let report : BootstrapReport := { runtimeId := (ident.map (·.runtimeId)).getD (.str "UNKNOWN") }
  let report := report.addResult .runtimeIdentity (gateRuntimeIdentity w).1
  let report := report.addResult .githubConnected (b.gateGithubConnected w)
  let report := report.addResult .githubOrgBound (b.gateGithubOrgBound p w (b.ghConnected w))
  let canProceed := b.canProceedFabric p w
  let reachable := b.gateFabricReachable p w canProceed
  let report := report.addResult .fabricReachable reachable
  let canRead := b.canReadFabric p w
  let idVerified ← b.gateFabricIdentityVerified p w canProceed
  let report := report.addResult .fabricIdentityVerified idVerified
  let report :=
    report.addResult .fabricNodeAtRemoteHead (b.gateFabricNodeAtRemoteHead p w canProceed)
  let report :=
    report.addResult .fabricTrustVerified (b.gateFabricTrustVerified p w canProceed ident)
  let tenantBound ← b.gateFabricTenantBound p w canProceed ident
  let report := report.addResult .fabricTenantBound tenantBound
  let report := report.withFabricNode (b.fabricNode p w idVerified.passed)
  let stateReadable ← b.gateFabricStateReadable p w canRead
  let report := report.addResult .fabricStateReadable stateReadable
  let report := report.addResult .fabricProvenanceValid (b.gateFabricProvenance p w canRead)
  let rtReachable := b.gateRuntimeReachable w
  let report := report.addResult .runtimeReachable rtReachable
  let report := report.addResult .runtimeHealthVerified
    (gateRuntimeHealthVerified p w rtReachable.passed)
  let report := report.addResult .runtimeBindingVerified
    (b.gateRuntimeBindingVerified p w rtReachable.passed)
  let report := report.addResult .runtimeAdmitted (b.gateRuntimeAdmitted p w canRead ident)
  let snapshot := b.gatePolicySnapshot p w canRead
  let report := report.withPolicyRevision snapshot.2.1
  let report := report.addResult .policySnapshotFresh snapshot.1
  let reconciled ←
    b.gatePlaneReconciliation p w canProceed ident reachable.passed rtReachable.passed
  let report := report.addResult .planeReconciliation reconciled
  let inv := b.inventory w snapshot.2.2
  let report := report.addResult .capabilitiesInventoried
    (inventoried "capabilities" inv.capabilities)
  let report := report.addResult .toolsInventoried (inventoried "tools" inv.tools)
  let report := report.addResult .modelsInventoried (inventoried "models" inv.models)
  let report := report.addResult .workersInventoried (inventoried "workers" inv.workers)
  let report := report.addResult .connectorsInventoried (inventoried "connectors" inv.connectors)
  let report :=
    report.withInventories inv.capabilities inv.tools inv.models inv.workers inv.connectors
  let report := report.addResult .criticalAccessVerified
    (b.gateCriticalAccess p w report.capabilities.authorized)
  let contracts := b.gateContracts p w snapshot.2.2
  let report := report.withLimitsVerified contracts.passed
  let report := report.addResult .contractsDiscovered contracts
  let report := report.addResult .delegationContextBuilt (gateDelegationContext p report ident)
  let report := report.addResult .continuityCoherent (b.gateContinuityCoherent p)
  .ok (report.finish report.allMandatoryPass)

/-! ### What the sequence returns -/

/-- The member `_contract` of the policy that phase E reads. -/
def inlineContract : Json := (b.gatePolicySnapshot p w (b.canReadFabric p w)).2.2

/-- The inventory of the sequence. -/
def discovered : BootstrapInventory := b.inventory w (b.inlineContract p w)

/-- The findings of the sequence, with those of the gates that may raise given. -/
def findings (idVerified tenantBound stateReadable reconciled : Finding) :
    List (ReadinessGate × Finding) :=
  let canProceed := b.canProceedFabric p w
  let canRead := b.canReadFabric p w
  let rtReachable := b.gateRuntimeReachable w
  let inv := b.discovered p w
  [(.runtimeIdentity, (gateRuntimeIdentity w).1),
    (.githubConnected, b.gateGithubConnected w),
    (.githubOrgBound, b.gateGithubOrgBound p w (b.ghConnected w)),
    (.fabricReachable, b.gateFabricReachable p w canProceed),
    (.fabricIdentityVerified, idVerified),
    (.fabricNodeAtRemoteHead, b.gateFabricNodeAtRemoteHead p w canProceed),
    (.fabricTrustVerified, b.gateFabricTrustVerified p w canProceed (identity w)),
    (.fabricTenantBound, tenantBound),
    (.fabricStateReadable, stateReadable),
    (.fabricProvenanceValid, b.gateFabricProvenance p w canRead),
    (.runtimeReachable, rtReachable),
    (.runtimeHealthVerified, gateRuntimeHealthVerified p w rtReachable.passed),
    (.runtimeBindingVerified, b.gateRuntimeBindingVerified p w rtReachable.passed),
    (.runtimeAdmitted, b.gateRuntimeAdmitted p w canRead (identity w)),
    (.policySnapshotFresh, (b.gatePolicySnapshot p w canRead).1),
    (.planeReconciliation, reconciled),
    (.capabilitiesInventoried, inventoried "capabilities" inv.capabilities),
    (.toolsInventoried, inventoried "tools" inv.tools),
    (.modelsInventoried, inventoried "models" inv.models),
    (.workersInventoried, inventoried "workers" inv.workers),
    (.connectorsInventoried, inventoried "connectors" inv.connectors),
    (.criticalAccessVerified, b.gateCriticalAccess p w inv.capabilities.authorized),
    (.contractsDiscovered, b.gateContracts p w (b.inlineContract p w)),
    (.delegationContextBuilt, delegationContext p (identity w) tenantBound
      (b.fabricNode p w idVerified.passed)),
    (.continuityCoherent, b.gateContinuityCoherent p)]

/-- What `resolve` returns: a report over the findings of the sequence. -/
structure Resolved (r : BootstrapReport) : Prop where
  annyReady : r.annyReady = r.allMandatoryPass
  capabilities : r.capabilities = (b.discovered p w).capabilities
  gates : ∃ idVerified tenantBound stateReadable reconciled,
    b.gateFabricIdentityVerified p w (b.canProceedFabric p w) = .ok idVerified ∧
      b.gateFabricTenantBound p w (b.canProceedFabric p w) (identity w) = .ok tenantBound ∧
        b.gateFabricStateReadable p w (b.canReadFabric p w) = .ok stateReadable ∧
          b.gatePlaneReconciliation p w (b.canProceedFabric p w) (identity w)
            (b.gateFabricReachable p w (b.canProceedFabric p w)).passed
            (b.gateRuntimeReachable w).passed = .ok reconciled ∧
          r.gates = (b.findings p w idVerified tenantBound stateReadable reconciled).map
            fun f => { f.2 with gate := f.1 }

variable {b p w}

theorem resolved_of_resolve {r : BootstrapReport} (h : b.resolve p w = .ok r) :
    b.Resolved p w r := by
  rw [resolve] at h
  simp only [Guard.seq_eq_ok] at h
  obtain ⟨idVerified, hid, tenantBound, htenant, stateReadable, hstate, reconciled, hrec, h⟩ := h
  obtain rfl := Except.ok.inj h
  refine ⟨?_, ?_,
    idVerified, tenantBound, stateReadable, reconciled, hid, htenant, hstate, hrec, ?_⟩
  · simp
  · simp [discovered, inlineContract]
  · simp [findings, discovered, inlineContract, gateDelegationContext, BootstrapReport.getGate]

/-- The report evaluated every gate once. -/
theorem Resolved.complete {r : BootstrapReport} (h : b.Resolved p w r) : r.Complete := by
  obtain ⟨_, _, _, _, -, -, -, -, hgates⟩ := h.gates
  rw [BootstrapReport.Complete, hgates]
  rfl

/-- A gate that does not pass keeps the report from being ready. -/
theorem Resolved.not_annyReady {r : BootstrapReport} (h : b.Resolved p w r) {g : GateResult}
    (hg : g ∈ r.gates) (hfail : g.passed = false) : r.annyReady ≠ true := by
  intro hready
  rw [h.annyReady, h.complete.allMandatoryPass_iff] at hready
  obtain ⟨g', hg', hgate, hpass⟩ := hready g.gate (ReadinessGate.mem_mandatory _)
  have heq : g' = g := h.complete.eq_of_gate hg' hg hgate
  rw [heq, hfail] at hpass
  cases hpass

end ThreePlaneBootstrap

end Bootstrap

end AnnyRuntime
