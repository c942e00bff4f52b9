import AnnyRuntime.Fabric.Contract
import AnnyRuntime.Json.Access

/-!
# The fabric adapter

The adapter reads the files of the fabric repository through the GitHub API.  What a request
answers is open (`GitHubClient.request`); how a file is taken out of an answer, and which error
each failure becomes, is the code's.

A reader that decodes a file turns every exception into a `FabricError`
(`readDocument_fabric`, `readNodeConfig_fabric`, `readTenantBinding_fabric`).
-/

namespace AnnyRuntime

namespace Fabric

/-- The GitHub client: its token, and what `_request` does with an endpoint. -/
structure GitHubClient where
  token : Except PyException String
  request : String → Except PyException Json

/-- `GitHubClient.get_file`, whose result nothing checks to be a text. -/
def GitHubClient.getFile (gh : GitHubClient) (p : Platform) (owner repo path : String) :
    Except PyException Json := do
  let res ← gh.request ("/repos/" ++ owner ++ "/" ++ repo ++ "/contents/" ++ path)
  match res with
  | .obj ms =>
    match Json.lookup "content" ms with
    | some contentStr =>
      if (Json.lookup "encoding" ms).getD (.str "base64") = .str "base64" then
        (p.b64decode contentStr).map .str
      else .ok contentStr
    | none => .error ⟨.githubClientError, "Unexpected response format for file " ++ path⟩
  | .str s => .ok (.str s)
  | _ => .error ⟨.githubClientError, "Unexpected response format for file " ++ path⟩

/-! ### The records of the fabric -/

/-- `FabricError(code, message)`. -/
def fabricError (code message : String) : PyException :=
  ⟨.fabricError, "[" ++ code ++ "] " ++ message⟩

/-- A node of the fabric, with whatever its file has in the fields. -/
structure FabricNode where
  (nodeId org repo purpose createdAt : Json)
  deriving DecidableEq

/-- `FabricNode.from_dict`. -/
def FabricNode.fromDict (data : Json) : Except PyException FabricNode := do
  let nodeId ← data.item "node_id"
  let org ← data.item "org"
  let repo ← data.item "repo"
  let purpose ← data.get "purpose" (.str "REPOSITORY_FABRIC")
  let createdAt ← data.get "created_at" (.str "")
  .ok ⟨nodeId, org, repo, purpose, createdAt⟩

/-- A tenant of the fabric. -/
structure FabricTenant where
  (tenantId runtimeId projectIds enrolledAt publicKeyFingerprint : Json)
  deriving DecidableEq

/-- `FabricTenant.from_dict`. -/
def FabricTenant.fromDict (data : Json) : Except PyException FabricTenant := do
  let tenantId ← data.item "tenant_id"
  let runtimeId ← data.item "runtime_id"
  let projectIds ← data.get "project_ids" (.arr [])
  let enrolledAt ← data.get "enrolled_at" (.str "")
  let publicKeyFingerprint ← data.get "public_key_fingerprint"
  .ok ⟨tenantId, runtimeId, projectIds, enrolledAt, publicKeyFingerprint⟩

/-- The policy of the fabric. -/
structure FabricPolicy where
  (revision requireAdmission allowLocalModels allowRemoteModels maxWorkspaceSizeMb : Json)
  deriving DecidableEq

/-- `FabricPolicy.from_dict`. -/
def FabricPolicy.fromDict (data : Json) : Except PyException FabricPolicy := do
  let revision ← data.get "revision" (.str "UNKNOWN")
  let requireAdmission ← data.get "require_admission" (.bool true)
  let allowLocalModels ← data.get "allow_local_models" (.bool true)
  let allowRemoteModels ← data.get "allow_remote_models" (.bool true)
  let maxWorkspaceSizeMb ← data.get "max_workspace_size_mb" (.int 1024)
  .ok ⟨revision, requireAdmission, allowLocalModels, allowRemoteModels, maxWorkspaceSizeMb⟩

/-- A trust token. -/
structure FabricTrustToken where
  (runtimeId nodeId : Json)
  (issuedAt expiresAt signature : String)
  verified : Bool
  deriving DecidableEq

/-- The result of an admission check. -/
structure FabricAdmissionResult where
  verdict : String
  reason : Json
  raw : Json
  deriving DecidableEq

/-- `is_admitted`. -/
def FabricAdmissionResult.isAdmitted (r : FabricAdmissionResult) : Bool := r.verdict = "ALLOW"

/-! ### The adapter -/

/-- The adapter: the repository that it is bound to, which its constructor requires. -/
structure GitHubFabricAdapter where
  (org repo : String)
  bound : org ≠ "" ∧ repo ≠ ""

/-- `self.x = raw or {}`. -/
def orEmpty (raw : Json) : Json := if raw.truthy then raw else .obj []

/-- The word is part of the text. -/
def mentions (word text : String) : Bool := decide (word.toList <:+: text.toList)

namespace GitHubFabricAdapter

variable (a : GitHubFabricAdapter) (p : Platform) (gh : GitHubClient)

/-- `probe_reachability`: whether the repository answers, and the error. -/
def probeReachability : Bool × String :=
  match gh.request ("/repos/" ++ a.org ++ "/" ++ a.repo) with
  | .ok _ => (true, "SUCCESS")
  | .error e =>
    match e.kind with
    | .githubNotFoundError => (false, "NOT_FOUND")
    | .githubClientError | .githubAuthError =>
      let errStr := p.lower e.text
      if mentions "401" errStr || mentions "403" errStr || mentions "unauthorized" errStr ||
          mentions "forbidden" errStr then (false, "AUTH_ERROR")
      else (false, "NETWORK_ERROR: " ++ e.text)
    | _ => (false, "UNKNOWN: " ++ e.text)

/-- `json.loads(self.gh.get_file(org, repo, path))`. -/
def load (path : String) : Except PyException Json :=
  gh.getFile p a.org a.repo path >>= Json.loadsValue p

/-- The `except` clauses of a reader: what it raises for an exception of its body. -/
def reraise (code path malformed : String) (e : PyException) : PyException :=
  match e.kind with
  | .githubNotFoundError => fabricError (code ++ "_MISSING") (path ++ " not found in Fabric repo")
  | .jsonDecodeError => fabricError (code ++ "_MALFORMED") (path ++ malformed ++ e.text)
  | _ => fabricError (code ++ "_ERROR") ("Could not read " ++ path ++ ": " ++ e.text)

/-- A reader that returns the decoded file. -/
def readDocument (code path malformed : String) : Except PyException Json :=
  (a.load p gh path).mapError (reraise code path malformed)

/-- `read_fabric_state`. -/
def readFabricState : Except PyException Json :=
  a.readDocument p gh "FABRIC_STATE" "fabric/state.json" " is malformed: "

/-- `read_policy`. -/
def readPolicy : Except PyException Json :=
  a.readDocument p gh "FABRIC_POLICY" "fabric/policy.json" " is malformed JSON: "

/-- `read_contract`. -/
def readContract : Except PyException Json :=
  a.readDocument p gh "FABRIC_CONTRACT" "fabric/contract.json" " is malformed JSON: "

/-- `read_node_config`. -/
def readNodeConfig : Except PyException FabricNode :=
  (a.load p gh "fabric/node.json" >>= FabricNode.fromDict).mapError
    (reraise "FABRIC_NODE" "fabric/node.json" " is malformed JSON: ")

/-- `node_json_exists_at_remote_head`: whether the file is there, and its `sha`. -/
def nodeJsonExistsAtRemoteHead : Bool × Json :=
  let head : Except PyException Json := do
    let response ← gh.request ("/repos/" ++ a.org ++ "/" ++ a.repo ++ "/contents/fabric/node.json")
    let data ← if response.isStr then Json.loadsValue p response else .ok response
    if data.isDict then data.get "sha" else .ok .null
  match head with
  | .ok sha => (true, sha)
  | .error _ => (false, .null)

/-- `read_tenant_binding`. -/
def readTenantBinding (runtimeId : Json) : Except PyException FabricTenant :=
  let path := "fabric/tenants/" ++ p.str runtimeId ++ ".json"
  let tenant : Except PyException FabricTenant := do
    let data ← a.load p gh path
    let tenant ← FabricTenant.fromDict data
    if tenant.runtimeId.pyEq runtimeId then .ok tenant
    else .error (fabricError "TENANT_MISMATCH"
      ("Tenant record runtime_id '" ++ p.str tenant.runtimeId ++ "' != expected '" ++
        p.str runtimeId ++ "'"))
  tenant.mapError fun e =>
    match e.kind with
    | .githubNotFoundError =>
      fabricError "TENANT_UNBOUND" ("No tenant binding found for " ++ p.str runtimeId)
    | .fabricError => e
    | _ => fabricError "FABRIC_TENANT_ERROR" ("Could not read " ++ path ++ ": " ++ e.text)

/-- `data.get(key, default).upper()`. -/
def upperOf (data : Json) (key default : String) : Except PyException String := do
  match ← data.get key (.str default) with
  | .str s => .ok (p.upper s)
  | v => .error (attributeError v.typeName "upper")

/-- `check_admission`: the record of the runtime, or else the policy of the node. -/
def checkAdmission (runtimeId : Json) : FabricAdmissionResult :=
  let record : Except PyException FabricAdmissionResult := do
    let data ← a.load p gh ("fabric/admissions/" ++ p.str runtimeId ++ ".json")
    let verdict ← upperOf p data "verdict" "UNKNOWN"
    let reason ← data.get "reason" (.str "")
    .ok ⟨verdict, reason, orEmpty data⟩
  let policy : Except PyException FabricAdmissionResult := do
    let nodeData ← a.load p gh "fabric/node.json"
    let defaultPolicy ← upperOf p nodeData "default_admission_policy" "DENY"
    .ok ⟨defaultPolicy,
      .str ("No explicit record — default policy from node.json: " ++ defaultPolicy),
      orEmpty nodeData⟩
  match record with
  | .ok r => r
  | .error e =>
    if e.kind = .githubNotFoundError then
      match policy with
      | .ok r => r
      | .error e' =>
        if e'.kind = .githubNotFoundError then
          ⟨"DENY", .str "fabric/node.json not found — cannot determine admission policy", .obj []⟩
        else ⟨"ERROR", .str ("Admission policy evaluation failed: " ++ e'.text), .obj []⟩
    else ⟨"ERROR", .str ("Admission check failed: " ++ e.text), .obj []⟩

/-- The first seven characters. -/
def short (commitSha : String) : String := String.ofList (commitSha.toList.take 7)

/-- `validate_provenance`: whether the commit is in the repository, and the error. -/
def validateProvenance (commitSha : String) (expectedOrg expectedRepo : Option String := none) :
    Bool × Option String :=
  if commitSha.length < 7 then (false, some "Invalid commit SHA")
  else
    let targetOrg := (expectedOrg.filter (· ≠ "")).getD a.org
    let targetRepo := (expectedRepo.filter (· ≠ "")).getD a.repo
    if targetOrg ≠ a.org ∨ targetRepo ≠ a.repo then
      (false, some ("Commit repository mismatch: " ++ targetOrg ++ "/" ++ targetRepo ++ " != " ++
        a.org ++ "/" ++ a.repo))
    else
      let sha : Except PyException Json := do
        let response ← gh.request
          ("/repos/" ++ a.org ++ "/" ++ a.repo ++ "/commits/" ++ commitSha)
        let data ← if response.isStr then Json.loadsValue p response else .ok response
        if data.isDict then data.get "sha" else .ok .null
      match sha with
      | .ok sha => if sha.truthy then (true, none) else (false, some "Commit object malformed")
      | .error e =>
        if e.kind = .githubNotFoundError then
          (false, some ("Commit " ++ short commitSha ++ " not found in " ++ a.org ++ "/" ++ a.repo))
        else (false, some ("Provenance check error: " ++ e.text))

/-- `issue_trust_token`, between the given times. -/
def issueTrustToken (issuedAt expiresAt : String) (runtimeId : Json) (privateKey : ByteArray) :
    Except PyException FabricTrustToken := do
  let ghToken ← gh.token.mapError fun _ =>
    fabricError "FABRIC_AUTH_ERROR" "No GitHub token available for trust generation"
  let nodeId ←
    match a.readNodeConfig p gh with
    | .ok node => .ok node.nodeId
    | .error e => if e.kind = .fabricError then .ok (.str "UNKNOWN-NODE") else .error e
  let signature ← p.hmac privateKey
    (p.str runtimeId ++ ":" ++ p.str nodeId ++ ":" ++ issuedAt ++ ":" ++ ghToken)
  .ok ⟨runtimeId, nodeId, issuedAt, expiresAt, signature, true⟩

end GitHubFabricAdapter

/-! ### What a reader raises -/

/-- Every exception of the computation is a `FabricError`. -/
def RaisesFabric {α : Type*} (x : Except PyException α) : Prop :=
  ∀ e, x = .error e → e.kind = .fabricError

theorem raisesFabric_mapError {α : Type*} {x : Except PyException α}
    {f : PyException → PyException} (hf : ∀ e, (f e).kind = .fabricError) :
    RaisesFabric (x.mapError f) := by
  rintro e he
  cases x with
  | error e' => exact Except.error.inj he ▸ hf e'
  | ok => cases he

section Readers

variable {a : GitHubFabricAdapter} {p : Platform} {gh : GitHubClient}

theorem kind_reraise (code path malformed : String) (e : PyException) :
    (GitHubFabricAdapter.reraise code path malformed e).kind = .fabricError := by
  unfold GitHubFabricAdapter.reraise
  split <;> rfl

/-- A document of the fabric, or a `FabricError`. -/
theorem readDocument_fabric (code path malformed : String) :
    RaisesFabric (a.readDocument p gh code path malformed) :=
  raisesFabric_mapError (kind_reraise code path malformed)

theorem readNodeConfig_fabric : RaisesFabric (a.readNodeConfig p gh) :=
  raisesFabric_mapError (kind_reraise _ _ _)

theorem readTenantBinding_fabric (runtimeId : Json) :
    RaisesFabric (a.readTenantBinding p gh runtimeId) := by
  refine raisesFabric_mapError fun e => ?_
  split
  · rfl
  · assumption
  · rfl

end Readers

end Fabric

end AnnyRuntime
