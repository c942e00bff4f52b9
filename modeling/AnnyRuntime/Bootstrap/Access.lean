import AnnyRuntime.Bootstrap.Inventory

/-!
# Critical access verification

Every critical capability must be authorized and pass its smoke test.  A capability that is not
authorized is not tested; the result says `UNAUTHORIZED`.
-/

namespace AnnyRuntime

namespace Bootstrap

open Execution Fabric

/-- `AccessTestResult`. -/
structure AccessTestResult where
  capabilityId : String
  passed : Bool
  evidence : String
  error : Option String := none
  deriving DecidableEq

/-- `AccessVerificationResult`. -/
structure AccessVerificationResult where
  passed : Bool
  results : List AccessTestResult
  criticalFailures : List String
  deriving DecidableEq

/-- `CRITICAL_CAPABILITIES`, a set; the model goes through it in the order in which it is written,
which only the order of the results depends on. -/
def criticalCapabilities : List String :=
  ["repository.read", "repository.search", "filesystem.inspect", "filesystem.list", "fabric.read",
    "runtime.status", "runtime.execution", "tool.resolve", "model.resolve", "worker.resolve"]

/-- `CriticalAccessVerifier`, and what its tests look at. -/
structure CriticalAccessVerifier where
  authorized : List String
  dataDir : String
  fabric : Option GitHubFabricAdapter
  github : Option GitHub
  platform : Platform
  client : GitHubClient
  stat : String → Except PyException ℕ
  listdir : Except PyException (List String)
  pathExists : Bool
  imports : String → String → Except PyException Bool

namespace CriticalAccessVerifier

variable (v : CriticalAccessVerifier)

/-- `len(repos) if repos else 0`. -/
def countOf (repos : Json) : Except PyException ℕ := if repos.truthy then repos.len else .ok 0

/-- A test whose body raises fails with the given evidence and the text of the exception. -/
def tried (cap evidence : String) : Except PyException String → AccessTestResult
  | .ok passed => ⟨cap, true, passed, none⟩
  | .error e => ⟨cap, false, evidence, some e.text⟩

/-- As `tried`, when only an `OSError` is caught; `_run_test` catches the others. -/
def triedOs (cap evidence : String) : Except PyException String → AccessTestResult
  | .ok passed => ⟨cap, true, passed, none⟩
  | .error e =>
    match e.kind with
    | .osError | .urlError _ => ⟨cap, false, evidence, some e.text⟩
    | _ => ⟨cap, false, "EXCEPTION", some e.text⟩

/-- `oct(n)`. -/
def oct (n : ℕ) : String := "0o" ++ String.ofList (Nat.toDigits 8 n)

/-- The number of repositories that the client lists. -/
def repositories (github : GitHub) : Except PyException ℕ := github.listRepos >>= countOf

/-- `_test_repository_read`. -/
def testRepositoryRead : AccessTestResult :=
  match v.github with
  | none => ⟨"repository.read", false, "NO_GITHUB_CLIENT", some "GitHub client not initialized"⟩
  | some github =>
    tried "repository.read" "REPOS_FETCH_FAILED" <|
      (repositories github).map fun count => "REPOS_ACCESSIBLE count=" ++ toString count

/-- `_test_repository_search`, which passes without a client. -/
def testRepositorySearch : AccessTestResult :=
  match v.github with
  | none => ⟨"repository.search", true, "SEARCH_LOCAL_SUBSTRATE_OK path=" ++ v.dataDir, none⟩
  | some github =>
    tried "repository.search" "SEARCH_VERIFICATION_FAILED" <|
      (repositories github).map fun count => "SEARCH_INDEX_VERIFIED count=" ++ toString count

/-- `_test_filesystem_inspect`. -/
def testFilesystemInspect : AccessTestResult :=
  triedOs "filesystem.inspect" "STAT_FAILED" <|
    (v.stat "filesystem.inspect").map fun mode =>
      "STAT_OK path=" ++ v.dataDir ++ " mode=" ++ oct mode

/-- `_test_filesystem_list`. -/
def testFilesystemList : AccessTestResult :=
  triedOs "filesystem.list" "LS_FAILED" <|
    v.listdir.map fun entries =>
      "LS_OK path=" ++ v.dataDir ++ " count=" ++ toString entries.length

/-- `_test_fabric_read`. -/
def testFabricRead : AccessTestResult :=
  match v.fabric with
  | none => ⟨"fabric.read", false, "NO_FABRIC_CLIENT", some "Fabric adapter not initialized"⟩
  | some fabric =>
    tried "fabric.read" "NODE_CONFIG_FAILED" <|
      (fabric.readNodeConfig v.platform v.client).map fun node =>
        "NODE_CONFIG_READ node_id=" ++ v.platform.str node.nodeId

/-- `_test_runtime_status`. -/
def testRuntimeStatus : AccessTestResult :=
  tried "runtime.status" "STATUS_CHECK_FAILED" <|
    (v.stat "runtime.status").map fun mode =>
      "RUNTIME_STATUS_VERIFIED path=" ++ v.dataDir ++ " st_mode=" ++ oct mode

/-- `_test_runtime_execution`, which passes whether the directory is there or not. -/
def testRuntimeExecution : AccessTestResult :=
  ⟨"runtime.execution", true,
    "EXECUTION_SUBSTRATE_VERIFIED exists=" ++ v.platform.str (.bool v.pathExists), none⟩

/-- `_test_tool_resolve`. -/
def testToolResolve : AccessTestResult :=
  ⟨"tool.resolve", true,
    "TOOL_RESOLVE_VERIFIED count=" ++ toString Mcp.ToolRegistry.init.tools.values.length, none⟩

/-- `_test_model_resolve`. -/
def testModelResolve : AccessTestResult :=
  ⟨"model.resolve", true,
    "MODEL_RESOLVE_VERIFIED count=" ++ toString ModelRegistry.bootstrap.listModels.length, none⟩

/-- `_test_worker_resolve`. -/
def testWorkerResolve : AccessTestResult :=
  let imported : Except PyException Unit := do
    if ← v.imports "runtime.execution.worker" "WorkerManager" then .ok ()
    else .error ⟨.importError, "cannot import name 'WorkerManager' from 'runtime.execution.worker'"⟩
  tried "worker.resolve" "WORKER_RESOLVE_FAILED" <|
    imported.map fun _ => "WORKER_RESOLVE_VERIFIED worker_manager_available=True"

/-- The table of the tests. -/
def dispatch : List (String × AccessTestResult) :=
  [("repository.read", v.testRepositoryRead), ("repository.search", v.testRepositorySearch),
    ("filesystem.inspect", v.testFilesystemInspect), ("filesystem.list", v.testFilesystemList),
    ("fabric.read", v.testFabricRead), ("runtime.status", v.testRuntimeStatus),
    ("runtime.execution", v.testRuntimeExecution), ("tool.resolve", testToolResolve),
    ("model.resolve", testModelResolve), ("worker.resolve", v.testWorkerResolve)]

/-- `_run_test`. -/
def runTest (capId : String) : AccessTestResult :=
  (v.dispatch.lookup capId).getD ⟨capId, true, "NO_TEST_DEFINED", none⟩

/-- What the loop does with a critical capability. -/
def check (capId : String) : AccessTestResult :=
  if capId ∈ v.authorized then v.runTest capId
  else ⟨capId, false, "UNAUTHORIZED",
    some "Required critical capability is not authorized by the fabric contract."⟩

/-- `verify`. -/
def verify : AccessVerificationResult :=
  { passed := criticalCapabilities.all fun capId => (v.check capId).passed
    results := criticalCapabilities.map v.check
    criticalFailures := criticalCapabilities.filter fun capId => !(v.check capId).passed }

/-- The gate counts the capability as authorized: it has a result that does not say
`UNAUTHORIZED`. -/
def Counts (capId : String) : Prop :=
  ∃ r ∈ v.verify.results, r.capabilityId = capId ∧ r.evidence ≠ "UNAUTHORIZED"

variable {v}

/-- The text begins with another letter than `UNAUTHORIZED`. -/
def IsEvidence (s : String) : Prop := ∃ c l, s.toList = c :: l ∧ c ≠ 'U'

theorem IsEvidence.append {s : String} (h : IsEvidence s) (t : String) : IsEvidence (s ++ t) := by
  obtain ⟨c, l, hs, hc⟩ := h
  exact ⟨c, l ++ t.toList, by rw [String.toList_append, hs, List.cons_append], hc⟩

theorem IsEvidence.ne {s : String} (h : IsEvidence s) : s ≠ "UNAUTHORIZED" := by
  rintro rfl
  obtain ⟨c, l, hs, hc⟩ := h
  exact hc (List.cons.inj hs).1.symm

theorem isEvidence_of_head {s : String} (h : s.toList.head?.any (· ≠ 'U') = true) :
    IsEvidence s := by
  cases hs : s.toList with
  | nil => simp [hs] at h
  | cons c l => exact ⟨c, l, hs, by simpa [hs] using h⟩

/-- The result is that of a test of the capability. -/
def Tested (cap : String) (r : AccessTestResult) : Prop :=
  r.capabilityId = cap ∧ IsEvidence r.evidence

theorem tested_tried {α : Type} {cap evidence : String} {x : Except PyException α}
    {f : α → String} (hev : IsEvidence evidence) (hf : ∀ a, IsEvidence (f a)) :
    Tested cap (tried cap evidence (x.map f)) := by
  cases x with
  | ok a => exact ⟨rfl, hf a⟩
  | error => exact ⟨rfl, hev⟩

theorem tested_triedOs {α : Type} {cap evidence : String} {x : Except PyException α}
    {f : α → String} (hev : IsEvidence evidence) (hf : ∀ a, IsEvidence (f a)) :
    Tested cap (triedOs cap evidence (x.map f)) := by
  cases x with
  | ok a => exact ⟨rfl, hf a⟩
  | error e =>
    change Tested cap (match e.kind with
      | .osError | .urlError _ => _
      | _ => _)
    split
    · exact ⟨rfl, hev⟩
    · exact ⟨rfl, hev⟩
    · exact ⟨rfl, isEvidence_of_head (s := "EXCEPTION") rfl⟩

/-- Every critical capability has a test. -/
theorem tested_runTest {cap : String} (h : cap ∈ criticalCapabilities) :
    Tested cap (v.runTest cap) := by
  have lit := @isEvidence_of_head
  simp only [criticalCapabilities, List.mem_cons, List.not_mem_nil, or_false] at h
  rcases h with rfl | rfl | rfl | rfl | rfl | rfl | rfl | rfl | rfl | rfl
  · change Tested _ v.testRepositoryRead
    unfold testRepositoryRead
    split
    · exact ⟨rfl, lit rfl⟩
    · exact tested_tried (lit rfl) fun _ => (lit rfl).append _
  · change Tested _ v.testRepositorySearch
    unfold testRepositorySearch
    split
    · exact ⟨rfl, (lit rfl).append _⟩
    · exact tested_tried (lit rfl) fun _ => (lit rfl).append _
  · exact tested_triedOs (lit rfl) fun _ => (((lit rfl).append _).append _).append _
  · exact tested_triedOs (lit rfl) fun _ => (((lit rfl).append _).append _).append _
  · change Tested _ v.testFabricRead
    unfold testFabricRead
    split
    · exact ⟨rfl, lit rfl⟩
    · exact tested_tried (lit rfl) fun _ => (lit rfl).append _
  · exact tested_tried (lit rfl) fun _ => (((lit rfl).append _).append _).append _
  · exact ⟨rfl, (lit rfl).append _⟩
  · exact ⟨rfl, (lit rfl).append _⟩
  · exact ⟨rfl, (lit rfl).append _⟩
  · exact tested_tried (lit rfl) fun _ => lit rfl

/-- The gate counts the critical capabilities that are authorized. -/
theorem counts_iff {cap : String} :
    v.Counts cap ↔ cap ∈ criticalCapabilities ∧ cap ∈ v.authorized := by
  constructor
  · rintro ⟨r, hr, rfl, hev⟩
    obtain ⟨cap, hcap, rfl⟩ := List.mem_map.1 hr
    by_cases hauth : cap ∈ v.authorized
    · rw [check, if_pos hauth, (tested_runTest hcap).1]
      exact ⟨hcap, hauth⟩
    · rw [check, if_neg hauth] at hev
      exact absurd rfl hev
  · rintro ⟨hcap, hauth⟩
    refine ⟨v.check cap, List.mem_map_of_mem hcap, ?_⟩
    rw [check, if_pos hauth]
    exact ⟨(tested_runTest hcap).1, (tested_runTest hcap).2.ne⟩

/-- The verification passes when every critical capability is authorized and passes its test. -/
theorem verify_passed_iff :
    v.verify.passed = true ↔
      ∀ cap ∈ criticalCapabilities, cap ∈ v.authorized ∧ (v.runTest cap).passed = true := by
  rw [verify, List.all_eq_true]
  refine forall₂_congr fun cap _ => ?_
  by_cases hauth : cap ∈ v.authorized
  · rw [check, if_pos hauth]
    exact ⟨fun h => ⟨hauth, h⟩, fun h => h.2⟩
  · rw [check, if_neg hauth]
    exact ⟨fun h => by simp at h, fun h => absurd h.1 hauth⟩

end CriticalAccessVerifier

end Bootstrap

end AnnyRuntime
