import AnnyRuntime.Bootstrap.Planes

/-!
# Does the bootstrap end in a verdict?

A report that `resolve` returns has one result for every gate, and its verdict is the conjunction of
the mandatory ones (`endsInVerdict_iff`).  But `resolve` need not return one: the reconciliation of
the planes only catches a `FabricError`, and what it does with the decoded file `fabric/state.json`
raises other exceptions when the file is no dictionary, or has something in `registered_runtimes` in
which the id of the runtime cannot be looked for.  The gate that has judged the file before
(`_gate_fabric_state_readable`) does not help: its failure does not keep the reconciliation from
reading the file again.
-/

namespace AnnyRuntime

namespace Bootstrap

open Fabric

/-! ### The gates that only catch a `FabricError` -/

section Total

theorem exists_catchFabric {x : Except PyException Finding} (h : RaisesFabric x) :
    ∃ f, Finding.catchFabric x = .ok f := by
  cases x with
  | ok f => exact ⟨f, rfl⟩
  | error e => exact ⟨.fail e.text, if_pos (h e rfl)⟩

theorem raisesFabric_seq {α : Type} {x : Except PyException α}
    {f : α → Except PyException Finding} (hx : RaisesFabric x) (hf : ∀ a, ∃ g, f a = .ok g) :
    RaisesFabric (x >>= f) := by
  rintro e he
  obtain hxe | ⟨a, -, hfe⟩ := Guard.seq_eq_error.1 he
  · exact hx e hxe
  · obtain ⟨g, hg⟩ := hf a
    rw [hg] at hfe
    cases hfe

namespace ThreePlaneBootstrap

variable {b : ThreePlaneBootstrap} {p : Platform} {w : World}

theorem exists_gateFabricIdentityVerified (canProceed : Bool) :
    ∃ f, b.gateFabricIdentityVerified p w canProceed = .ok f := by
  rw [gateFabricIdentityVerified]
  split
  · exact ⟨_, rfl⟩
  · exact exists_catchFabric (raisesFabric_seq readNodeConfig_fabric fun node => ⟨_, rfl⟩)

theorem exists_gateFabricTenantBound (canProceed : Bool) (ident : Option RuntimeIdentity) :
    ∃ f, b.gateFabricTenantBound p w canProceed ident = .ok f := by
  unfold gateFabricTenantBound
  split
  · exact exists_catchFabric
      (raisesFabric_seq (readTenantBinding_fabric _) fun tenant => ⟨_, rfl⟩)
  · exact ⟨_, rfl⟩

theorem exists_gateFabricStateReadable (canProceed : Bool) :
    ∃ f, b.gateFabricStateReadable p w canProceed = .ok f := by
  rw [gateFabricStateReadable]
  split
  · exact ⟨_, rfl⟩
  · refine exists_catchFabric (raisesFabric_seq (readDocument_fabric _ _ _) fun state => ?_)
    split <;> exact ⟨_, rfl⟩

end ThreePlaneBootstrap

end Total

/-! ### The reconciliation -/

namespace ThreePlaneBootstrap

variable {b : ThreePlaneBootstrap} {p : Platform} {w : World}

/-- A state in whose `registered_runtimes` the id of the runtime can be looked for. -/
def Registry (runtimeId state : Json) : Prop :=
  ∃ ms, state = .obj ms ∧
    ((Json.lookup "registered_runtimes" ms).getD (.arr [])).Searchable runtimeId

theorem exists_stateIssues_iff {fabric : GitHubFabricAdapter} {ident : RuntimeIdentity} :
    (∃ issues, stateIssues p w fabric ident = .ok issues) ↔
      ∀ state, fabric.readFabricState p (w.client (.gate .planeReconciliation)) = .ok state →
        Registry ident.runtimeId state := by
  rw [stateIssues]
  cases hread : fabric.readFabricState p (w.client (.gate .planeReconciliation)) with
  | error e =>
    have he : e.kind = .fabricError := readDocument_fabric _ _ _ e hread
    simp [he]
  | ok state =>
    simp only [Except.ok.injEq, forall_eq', Guard.seq_eq_ok, Registry]
    constructor
    · rintro ⟨_, registered, hget, known, hknown, -⟩
      obtain ⟨ms, rfl, rfl⟩ := Json.get_eq_ok_iff.1 hget
      exact ⟨ms, rfl, Json.exists_contains_iff.1 ⟨known, hknown⟩⟩
    · rintro ⟨ms, rfl, hsearch⟩
      obtain ⟨known, hknown⟩ := Json.exists_contains_iff.2 hsearch
      exact ⟨_, _, rfl, known, hknown, _, rfl, _, rfl, rfl⟩

variable (b p w)

/-- The state that the reconciliation reads, when it gets to read one, is one in which the id of the
runtime can be looked for. -/
def Reconcilable : Prop :=
  ∀ fabric ident state, b.fabric = some fabric → identity w = some ident →
    b.canReadFabric p w = true → (b.gateRuntimeReachable w).passed = true →
      fabric.readFabricState p (w.client (.gate .planeReconciliation)) = .ok state →
        Registry ident.runtimeId state

/-- The bootstrap ends in a verdict: a report with exactly one result for every gate, that is ready
exactly when every mandatory gate has a passing result. -/
def EndsInVerdict : Prop :=
  ∃ r, b.resolve p w = .ok r ∧
    (∀ gate, (r.gates.filter fun g => g.gate = gate).length = 1) ∧
      (r.annyReady = true ↔
        ∀ gate ∈ ReadinessGate.mandatory, ∃ g ∈ r.gates, g.gate = gate ∧ g.passed = true)

variable {b p w}

theorem exists_fabric_of_reachable {canProceed : Bool}
    (h : (b.gateFabricReachable p w canProceed).passed = true) :
    ∃ fabric, b.fabric = some fabric := by
  rw [gateFabricReachable, fabricWhen] at h
  cases hf : b.fabric with
  | some fabric => exact ⟨fabric, rfl⟩
  | none => simp [hf, Finding.fail] at h

/-- The comparison with the fabric raises only over the state that it reads. -/
theorem exists_comparedIssues_iff {ident : Option RuntimeIdentity} {canProceed rtReachable : Bool} :
    (∃ issues, b.comparedIssues p w ident (b.gateFabricReachable p w canProceed).passed
      rtReachable = .ok issues) ↔
      ∀ fabric ident' state, b.fabric = some fabric → ident = some ident' →
        (b.gateFabricReachable p w canProceed).passed = true → rtReachable = true →
          fabric.readFabricState p (w.client (.gate .planeReconciliation)) = .ok state →
            Registry ident'.runtimeId state := by
  cases ident with
  | none => simp [comparedIssues]
  | some ident =>
    by_cases hreach : (b.gateFabricReachable p w canProceed).passed = true ∧ rtReachable = true
    · obtain ⟨fabric, hfabric⟩ := exists_fabric_of_reachable hreach.1
      have hcompared : b.comparedIssues p w (some ident)
          (b.gateFabricReachable p w canProceed).passed rtReachable =
            stateIssues p w fabric ident := by
        simp only [comparedIssues, if_pos hreach, hfabric]
      rw [hcompared, exists_stateIssues_iff]
      constructor
      · intro h fabric' ident' state hf hi _ _
        obtain rfl := Option.some.inj (hfabric.symm.trans hf)
        obtain rfl := Option.some.inj hi
        exact h state
      · exact fun h state => h fabric ident state hfabric rfl hreach.1 hreach.2
    · simp only [comparedIssues, if_neg hreach]
      exact ⟨fun _ _ _ _ _ _ h₁ h₂ => absurd ⟨h₁, h₂⟩ hreach, fun _ => ⟨_, rfl⟩⟩

/-- So does the reconciliation of the sequence. -/
theorem exists_gatePlaneReconciliation_iff :
    (∃ f, b.gatePlaneReconciliation p w (b.canProceedFabric p w) (identity w)
      (b.gateFabricReachable p w (b.canProceedFabric p w)).passed
      (b.gateRuntimeReachable w).passed = .ok f) ↔ b.Reconcilable p w := by
  rw [gatePlaneReconciliation, Reconcilable, canReadFabric]
  cases hproceed : b.canProceedFabric p w with
  | false => simp
  | true =>
    simp only [Bool.not_true, Bool.false_eq_true, if_false, Guard.seq_eq_ok, Bool.true_and]
    rw [← exists_comparedIssues_iff]
    constructor
    · rintro ⟨_, issues, h, -⟩
      exact ⟨issues, h⟩
    · rintro ⟨issues, h⟩
      exact ⟨_, issues, h, rfl⟩

theorem exists_resolve_iff :
    (∃ r, b.resolve p w = .ok r) ↔
      ∃ f, b.gatePlaneReconciliation p w (b.canProceedFabric p w) (identity w)
        (b.gateFabricReachable p w (b.canProceedFabric p w)).passed
        (b.gateRuntimeReachable w).passed = .ok f := by
  rw [resolve]
  constructor
  · rintro ⟨r, h⟩
    simp only [Guard.seq_eq_ok] at h
    obtain ⟨_, -, _, -, _, -, f, hf, -⟩ := h
    exact ⟨f, hf⟩
  · rintro ⟨f, hf⟩
    obtain ⟨f₁, h₁⟩ := @exists_gateFabricIdentityVerified b p w (b.canProceedFabric p w)
    obtain ⟨f₂, h₂⟩ := @exists_gateFabricTenantBound b p w (b.canProceedFabric p w) (identity w)
    obtain ⟨f₃, h₃⟩ := @exists_gateFabricStateReadable b p w (b.canReadFabric p w)
    simp only [Guard.seq_eq_ok]
    exact ⟨_, f₁, h₁, f₂, h₂, f₃, h₃, f, hf, rfl⟩

/-- **The verdict.**  The bootstrap ends in one exactly when the reconciliation does not stumble
over the state that it reads. -/
theorem endsInVerdict_iff (b : ThreePlaneBootstrap) (p : Platform) (w : World) :
    b.EndsInVerdict p w ↔ b.Reconcilable p w := by
  rw [← exists_gatePlaneReconciliation_iff, ← exists_resolve_iff]
  refine exists_congr fun r => ⟨fun h => h.1, fun h => ⟨h, ?_⟩⟩
  have hr := resolved_of_resolve h
  refine ⟨hr.complete.existsUnique, ?_⟩
  rw [hr.annyReady]
  exact hr.complete.allMandatoryPass_iff

end ThreePlaneBootstrap

/-! ### A bootstrap that does not end in a verdict -/

/-- A file of the fabric repository: its path, its content as the API has it, and its text. -/
structure RepositoryFile where
  (path encoded text : String)

/-- Python's library, as far as the given files and texts like theirs need it. -/
def platformReading (files : List RepositoryFile) : Platform where
  str := Json.pyStr
  sorted l := .ok (Json.pyStr (.arr l))
  upper s := String.ofList (s.toList.map Char.toUpper)
  lower s := String.ofList (s.toList.map Char.toLower)
  decodeError _ := "Expecting value: line 1 column 1 (char 0)"
  b64decode v :=
    match files.find? fun file => v = .str file.encoded with
    | some file => .ok file.text
    | none => .error ⟨.other, "Incorrect padding"⟩
  hmac _ _ := .ok "0f1e2d3c4b5a69788796a5b4c3d2e1f00f1e2d3c4b5a69788796a5b4c3d2e1f0"

/-- What the API answers for a principal in the organization `org`, whose repository `fabric` has
the given files and one commit. -/
def answer (files : List RepositoryFile) (endpoint : String) : Except PyException Json :=
  if endpoint = "/user" then .ok (.obj [("login", .str "anny")])
  else if endpoint = "/user/orgs?per_page=100" then .ok (.arr [.obj [("login", .str "org")]])
  else if endpoint = "/repos/org/fabric" then .ok (.obj [("name", .str "fabric")])
  else if endpoint = "/repos/org/fabric/commits/0123456789abcdef" then
    .ok (.obj [("sha", .str "0123456789abcdef")])
  else
    match files.find? fun file => endpoint = "/repos/org/fabric/contents/" ++ file.path with
    | some file => .ok (.obj [("encoding", .str "base64"), ("content", .str file.encoded)])
    | none => .error ⟨.githubNotFoundError, "GitHub API Resource Not Found (404): " ++ endpoint⟩

/-- A world in which everything answers, and the fabric repository has the given files. -/
def World.serving (files : List RepositoryFile) : World where
  identityFile := .ok (.obj [("runtime_id", .str "RT-1"), ("installation_id", .str "INST-1"),
    ("public_key", .str "00"), ("platform", .str "linux"), ("runtime_version", .str "1.0.0"),
    ("protocol_version", .str "1.0"), ("generation", .int 1),
    ("created_at", .str "2026-01-01T00:00:00+00:00")])
  privateKey := .ok .empty
  token := .ok "token"
  request _ := answer files
  latency := "12"
  issuedAt := "2026-01-01T00:00:00+00:00"
  expiresAt := "2026-01-01T01:00:00+00:00"
  urlopen _ := .ok ⟨200, .ok ("\x7b\"state\": \"WAITING_FOR_SESSION\", " ++
    "\"fabric_org\": \"org\", \"fabric_repo\": \"fabric\"\x7d")⟩
  stat _ := .ok 0o40755
  listdir := .ok []
  pathExists := true
  imports module _ :=
    .ok (module ≠ "runtime.browser.broker_server" ∧ module ≠ "runtime.api.bridge")

/-- The adapter of that repository. -/
def orgFabric : GitHubFabricAdapter := ⟨"org", "fabric", by decide⟩

/-- A bootstrap that is bound to that repository. -/
def ThreePlaneBootstrap.bound : ThreePlaneBootstrap where
  dataDir := "/var/lib/anny-runtime"
  github := some .own
  fabric := some orgFabric
  continuity := none
  config := some ⟨some "org", some "fabric", some "0123456789abcdef"⟩

/-- The file `fabric/state.json` is a list. -/
def listState : List RepositoryFile := [⟨"fabric/state.json", "W10=\n", "[]"⟩]

/-- With a list in the file, `resolve` raises an `AttributeError`. -/
theorem raises_listState :
    ¬ ThreePlaneBootstrap.bound.EndsInVerdict (platformReading listState) (.serving listState) := by
  have hnone : (ThreePlaneBootstrap.bound.resolve (platformReading listState)
      (.serving listState)).toOption = none := by decide +kernel
  rintro ⟨r, hr, -⟩
  rw [hr] at hnone
  cases hnone

end Bootstrap

end AnnyRuntime
