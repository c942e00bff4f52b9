import AnnyRuntime.Core.Inventory
import AnnyRuntime.Json.Access
import Mathlib.Data.List.Nodup

/-!
# The readiness gates and the bootstrap report

The report collects one result after the other and is closed by a verdict.  The verdict reads the
results through a dictionary, so of two results for one gate the last one counts there, while
`get_gate` returns the first one.  When no gate has two results, both agree
(`BootstrapReport.allMandatoryPass_iff`).
-/

namespace AnnyRuntime

namespace Bootstrap

open Core

/-- A readiness gate. -/
inductive ReadinessGate where
  | runtimeIdentity
  | githubConnected
  | githubOrgBound
  | fabricReachable
  | fabricIdentityVerified
  | fabricTrustVerified
  | fabricTenantBound
  | fabricStateReadable
  | fabricProvenanceValid
  | fabricNodeAtRemoteHead
  | runtimeReachable
  | runtimeHealthVerified
  | runtimeBindingVerified
  | runtimeAdmitted
  | planeReconciliation
  | policySnapshotFresh
  | contractsDiscovered
  | capabilitiesInventoried
  | toolsInventoried
  | modelsInventoried
  | workersInventoried
  | connectorsInventoried
  | criticalAccessVerified
  | delegationContextBuilt
  | continuityCoherent
  deriving DecidableEq

namespace ReadinessGate

/-- `MANDATORY_GATES`. -/
def mandatory : List ReadinessGate :=
  [runtimeIdentity, githubConnected, githubOrgBound, fabricReachable, fabricIdentityVerified,
    fabricTrustVerified, fabricTenantBound, fabricStateReadable, fabricProvenanceValid,
    fabricNodeAtRemoteHead, runtimeReachable, runtimeHealthVerified, runtimeBindingVerified,
    runtimeAdmitted, planeReconciliation, policySnapshotFresh, contractsDiscovered,
    capabilitiesInventoried, toolsInventoried, modelsInventoried, workersInventoried,
    connectorsInventoried, criticalAccessVerified, delegationContextBuilt, continuityCoherent]

/-- The gates in the order in which they are evaluated. -/
def evaluationOrder : List ReadinessGate :=
  [runtimeIdentity, githubConnected, githubOrgBound, fabricReachable, fabricIdentityVerified,
    fabricNodeAtRemoteHead, fabricTrustVerified, fabricTenantBound, fabricStateReadable,
    fabricProvenanceValid, runtimeReachable, runtimeHealthVerified, runtimeBindingVerified,
    runtimeAdmitted, policySnapshotFresh, planeReconciliation, capabilitiesInventoried,
    toolsInventoried, modelsInventoried, workersInventoried, connectorsInventoried,
    criticalAccessVerified, contractsDiscovered, delegationContextBuilt, continuityCoherent]

/-- Every gate is mandatory. -/
theorem mem_mandatory (g : ReadinessGate) : g ∈ mandatory := by cases g <;> decide

/-- Every gate is evaluated. -/
theorem mem_evaluationOrder (g : ReadinessGate) : g ∈ evaluationOrder := by cases g <;> decide

/-- No gate is evaluated twice. -/
theorem nodup_evaluationOrder : evaluationOrder.Nodup := by decide

end ReadinessGate

/-- What the evaluation of a gate finds. -/
structure Finding where
  passed : Bool
  detail : String
  /-- The evidence; `null` is `None`. -/
  evidence : Json := .null
  deriving DecidableEq

/-- `GateResult`. -/
structure GateResult extends Finding where
  gate : ReadinessGate
  deriving DecidableEq

/-- A gate that does not pass. -/
def Finding.fail (detail : String) : Finding := ⟨false, detail, .null⟩

/-- `except Exception as e: ... str(e)`. -/
def Finding.attempt : Except PyException Finding → Finding
  | .ok f => f
  | .error e => .fail e.text

/-- `except FabricError as e: ... str(e)`; any other exception passes through. -/
def Finding.catchFabric : Except PyException Finding → Except PyException Finding
  | .ok f => .ok f
  | .error e => if e.kind = .fabricError then .ok (.fail e.text) else .error e

/-- `BootstrapReport`. -/
structure BootstrapReport where
  annyReady : Bool := false
  runtimeId : Json := .str "UNKNOWN"
  fabricNode : Json := .str "UNKNOWN"
  gates : List GateResult := []
  policyRevision : Json := .str "UNKNOWN"
  limitsVerified : Bool := false
  capabilities : ComponentInventory := {}
  tools : ComponentInventory := {}
  models : ComponentInventory := {}
  workers : ComponentInventory := {}
  connectors : ComponentInventory := {}
  deriving DecidableEq

namespace BootstrapReport

variable (r : BootstrapReport)

/-- `add_result`. -/
def addResult (gate : ReadinessGate) (finding : Finding) : BootstrapReport :=
  { r with gates := r.gates ++ [{ finding with gate := gate }] }

/-- `get_gate`. -/
def getGate (gate : ReadinessGate) : GateResult :=
  (r.gates.find? fun g => g.gate = gate).getD { Finding.fail "Not evaluated" with gate := gate }

/-- `{g.gate: g.passed for g in report.gates}`. -/
def gateMap : Dict ReadinessGate Bool := Dict.ofList (r.gates.map fun g => (g.gate, g.passed))

/-- `all(gate_map.get(gate, False) for gate in MANDATORY_GATES)`. -/
def allMandatoryPass : Bool :=
  ReadinessGate.mandatory.all fun gate => (r.gateMap.get? gate).getD false

/-- `report.fabric_node = node`. -/
def withFabricNode (node : Json) : BootstrapReport := { r with fabricNode := node }

/-- `report.policy_revision = revision`, when there is one. -/
def withPolicyRevision (revision : Option Json) : BootstrapReport :=
  { r with policyRevision := revision.getD r.policyRevision }

/-- `report.limits_verified = True`, when the limits are. -/
def withLimitsVerified (verified : Bool) : BootstrapReport :=
  { r with limitsVerified := r.limitsVerified || verified }

/-- The inventories of the report. -/
def withInventories (capabilities tools models workers connectors : ComponentInventory) :
    BootstrapReport :=
  { r with capabilities, tools, models, workers, connectors }

/-- `finish`. -/
def finish (ready : Bool) : BootstrapReport := { r with annyReady := ready }

variable {r}

@[simp] theorem gates_addResult {gate : ReadinessGate} {finding : Finding} :
    (r.addResult gate finding).gates = r.gates ++ [{ finding with gate := gate }] := rfl

@[simp] theorem gates_withFabricNode {node : Json} : (r.withFabricNode node).gates = r.gates := rfl

@[simp] theorem gates_withPolicyRevision {revision : Option Json} :
    (r.withPolicyRevision revision).gates = r.gates := rfl

@[simp] theorem gates_withLimitsVerified {verified : Bool} :
    (r.withLimitsVerified verified).gates = r.gates := rfl

@[simp] theorem gates_withInventories {c t m k n : ComponentInventory} :
    (r.withInventories c t m k n).gates = r.gates := rfl

@[simp] theorem gates_finish {ready : Bool} : (r.finish ready).gates = r.gates := rfl

@[simp] theorem annyReady_finish {ready : Bool} : (r.finish ready).annyReady = ready := rfl

@[simp] theorem allMandatoryPass_finish {ready : Bool} :
    (r.finish ready).allMandatoryPass = r.allMandatoryPass := rfl

@[simp] theorem capabilities_addResult {gate : ReadinessGate} {finding : Finding} :
    (r.addResult gate finding).capabilities = r.capabilities := rfl

@[simp] theorem capabilities_withLimitsVerified {verified : Bool} :
    (r.withLimitsVerified verified).capabilities = r.capabilities := rfl

@[simp] theorem capabilities_withInventories {c t m k n : ComponentInventory} :
    (r.withInventories c t m k n).capabilities = c := rfl

@[simp] theorem capabilities_finish {ready : Bool} :
    (r.finish ready).capabilities = r.capabilities := rfl

@[simp] theorem fabricNode_withFabricNode {node : Json} :
    (r.withFabricNode node).fabricNode = node := rfl

@[simp] theorem fabricNode_addResult {gate : ReadinessGate} {finding : Finding} :
    (r.addResult gate finding).fabricNode = r.fabricNode := rfl

@[simp] theorem fabricNode_withPolicyRevision {revision : Option Json} :
    (r.withPolicyRevision revision).fabricNode = r.fabricNode := rfl

@[simp] theorem fabricNode_withInventories {c t m k n : ComponentInventory} :
    (r.withInventories c t m k n).fabricNode = r.fabricNode := rfl

@[simp] theorem fabricNode_withLimitsVerified {verified : Bool} :
    (r.withLimitsVerified verified).fabricNode = r.fabricNode := rfl

/-- A report that evaluated every gate once, in the order of evaluation. -/
def Complete (r : BootstrapReport) : Prop :=
  r.gates.map GateResult.gate = ReadinessGate.evaluationOrder

instance (r : BootstrapReport) : Decidable r.Complete :=
  inferInstanceAs (Decidable (r.gates.map GateResult.gate = ReadinessGate.evaluationOrder))

theorem Complete.nodup (h : r.Complete) : (r.gates.map GateResult.gate).Nodup := by
  rw [h]
  exact ReadinessGate.nodup_evaluationOrder

/-- **One result for every gate.** -/
theorem Complete.existsUnique (h : r.Complete) (gate : ReadinessGate) :
    (r.gates.filter fun g => g.gate = gate).length = 1 := by
  have hcount : (r.gates.map GateResult.gate).count gate = 1 := by
    rw [h]
    exact List.count_eq_one_of_mem ReadinessGate.nodup_evaluationOrder
      (ReadinessGate.mem_evaluationOrder gate)
  rw [List.count_eq_countP, List.countP_map, List.countP_eq_length_filter] at hcount
  simpa [Function.comp_def, beq_eq_decide] using hcount

/-- In a complete report a gate has one result. -/
theorem Complete.eq_of_gate (h : r.Complete) {g g' : GateResult} (hg : g ∈ r.gates)
    (hg' : g' ∈ r.gates) (heq : g.gate = g'.gate) : g = g' :=
  List.inj_on_of_nodup_map h.nodup hg hg' heq

/-- In a complete report the dictionary has what the results say. -/
theorem Complete.get?_gateMap (h : r.Complete) {g : GateResult} (hg : g ∈ r.gates) :
    r.gateMap.get? g.gate = some g.passed := by
  have hnodup : ((r.gates.map fun g => (g.gate, g.passed)).map Prod.fst).Nodup := by
    simpa [Function.comp_def] using h.nodup
  have hmem := Dict.mem_entries_ofList (p := fun _ => true) (by simpa using hnodup)
    (List.mem_map_of_mem (f := fun g : GateResult => (g.gate, g.passed)) hg) rfl
  exact Dict.get?_of_mem_entries hmem

/-- **The verdict.**  The mandatory gates pass together when every result passes. -/
theorem Complete.allMandatoryPass_iff (h : r.Complete) :
    r.allMandatoryPass = true ↔
      ∀ gate ∈ ReadinessGate.mandatory, ∃ g ∈ r.gates, g.gate = gate ∧ g.passed = true := by
  have hmem : ∀ gate, ∃ g ∈ r.gates, g.gate = gate := fun gate => by
    have := ReadinessGate.mem_evaluationOrder gate
    rw [← h] at this
    simpa using this
  rw [allMandatoryPass, List.all_eq_true]
  refine forall₂_congr fun gate _ => ⟨fun hpass => ?_, ?_⟩
  · obtain ⟨g, hg, rfl⟩ := hmem gate
    rw [h.get?_gateMap hg] at hpass
    exact ⟨g, hg, rfl, hpass⟩
  · rintro ⟨g, hg, rfl, hpass⟩
    rw [h.get?_gateMap hg]
    exact hpass

end BootstrapReport

end Bootstrap

end AnnyRuntime
