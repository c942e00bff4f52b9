import AnnyRuntime.Bootstrap.World
import AnnyRuntime.Mcp.Models

/-!
# Inventory discovery

Discovery lists the capabilities, the tools, the models, the workers and the connectors.  A kind of
component whose discovery raises is left empty.

The contract that discovery is given is a value of a JSON file
(`InventoryDiscovery.fabricContract`).  A value that counts as true is asked for the attribute
`granted_capabilities`, which no JSON value has, so it leaves no capability at all
(`InventoryDiscovery.mem_discover_capabilities`).
-/

namespace AnnyRuntime

namespace Bootstrap

open Core Execution

/-- `BootstrapInventory`. -/
structure BootstrapInventory where
  capabilities : ComponentInventory := {}
  tools : ComponentInventory := {}
  models : ComponentInventory := {}
  workers : ComponentInventory := {}
  connectors : ComponentInventory := {}
  error : Option String := none
  deriving DecidableEq

/-- `InventoryDiscovery`. -/
structure InventoryDiscovery where
  capRegistry : Option CapabilityRegistry
  toolRegistry : Option (List String)
  modelRegistry : Option (List ListedModel)
  workerManager : Option (Except PyException (List String))
  staticConnectors : List String := []
  fabricContract : Json
  imports : String → String → Except PyException Bool

/-- A component that is declared, enabled and authorized. -/
def addAuthorized (inv : ComponentInventory) (name : String) : ComponentInventory :=
  { declared := inv.declared ++ [name]
    enabled := inv.enabled ++ [name]
    authorized := inv.authorized ++ [name] }

/-- One step of the loop over the models. -/
def discoverModel (inv : ComponentInventory) (model : ListedModel) :
    Except PyException ComponentInventory := do
  let state ← model.state
  let declared := inv.declared ++ [model.modelId]
  .ok <|
    match state with
    | .available => addAuthorized inv model.modelId
    | .disabled | .quarantined | .deprecated => { inv with declared := declared }
    | _ => { inv with declared := declared, enabled := inv.enabled ++ [model.modelId] }

/-- The organizational workers. -/
def l2Workers : List String :=
  ["ANNA", "IRIS", "KIRA", "KLARA", "RUTH", "MINA", "STELLA", "ZARA"]

/-- One step of the loop over the active workers. -/
def discoverWorker (inv : ComponentInventory) (wid : String) : ComponentInventory :=
  if wid ∈ inv.declared then inv
  else { inv with declared := inv.declared ++ [wid], enabled := inv.enabled ++ [wid] }

/-- The connectors: an id, a module and a symbol. -/
def connectorChecks : List (String × String × String) :=
  [("github", "runtime.github.client", "GitHubClient"),
    ("fabric.github", "runtime.fabric.github_adapter", "GitHubFabricAdapter"),
    ("compute.colab", "runtime.compute.colab", "ColabComputeProvider"),
    ("browser.cdp", "runtime.browser.broker_server", "BrowserBrokerServer"),
    ("api.bridge", "runtime.api.bridge", "router")]

namespace InventoryDiscovery

variable (d : InventoryDiscovery)

/-- `_discover_capabilities`. -/
def discoverCapabilities : Except PyException ComponentInventory :=
  let registry := d.capRegistry.getD .init
  if d.fabricContract.truthy then
    .error (attributeError d.fabricContract.typeName "granted_capabilities")
  else .ok (registry.listAll.foldl (discoverCapability ([], [])) {})

/-- One step of the loop over the tools of the MCP registry. -/
def discoverMcpTool (inv : ComponentInventory) (tool : Mcp.ToolDefinition) : ComponentInventory :=
  let fullId := "mcp." ++ tool.toolId
  if fullId ∈ inv.declared then inv else addAuthorized inv fullId

/-- `_discover_tools`. -/
def discoverTools : Except PyException ComponentInventory := do
  let names ← d.toolRegistry.elim
    -- the registry is built by `register_builtins(registry)`, which takes five more arguments
    (.error ⟨.other, "register_builtins() missing 5 required positional arguments: " ++
      "'filesystem', 'process', 'shell', 'git', and 'workspace'"⟩) .ok
  let inv := names.foldl addAuthorized {}
  .ok (Mcp.ToolRegistry.init.tools.values.foldl discoverMcpTool inv)

/-- `_discover_models`. -/
def discoverModels : Except PyException ComponentInventory :=
  (d.modelRegistry.getD (ModelRegistry.bootstrap.listModels.map .own)).foldlM discoverModel {}

/-- `_discover_workers`. -/
def discoverWorkers : ComponentInventory :=
  let inv : ComponentInventory := ⟨l2Workers, l2Workers, l2Workers⟩
  match d.workerManager with
  | some (.ok active) => active.foldl discoverWorker inv
  | _ => inv

/-- One step of the loop over the connectors. -/
def discoverConnector (inv : ComponentInventory) (check : String × String × String) :
    Except PyException ComponentInventory :=
  let declared := { inv with declared := inv.declared ++ [check.1] }
  match d.imports check.2.1 check.2.2 with
  | .ok true => .ok (addAuthorized inv check.1)
  | .ok false => .ok declared
  | .error e => if e.kind = .importError then .ok declared else .error e

/-- `_discover_connectors`. -/
def discoverConnectors : Except PyException ComponentInventory := do
  let inv ← connectorChecks.foldlM d.discoverConnector {}
  .ok (d.staticConnectors.foldl
    (fun inv cid =>
      if cid ∈ inv.declared then inv else { inv with declared := inv.declared ++ [cid] }) inv)

/-- What a discovery leaves, and its error. -/
def discovered (name : String) :
    Except PyException ComponentInventory → ComponentInventory × List String
  | .ok inv => (inv, [])
  | .error e => ({}, [name ++ ": " ++ e.text])

/-- `discover`. -/
def discover : BootstrapInventory :=
  let (capabilities, e₁) := discovered "capabilities" d.discoverCapabilities
  let (tools, e₂) := discovered "tools" d.discoverTools
  let (models, e₃) := discovered "models" d.discoverModels
  let (connectors, e₄) := discovered "connectors" d.discoverConnectors
  let errors := e₁ ++ e₂ ++ e₃ ++ e₄
  { capabilities, tools, models, workers := d.discoverWorkers, connectors
    error := if errors = [] then none else some ("; ".intercalate errors) }

variable {d}

/-- **The authorized capabilities** are the enabled ones, unless there is a contract that counts as
true. -/
theorem mem_discover_capabilities {cid : String} :
    cid ∈ d.discover.capabilities.authorized ↔ ¬ d.fabricContract.truthy = true ∧
      ∃ cap ∈ (d.capRegistry.getD .init).listAll, cap.capabilityId = cid ∧ cap.enabled = true := by
  change cid ∈ (discovered "capabilities" d.discoverCapabilities).1.authorized ↔ _
  rw [discoverCapabilities]
  by_cases htruthy : d.fabricContract.truthy = true
  · simp [htruthy, discovered]
  · rw [if_neg htruthy]
    simp [htruthy, discovered, mem_authorized_foldl, authorizedBy]

/-! ### What is declared -/

theorem declared_discoverCapabilities {caps : List CapabilityDefinition}
    {sets : List Json × List Json} {inv : ComponentInventory} :
    (caps.foldl (discoverCapability sets) inv).declared =
      inv.declared ++ caps.map (·.capabilityId) := by
  induction caps generalizing inv with
  | nil => simp
  | cons cap caps ih => simp [ih, discoverCapability]

/-- A loop that keeps what is declared. -/
theorem declared_foldl_ne_nil {α : Type} {step : ComponentInventory → α → ComponentInventory}
    (hstep : ∀ inv a, inv.declared ≠ [] → (step inv a).declared ≠ []) {inv : ComponentInventory}
    (h : inv.declared ≠ []) (l : List α) : (l.foldl step inv).declared ≠ [] := by
  induction l generalizing inv with
  | nil => exact h
  | cons a l ih => exact ih (hstep inv a h)

theorem declared_addAuthorized (inv : ComponentInventory) (name : String) :
    (addAuthorized inv name).declared ≠ [] := by simp [addAuthorized]

/-- The tools of a registry that has some are declared. -/
theorem declared_discoverTools {name : String} {names : List String}
    (h : d.toolRegistry = some (name :: names)) : d.discover.tools.declared ≠ [] := by
  change (discovered "tools" d.discoverTools).1.declared ≠ []
  simp only [discoverTools, h, Option.elim_some, Guard.ok_seq, discovered, List.foldl_cons]
  refine declared_foldl_ne_nil (fun inv tool hinv => ?_)
    (declared_foldl_ne_nil (fun inv name _ => declared_addAuthorized inv name)
      (declared_addAuthorized _ _) names) _
  rw [discoverMcpTool]
  split_ifs
  · exact hinv
  · exact declared_addAuthorized _ _

/-- The organizational workers are declared. -/
theorem declared_discoverWorkers : d.discover.workers.declared ≠ [] := by
  change d.discoverWorkers.declared ≠ []
  unfold discoverWorkers
  split
  · refine declared_foldl_ne_nil (fun inv wid hinv => ?_) (List.cons_ne_nil _ _) _
    rw [discoverWorker]
    split_ifs
    · exact hinv
    · simp
  · exact List.cons_ne_nil _ _

theorem foldlM_discoverConnector (h : ∀ module symbol, ∃ found, d.imports module symbol = .ok found)
    (checks : List (String × String × String)) (inv : ComponentInventory) :
    ∃ inv', checks.foldlM d.discoverConnector inv = .ok inv' ∧
      inv'.declared = inv.declared ++ checks.map (·.1) := by
  induction checks generalizing inv with
  | nil => exact ⟨inv, rfl, by simp⟩
  | cons check checks ih =>
    obtain ⟨found, hfound⟩ := h check.2.1 check.2.2
    obtain ⟨inv₁, hstep, hdeclared⟩ : ∃ inv₁, d.discoverConnector inv check = .ok inv₁ ∧
        inv₁.declared = inv.declared ++ [check.1] := by
      rw [discoverConnector, hfound]
      cases found with
      | true => exact ⟨_, rfl, rfl⟩
      | false => exact ⟨_, rfl, rfl⟩
    obtain ⟨inv', hrun, hall⟩ := ih inv₁
    refine ⟨inv', ?_, by rw [hall, hdeclared, List.map_cons, List.append_assoc]; rfl⟩
    rw [List.foldlM_cons, hstep]
    exact hrun

/-- The connectors are declared, whether they can be imported or not. -/
theorem declared_discoverConnectors
    (h : ∀ module symbol, ∃ found, d.imports module symbol = .ok found) :
    d.discover.connectors.declared ≠ [] := by
  obtain ⟨inv, hrun, hdeclared⟩ := foldlM_discoverConnector h connectorChecks {}
  change (discovered "connectors" d.discoverConnectors).1.declared ≠ []
  simp only [discoverConnectors, hrun, Guard.ok_seq, discovered]
  refine declared_foldl_ne_nil (fun inv cid hinv => ?_) ?_ _
  · split_ifs
    · exact hinv
    · simp
  · rw [hdeclared]
    simp [connectorChecks]

end InventoryDiscovery

end Bootstrap

end AnnyRuntime
