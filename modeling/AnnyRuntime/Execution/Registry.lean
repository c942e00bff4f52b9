import AnnyRuntime.Execution.Models
import AnnyRuntime.Lib.Dict

/-!
# The model registry in memory

The registered models, which are keyed by their id, and the bindings that say what a model may do
with a capability.  The file behind the registry is the subject of `Execution/RegistryFile.lean`.
-/

namespace AnnyRuntime

namespace Execution

/-- The model registry. -/
structure ModelRegistry where
  /-- The models by their id. -/
  models : Dict String ModelDefinition
  /-- The bindings in the order they were added. -/
  bindings : List ModelCapabilityBinding
  /-- A model is under its own id. -/
  keyed : ∀ k m, models.get? k = some m → m.modelId = k

namespace ModelRegistry

/-- A registry without models. -/
def empty : ModelRegistry := ⟨Dict.empty, [], fun _ _ h => absurd h (by simp)⟩

/-- `get_model`. -/
def getModel (r : ModelRegistry) (modelId : String) : Option ModelDefinition :=
  r.models.get? modelId

/-- `list_models`. -/
def listModels (r : ModelRegistry) : List ModelDefinition := r.models.values

/-- A model takes the place of the one with its id. -/
def put (r : ModelRegistry) (m : ModelDefinition) : ModelRegistry where
  models := r.models.set m.modelId m
  bindings := r.bindings
  keyed k m' h := by
    rw [Dict.get?_set] at h
    split_ifs at h with hk
    · rw [← Option.some.inj h, hk]
    · exact r.keyed k m' h

/-- `register_model`, or a `ValueError`. -/
def registerModel (r : ModelRegistry) (m : ModelDefinition) : Option ModelRegistry :=
  if r.models.contains m.modelId then none else some (r.put m)

/-- `unregister`. -/
def unregister (r : ModelRegistry) (modelId : String) : ModelRegistry where
  models := r.models.erase modelId
  bindings := r.bindings
  keyed k m h := by
    rw [Dict.get?_erase] at h
    split_ifs at h with hk
    exact r.keyed k m h

/-- `set_availability`. -/
def setAvailability (r : ModelRegistry) (modelId : String) (available : Bool) : ModelRegistry :=
  match r.getModel modelId with
  | some m => r.put { m with status := if available then .available else .unavailable }
  | none => r

/-- `add_binding`. -/
def addBinding (r : ModelRegistry) (b : ModelCapabilityBinding) : ModelRegistry where
  models := r.models
  bindings := r.bindings ++ [b]
  keyed := r.keyed

/-- A model that is available, has an artifact and can be called. -/
def usable (m : ModelDefinition) : Bool :=
  m.status = .available && m.artifactUri ≠ "" && m.runtimeInterface ≠ ""

/-- `is_available`. -/
def isAvailable (r : ModelRegistry) (modelId : String) : Bool :=
  match r.getModel modelId with
  | some m => usable m
  | none => false

/-- `get_bindings_for_capability`. -/
def getBindingsForCapability (r : ModelRegistry) (capabilityId : String) :
    List ModelCapabilityBinding := r.bindings.filter fun b => b.capabilityId = capabilityId

/-! ### The initial registry -/

/-- The local model of the initial registry. -/
def qwen : ModelDefinition where
  modelId := "qwen3-8b"
  displayName := "Qwen3 8B Local"
  provider := "local"
  executorType := "LOCAL_MODEL"
  version := "3.0"
  status := .installRequired
  capabilitiesSupported := ["document.classify", "code.generation", "text.summarize"]
  capabilitiesForbidden := ["architecture.analysis", "system.mutate"]
  hardwareRequirements :=
    [("memory", .str "REQUIREMENT_PROFILE"), ("gpu", .str "REQUIREMENT_PROFILE")]
  memoryRequirements := [("min_ram", .str "16GB")]
  contextWindow := 32000
  quantization := "int8"
  artifactUri := "local://models/qwen3-8b"
  artifactSha256 := "dummy_hash_for_now"
  runtimeInterface := "llama.cpp"
  maxConcurrency := 1
  maxRuntime := 300
  maxInputSize := 20000
  maxOutputSize := 4000
  networkPolicy := "none"
  evidencePolicy := "required"

/-- The remote model of the initial registry. -/
def luna : ModelDefinition where
  modelId := "luna"
  displayName := "Luna Remote"
  provider := "remote"
  executorType := "REMOTE_MODEL"
  version := "1.0"
  status := .available
  capabilitiesSupported := ["architecture.analysis", "system.mutate", "repository.diff"]
  capabilitiesForbidden := []
  contextWindow := 128000
  quantization := "fp16"
  artifactUri := "remote://luna-api"
  runtimeInterface := "rest"
  maxConcurrency := 10
  maxRuntime := 600
  maxInputSize := 100000
  maxOutputSize := 10000
  networkPolicy := "egress_only"
  evidencePolicy := "required"

/-- The initial bindings. -/
def initialBindings : List ModelCapabilityBinding :=
  [⟨"qwen3-8b", "document.classify", "allowed", "standard", "low", false, true,
      "Local processing preferred for privacy"⟩,
    ⟨"qwen3-8b", "architecture.analysis", "forbidden", "none", "none", false, false,
      "Insufficient reasoning capacity"⟩,
    ⟨"luna", "architecture.analysis", "allowed", "high", "high", true, false,
      "Advanced reasoning model"⟩,
    ⟨"deterministic", "repository.diff", "allowed", "perfect", "low", true, true,
      "Model not required"⟩]

/-- The registry that a first construction bootstraps. -/
def bootstrap : ModelRegistry := initialBindings.foldl addBinding ((empty.put qwen).put luna)

/-! ### Runs -/

/-- A call that changes the registry. -/
inductive Call where
  | registerModel (m : ModelDefinition)
  | unregister (modelId : String)
  | setAvailability (modelId : String) (available : Bool)
  | addBinding (b : ModelCapabilityBinding)
  deriving DecidableEq

/-- What a call does.  A call that raises changes nothing. -/
def call (r : ModelRegistry) : Call → ModelRegistry
  | .registerModel m => (r.registerModel m).getD r
  | .unregister modelId => r.unregister modelId
  | .setAvailability modelId available => r.setAvailability modelId available
  | .addBinding b => r.addBinding b

/-- A sequence of calls. -/
def run (r : ModelRegistry) (cs : List Call) : ModelRegistry := cs.foldl call r

/-! ### Lemmas -/

theorem mem_listModels {r : ModelRegistry} {m : ModelDefinition} :
    m ∈ r.listModels ↔ r.getModel m.modelId = some m := by
  refine ⟨fun h => ?_, Dict.mem_values_of_get?⟩
  obtain ⟨k, hk⟩ := Dict.exists_get?_of_mem_values h
  rw [r.keyed k m hk]
  exact hk

theorem map_modelId_listModels (r : ModelRegistry) :
    r.listModels.map ModelDefinition.modelId = r.models.keys := by
  rw [listModels, Dict.values, Dict.keys, List.map_map]
  exact List.map_congr_left fun e he => r.keyed e.1 e.2 (Dict.get?_of_mem_entries he)

end ModelRegistry

end Execution

end AnnyRuntime
