import AnnyRuntime.Execution.Registry
import AnnyRuntime.Json.Dataclass
import AnnyRuntime.Json.Indent
import AnnyRuntime.Lib.Text

/-!
# The data of a registry file

What `_build_data` makes of a registry and `_load_data` reads back.  Loading checks the version,
the state of every model, and that the dictionaries have the fields of their dataclasses, and
nothing else; so what is loaded holds any JSON values.
-/

namespace AnnyRuntime

namespace Json

/-! ### Python's view of a value -/

/-- The elements that iterating over a value gives, or a `TypeError`. -/
def pyIter : Json → Option (List Json)
  | .arr l => some l
  | .obj ms => some (ms.map fun m => .str m.1)
  | .str s => some (s.toList.map fun c => .str (String.singleton c))
  | _ => none

/-- A pair for `dict`, whose key can be a keyword. -/
def pyPair : Json → Option (String × Json)
  | .arr [.str k, v] => some (k, v)
  | .obj [(k, _), (k', _)] => some (k, .str k')
  | _ => none

/-- `dict(v)`, where the result is used for keywords: a dictionary, or a list of pairs. -/
def pyDict : Json → Option (List (String × Json))
  | .obj ms => some ms
  | .arr l => l.mapM pyPair
  | .str s => if s = "" then some [] else none
  | _ => none

/-- `Cls(**v)`: only a dictionary has keywords. -/
def construct (fields : List Field) : Json → Option (List Json)
  | .obj ms => bindKwargs fields ms
  | _ => none

end Json

namespace Execution

/-! ### The dataclasses -/

/-- The fields of a model. -/
def modelFields : List Json.Field :=
  [{ name := "model_id" }, { name := "display_name" }, { name := "provider" },
    { name := "executor_type" }, { name := "version" }, { name := "status" },
    { name := "capabilities_supported" }, { name := "capabilities_forbidden" },
    { name := "hardware_requirements" }, { name := "memory_requirements" },
    { name := "context_window" }, { name := "quantization" }, { name := "artifact_uri" },
    { name := "artifact_sha256" }, { name := "runtime_interface" }, { name := "max_concurrency" },
    { name := "max_runtime" }, { name := "max_input_size" }, { name := "max_output_size" },
    { name := "network_policy" }, { name := "evidence_policy" }]

/-- The values of the fields of a model. -/
def ModelDefinition.values (m : ModelDefinition) : List Json :=
  [.str m.modelId, .str m.displayName, .str m.provider, .str m.executorType, .str m.version,
    .str m.status.value, .ofStrings m.capabilitiesSupported, .ofStrings m.capabilitiesForbidden,
    .obj m.hardwareRequirements, .obj m.memoryRequirements, .int m.contextWindow,
    .str m.quantization, .str m.artifactUri, .str m.artifactSha256, .str m.runtimeInterface,
    .int m.maxConcurrency, .int m.maxRuntime, .int m.maxInputSize, .int m.maxOutputSize,
    .str m.networkPolicy, .str m.evidencePolicy]

/-- The fields of a binding. -/
def bindingFields : List Json.Field :=
  [{ name := "model_id" }, { name := "capability_id" }, { name := "authorization" },
    { name := "quality_profile" }, { name := "risk_limit" }, { name := "preferred" },
    { name := "fallback" }, { name := "reason" }]

/-- The values of the fields of a binding. -/
def ModelCapabilityBinding.values (b : ModelCapabilityBinding) : List Json :=
  [.str b.modelId, .str b.capabilityId, .str b.authorization, .str b.qualityProfile,
    .str b.riskLimit, .bool b.preferred, .bool b.fallback, .str b.reason]

/-- The fields of the hardware profile. -/
def hardwareFields : List Json.Field :=
  [{ name := "cpu" }, { name := "cores" }, { name := "ram" }, { name := "gpu_present" },
    { name := "gpu_vendor" }, { name := "gpu_memory" }, { name := "storage_available" },
    { name := "os" }, { name := "python_version" }]

/-- The hardware profile of a new registry. -/
def unknownHardware : List Json := hardwareFields.map fun _ => .str "UNKNOWN"

/-- `0.0`. -/
def zeroFloat : Json := .float (.lit ⟨['0', '.', '0'], by decide⟩)

/-- The fields of a performance profile. -/
def performanceFields : List Json.Field :=
  [{ name := "model_id" }, { name := "capability_id" },
    { name := "executions", default := some (.int 0) },
    { name := "successes", default := some (.int 0) },
    { name := "failures", default := some (.int 0) },
    { name := "timeouts", default := some (.int 0) },
    { name := "average_latency", default := some zeroFloat },
    { name := "p95_latency", default := some zeroFloat },
    { name := "average_output_size", default := some zeroFloat },
    { name := "evaluation_score", default := some zeroFloat },
    { name := "last_evaluated_at", default := some .null }]

/-- The performance profile of a model that was just registered. -/
def newPerformance (modelId : String) : List Json :=
  [.str modelId, .str "*", .int 0, .int 0, .int 0, .int 0, zeroFloat, zeroFloat, zeroFloat,
    zeroFloat, .null]

/-! ### Loading and building -/

/-- The data of a registry, as the values of its dataclasses. -/
structure RegistryData where
  models : Dict Json.Key (List Json) := Dict.empty
  bindings : List (List Json) := []
  hardware : List Json := unknownHardware
  performance : Dict String (List Json) := Dict.empty

namespace RegistryData

/-- One model of the data: it needs the fields of a model, a state that there is, and an id that
can be a key. -/
def loadModel (models : Dict Json.Key (List Json)) (d : Json) :
    Option (Dict Json.Key (List Json)) := do
  let ms ← Json.pyDict d
  let status ← Json.lookup "status" ms
  let _ ← ModelState.ofValue? status
  let vs ← Json.bindKwargs modelFields ms
  let id ← vs.head?
  if h : id.hashable = true then return models.set (Json.Key.norm ⟨id, h⟩) vs else none

/-- `_load_data`, or an exception. -/
def load (d : Json) : Option RegistryData :=
  match d with
  | .obj ms => do
    if Json.lookup "version" ms ≠ some (.str "1.0") then none
    let models ← Json.pyIter ((Json.lookup "models" ms).getD (.arr []))
    let models ← models.foldlM loadModel Dict.empty
    let bindings ← Json.pyIter ((Json.lookup "bindings" ms).getD (.arr []))
    let bindings ← bindings.mapM (Json.construct bindingFields)
    let hardware ← match Json.lookup "hardware" ms with
      | none => some unknownHardware
      | some h => Json.construct hardwareFields h
    match (Json.lookup "performance" ms).getD (.obj []) with
    | .obj ps =>
      let performance ← ps.mapM fun p => (Json.construct performanceFields p.2).map (p.1, ·)
      return ⟨models, bindings, hardware, Dict.ofList performance⟩
    | _ => none
  | _ => none

/-- `_build_data`. -/
def build (r : RegistryData) : Json :=
  .obj
    [("version", .str "1.0"),
      ("models", .arr (r.models.values.map fun vs => .obj (Json.zipFields modelFields vs))),
      ("bindings", .arr (r.bindings.map fun vs => .obj (Json.zipFields bindingFields vs))),
      ("hardware", .obj (Json.zipFields hardwareFields r.hardware)),
      ("performance", .obj (r.performance.entries.map fun e =>
        (e.1, .obj (Json.zipFields performanceFields e.2))))]

/-- The data of a registry in which nothing ran yet. -/
def ofRegistry (r : ModelRegistry) : RegistryData where
  models := Dict.ofList (r.listModels.map fun m => (Json.Key.str m.modelId, m.values))
  bindings := r.bindings.map ModelCapabilityBinding.values
  performance := Dict.ofList (r.listModels.map fun m => (m.modelId, newPerformance m.modelId))

end RegistryData

/-- `_serialize_data`. -/
def serializeData (d : Json) : ByteArray := Text.encode (Json.dumpsIndent 0 d)

/-- `_load_from_disk`, or an exception. -/
def loadRegistry (file : ByteArray) : Option RegistryData := do
  let text ← Text.decode file
  let d ← Json.loads text
  RegistryData.load d

end Execution

end AnnyRuntime
