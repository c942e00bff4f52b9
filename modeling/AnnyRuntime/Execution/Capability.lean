import AnnyRuntime.Execution.Models
import AnnyRuntime.Lib.Dict

/-!
# Capabilities

What the runtime can be asked to do, and the registry it starts with.
-/

namespace AnnyRuntime

namespace Execution

/-- A capability. -/
structure CapabilityDefinition where
  /-- Its id. -/
  capabilityId : String
  (name description version riskLevel : String)
  /-- It needs a model. -/
  inferenceRequired : Bool
  /-- It can run without one. -/
  deterministicAllowed : Bool
  (networkPolicy filesystemPolicy : String)
  requiredTools : List String
  (maxRuntime maxOutput : ℕ)
  evidenceRequired : Bool
  preferredExecutor : ExecutorType
  /-- What runs it when the preferred executor cannot. -/
  fallbackExecutor : Option ExecutorType
  /-- It can be asked for. -/
  enabled : Bool
  family : String := "unknown"
  /-- `read`, or what it changes. -/
  sideEffect : String := "read"
  cacheable : Bool := true
  hermetic : Bool := true
  deriving DecidableEq

/-- The capabilities by their id. -/
structure CapabilityRegistry where
  /-- The dictionary. -/
  capabilities : Dict String CapabilityDefinition
  /-- A capability is under its own id. -/
  keyed : ∀ k cap, capabilities.get? k = some cap → cap.capabilityId = k

namespace CapabilityRegistry

/-- A registry without capabilities. -/
def empty : CapabilityRegistry := ⟨Dict.empty, fun _ _ h => absurd h (by simp)⟩

/-- `register`. -/
def register (r : CapabilityRegistry) (cap : CapabilityDefinition) : CapabilityRegistry where
  capabilities := r.capabilities.set cap.capabilityId cap
  keyed k c h := by
    rw [Dict.get?_set] at h
    split_ifs at h with hk
    · rw [← Option.some.inj h, hk]
    · exact r.keyed k c h

/-- `get`. -/
def get (r : CapabilityRegistry) (capabilityId : String) : Option CapabilityDefinition :=
  r.capabilities.get? capabilityId

/-- `list_all`. -/
def listAll (r : CapabilityRegistry) : List CapabilityDefinition := r.capabilities.values

@[simp] theorem get_register_self (r : CapabilityRegistry) (cap : CapabilityDefinition) :
    (r.register cap).get cap.capabilityId = some cap := Dict.get?_set_self _ _

/-- One row of the initial table. -/
def initial (capabilityId name description : String) (inferenceRequired : Bool)
    (preferredExecutor : ExecutorType) (family sideEffect : String) (cacheable hermetic : Bool) :
    CapabilityDefinition where
  capabilityId := capabilityId
  name := name
  description := description
  version := "1.1.0"
  riskLevel := if sideEffect = "read" then "low" else "high"
  inferenceRequired := inferenceRequired
  deterministicAllowed := preferredExecutor = .deterministic
  networkPolicy := "disabled"
  filesystemPolicy := if sideEffect = "read" then "read_only" else "workspace_only"
  requiredTools := [capabilityId]
  maxRuntime := 60
  maxOutput := 1024 * 1024
  evidenceRequired := true
  preferredExecutor := preferredExecutor
  fallbackExecutor := none
  enabled := sideEffect = "read"
  family := family
  sideEffect := sideEffect
  cacheable := cacheable
  hermetic := hermetic

/-- The initial table. -/
def initialCapabilities : List CapabilityDefinition :=
  [initial "document.classify" "Document Classify" "Classifies a document." true
      .localModel "document" "read" false false,
    initial "filesystem.inspect" "Filesystem Inspect" "Inspects file metadata." false
      .deterministic "filesystem" "read" true true,
    initial "filesystem.list" "Filesystem List" "Lists directory contents." false
      .deterministic "filesystem" "read" true true,
    initial "filesystem.hash" "Filesystem Hash" "Hashes file contents." false
      .deterministic "integrity" "read" true true,
    initial "repository.inspect" "Repository Inspect" "Inspects repository metadata." false
      .deterministic "repository" "read" true true,
    initial "repository.search" "Repository Search" "Searches a local repository." false
      .deterministic "repository" "read" true true,
    initial "repository.read" "Repository Read" "Reads repository state and metadata." false
      .deterministic "repository" "read" true true,
    initial "repository.diff" "Repository Diff" "Computes a local repository diff." false
      .deterministic "repository" "read" true true,
    initial "artifact.metadata" "Artifact Metadata" "Gets local artifact metadata." false
      .deterministic "artifact" "read" true true,
    initial "schema.validate" "Schema Validate"
      "Validates structured data against an explicit schema contract." false .deterministic
      "validation" "read" true true,
    initial "fabric.read" "Fabric Read" "Reads operational fabric state." false
      .deterministic "fabric" "read" false false,
    initial "fabric.register" "Fabric Register" "Registers a fabric entry." false
      .deterministic "fabric" "write" false false]

/-- `CapabilityRegistry()`. -/
def init : CapabilityRegistry := initialCapabilities.foldl register empty

end CapabilityRegistry

end Execution

end AnnyRuntime
