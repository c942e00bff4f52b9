import AnnyRuntime.Bootstrap.Report
import AnnyRuntime.Continuity.Engine
import AnnyRuntime.Execution.Registry
import AnnyRuntime.Fabric.Adapter

/-!
# What the bootstrap works with

`ThreePlaneBootstrap` holds the components that it was given, and `World` answers everything that
it asks of the outside.  Each question is a question of its own: two gates that read the same file
may get two answers, and any answer may be an exception.

Of the components that the tests replace, the model has what the bootstrap takes from them, as an
attribute that may be missing (`GitHub.listRepos`, `Continuity.status`, `ListedModel.state`);
`GitHub.own`, `Continuity.own` and `ListedModel.own` are the repository's own classes, which have
none of the three.
-/

namespace AnnyRuntime

namespace Bootstrap

open Execution Fabric

/-- `RuntimeConfig`, as far as the bootstrap reads it. -/
structure RuntimeConfig where
  fabricOrg : Option String := none
  fabricRepo : Option String := none
  /-- The attribute `version_commit`, when there is one. -/
  versionCommit : Option String := none
  deriving DecidableEq

/-- A GitHub client: what `list_repos()` gives. -/
structure GitHub where
  listRepos : Except PyException Json

/-- `github.client.GitHubClient`, which lists repositories under another name. -/
def GitHub.own : GitHub := ⟨.error (attributeError "GitHubClient" "list_repos")⟩

/-- A continuity engine: its attribute `status`. -/
structure Continuity where
  status : Except PyException Json

/-- `continuity.engine.ContinuityEngine`, whatever it has loaded. -/
def Continuity.own (_ : Continuity.ContinuityEngine) : Continuity :=
  ⟨.error (attributeError "ContinuityEngine" "status")⟩

/-- A model of a registry: its attribute `state`. -/
structure ListedModel where
  modelId : String
  state : Except PyException ModelState

/-- `execution.models.ModelDefinition`, whose state is in the field `status`. -/
def ListedModel.own (m : ModelDefinition) : ListedModel :=
  ⟨m.modelId, .error (attributeError "ModelDefinition" "state")⟩

/-- `ThreePlaneBootstrap`, with the host and the port that its constructor resolves. -/
structure ThreePlaneBootstrap where
  dataDir : String
  github : Option GitHub
  fabric : Option GitHubFabricAdapter
  continuity : Option Continuity
  config : Option RuntimeConfig := none
  adminHost : String := "127.0.0.1"
  adminPort : ℤ := 3643
  capRegistry : Option CapabilityRegistry := none
  /-- The names that `list_tools()` lists. -/
  toolRegistry : Option (List String) := none
  modelRegistry : Option (List ListedModel) := none
  /-- What `list_active()` gives. -/
  workerManager : Option (Except PyException (List String)) := none

/-- When the fabric is asked: in a gate, or for the node of the report. -/
inductive Moment where
  | gate (gate : ReadinessGate)
  | fabricNode
  deriving DecidableEq

/-- A response of the admin API. -/
structure AdminResponse where
  status : ℕ
  body : Except PyException String

/-- The outside. -/
structure World where
  /-- The decoded file `runtime_identity.json`. -/
  identityFile : Except PyException Json
  privateKey : Except PyException ByteArray
  token : Except PyException String
  /-- The answer of the GitHub API to an endpoint. -/
  request : Moment → String → Except PyException Json
  /-- The latency of the probe, in milliseconds. -/
  latency : String
  (issuedAt expiresAt : String)
  /-- The answer of `/api/status`. -/
  urlopen : ReadinessGate → Except PyException AdminResponse
  /-- `os.stat(data_dir).st_mode`, when a capability is tested. -/
  stat : String → Except PyException ℕ
  listdir : Except PyException (List String)
  pathExists : Bool
  /-- A module is imported and asked for a symbol. -/
  imports : String → String → Except PyException Bool

/-- The client of the fabric at a moment. -/
def World.client (w : World) (m : Moment) : GitHubClient := ⟨w.token, w.request m⟩

end Bootstrap

end AnnyRuntime
