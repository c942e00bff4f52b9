import AnnyRuntime.Fabric.Adapter
import AnnyRuntime.Json.Access
import AnnyRuntime.Json.Encode
import AnnyRuntime.Lib.Path

/-!
# The operational repository

The operational repository is found among the repositories that the GitHub API lists, by a topic or
by one of two files (`OperationalRepositoryProvider.discover`).  A provider remembers what it found,
and reads documents from it, or from a local directory in its place.

How a request ends is open (`GitHubClient.respond`); which exception each end becomes is the code's.
What YAML makes of a text and what a value looks like in a text is given (`Yaml`).

* `resolve_resolved` : a provider that has found a repository goes on using it.
* `readFileContent_local` : a local directory answers every read.
-/

namespace AnnyRuntime

namespace CustomerZero

open Fabric (mentions)

/-! ### The GitHub client -/

/-- A GET request. -/
structure Request where
  endpoint : String
  params : List (String × Json) := []
  deriving DecidableEq

/-- How a request ends. -/
inductive Response where
  /-- An answer, with its text. -/
  | body (text : List Char)
  /-- `HTTPError`. -/
  | httpError (code : ℕ) (reason : String)
  /-- `URLError`, whose reason is a timeout or another one. -/
  | urlError (timedOut : Bool) (reason : String)
  /-- `socket.timeout`. -/
  | timeout
  /-- An exception that nothing translates: the connection breaks off, or the answer is no text. -/
  | raised (connection : Bool) (text : String)
  deriving DecidableEq

/-- `GitHubClient`: what `_get_token` returns, unless it raises, and the API. -/
structure GitHubClient where
  token : Option String
  /-- The URL of a request. -/
  url : Request → String
  respond : Request → Response

/-- `f"{v}"`. -/
def formatted (p : Platform) : Json → String
  | .str s => s
  | v => p.str v

/-- `GitHubClientError`, or a subclass of it. -/
def isClientError (e : PyException) : Bool :=
  e.kind = .githubAuthError || e.kind = .githubNotFoundError || e.kind = .githubClientError

namespace GitHubClient

variable (c : GitHubClient) (p : Platform)

/-- `_request`. -/
def request (r : Request) : Except PyException Json :=
  match c.token with
  | none => .error ⟨.githubAuthError, "No GitHub access token available"⟩
  | some _ =>
    match c.respond r with
    | .body text =>
      if text = [] then .ok (.obj [])
      else
        (Json.loads text).elim
          (.error ⟨.githubClientError, "Failed to decode GitHub API JSON response: " ++
            p.decodeError (String.ofList text)⟩) .ok
    | .httpError code reason =>
      if code = 401 then
        .error ⟨.githubAuthError, "GitHub API Unauthorized (401): " ++ reason⟩
      else if code = 404 then
        .error ⟨.githubNotFoundError, "GitHub API Resource Not Found (404): " ++ r.endpoint⟩
      else if code = 403 ∧ mentions "rate limit" (p.lower reason) then
        .error ⟨.githubClientError, "GitHub API Rate Limit Exceeded (403): " ++ reason⟩
      else
        .error ⟨.githubClientError, "GitHub API HTTP Error (" ++ toString code ++ "): " ++ reason⟩
    | .urlError timedOut reason =>
      if timedOut then .error ⟨.githubClientError, "GitHub API Request timed out: " ++ c.url r⟩
      else .error ⟨.githubClientError, "GitHub API Network Error: " ++ reason⟩
    | .timeout => .error ⟨.githubClientError, "GitHub API Socket timed out: " ++ c.url r⟩
    | .raised _ text => .error ⟨.other, text⟩

/-- How many repositories a page of the list has. -/
def perPage : ℕ := 100

/-- The request of `list_repositories`, without an organization. -/
def repositoriesRequest : Request where
  endpoint := "/user/repos"
  params := [("per_page", .int perPage),
    ("affiliation", .str "owner,collaborator,organization_member")]

/-- `list_repositories`. -/
def listRepositories : Except PyException (List Json) := do
  match ← c.request p repositoriesRequest with
  | .arr repos => return repos
  | _ => return []

/-- The request for a file, at a reference. -/
def contentsRequest (owner repo path : String) (ref : Json) : Request where
  endpoint := "/repos/" ++ owner ++ "/" ++ repo ++ "/contents/" ++ path
  params := if ref.truthy then [("ref", ref)] else []

/-- `file_exists`.  No exception has the `status_code` that it also asks for. -/
def fileExists (owner repo path : String) (ref : Json) : Except PyException Bool :=
  match c.request p (contentsRequest owner repo path ref) with
  | .ok _ => .ok true
  | .error e => if e.kind = .githubNotFoundError then .ok false else .error e

/-- `get_file`, whose result nothing checks to be a text. -/
def getFile (owner repo path : String) (ref : Json) : Except PyException Json := do
  let unexpected : PyException :=
    ⟨.githubClientError, "Unexpected response format for file " ++ path⟩
  match ← c.request p (contentsRequest owner repo path ref) with
  | .obj ms =>
    match Json.lookup "content" ms with
    | some content =>
      if (Json.lookup "encoding" ms).getD (.str "base64") = .str "base64" then
        (p.b64decode content).map .str
      else .ok content
    | none => .error unexpected
  | .str s => .ok (.str s)
  | _ => .error unexpected

end GitHubClient

/-! ### The provider -/

/-- A repository that was found. -/
inductive RepoInfo where
  /-- A directory in its place. -/
  | local (path : String)
  | github (owner repo : String) (defaultBranch : Json)
  deriving DecidableEq

/-- `repo_info["full_name"]`. -/
def RepoInfo.fullName : RepoInfo → String
  | .local _ => "LOCAL_CONTROLLED_TEST"
  | .github owner repo _ => owner ++ "/" ++ repo

/-- `repo_info["type"]`. -/
def RepoInfo.type : RepoInfo → String
  | .local _ => "local"
  | .github _ _ _ => "github"

/-- The local files. -/
structure LocalFiles where
  /-- `os.path.exists`. -/
  exists' : String → Bool
  /-- The text of a file, unless reading it raises. -/
  read : String → Except PyException String

/-- What the YAML library and the texts of values are. -/
structure Yaml where
  /-- `yaml.safe_load`. -/
  safeLoad : String → Except PyException PyVal
  /-- `str(v)` of a value that is no string. -/
  str : PyVal → Except PyException String

/-- `OperationalRepositoryNotFoundError`. -/
def notFound (text : String) : PyException := ⟨.other, text⟩

/-- `getattr(e, 'status_code', None)`: no exception of the client has the attribute. -/
def statusCode (_ : PyException) : Option ℕ := none

/-- `OperationalRepositoryProvider`. -/
structure OperationalRepositoryProvider where
  githubClient : Option GitHubClient
  localPathOverride : Option String := none
  environment : String := "PRODUCTION"
  files : LocalFiles
  /-- `_resolved_repo`. -/
  resolved : Option RepoInfo := none

namespace OperationalRepositoryProvider

variable (p : Platform) (y : Yaml) (P : OperationalRepositoryProvider)

/-- The exception for a probe that failed. -/
def probeFailed (e : PyException) : PyException :=
  if isClientError e then
    match statusCode e with
    | some 401 => notFound "UNAUTHORIZED"
    | some 403 =>
      if mentions "rate limit" (p.lower e.text) then notFound "RATE_LIMITED"
      else notFound "FORBIDDEN"
    | _ => notFound "UNKNOWN_ERROR"
  else e

/-- The two marker files are looked for. -/
def hasMarkerFile (c : GitHubClient) (owner repo : String) (branch : Json) :
    Except PyException Bool := do
  if ← c.fileExists p owner repo ".anny/operational.yaml" branch then return true
  c.fileExists p owner repo "BOOTSTRAP.md" branch

/-- A repository of the list: a candidate, or none. -/
def candidate (c : GitHubClient) (repo : Json) : Except PyException (Option RepoInfo) := do
  if !repo.truthy then return none
  let owner ← (← repo.get "owner" (.obj [])).get "login"
  let repoName ← repo.get "name"
  if !owner.truthy || !repoName.truthy then return none
  let topics ← repo.get "topics" (.arr [])
  let branch ← repo.get "default_branch" (.str "main")
  let info := RepoInfo.github (formatted p owner) (formatted p repoName) branch
  if ← topics.contains (.str "anny-operational") then return some info
  let marked ← (hasMarkerFile p c (formatted p owner) (formatted p repoName) branch).mapError
    (probeFailed p)
  return if marked then some info else none

/-- The candidates among the repositories of the list. -/
def candidates (c : GitHubClient) : Except PyException (List RepoInfo) :=
  (do
    let repos ← c.listRepositories p
    let found ← repos.mapM (candidate p c)
    return found.filterMap id).mapError fun e =>
      if isClientError e then notFound "NETWORK_ERROR" else e

/-- The text of `OperationalRepositoryAmbiguousError`. -/
def ambiguousText (found : List RepoInfo) : String :=
  "OPERATIONAL_REPOSITORY_AMBIGUOUS: " ++ p.str (.ofStrings (found.map RepoInfo.fullName))

/-- The only candidate. -/
def discover (c : GitHubClient) : Except PyException RepoInfo := do
  match ← candidates p c with
  | [] => .error (notFound "OPERATIONAL_REPOSITORY_NOT_FOUND")
  | [found] => return found
  | found => .error ⟨.other, ambiguousText p found⟩

/-- The local directory, where the environment allows one. -/
def local? : Option RepoInfo :=
  match P.localPathOverride with
  | some path =>
    if path ≠ "" ∧ P.environment ∈ ["CONTROLLED_TEST", "CUSTOMER_ZERO_TEST"] ∧
        P.files.exists' path then some (.local path)
    else none
  | none => none

/-- `resolve_operational_repository`. -/
def resolveOperationalRepository :
    Except PyException (Option RepoInfo) × OperationalRepositoryProvider :=
  match P.resolved, P.local?, P.githubClient with
  | some repo, _, _ => (.ok (some repo), P)
  | none, some repo, _ => (.ok (some repo), { P with resolved := some repo })
  | none, none, none => (.ok none, P)
  | none, none, some c =>
    match discover p c with
    | .error e => (.error e, P)
    | .ok repo => (.ok (some repo), { P with resolved := some repo })

/-- `os.path.join(base, path)`. -/
def joined (base path : String) : String := String.ofList (AbsPath.join base.toList path.toList)

/-- `self.github_client`, whose method is called. -/
def client (method : String) : Except PyException GitHubClient :=
  P.githubClient.elim (.error (attributeError "NoneType" method)) .ok

/-- `_read_file_content`. -/
def readFileContent (path : String) : Except PyException (Option Json) := do
  match ← (P.resolveOperationalRepository p).1 with
  | none => return none
  | some (.local base) =>
    if P.files.exists' (joined base path) then
      return (P.files.read (joined base path)).toOption.map .str
    else return none
  | some (.github owner repo branch) =>
    let c ← P.client "get_file"
    match c.getFile p owner repo path branch with
    | .ok content => return some content
    | .error e => if e.kind = .githubNotFoundError then return none else .error e

/-- `path_exists`. -/
def pathExists (path : String) : Except PyException Bool := do
  match ← (P.resolveOperationalRepository p).1 with
  | none => return false
  | some (.local base) => return P.files.exists' (joined base path)
  | some (.github owner repo branch) =>
    let c ← P.client "file_exists"
    c.fileExists p owner repo path branch

/-- `_parse_yaml_or_json`. -/
def parseYamlOrJson (content : Json) : PyVal :=
  match content with
  | .str text =>
    if text = "" then .none
    else
      match y.safeLoad text with
      | .ok v => v
      | .error _ => (Json.loads text.toList).elim .none PyVal.ofJson
  | _ => .none

/-- The content of a file when there is one, parsed. -/
def readParsed (path : String) : Except PyException PyVal := do
  return ((← P.readFileContent p path).map (parseYamlOrJson y)).getD .none

/-- A document that is a dictionary. -/
def readDocument (path : String) : Except PyException (Option (List (PyKey × PyVal))) := do
  match ← P.readParsed p y path with
  | .dict ms => return some ms
  | _ => return none

/-- `read_bootstrap`. -/
def readBootstrap : Except PyException (Option Json) := P.readFileContent p "BOOTSTRAP.md"

/-- `read_current_state`. -/
def readCurrentState := P.readDocument p y "state/CURRENT_STATE.yaml"

/-- `read_current_mission`, which adds the content to the document. -/
def readCurrentMission : Except PyException (Option (List (PyKey × PyVal))) := do
  let content ← P.readFileContent p "state/CURRENT_MISSION.yaml"
  match content.map (parseYamlOrJson y) with
  | some (.dict ms) =>
    return some ((.str "_raw_content", PyVal.ofJson (content.getD .null)) ::
      ms.filter (·.1 ≠ .str "_raw_content"))
  | _ => return none

/-- `read_blockers`. -/
def readBlockers := P.readDocument p y "state/BLOCKERS.yaml"

/-- `read_next_action`. -/
def readNextAction := P.readDocument p y "state/NEXT_ACTION.yaml"

/-- The first registry among files. -/
def firstRegistry : List String → Except PyException PyVal
  | [] => return .list []
  | path :: paths => do
    match ← P.readParsed p y path with
    | .list workers => return .list workers
    | .dict ms =>
      match PyVal.get? "workers" ms with
      | some workers => return workers
      | none => firstRegistry paths
    | _ => firstRegistry paths

/-- `read_l2_registry`. -/
def readL2Registry : Except PyException PyVal :=
  P.firstRegistry p y ["state/OFFICE_REGISTRY_001.json", "state/L2_WORKER_REGISTRY.yaml"]

end OperationalRepositoryProvider

end CustomerZero

end AnnyRuntime
