import AnnyRuntime.Mcp.Models

/-!
# The tools

What the five tools make of their input and of the context that the gateway gives them.  What the
file system and the clients answer is an argument (`ToolWorld`).  A tool reads four keys of its
context (`ReadsSame`): only through those can a context change what it does.
-/

namespace AnnyRuntime

namespace Mcp

/-- The context of a tool. -/
abbrev Context := Dict String PyVal

/-- How the run of a tool ends. -/
inductive Outcome where
  /-- What it returns, and what it leaves of its input. -/
  | returned (output input : PyVal)
  /-- A `ToolImplementationError`, and its `str`, unless that raises. -/
  | failed (text : Option String)
  /-- Another exception. -/
  | crashed (e : Crash)
  /-- What is not an `Exception`, such as `SystemExit`. -/
  | aborted

/-- An implementation of a tool. -/
abbrev Implementation := PyVal → Context → Outcome

/-- What `os.stat` says about a file. -/
structure FileStat where
  size : ℕ
  (modified created permissions : String)
  (isFile isDir : Bool)
  deriving DecidableEq

/-- An error of the fabric client. -/
structure ClientError where
  text : String
  /-- Its `error_code` is `FABRIC_NOT_FOUND`. -/
  notFound : Bool := false
  deriving DecidableEq

/-- The arguments of `register_resource`. -/
structure RegisterCall where
  provider : String
  (externalId name rType sourceRevision observedBy : PyVal)

/-- What the tools meet. -/
structure ToolWorld where
  realpath : String → String
  /-- `os.stat`, when the file exists. -/
  stat : String → Except Crash (Option FileStat)
  /-- `get_file` of a client: owner, repository and path. -/
  getFile : PyVal → String → String → PyVal → Except String String
  /-- The paths that `search_code` of a client finds: repository and pattern. -/
  searchCode : PyVal → String → PyVal → Except String (List PyVal)
  /-- `get_resource` of a client. -/
  getResource : PyVal → PyVal → Except ClientError PyVal
  /-- `register_resource` of a client. -/
  registerResource : PyVal → RegisterCall → Except String PyVal
  now : String

/-- An attribute that a value does not have. -/
def noAttribute (v : PyVal) (name : String) : String :=
  "'" ++ v.typeName ++ "' object has no attribute '" ++ name ++ "'"

/-- `str(v)`, in a message. -/
def messageText (v : PyVal) : String :=
  match v with
  | .object o => o.text.getD ""
  | v => ((v.encode false).map Json.pyStr).getD ""

/-- `context.get(k)`. -/
def Context.getD (ctx : Context) (k : String) (default : PyVal) : PyVal := (ctx.get? k).getD default

/-- `input_data.get(k, default)`. -/
def inputD (ms : List (PyKey × PyVal)) (k : String) (default : PyVal) : PyVal :=
  (PyVal.get? k ms).getD default

/-- A tool that reads its input with `get`. -/
def withInput (input : PyVal) (body : List (PyKey × PyVal) → Outcome) : Outcome :=
  match input with
  | .dict ms => body ms
  | v => .crashed ⟨"AttributeError", some (noAttribute v "get")⟩

/-- `os.path.realpath(v)`, or a `TypeError`. -/
def realpathOf (w : ToolWorld) : PyVal → Except Crash String
  | .str s => .ok (w.realpath s)
  | v => .error ⟨"TypeError",
      some ("expected str, bytes or os.PathLike object, not " ++ v.typeName)⟩

/-- What `filesystem_inspect` says about a file. -/
def inspected (path : PyVal) (resolved : String) : Option FileStat → PyVal
  | none => .ofMembers [("exists", .bool false), ("path", path)]
  | some s => .ofMembers [("exists", .bool true), ("path", path), ("resolved_path", .str resolved),
      ("size", .int s.size), ("modified", .str s.modified), ("created", .str s.created),
      ("is_file", .bool s.isFile), ("is_dir", .bool s.isDir), ("permissions", .str s.permissions)]

/-- `filesystem_inspect`. -/
def filesystemInspect (w : ToolWorld) : Implementation := fun input ctx => withInput input fun ms =>
  let path := inputD ms "path" .none
  if !path.truthy then .failed (some "Missing required field: path")
  else
    let workspace := ctx.getD "workspace_path" (.str "")
    match realpathOf w path with
    | .error e => .crashed e
    | .ok resolved =>
      -- the workspace bounds the path only when there is one
      let outside := if workspace.truthy then
          (realpathOf w workspace).map fun root => !resolved.startsWith root
        else .ok false
      match outside with
      | .error e => .crashed e
      | .ok true =>
        .failed (some ("Path " ++ messageText path ++ " is outside workspace boundary"))
      | .ok false =>
        match w.stat resolved with
        | .error e => .crashed e
        | .ok s => .returned (inspected path resolved s) input

/-- The owner and the name of a repository, when its path has two parts. -/
def ownerRepo (repoPath : PyVal) : Option (String × String) :=
  match repoPath with
  | .str s =>
    let slash (c : Char) : Bool := c = '/'
    let inner := ((s.toList.dropWhile slash).reverse.dropWhile slash).reverse
    match ((String.ofList inner).splitOn "/").reverse with
    | repo :: owner :: _ => some (owner, repo)
    | _ => none
  | _ => none

/-- The error of a path that has no owner. -/
def invalidRepoPath (repoPath : PyVal) : Outcome :=
  .failed (some ("Invalid repo_path format. Expected owner/repo, got " ++ messageText repoPath))

/-- `repository_read`. -/
def repositoryRead (w : ToolWorld) : Implementation := fun input ctx =>
  let client := ctx.getD "github_client" .none
  if !client.truthy then .failed (some "GitHubClient not provided in context")
  else withInput input fun ms =>
    let repoPath := inputD ms "repo_path" (.str "")
    let filePath := inputD ms "file_path" (.str "")
    if !filePath.truthy || !repoPath.truthy then
      .failed (some "Missing required fields: repo_path, file_path")
    else match ownerRepo repoPath with
      | none => invalidRepoPath repoPath
      | some (owner, repo) =>
        match w.getFile client owner repo filePath with
        | .error text => .failed (some ("Failed to read file from GitHub: " ++ text))
        | .ok content => .returned (.ofMembers [("content", .str content),
            ("size", .int content.length), ("path", filePath), ("encoding", .str "utf-8")]) input

/-- `repository_search`. -/
def repositorySearch (w : ToolWorld) : Implementation := fun input ctx =>
  let client := ctx.getD "github_client" .none
  if !client.truthy then .failed (some "GitHubClient not provided in context")
  else withInput input fun ms =>
    let repoPath := inputD ms "repo_path" (.str "")
    let pattern := inputD ms "pattern" (.str "")
    if !pattern.truthy || !repoPath.truthy then
      .failed (some "Missing required fields: repo_path, pattern")
    else match ownerRepo repoPath with
      | none => invalidRepoPath repoPath
      | some (owner, repo) =>
        match w.searchCode client (owner ++ "/" ++ repo) pattern with
        | .error text => .failed (some ("Failed to search GitHub: " ++ text))
        | .ok found => .returned (.ofMembers [("pattern", pattern), ("repo_path", repoPath),
            ("matches", .list found), ("count", .int found.length)]) input

/-- `fabric_read`. -/
def fabricRead (w : ToolWorld) : Implementation := fun input ctx =>
  let client := ctx.getD "fabric_client" .none
  if !client.truthy then .failed (some "FabricClient not provided in context")
  else withInput input fun ms =>
    let resourceId := inputD ms "resource_id" (.str "")
    let missing := Outcome.returned
      (.ofMembers [("resource_id", resourceId), ("found", .bool false)]) input
    if !resourceId.truthy then .failed (some "Missing required field: resource_id")
    else match w.getResource client resourceId with
      | .error e =>
        if e.notFound then missing
        else .failed (some ("Failed to read fabric resource: " ++ e.text))
      | .ok data =>
        if !data.truthy then missing
        else .returned (.ofMembers [("resource_id", resourceId), ("found", .bool true),
          ("resource", data)]) input

/-- What `fabric_register` asks its client to register, or what is wrong with its input. -/
def registerCall (ms : List (PyKey × PyVal)) (ctx : Context) : Except String RegisterCall :=
  let resourceId := inputD ms "resource_id" (.str "")
  let resourceType := inputD ms "resource_type" (.str "")
  if !resourceId.truthy || !resourceType.truthy then
    .error "Missing required fields: resource_id, resource_type"
  else match inputD ms "metadata" (.dict []) with
    | .dict metadata =>
      .ok
        { provider := "mcp"
          externalId := resourceId
          name := inputD metadata "name" resourceId
          rType := resourceType
          sourceRevision := inputD metadata "source_revision" (.str "HEAD")
          observedBy := ctx.getD "caller_id" (.str "mcp_gateway") }
    | v => .error ("Failed to register fabric resource: " ++ noAttribute v "get")

/-- `fabric_register`. -/
def fabricRegister (w : ToolWorld) : Implementation := fun input ctx =>
  let client := ctx.getD "fabric_client" .none
  if !client.truthy then .failed (some "FabricClient not provided in context")
  else withInput input fun ms =>
    match registerCall ms ctx with
    | .error text => .failed (some text)
    | .ok call =>
      match w.registerResource client call with
      | .error text => .failed (some ("Failed to register fabric resource: " ++ text))
      | .ok (.dict res) => .returned (.ofMembers [("resource_id", call.externalId),
          ("provenance_id", inputD res "provenance_id" (.str "unknown")), ("state", .str "ACTIVE"),
          ("registered_at", .str w.now)]) input
      | .ok v => .crashed ⟨"AttributeError", some (noAttribute v "get")⟩

/-- `TOOL_IMPLEMENTATIONS`. -/
def toolImplementations (w : ToolWorld) (toolId : String) : Option Implementation :=
  if toolId = "filesystem.inspect" then some (filesystemInspect w)
  else if toolId = "repository.read" then some (repositoryRead w)
  else if toolId = "repository.search" then some (repositorySearch w)
  else if toolId = "fabric.read" then some (fabricRead w)
  else if toolId = "fabric.register" then some (fabricRegister w)
  else none

/-! ### What a tool reads of its context -/

/-- The keys that tools read. -/
def readKeys : List String := ["workspace_path", "github_client", "fabric_client", "caller_id"]

/-- Two contexts have the same values of the keys that tools read. -/
def ReadsSame (ctx ctx' : Context) : Prop := ∀ k ∈ readKeys, ctx.get? k = ctx'.get? k

theorem ReadsSame.getD {ctx ctx' : Context} (h : ReadsSame ctx ctx') {k : String}
    (hk : k ∈ readKeys) (d : PyVal) : ctx.getD k d = ctx'.getD k d := by
  rw [Context.getD, Context.getD, h k hk]

theorem ReadsSame.registerCall_eq {ctx ctx' : Context} (h : ReadsSame ctx ctx')
    (ms : List (PyKey × PyVal)) : registerCall ms ctx = registerCall ms ctx' := by
  unfold registerCall
  rw [h.getD (by simp [readKeys])]

/-- **A tool only depends on the keys that it reads.** -/
theorem ReadsSame.outcome_eq {ctx ctx' : Context} (h : ReadsSame ctx ctx') {w : ToolWorld}
    {toolId : String} {impl : Implementation} (hi : toolImplementations w toolId = some impl)
    (input : PyVal) : impl input ctx = impl input ctx' := by
  have hw := h.getD (k := "workspace_path") (by simp [readKeys])
  have hg := h.getD (k := "github_client") (by simp [readKeys])
  have hf := h.getD (k := "fabric_client") (by simp [readKeys])
  unfold toolImplementations at hi
  split_ifs at hi <;> obtain rfl := Option.some.inj hi
  · simp only [filesystemInspect, hw]
  · simp only [repositoryRead, hg]
  · simp only [repositorySearch, hg]
  · simp only [fabricRead, hf]
  · simp only [fabricRegister, hf, h.registerCall_eq]

end Mcp

end AnnyRuntime
