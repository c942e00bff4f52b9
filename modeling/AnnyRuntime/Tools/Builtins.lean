import AnnyRuntime.Security.Pipeline

/-!
# The builtin tools

`registerBuiltins` registers nine tools over the filesystem, shell, git and workspace services.
Four signatures have to fit for a tool to work: the pipeline calls a handler with the context and
the arguments of the request as keywords, a handler is a function of `ctx` and `args`, and it calls
an operation of a service that has parameters of its own.

* `endToEnd_iff` : for arguments that match the input schema the first two never fit, so that an
  authorized request is answered with `FAILED` and no service is asked.
* `not_under_context` : whatever the arguments are, no operation is invoked under the context.
-/

namespace AnnyRuntime

namespace Tools

open Pipeline

/-- The operations of the services that the handlers call. -/
inductive Operation where
  | workspaceCreate
  | workspaceStatus
  | filesystemRead
  | filesystemWrite
  | filesystemPatch
  | shellExecute
  | gitStatus
  | gitDiff
  | gitCommit
  deriving DecidableEq

/-- A parameter without a default. -/
def required (name : String) : Call.Param Json := ⟨name, none⟩

/-- The parameters of an operation, after `self`. -/
def Operation.params : Operation → List (Call.Param Json)
  | .workspaceCreate => ["context", "actor_scope", "repository", "source_revision"].map required
  | .workspaceStatus => ["context", "workspace_id"].map required
  | .filesystemRead => ["context", "path"].map required
  | .filesystemWrite => ["context", "path", "content"].map required
  | .filesystemPatch => ["context", "path", "search", "replace"].map required
  | .shellExecute =>
    ["context", "command"].map required ++ [⟨"timeout", some (.int 300)⟩, ⟨"env", some .null⟩]
  | .gitStatus => ["workspace_id", "session_id", "actor_id", "tenant_id"].map required
  | .gitDiff =>
    ["workspace_id", "session_id", "actor_id", "tenant_id"].map required ++ [⟨"ref", some .null⟩]
  | .gitCommit =>
    ["workspace_id", "session_id", "actor_id", "tenant_id", "message", "author", "mission_id",
      "task_id", "step_id", "actor_level", "repository", "branch", "reason", "action", "tests",
      "evidence_refs", "next_action"].map required ++ [⟨"execution_id", some .null⟩]

/-- The parameters of an operation, for values of any kind. -/
def Operation.valueParams (o : Operation) : List (Call.Param Value) :=
  o.params.map fun p => ⟨p.name, p.default.map .json⟩

/-- An operation that was invoked, with the values of its parameters. -/
structure Invocation where
  operation : Operation
  values : List Value

/-- What the services do: an operation with its parameters returns a value or raises. -/
structure Services (σ : Type*) where
  body : Operation → List Value → σ → Except String Value × σ

/-- The world of the services, and the operations that were invoked so far. -/
structure World (σ : Type*) where
  invocations : List Invocation
  state : σ

section Handlers

variable {σ : Type*} (services : Services σ)

/-- Call an operation of a service. -/
def invoke (o : Operation) (positional : List Value) (w : World σ) :
    Except Failure Value × World σ :=
  match Call.bind o.valueParams positional .empty with
  | none => (.error .signature, w)
  | some values =>
    ((services.body o values w.state).1.mapError .body,
      ⟨w.invocations ++ [⟨o, values⟩], (services.body o values w.state).2⟩)

/-- `args[key]`. -/
def item (args : Value) (key : String) : Except Failure Json :=
  match args with
  | .json (.obj ms) => (Json.lookup key ms).elim (.error .value) .ok
  | _ => .error .value

/-- `args.get(key)`. -/
def itemOrNone (args : Value) (key : String) : Except Failure Json :=
  match args with
  | .json (.obj ms) => .ok ((Json.lookup key ms).getD .null)
  | _ => .error .value

/-- `{name: result}`, for a result that is a JSON value. -/
def wrapAs (name : String) : Value → Except Failure Value
  | .json j => .ok (.json (.obj [(name, j)]))
  | v => .ok v

/-- `result.__dict__`. -/
def attributes : Value → Except Failure Json
  | .object as => .ok (.obj as)
  | _ => .error .value

/-- A builtin tool: its manifest, the operation that its handler calls, what the handler passes to
it, and what it makes of the result. -/
structure Builtin where
  manifest : ToolManifest
  operation : Operation
  arguments : ExecutionContext → Value → Except Failure (List Json)
  wrap : Value → Except Failure Value

/-- The workspace id of a context. -/
def workspaceOf (ctx : ExecutionContext) : Json := Json.ofOptString ctx.workspaceId

/-- What the git operations are told of the context. -/
def gitScope (ctx : ExecutionContext) : List Json :=
  [workspaceOf ctx, .str ctx.sessionId, .str ctx.actorId, .str ctx.tenantId]

/-- `workspace.create`. -/
def workspaceCreate : Builtin where
  manifest := ⟨"workspace.create", ["repository", "source_revision"], [.workspaceCreate], false⟩
  operation := .workspaceCreate
  arguments ctx args := do
    let repository ← item args "repository"
    let sourceRevision ← item args "source_revision"
    .ok [.str ctx.tenantId, .arr [.str ctx.actorId], repository, sourceRevision]
  wrap
    | .object as =>
      (as.lookup "workspace_id").elim (.error .value) fun j =>
        .ok (.json (.obj [("workspace_id", j)]))
    | _ => .error .value

/-- `workspace.status`. -/
def workspaceStatus : Builtin where
  manifest := ⟨"workspace.status", ["workspace_id"], [], true⟩
  operation := .workspaceStatus
  arguments _ args := do
    let workspaceId ← item args "workspace_id"
    .ok [workspaceId]
  wrap v := do
    let j ← attributes v
    .ok (.json (.obj [("status", j)]))

/-- `fs.read`. -/
def fsRead : Builtin where
  manifest := ⟨"fs.read", ["path"], [.fileRead], true⟩
  operation := .filesystemRead
  arguments ctx args := do
    let path ← item args "path"
    .ok [workspaceOf ctx, path, .str ctx.tenantId, .str ctx.actorId]
  wrap := wrapAs "content"

/-- `fs.write`. -/
def fsWrite : Builtin where
  manifest := ⟨"fs.write", ["path", "content"], [.fileWrite], true⟩
  operation := .filesystemWrite
  arguments ctx args := do
    let path ← item args "path"
    let content ← item args "content"
    .ok [workspaceOf ctx, path, content, .str ctx.tenantId, .str ctx.actorId]
  wrap := wrapAs "success"

/-- `fs.patch`. -/
def fsPatch : Builtin where
  manifest := ⟨"fs.patch", ["path", "search", "replace"], [.fileRead, .fileWrite], true⟩
  operation := .filesystemPatch
  arguments ctx args := do
    let path ← item args "path"
    let search ← item args "search"
    let replace ← item args "replace"
    .ok [workspaceOf ctx, path, search, replace, .str ctx.tenantId, .str ctx.actorId]
  wrap := wrapAs "success"

/-- `shell.exec`. -/
def shellExec : Builtin where
  manifest := ⟨"shell.exec", ["command"], [.processExecution], true⟩
  operation := .shellExecute
  arguments ctx args := do
    let command ← item args "command"
    .ok [command, workspaceOf ctx, .str ctx.sessionId, .str ctx.actorId, .str ctx.tenantId]
  wrap v := do
    let j ← attributes v
    .ok (.json j)

/-- `git.status`. -/
def gitStatus : Builtin where
  manifest := ⟨"git.status", [], [.gitRead], true⟩
  operation := .gitStatus
  arguments ctx _ := .ok (gitScope ctx)
  wrap := wrapAs "status"

/-- `git.diff`. -/
def gitDiff : Builtin where
  manifest := ⟨"git.diff", ["ref"], [.gitRead], true⟩
  operation := .gitDiff
  arguments ctx args := do
    let ref ← itemOrNone args "ref"
    .ok (gitScope ctx ++ [ref])
  wrap := wrapAs "diff"

/-- `git.commit`. -/
def gitCommit : Builtin where
  manifest := ⟨"git.commit", ["message"], [.gitWrite], true⟩
  operation := .gitCommit
  arguments ctx args := do
    let message ← item args "message"
    .ok (gitScope ctx ++ [message])
  wrap := .ok

/-- The builtin tools, in the order in which they are registered. -/
def builtins : List Builtin :=
  [workspaceCreate, workspaceStatus, fsRead, fsWrite, fsPatch, shellExec, gitStatus, gitDiff,
    gitCommit]

/-- `lambda ctx, args: ...`. -/
def Builtin.handler (b : Builtin) : Handler (World σ) where
  params := [⟨"ctx", none⟩, ⟨"args", none⟩]
  body values w :=
    match values with
    | [.context ctx, args] =>
      match b.arguments ctx args with
      | .error e => (.error e, w)
      | .ok positional =>
        let (result, w') := invoke services b.operation (positional.map .json) w
        (result.bind b.wrap, w')
    | _ => (.error .value, w)

/-- `register_builtins`. -/
def registerBuiltins : ToolRegistry (World σ) :=
  Dict.ofList (builtins.map fun b => (b.manifest.name, b.manifest, b.handler services))

end Handlers

/-! ### The pipeline's call and the handlers -/

section EndToEnd

variable {σ : Type*} {services : Services σ} {runtime : RuntimeIdentity}

/-- A handler that the registry holds is one of a builtin tool. -/
theorem exists_builtin {name : String} {manifest : ToolManifest} {h : Handler (World σ)}
    (hget : (registerBuiltins services).get? name = some (manifest, h)) :
    ∃ b ∈ builtins, b.manifest.name = name ∧ b.manifest = manifest ∧ b.handler services = h := by
  obtain ⟨b, hb, heq⟩ := List.mem_map.1 (Dict.mem_of_get?_ofList hget)
  simp only [Prod.mk.injEq] at heq
  exact ⟨b, hb, heq⟩

/-- **The call of a handler.**  With the context as its only positional argument, a handler takes
one keyword, `args`. -/
theorem bind_handler_isSome_iff {b : Builtin} {v : Value} {keywords : Dict String Value} :
    (Call.bind (b.handler services).params [v] keywords).isSome ↔
      (∀ k ∈ keywords.keys, k = "args") ∧ "args" ∈ keywords.keys := by
  rw [Call.bind_isSome_iff]
  simp only [Builtin.handler, List.map_cons, List.map_nil, List.mem_cons, List.not_mem_nil,
    or_false, List.length_cons, List.length_nil, Nat.reduceAdd, Nat.reduceLeDiff, true_and,
    List.take_succ_cons, List.take_zero, forall_eq, List.drop_succ_cons, List.drop_zero,
    Call.Filled, Option.isSome_none, Bool.false_eq_true]
  constructor
  · rintro ⟨hall, hctx, hargs⟩
    exact ⟨fun k hk => (hall k hk).resolve_left fun h => hctx (h ▸ hk), hargs⟩
  · rintro ⟨hall, hargs⟩
    exact ⟨fun k hk => .inr (hall k hk), fun h => absurd (hall _ h) (by decide), hargs⟩

/-- What `execute` does after the checks: nothing, or the call of a builtin tool's handler. -/
theorem execute_cases (c : ExecutionContext) (name : String) (toolArgs : Dict String Value)
    (start finish : ℤ) (w : World σ) :
    (∃ e, execute runtime (registerBuiltins services) (some c) name toolArgs start finish w =
        (.error e, w)) ∨
      ∃ b ∈ builtins, b.manifest.name = name ∧
        execute runtime (registerBuiltins services) (some c) name toolArgs start finish w =
          (.ok (receipt c.executionId name (.utcnow finish)
            ((b.handler services).call [.context c] toolArgs w).1),
            ((b.handler services).call [.context c] toolArgs w).2) := by
  rw [execute]
  cases h : authorize runtime (registerBuiltins services) (some c) name (.utcnow start) with
  | error e => exact .inl ⟨e, rfl⟩
  | ok found =>
    obtain ⟨hc, -, manifest, hget, -, -⟩ := authorize_eq_ok_iff.1 h
    obtain ⟨b, hb, hname, -, hh⟩ := exists_builtin hget
    exact .inr ⟨b, hb, hname, by rw [hh, Option.some.inj hc]⟩

/-- **A request whose arguments have no `args`** reaches no service, and its receipt, if it gets
one, says `FAILED`. -/
theorem execute_of_no_args {c : ExecutionContext} {name : String} {toolArgs : Dict String Value}
    {start finish : ℤ} {w : World σ} (h : "args" ∉ toolArgs.keys) :
    (execute runtime (registerBuiltins services) (some c) name toolArgs start finish w).2 = w ∧
      ∀ r, (execute runtime (registerBuiltins services) (some c) name toolArgs start finish w).1 =
        .ok r → r.status = "FAILED" := by
  obtain ⟨e, he⟩ | ⟨b, hb, -, he⟩ :=
    @execute_cases σ services runtime c name toolArgs start finish w
  · rw [he]
    refine ⟨rfl, fun r hr => ?_⟩
    cases hr
  · have hbind : Call.bind (b.handler services).params [.context c] toolArgs = none := by
      rw [← Option.not_isSome_iff_eq_none, bind_handler_isSome_iff]
      exact fun hargs => h hargs.2
    have hcall : (b.handler services).call [.context c] toolArgs w = (.error .signature, w) := by
      rw [Handler.call, hbind]
    rw [he, hcall]
    exact ⟨rfl, fun r hr => Except.ok.inj hr ▸ rfl⟩

/-- The arguments match an input schema: its names, each with a text. -/
def Matches (schema : List String) (toolArgs : Dict String Value) : Prop :=
  (∀ k, k ∈ toolArgs.keys ↔ k ∈ schema) ∧
    ∀ k v, toolArgs.get? k = some v → ∃ text, v = .json (.str text)

/-- A context is issued, of the current tenant, generation and runtime, unexpired at a time, and
carries what the tool needs. -/
structure Authorized (runtime : RuntimeIdentity) (manifest : ToolManifest) (c : ExecutionContext)
    (t : ℤ) : Prop where
  executionId : c.executionId ≠ ""
  sessionId : c.sessionId ≠ ""
  tenant : some c.tenantId = runtime.tenantId
  generation : c.generation = runtime.generation
  runtimeId : c.runtimeId = runtime.runtimeId
  issued : c.issuedAt.instant ≤ t
  unexpired : t ≤ c.expiresAt.instant
  capabilities : ∀ cap ∈ manifest.requiredCapabilities, c.hasCapability cap.name
  workspace : manifest.workspaceRequired → c.hasWorkspace

/-- **A tool works end to end** for a request: a service is asked only if the context is authorized,
and if it is, the tool's operation is invoked once, under the context and with the arguments, and
the receipt says `SUCCESS` exactly when the operation returns. -/
structure EndToEnd (services : Services σ) (runtime : RuntimeIdentity) (b : Builtin)
    (c : ExecutionContext) (toolArgs : Dict String Value) (start finish : ℤ) (w : World σ) :
    Prop where
  guarded :
    (execute runtime (registerBuiltins services) (some c) b.manifest.name toolArgs start finish
      w).2.invocations ≠ w.invocations → Authorized runtime b.manifest c start
  served : Authorized runtime b.manifest c start →
    ∃ values r,
      (execute runtime (registerBuiltins services) (some c) b.manifest.name toolArgs start finish
        w).2.invocations = w.invocations ++ [⟨b.operation, values⟩] ∧
      .context c ∈ values ∧ (∀ k v, toolArgs.get? k = some v → v ∈ values) ∧
      (execute runtime (registerBuiltins services) (some c) b.manifest.name toolArgs start finish
        w).1 = .ok r ∧
      (r.status = "SUCCESS" ↔ ∃ v, (services.body b.operation values w.state).1 = .ok v)

/-- No input schema has a field `args`. -/
theorem args_notMem_schema {b : Builtin} (hb : b ∈ builtins) :
    "args" ∉ b.manifest.inputSchema := by
  have hall : builtins.all fun b => !b.manifest.inputSchema.contains "args" := by decide
  simpa using List.all_eq_true.1 hall b hb

/-- **When a builtin tool works end to end.**  Whatever the services do, for arguments that match
the tool's input schema it is exactly when the context is not authorized: then no service is asked.
An authorized request does not reach the operation either. -/
theorem endToEnd_iff (services : Services σ) (runtime : RuntimeIdentity) {b : Builtin}
    (hb : b ∈ builtins) (c : ExecutionContext) {toolArgs : Dict String Value}
    (hargs : Matches b.manifest.inputSchema toolArgs) (start finish : ℤ) (w : World σ) :
    EndToEnd services runtime b c toolArgs start finish w ↔
      ¬ Authorized runtime b.manifest c start := by
  have hno : "args" ∉ toolArgs.keys := fun h => args_notMem_schema hb ((hargs.1 _).1 h)
  obtain ⟨hw, -⟩ := @execute_of_no_args σ services runtime c b.manifest.name toolArgs start finish
    w hno
  constructor
  · intro h hauth
    obtain ⟨values, r, hinvocations, -⟩ := h.served hauth
    rw [hw] at hinvocations
    simpa using congrArg List.length hinvocations
  · intro h
    exact ⟨fun hne => absurd (congrArg World.invocations hw) hne, fun hauth => absurd hauth h⟩

/-- A context with a file capability. -/
def reader : ExecutionContext where
  tenantId := "TEN"
  accountId := "ACC"
  projectId := "PRO"
  annyInstanceId := "ANNY"
  runtimeId := "RT"
  sessionId := "SES"
  actorId := "alice"
  operationId := "OP"
  executionId := "EXEC"
  generation := 1
  issuedAt := .utcnow 0
  expiresAt := .utcnow 10
  workspaceId := some "WS"
  capabilities := ["FILE_READ"]

/-- Services whose operations return a text. -/
def textServices : Services Unit := ⟨fun _ _ s => (.ok (.json (.str "text")), s)⟩

theorem reader_matches :
    Matches fsRead.manifest.inputSchema (Dict.empty.set "path" (.json (.str "a.txt"))) := by
  refine ⟨fun k => Iff.rfl, fun k v h => ?_⟩
  obtain ⟨-, rfl⟩ | ⟨-, h⟩ := Dict.of_get?_set h
  · exact ⟨"a.txt", rfl⟩
  · cases h

theorem reader_endToEnd_iff :
    EndToEnd textServices ⟨some "TEN", 1, "RT"⟩ fsRead reader
        (Dict.empty.set "path" (.json (.str "a.txt"))) 5 6 ⟨[], ()⟩ ↔
      ¬ Authorized ⟨some "TEN", 1, "RT"⟩ fsRead.manifest reader 5 :=
  endToEnd_iff textServices ⟨some "TEN", 1, "RT"⟩
    (List.mem_cons_of_mem _ (List.mem_cons_of_mem _ List.mem_cons_self)) reader reader_matches 5 6
    ⟨[], ()⟩

/-- **An authorized read fails**: no service is asked, and the receipt says so. -/
theorem reader_fails :
    Authorized ⟨some "TEN", 1, "RT"⟩ fsRead.manifest reader 5 ∧
      (execute ⟨some "TEN", 1, "RT"⟩ (registerBuiltins textServices) (some reader) "fs.read"
        (Dict.empty.set "path" (.json (.str "a.txt"))) 5 6 ⟨[], ()⟩).2.invocations = [] ∧
      ((execute ⟨some "TEN", 1, "RT"⟩ (registerBuiltins textServices) (some reader) "fs.read"
        (Dict.empty.set "path" (.json (.str "a.txt"))) 5 6 ⟨[], ()⟩).1.map fun r => r.status) =
        .ok "FAILED" := by
  refine ⟨?_, rfl, rfl⟩
  exact
    { executionId := by decide
      sessionId := by decide
      tenant := rfl
      generation := rfl
      runtimeId := rfl
      issued := by decide
      unexpired := by decide
      capabilities := by decide
      workspace := fun _ => rfl }

/-! ### The handlers' calls and the operations -/

/-- The number of arguments that the handlers pass to an operation. -/
def Operation.passed : Operation → ℕ
  | .workspaceStatus => 1
  | .workspaceCreate | .filesystemRead | .gitStatus => 4
  | .filesystemWrite | .shellExecute | .gitDiff | .gitCommit => 5
  | .filesystemPatch => 6

theorem length_arguments {b : Builtin} (hb : b ∈ builtins) {c : ExecutionContext} {args : Value}
    {positional : List Json} (h : b.arguments c args = .ok positional) :
    positional.length = b.operation.passed := by
  simp only [builtins, List.mem_cons, List.not_mem_nil, or_false] at hb
  rcases hb with rfl | rfl | rfl | rfl | rfl | rfl | rfl | rfl | rfl <;>
    simp only [workspaceCreate, workspaceStatus, fsRead, fsWrite, fsPatch, shellExec, gitStatus,
      gitDiff, gitCommit, Guard.seq_eq_ok, Except.ok.injEq] at h ⊢
  case inr.inr.inr.inr.inr.inr.inl => exact h ▸ rfl
  case inl | inr.inr.inr.inl =>
    obtain ⟨_, -, _, -, rfl⟩ := h
    rfl
  case inr.inr.inr.inr.inl =>
    obtain ⟨_, -, _, -, _, -, rfl⟩ := h
    rfl
  all_goals
    obtain ⟨_, -, rfl⟩ := h
    rfl

/-- A call of an operation with that many arguments fits its signature for three operations only. -/
theorem fits {o : Operation} {positional values : List Value} (hlen : positional.length = o.passed)
    (h : Call.bind o.valueParams positional .empty = some values) :
    o ∈ [.workspaceCreate, .gitStatus, .gitDiff] := by
  have hfit := Call.bind_isSome_iff.1 (Option.isSome_of_eq_some h)
  obtain ⟨-, hle, -, hfilled⟩ := hfit
  rw [hlen] at hle hfilled
  cases o with
  | workspaceCreate | gitStatus | gitDiff => decide
  | filesystemRead | filesystemWrite | filesystemPatch | shellExecute =>
    exact absurd hle (by decide)
  | workspaceStatus =>
    simp [Operation.passed, Operation.valueParams, Operation.params, required, Call.Filled]
      at hfilled
  | gitCommit =>
    simp [Operation.passed, Operation.valueParams, Operation.params, required, Call.Filled]
      at hfilled

/-- The defaults of an operation are JSON values. -/
theorem exists_json_of_default {o : Operation} {p : Call.Param Value} {v : Value}
    (hp : p ∈ o.valueParams) (hv : p.default = some v) : ∃ j, v = .json j := by
  obtain ⟨q, -, rfl⟩ := List.mem_map.1 hp
  obtain ⟨j, -, rfl⟩ := Option.map_eq_some_iff.1 hv
  exact ⟨j, rfl⟩

/-- The invocation of a builtin tool: nothing is invoked, or one operation, with JSON values. -/
theorem handler_call_cases (b : Builtin) (v : Value) (keywords : Dict String Value)
    (w : World σ) :
    ((b.handler services).call [v] keywords w).2 = w ∨
      ∃ ctx args positional values, b.arguments ctx args = .ok positional ∧
        Call.bind b.operation.valueParams (positional.map .json) .empty = some values ∧
        ((b.handler services).call [v] keywords w).2.invocations =
          w.invocations ++ [⟨b.operation, values⟩] := by
  rw [Handler.call]
  cases hbind : Call.bind (b.handler services).params [v] keywords with
  | none => exact .inl rfl
  | some values =>
    dsimp only [Builtin.handler]
    split
    · rename_i ctx args
      cases harguments : b.arguments ctx args with
      | error e => exact .inl rfl
      | ok positional =>
        dsimp only [invoke]
        cases hvalues : Call.bind b.operation.valueParams (positional.map .json) .empty with
        | none => exact .inl rfl
        | some values => exact .inr ⟨ctx, args, positional, values, harguments, hvalues, rfl⟩
    · exact .inl rfl

/-- **The operations that are invoked.**  Whatever the arguments of a request are, an operation that
is invoked is one of the three whose signatures the handlers' calls fit, and its values are JSON
values: the context is not among them. -/
theorem not_under_context {c : ExecutionContext} {name : String} {toolArgs : Dict String Value}
    {start finish : ℤ} {w : World σ} {i : Invocation}
    (hi : i ∈ (execute runtime (registerBuiltins services) (some c) name toolArgs start finish
      w).2.invocations) :
    i ∈ w.invocations ∨ i.operation ∈ [.workspaceCreate, .gitStatus, .gitDiff] ∧
      ∀ v ∈ i.values, ∃ j, v = .json j := by
  obtain ⟨e, he⟩ | ⟨b, hb, -, he⟩ :=
    @execute_cases σ services runtime c name toolArgs start finish w
  · rw [he] at hi
    exact .inl hi
  · rw [he] at hi
    obtain hw | ⟨ctx, args, positional, values, harguments, hvalues, hw⟩ :=
      @handler_call_cases σ services b (.context c) toolArgs w
    · exact .inl (hw ▸ hi)
    · dsimp only at hi
      rw [hw, List.mem_append, List.mem_singleton] at hi
      refine hi.imp_right ?_
      rintro rfl
      refine ⟨fits ?_ hvalues, fun v hv => ?_⟩
      · rw [List.length_map]
        exact length_arguments hb harguments
      · obtain hpos | ⟨p, hp, hdefault⟩ := Call.mem_of_bind hvalues hv
        · obtain ⟨j, -, rfl⟩ := List.mem_map.1 hpos
          exact ⟨j, rfl⟩
        · exact exists_json_of_default hp hdefault

end EndToEnd

end Tools

end AnnyRuntime
