import AnnyRuntime.Execution.Evidence
import AnnyRuntime.Lib.Links
import AnnyRuntime.Lib.Traced

/-!
# The handlers of deterministic capabilities

A handler looks at the file system of its host and runs `git`.  It refuses a path by its spelling:
the path is made absolute as a text, and must not start with one of the forbidden directories.  Then
everything goes through the file system, which follows links.

What a handler looks at, in the order in which it does so, is the trace of the handler (`Event`).
Special files and errors of the file system other than that nothing is there are not modelled.

* `emits_handler_iff` : what the trace of a handler has in it.
* `outcome_handler_security` : a handler denies access exactly by the spelling of the path.
-/

namespace AnnyRuntime

namespace Execution

/-! ### The host -/

/-- What is known of a file or a directory. -/
structure Stat where
  mode : ℕ
  size : ℕ
  mtime : PyFloat
  deriving DecidableEq

/-- What a program that has ended leaves. -/
structure Completed where
  stdout : String
  returncode : ℤ
  deriving DecidableEq

/-- The machine that a handler runs on. -/
structure Host where
  /-- The file system. -/
  root : FileNode Stat
  /-- The working directory. -/
  cwd : AbsPath
  /-- The deadline is past at the `i`-th check of it. -/
  late : ℕ → Bool
  /-- What `git` answers in a directory, or why it cannot be run or waited for. -/
  git : List Char → List String → Except String Completed
  /-- The places that `git` reads then. -/
  gitReads : List Char → List String → List AbsPath
  sha256 : List UInt8 → String

/-- What a handler does to the outside. -/
inductive Event where
  /-- What is known of the place that a text leads to is read. -/
  | metadata (t : List Char)
  /-- The names in a directory are read. -/
  | names (t : List Char)
  /-- A file is read. -/
  | content (t : List Char)
  /-- `git` runs in a directory; its last arguments come from the task. -/
  | git (repo : List Char) (fixed given : List String)
  deriving DecidableEq

/-- A handler that looks at its host. -/
abbrev Look := Traced Event Raised

open Traced (raise emit)

/-! ### Paths -/

/-- `os.path.abspath`: exactly two separators at the start are both kept. -/
def abspath (cwd : AbsPath) (t : List Char) : List Char :=
  let names := AbsPath.lexical cwd t
  if ['/', '/'].isPrefixOf t ∧ ¬ ['/', '/', '/'].isPrefixOf t then '/' :: names.text
  else names.text

/-- The forbidden directories. -/
def forbiddenPaths : List String := ["/var/lib/anny-runtime/secrets", "/home/anny/.ssh", "/root"]

/-- The forbidden directory that a path is refused for. -/
def refusal? (cwd : AbsPath) (path : List Char) : Option String :=
  forbiddenPaths.find? fun forbidden =>
    path = abspath cwd forbidden.toList ||
      (abspath cwd forbidden.toList ++ ['/']).isPrefixOf path

/-- The message about a refused path. -/
def refusalMessage (forbidden : String) : String :=
  "Access to " ++ forbidden ++ " is explicitly denied"

/-- A text in the input of a task that must not be empty. -/
def inputText? (task : Task) (key : String) : Option String :=
  match Json.lookup key task.input with
  | some (.str s) => if s = "" then none else some s
  | _ => none

/-- `oct`. -/
def oct (n : ℕ) : String := "0o" ++ String.ofList (Nat.toDigits 8 n)

/-- `str.splitlines`. -/
def splitlines : List Char → List (List Char)
  | [] => []
  | '\r' :: '\n' :: cs => [] :: splitlines cs
  | c :: cs =>
    let n := c.toNat
    if (10 ≤ n ∧ n ≤ 13) ∨ (28 ≤ n ∧ n ≤ 30) ∨ n = 0x85 ∨ n = 0x2028 ∨ n = 0x2029 then
      [] :: splitlines cs
    else match splitlines cs with
      | [] => [[c]]
      | l :: ls => (c :: l) :: ls

/-- `sorted`, of strings. -/
def sorted (l : List String) : List String := l.insertionSort (· ≤ ·)

/-- The lines of an output. -/
def outputLines (output : String) : List String :=
  (splitlines output.toList).map String.ofList

/-- An exception that denies access. -/
def Denies (r : Raised) : Prop := ∃ m, r = .security m

/-- An argument has a null character. -/
def hasNull (args : List String) : Bool := args.any fun a => a.toList.contains '\u0000'

namespace Host

variable (h : Host)

/-- `_deadline`, checked for the `i`-th time. -/
def deadline (i : ℕ) : Look Unit :=
  if h.late i then raise (.timeout "Deadline exceeded") else pure ()

/-- `_enforce_path`. -/
def enforcePath (path : List Char) : Look Unit :=
  match refusal? h.cwd path with
  | some forbidden => raise (.security (refusalMessage forbidden))
  | none => pure ()

/-- What a handler starts with: the deadline, and the path, which may be missing or refused. -/
def checked {α : Type} (task : Task) (missing : String) (body : String → List Char → Look α) :
    Look α := do
  h.deadline 0
  match inputText? task "path" with
  | none => raise (.other missing)
  | some path =>
    h.enforcePath (abspath h.cwd path.toList)
    body path (abspath h.cwd path.toList)

/-! ### Looking -/

/-- What a text leads to. -/
def node? (t : List Char) : Option (FileNode Stat) := h.root.node? h.cwd t

/-- `os.path.exists`. -/
def exists? (t : List Char) : Look Bool := emit (.metadata t) (h.node? t).isSome

/-- `os.path.isdir`. -/
def isDir (t : List Char) : Look Bool :=
  emit (.metadata t) (match h.node? t with | some (.dir _ _) => true | _ => false)

/-- `os.path.isfile`. -/
def isFile (t : List Char) : Look Bool :=
  emit (.metadata t) (match h.node? t with | some (.file _ _) => true | _ => false)

/-- What nothing being there raises. -/
def notFound {α : Type} : Look α := raise (.other "No such file or directory")

/-- `os.stat`. -/
def stat (t : List Char) : Look Stat := do
  emit (.metadata t) ()
  match h.node? t with
  | some (.file stat _) | some (.dir stat _) => pure stat
  | _ => notFound

/-- `sorted(os.listdir(t))`. -/
def listdir (t : List Char) : Look (List PathName) := do
  emit (.names t) ()
  match h.node? t with
  | some (.dir _ entries) =>
    pure ((entries.map Prod.fst).insertionSort fun a b => a.text ≤ b.text)
  | _ => notFound

/-- A file is read to its end. -/
def readFile (t : List Char) : Look (List UInt8) := do
  emit (.content t) ()
  match h.node? t with
  | some (.file _ content) => pure content
  | _ => notFound

/-- `_git`.  An argument with a null character is not passed on. -/
def runGit (repo : List Char) (fixed given : List String) : Look Completed :=
  if hasNull given then raise (.other "embedded null byte")
  else ⟨[.git repo fixed given], (h.git repo (fixed ++ given)).mapError .other⟩

/-! ### Files -/

/-- `_execute_filesystem_inspect`, after the path is checked. -/
def inspected (path : String) (t : List Char) : Look (Json × Option Raised) := do
  let result ←
    if ← h.exists? t then do
      let stat ← h.stat t
      let isDir ← h.isDir t
      let isFile ← h.isFile t
      pure (Json.obj [("path", .str path), ("is_dir", .bool isDir), ("is_file", .bool isFile),
        ("size_bytes", .int stat.size), ("mode", .str (oct stat.mode)),
        ("mtime", .float stat.mtime)])
    else pure (Json.obj [("error", .str "Path does not exist"), ("path", .str path)])
  pure (result, if h.late 1 then some (.timeout "Deadline exceeded") else none)

/-- An entry of a listing. -/
def entry (t : List Char) (n : PathName) : Look Json := do
  let full := AbsPath.join t n.text
  let isDir ← h.isDir full
  let isFile ← h.isFile full
  let size ← if ← h.isFile full then do
      let stat ← h.stat full
      pure (Json.int stat.size)
    else pure .null
  pure (.obj [("name", .str (String.ofList n.text)), ("is_dir", .bool isDir),
    ("is_file", .bool isFile), ("size_bytes", size)])

/-- The entries of a listing. -/
def entries (t : List Char) : List PathName → Look (List Json)
  | [] => pure []
  | n :: ns => do
    let e ← h.entry t n
    let es ← entries t ns
    pure (e :: es)

/-- `_execute_filesystem_list`, after the path is checked. -/
def listed (path : String) (t : List Char) : Look (Json × Option Raised) := do
  if ← h.isDir t then
    let names ← h.listdir t
    let entries ← h.entries t names
    pure (.obj [("path", .str path), ("entries", .arr entries)], none)
  else
    pure (.obj [("error", .str "Directory does not exist"), ("path", .str path),
      ("entries", .arr [])], none)

/-- The chunks that a file is read in. -/
def chunks (content : List UInt8) : ℕ := (content.length + (1024 * 1024 - 1)) / (1024 * 1024)

/-- `_execute_filesystem_hash`, after the path is checked.  The deadline is checked after each
chunk. -/
def hashed (path : String) (t : List Char) : Look (Json × Option Raised) := do
  if ← h.exists? t then
    if ← h.isDir t then
      pure (.obj [("error", .str "Cannot hash a directory"), ("path", .str path)], none)
    else
      let content ← h.readFile t
      if (List.range (chunks content)).any fun i => h.late (i + 1) then
        raise (.timeout "Deadline exceeded")
      else
        pure (.obj [("path", .str path), ("algorithm", .str "sha256"),
          ("sha256", .str (h.sha256 content))], none)
  else pure (.obj [("error", .str "Path does not exist"), ("path", .str path)], none)

/-- `_execute_artifact_metadata`, after the path is checked. -/
def described (path : String) (t : List Char) : Look (Json × Option Raised) := do
  if ← h.exists? t then
    let stat ← h.stat t
    let isFile ← h.isFile t
    let isDir ← h.isDir t
    let sha256 ← if ← h.isFile t then do
        let content ← h.readFile t
        pure (Json.str (h.sha256 content))
      else pure .null
    pure (.obj [("path", .str path), ("is_file", .bool isFile), ("is_dir", .bool isDir),
      ("size_bytes", .int stat.size), ("mtime", .float stat.mtime), ("sha256", sha256)], none)
  else pure (.obj [("error", .str "Artifact does not exist"), ("path", .str path)], none)

/-! ### Repositories -/

/-- The directory that makes a directory a repository. -/
def gitDir (t : List Char) : List Char := AbsPath.join t ".git".toList

/-- `_execute_repository_inspect`, after the path is checked. -/
def inspectedRepository (path : String) (t : List Char) : Look (Json × Option Raised) := do
  if ← h.exists? t then
    let isGit ← h.exists? (gitDir t)
    let head ← if isGit then do
        let result ← h.runGit t ["rev-parse", "HEAD"] []
        pure (Json.str (String.ofList (Text.strip result.stdout.toList)))
      else pure .null
    pure (.obj [("path", .str path), ("is_git_repository", .bool isGit), ("head", head)], none)
  else
    pure (.obj [("error", .str "Repository path does not exist"), ("path", .str path)], none)

/-- `_execute_repository_search`, in a repository. -/
def searched (task : Task) (t : List Char) : Look (Json × Option Raised) :=
  match inputText? task "pattern" with
  | none => raise (.other "Missing search 'pattern'")
  | some pattern => do
    let result ← h.runGit t ["grep", "-n", "-I", "--"] [pattern]
    pure (.obj [("repository", .str (String.ofList t)), ("pattern", .str pattern),
      ("matches", .ofStrings (sorted ((outputLines result.stdout).filter (· ≠ "")))),
      ("exit_code", .int result.returncode)], none)

/-- `_execute_repository_read`, in a repository. -/
def summarised (t : List Char) : Look (Json × Option Raised) := do
  let head ← h.runGit t ["rev-parse", "HEAD"] []
  let branch ← h.runGit t ["branch", "--show-current"] []
  let status ← h.runGit t ["status", "--porcelain=v1"] []
  let lines := outputLines status.stdout
  pure (.obj [("repository", .str (String.ofList t)),
    ("head", .str (String.ofList (Text.strip head.stdout.toList))),
    ("branch", .str (String.ofList (Text.strip branch.stdout.toList))),
    ("dirty", .bool (lines ≠ [])), ("status_entries", .ofStrings (sorted lines))], none)

/-- The arguments of `git diff` that a head gives: none for a false value; anything that is no text
raises a `TypeError`. -/
def headArguments (head : Json) : Except Raised (List String) :=
  match head with
  | .str s => .ok (if s = "" then [] else [s])
  | j => if j.truthy then .error (.other ("expected str, bytes or os.PathLike object, not " ++
      j.typeName)) else .ok []

/-- `_execute_repository_diff`, in a repository. -/
def compared (task : Task) (t : List Char) : Look (Json × Option Raised) :=
  match inputText? task "base" with
  | none => raise (.other "Missing diff 'base'")
  | some base => do
    let head := (Json.lookup "head" task.input).getD .null
    let args ← Traced.ofExcept (headArguments head)
    let result ← h.runGit t ["diff", "--no-ext-diff", "--unified=3"] (base :: args)
    pure (.obj [("repository", .str (String.ofList t)), ("base", .str base),
      ("head", if head.truthy then head else .str ""), ("exit_code", .int result.returncode),
      ("diff", .str result.stdout)], none)

/-- What is done in a directory, if it is a repository. -/
def inRepository (body : List Char → Look (Json × Option Raised)) (_path : String)
    (t : List Char) : Look (Json × Option Raised) := do
  if ← h.exists? (gitDir t) then body t else raise (.other "Path is not a Git repository")

/-! ### The handlers -/

/-- `_execute_filesystem_inspect`. -/
def filesystemInspect (task : Task) : Look (Json × Option Raised) :=
  h.checked task "Missing 'path' in input" h.inspected

/-- `_execute_filesystem_list`. -/
def filesystemList (task : Task) : Look (Json × Option Raised) :=
  h.checked task "Missing 'path' in input" h.listed

/-- `_execute_filesystem_hash`. -/
def filesystemHash (task : Task) : Look (Json × Option Raised) :=
  h.checked task "Missing 'path' in input" h.hashed

/-- `_execute_repository_inspect`. -/
def repositoryInspect (task : Task) : Look (Json × Option Raised) :=
  h.checked task "Missing 'path' in input" h.inspectedRepository

/-- `_execute_repository_search`. -/
def repositorySearch (task : Task) : Look (Json × Option Raised) :=
  h.checked task "Missing repository 'path' in input" (h.inRepository (h.searched task))

/-- `_execute_repository_read`. -/
def repositoryRead (task : Task) : Look (Json × Option Raised) :=
  h.checked task "Missing repository 'path' in input" (h.inRepository h.summarised)

/-- `_execute_repository_diff`. -/
def repositoryDiff (task : Task) : Look (Json × Option Raised) :=
  h.checked task "Missing repository 'path' in input" (h.inRepository (h.compared task))

/-- `_execute_artifact_metadata`. -/
def artifactMetadata (task : Task) : Look (Json × Option Raised) :=
  h.checked task "Missing artifact 'path' in input" h.described

/-- `supported`. -/
def supported : List (String × (Task → Look (Json × Option Raised))) :=
  [("filesystem.inspect", h.filesystemInspect), ("filesystem.list", h.filesystemList),
    ("filesystem.hash", h.filesystemHash), ("repository.inspect", h.repositoryInspect),
    ("repository.search", h.repositorySearch), ("repository.read", h.repositoryRead),
    ("repository.diff", h.repositoryDiff), ("artifact.metadata", h.artifactMetadata)]

theorem map_fst_supported : h.supported.map Prod.fst = supportedCapabilities := rfl

/-- The handler of a task. -/
def handler (task : Task) : Look (Json × Option Raised) :=
  match h.supported.lookup task.capabilityId with
  | some handler => handler task
  | none => pure (.null, none)

/-! ### What a handler looks at -/

/-- The `git` commands that a capability needs in a repository, up to the first one that cannot be
run. -/
def commands (task : Task) (t : List Char) : List (List String × List String) :=
  let all : List (List String × List String) :=
    match task.capabilityId with
    | "repository.search" =>
      (inputText? task "pattern").toList.map fun p => (["grep", "-n", "-I", "--"], [p])
    | "repository.diff" =>
      match inputText? task "base", headArguments ((Json.lookup "head" task.input).getD .null) with
      | some base, .ok args => [(["diff", "--no-ext-diff", "--unified=3"], base :: args)]
      | _, _ => []
    | "repository.read" =>
      (["rev-parse", "HEAD"], []) ::
        if (h.git t ["rev-parse", "HEAD"]).isOk then
          (["branch", "--show-current"], []) ::
            if (h.git t ["branch", "--show-current"]).isOk then [(["status", "--porcelain=v1"], [])]
            else []
        else []
    | _ => [(["rev-parse", "HEAD"], [])]
  all.filter fun c => !hasNull c.2

/-- What a capability looks at in a repository. -/
def repositoryLooks (task : Task) (t : List Char) : List Event :=
  .metadata (gitDir t) ::
    if (h.node? (gitDir t)).isSome then (h.commands task t).map fun c => .git t c.1 c.2 else []

/-- What a capability looks at, for a path that is not refused. -/
def looks (task : Task) (t : List Char) : List Event :=
  match task.capabilityId with
  | "filesystem.inspect" => [.metadata t]
  | "filesystem.list" => .metadata t ::
      match h.node? t with
      | some (.dir _ entries) =>
        .names t :: entries.map fun e => .metadata (AbsPath.join t e.1.text)
      | _ => []
  | "filesystem.hash" => .metadata t ::
      match h.node? t with
      | none | some (.dir _ _) => []
      | _ => [.content t]
  | "artifact.metadata" => .metadata t ::
      match h.node? t with
      | some (.file _ _) => [.content t]
      | _ => []
  | "repository.inspect" => .metadata t ::
      if (h.node? t).isSome then h.repositoryLooks task t else []
  | _ => h.repositoryLooks task t

open Traced

variable {h} {P : Event → Prop} {task : Task} {t : List Char}

theorem emits_checked {α : Type} {missing : String} {body : String → List Char → Look α} :
    (h.checked task missing body).Emits P ↔
      h.late 0 = false ∧ ∃ path, inputText? task "path" = some path ∧
        refusal? h.cwd (abspath h.cwd path.toList) = none ∧
          (body path (abspath h.cwd path.toList)).Emits P := by
  unfold checked deadline enforcePath
  cases hlate : h.late 0 with
  | true => simp [emits_bind]
  | false =>
    cases inputText? task "path" with
    | none => simp [emits_bind]
    | some path =>
      cases hr : refusal? h.cwd (abspath h.cwd path.toList) with
      | some forbidden => simp [emits_bind, hr]
      | none => simp [emits_bind, hr]

@[simp] theorem emits_exists? : (h.exists? t).Emits P ↔ P (.metadata t) := emits_emit _ _

@[simp] theorem emits_isDir : (h.isDir t).Emits P ↔ P (.metadata t) := emits_emit _ _

@[simp] theorem emits_isFile : (h.isFile t).Emits P ↔ P (.metadata t) := emits_emit _ _

/-- One look, and what is made of it. -/
theorem emits_look {α : Type} {e : Event} {y : Look α} (hy : ¬ y.Emits P) :
    (emit e () >>= fun _ => y).Emits P ↔ P e := by
  rw [emits_bind, emits_emit]
  refine or_iff_left ?_
  rintro ⟨-, -, he⟩
  exact hy he

@[simp] theorem emits_stat : (h.stat t).Emits P ↔ P (.metadata t) := by
  refine emits_look ?_
  split <;> simp [notFound]

@[simp] theorem emits_listdir : (h.listdir t).Emits P ↔ P (.names t) := by
  refine emits_look ?_
  split <;> simp [notFound]

@[simp] theorem emits_readFile : (h.readFile t).Emits P ↔ P (.content t) := by
  refine emits_look ?_
  split <;> simp [notFound]

theorem emits_runGit {fixed given : List String} :
    (h.runGit t fixed given).Emits P ↔
      hasNull given = false ∧ P (.git t fixed given) := by
  unfold runGit
  cases hnull : hasNull given with
  | true => simp
  | false => simp [Traced.Emits]

theorem emits_inspected {path : String} (hc : task.capabilityId = "filesystem.inspect") :
    (h.inspected path t).Emits P ↔ ∃ e ∈ h.looks task t, P e := by
  simp only [inspected, looks, hc, emits_bind, emits_ite, emits_exists?, emits_stat,
    emits_isDir, emits_isFile, not_emits_pure, List.mem_singleton, exists_eq_left]
  tauto

/-- An entry is only looked at. -/
theorem emits_entry {n : PathName} :
    (h.entry t n).Emits P ↔ P (.metadata (AbsPath.join t n.text)) := by
  simp only [entry, emits_bind, emits_ite, emits_stat, emits_isDir, emits_isFile, not_emits_pure]
  tauto

/-- An entry raises nothing: only the size of a file is asked for. -/
theorem outcome_entry (n : PathName) : ∃ j, (h.entry t n).outcome = .ok j := by
  cases hn : h.node? (AbsPath.join t n.text) with
  | none => simp [entry, outcome_bind, isDir, isFile, hn, Except.bind]
  | some node =>
    cases node <;> simp [entry, outcome_bind, isDir, isFile, stat, hn, Except.bind]

theorem emits_entries {ns : List PathName} :
    (h.entries t ns).Emits P ↔ ∃ n ∈ ns, P (.metadata (AbsPath.join t n.text)) := by
  induction ns with
  | nil => simp [entries]
  | cons n ns ih =>
    obtain ⟨j, hj⟩ := h.outcome_entry (t := t) n
    simp [entries, emits_bind, emits_entry, ih, hj]

theorem emits_listed {path : String} (hc : task.capabilityId = "filesystem.list") :
    (h.listed path t).Emits P ↔ ∃ e ∈ h.looks task t, P e := by
  simp only [listed, looks, hc, emits_bind, emits_ite, emits_listdir, emits_entries,
    emits_isDir, not_emits_pure]
  cases hn : h.node? t with
  | none => simp [isDir, hn]
  | some node =>
    cases node with
    | file stat content => simp [isDir, hn]
    | link target => simp [isDir, hn]
    | dir stat es => simp [isDir, hn, listdir, outcome_bind, Except.bind]

theorem emits_hashed {path : String} (hc : task.capabilityId = "filesystem.hash") :
    (h.hashed path t).Emits P ↔ ∃ e ∈ h.looks task t, P e := by
  simp only [hashed, looks, hc, emits_bind, emits_ite, emits_exists?, emits_isDir, emits_readFile,
    not_emits_pure, not_emits_raise]
  cases hn : h.node? t with
  | none => simp [exists?, hn]
  | some node =>
    cases node with
    | file stat content => simp [exists?, isDir, hn]
    | link target => simp [exists?, isDir, hn]
    | dir stat es => simp [exists?, isDir, hn]

theorem emits_described {path : String} (hc : task.capabilityId = "artifact.metadata") :
    (h.described path t).Emits P ↔ ∃ e ∈ h.looks task t, P e := by
  simp only [described, looks, hc, emits_bind, emits_ite, emits_exists?, emits_stat,
    emits_isDir, emits_isFile, emits_readFile, not_emits_pure]
  cases hn : h.node? t with
  | none => simp [exists?, hn]
  | some node =>
    cases node with
    | file st content =>
      simp [exists?, stat, isFile, isDir, hn, outcome_bind, Except.bind]
    | link target => simp [exists?, stat, isFile, isDir, hn, outcome_bind, Except.bind, notFound]
    | dir st es => simp [exists?, stat, isFile, isDir, hn, outcome_bind, Except.bind]

theorem outcome_runGit {fixed given : List String} {c : Completed} :
    (h.runGit t fixed given).outcome = .ok c ↔
      hasNull given = false ∧ h.git t (fixed ++ given) = .ok c := by
  unfold runGit
  cases hnull : hasNull given with
  | true => simp
  | false => cases h.git t (fixed ++ given) <;> simp [Except.mapError]

theorem emits_inRepository {path : String} {body : List Char → Look (Json × Option Raised)}
    (hbody : (body t).Emits P ↔ ∃ c ∈ h.commands task t, P (.git t c.1 c.2)) :
    (h.inRepository body path t).Emits P ↔ ∃ e ∈ h.repositoryLooks task t, P e := by
  simp only [inRepository, repositoryLooks, emits_bind, emits_ite, emits_exists?, hbody,
    not_emits_raise]
  cases hn : h.node? (gitDir t) with
  | none => simp [exists?, hn]
  | some node => simp [exists?, hn]

theorem emits_searched (hc : task.capabilityId = "repository.search") :
    (h.searched task t).Emits P ↔ ∃ c ∈ h.commands task t, P (.git t c.1 c.2) := by
  simp only [searched, commands, hc]
  cases inputText? task "pattern" with
  | none => simp
  | some pattern => cases hnull : hasNull [pattern] <;> simp [emits_bind, emits_runGit, hnull]

theorem emits_compared (hc : task.capabilityId = "repository.diff") :
    (h.compared task t).Emits P ↔ ∃ c ∈ h.commands task t, P (.git t c.1 c.2) := by
  simp only [compared, commands, hc]
  cases inputText? task "base" with
  | none => simp
  | some base =>
    cases headArguments ((Json.lookup "head" task.input).getD .null) with
    | error r => simp [emits_bind]
    | ok args =>
      cases hnull : hasNull (base :: args) <;> simp [emits_bind, emits_runGit, hnull]

theorem emits_summarised (hc : task.capabilityId = "repository.read") :
    (h.summarised t).Emits P ↔ ∃ c ∈ h.commands task t, P (.git t c.1 c.2) := by
  have hnull : hasNull [] = false := rfl
  simp only [summarised, commands, hc, emits_bind, emits_runGit, outcome_runGit, hnull]
  cases hhead : h.git t ["rev-parse", "HEAD"] with
  | error e => simp [hhead, hnull, Except.isOk, Except.toBool]
  | ok head =>
    cases hbranch : h.git t ["branch", "--show-current"] with
    | error e => simp [hhead, hbranch, hnull, Except.isOk, Except.toBool]
    | ok branch => simp [hhead, hbranch, hnull, Except.isOk, Except.toBool]

theorem emits_inspectedRepository {path : String} (hc : task.capabilityId = "repository.inspect") :
    (h.inspectedRepository path t).Emits P ↔ ∃ e ∈ h.looks task t, P e := by
  have hnull : hasNull [] = false := rfl
  simp only [inspectedRepository, looks, repositoryLooks, commands, hc, emits_bind, emits_ite,
    emits_exists?, emits_runGit]
  cases hn : h.node? t with
  | none => simp [exists?, hn]
  | some node =>
    cases hgit : h.node? (gitDir t) with
    | none => simp [exists?, hn, hgit]
    | some node' => simp [exists?, hn, hgit, hnull]

/-! ### Who is denied access -/

@[simp] theorem not_denies_exists? : ¬ (h.exists? t).Raises Denies := not_raises_emit _ _

@[simp] theorem not_denies_isDir : ¬ (h.isDir t).Raises Denies := not_raises_emit _ _

@[simp] theorem not_denies_isFile : ¬ (h.isFile t).Raises Denies := not_raises_emit _ _

/-- One look, and what is made of it. -/
theorem not_denies_look {α : Type} {e : Event} {y : Look α} (hy : ¬ y.Raises Denies) :
    ¬ (emit e () >>= fun _ => y).Raises Denies := by
  rw [raises_bind]
  rintro (he | ⟨-, -, he⟩)
  · exact not_raises_emit _ _ he
  · exact hy he

@[simp] theorem not_denies_stat : ¬ (h.stat t).Raises Denies := by
  refine not_denies_look ?_
  split <;> simp [notFound, Denies]

@[simp] theorem not_denies_listdir : ¬ (h.listdir t).Raises Denies := by
  refine not_denies_look ?_
  split <;> simp [notFound, Denies]

@[simp] theorem not_denies_readFile : ¬ (h.readFile t).Raises Denies := by
  refine not_denies_look ?_
  split <;> simp [notFound, Denies]

@[simp] theorem not_denies_runGit {fixed given : List String} :
    ¬ (h.runGit t fixed given).Raises Denies := by
  unfold runGit
  split_ifs
  · simp [Denies]
  · rintro ⟨r, hr, m, rfl⟩
    cases hgit : h.git t (fixed ++ given) <;> simp [hgit, Except.mapError] at hr

@[simp] theorem not_denies_entries {ns : List PathName} : ¬ (h.entries t ns).Raises Denies := by
  induction ns with
  | nil => simp [entries]
  | cons n ns ih => simp [entries, entry, raises_bind, raises_ite, ih]

@[simp] theorem not_denies_headArguments {head : Json} :
    ¬ (ofExcept (headArguments head) : Look (List String)).Raises Denies := by
  rintro ⟨r, hr, m, rfl⟩
  rw [outcome_ofExcept] at hr
  unfold headArguments at hr
  split at hr
  · exact nomatch hr
  · split_ifs at hr
    simp at hr

/-! ### What a capability does -/

/-- A handler denies access after its result is stored. -/
def DeniesLater (found : Json × Option Raised) : Prop := ∃ r, found.2 = some r ∧ Denies r

/-- What is done for a capability, once the path is checked, looks at what the capability looks at,
and denies nobody access. -/
structure Behaves (h : Host) (task : Task)
    (body : String → List Char → Look (Json × Option Raised)) : Prop where
  emits : ∀ (P : Event → Prop) path t, (body path t).Emits P ↔ ∃ e ∈ h.looks task t, P e
  denies : ∀ path t, ¬ (body path t).Raises Denies
  returns : ∀ path t, ¬ (body path t).Returns DeniesLater

theorem behaves_inspected (hc : task.capabilityId = "filesystem.inspect") :
    h.Behaves task h.inspected where
  emits _ _ _ := emits_inspected hc
  denies _ _ := by simp [inspected, raises_bind, raises_ite]
  returns _ _ := by
    cases hlate : h.late 1 <;> simp [inspected, returns_bind, hlate, DeniesLater, Denies]

theorem behaves_listed (hc : task.capabilityId = "filesystem.list") :
    h.Behaves task h.listed where
  emits _ _ _ := emits_listed hc
  denies _ _ := by simp [listed, raises_bind, raises_ite]
  returns _ _ := by simp [listed, returns_bind, returns_ite, DeniesLater]

theorem behaves_hashed (hc : task.capabilityId = "filesystem.hash") :
    h.Behaves task h.hashed where
  emits _ _ _ := emits_hashed hc
  denies _ _ := by simp [hashed, raises_bind, raises_ite, Denies]
  returns _ _ := by simp [hashed, returns_bind, returns_ite, DeniesLater]

theorem behaves_inspectedRepository (hc : task.capabilityId = "repository.inspect") :
    h.Behaves task h.inspectedRepository where
  emits _ _ _ := emits_inspectedRepository hc
  denies _ _ := by simp [inspectedRepository, raises_bind, raises_ite]
  returns _ _ := by simp [inspectedRepository, returns_bind, returns_ite, DeniesLater]

theorem behaves_described (hc : task.capabilityId = "artifact.metadata") :
    h.Behaves task h.described where
  emits _ _ _ := emits_described hc
  denies _ _ := by simp [described, raises_bind, raises_ite]
  returns _ _ := by simp [described, returns_bind, returns_ite, DeniesLater]

/-- What is done in a repository, after it is found to be one. -/
theorem behaves_inRepository {body : List Char → Look (Json × Option Raised)}
    (hc : ∀ t, h.looks task t = h.repositoryLooks task t)
    (hemits : ∀ (P : Event → Prop) t,
      (body t).Emits P ↔ ∃ c ∈ h.commands task t, P (.git t c.1 c.2))
    (hdenies : ∀ t, ¬ (body t).Raises Denies) (hreturns : ∀ t, ¬ (body t).Returns DeniesLater) :
    h.Behaves task (h.inRepository body) where
  emits P _ t := hc t ▸ emits_inRepository (hemits P t)
  denies _ t := by simp [inRepository, raises_bind, raises_ite, hdenies t, Denies]
  returns _ t := by simp [inRepository, returns_bind, returns_ite, hreturns t]

theorem behaves_searched (hc : task.capabilityId = "repository.search") :
    h.Behaves task (h.inRepository (h.searched task)) := by
  refine behaves_inRepository (fun t => by simp [looks, hc]) (fun _ _ => emits_searched hc) ?_ ?_
  · intro t
    unfold searched
    cases inputText? task "pattern" <;> simp [raises_bind, Denies]
  · intro t
    unfold searched
    cases inputText? task "pattern" <;> simp [returns_bind, DeniesLater]

theorem behaves_summarised (hc : task.capabilityId = "repository.read") :
    h.Behaves task (h.inRepository h.summarised) := by
  refine behaves_inRepository (fun t => by simp [looks, hc]) (fun _ _ => emits_summarised hc) ?_ ?_
  · intro t
    simp [summarised, raises_bind]
  · intro t
    simp [summarised, returns_bind, DeniesLater]

theorem behaves_compared (hc : task.capabilityId = "repository.diff") :
    h.Behaves task (h.inRepository (h.compared task)) := by
  refine behaves_inRepository (fun t => by simp [looks, hc]) (fun _ _ => emits_compared hc) ?_ ?_
  · intro t
    unfold compared
    cases inputText? task "base" <;> simp [raises_bind, Denies]
  · intro t
    unfold compared
    cases inputText? task "base" <;> simp [returns_bind, DeniesLater]

/-- A handler checks the path, and does what its capability does. -/
theorem handler_eq (hs : task.capabilityId ∈ supportedCapabilities) :
    ∃ missing body, h.handler task = h.checked task missing body ∧ h.Behaves task body := by
  simp only [supportedCapabilities, List.mem_cons, List.not_mem_nil, or_false] at hs
  rcases hs with hc | hc | hc | hc | hc | hc | hc | hc <;> simp only [handler, supported, hc]
  · exact ⟨_, _, rfl, behaves_inspected hc⟩
  · exact ⟨_, _, rfl, behaves_listed hc⟩
  · exact ⟨_, _, rfl, behaves_hashed hc⟩
  · exact ⟨_, _, rfl, behaves_inspectedRepository hc⟩
  · exact ⟨_, _, rfl, behaves_searched hc⟩
  · exact ⟨_, _, rfl, behaves_summarised hc⟩
  · exact ⟨_, _, rfl, behaves_compared hc⟩
  · exact ⟨_, _, rfl, behaves_described hc⟩

/-- A capability that is not supported has no handler. -/
theorem handler_unsupported (hs : task.capabilityId ∉ supportedCapabilities) :
    h.handler task = pure (.null, none) := by
  have hnone : h.supported.lookup task.capabilityId = none := by
    rw [List.lookup_eq_none_iff]
    intro p hp
    have hmem : p.1 ∈ h.supported.map Prod.fst := List.mem_map_of_mem hp
    rw [map_fst_supported] at hmem
    simpa using fun heq : task.capabilityId = p.1 => hs (heq ▸ hmem)
  rw [handler, hnone]

/-! ### What a handler does -/

/-- **What the trace of a handler has in it**: what its capability looks at, if the deadline is not
past and there is a path that is not refused. -/
theorem emits_handler_iff (hs : task.capabilityId ∈ supportedCapabilities) :
    (h.handler task).Emits P ↔
      h.late 0 = false ∧ ∃ path, inputText? task "path" = some path ∧
        refusal? h.cwd (abspath h.cwd path.toList) = none ∧
          ∃ e ∈ h.looks task (abspath h.cwd path.toList), P e := by
  obtain ⟨missing, body, heq, hbody⟩ := h.handler_eq hs
  simp only [heq, emits_checked, hbody.emits]

/-- What a handler raises after the path is checked denies nobody access. -/
theorem denies_checked {missing : String} {body : String → List Char → Look (Json × Option Raised)}
    (hbody : ∀ path t, ¬ (body path t).Raises Denies) {m : String} :
    (h.checked task missing body).outcome = .error (.security m) ↔
      h.late 0 = false ∧ ∃ path, inputText? task "path" = some path ∧
        ∃ f, refusal? h.cwd (abspath h.cwd path.toList) = some f ∧ m = refusalMessage f := by
  unfold checked deadline enforcePath
  cases hlate : h.late 0 with
  | true => simp [outcome_bind, Except.bind]
  | false =>
    cases inputText? task "path" with
    | none => simp [outcome_bind, Except.bind]
    | some path =>
      cases hr : refusal? h.cwd (abspath h.cwd path.toList) with
      | some f => simp [outcome_bind, Except.bind, hr, eq_comm]
      | none =>
        refine iff_of_false (fun hm => ?_) (by simp [hr])
        simp only [hr, outcome_bind, outcome_pure, Except.bind, Bool.false_eq_true, if_false] at hm
        exact hbody path _ ⟨_, hm, m, rfl⟩

/-- **Who is denied access**: a handler that is not late denies it exactly for a path that is
refused by its spelling. -/
theorem outcome_handler_security (hs : task.capabilityId ∈ supportedCapabilities) {m : String} :
    (h.handler task).outcome = .error (.security m) ↔
      h.late 0 = false ∧ ∃ path, inputText? task "path" = some path ∧
        ∃ f, refusal? h.cwd (abspath h.cwd path.toList) = some f ∧ m = refusalMessage f := by
  obtain ⟨missing, body, heq, hbody⟩ := h.handler_eq hs
  rw [heq, denies_checked hbody.denies]

theorem returns_checked {α : Type} {R : α → Prop} {missing : String}
    {body : String → List Char → Look α} (hbody : ∀ path t, ¬ (body path t).Returns R) :
    ¬ (h.checked task missing body).Returns R := by
  unfold checked
  rw [returns_bind]
  rintro ⟨-, -, hr⟩
  split at hr
  · exact not_returns_raise _ hr
  · obtain ⟨-, -, hr⟩ := returns_bind.1 hr
    exact hbody _ _ hr

/-- What a handler raises after its result is stored denies nobody access either. -/
theorem not_returns_denied : ¬ (h.handler task).Returns DeniesLater := by
  by_cases hs : task.capabilityId ∈ supportedCapabilities
  · obtain ⟨missing, body, heq, hbody⟩ := h.handler_eq hs
    rw [heq]
    exact returns_checked hbody.returns
  · rw [handler_unsupported hs]
    simp [DeniesLater]

/-- What a call of the executor takes from its host. -/
def handling (h : Host) (task : Task) (a : Handling) : Handling :=
  { a with handler := (h.handler task).outcome }

end Host

end Execution

end AnnyRuntime
