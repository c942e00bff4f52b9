import AnnyRuntime.Lib.Guard
import AnnyRuntime.Lib.PyString
import AnnyRuntime.Lib.ShellScripts
import AnnyRuntime.Security.Pipeline

/-!
# The classification of shell commands

`ShellExecutor.execute` classifies a command by its first word, or the first two for git, asks for
the capability of its class, and hands the whole text to bash.  What comes after the first words is
not looked at: another command, an option that has effects, a redirection.

How bash parses a text is a parameter, and so is what the programs take for the value of an option.

* `execute_eq_some_iff` : what is handed to bash, and when.
* `sound_iff` : **exactly when a command that needs no more than `FILE_READ` only reads**: when bash
  can reach nothing else in it.
* `not_sound_rm` : a read-only command may be followed by another one.
-/

namespace AnnyRuntime

namespace ShellExecutor

open Shell
open Pipeline (ExecutionContext)

/-- The text of a literal. -/
def text (t : String) : PyStr := PyStr.ofChars t.toList

/-! ### Classes -/

/-- `ShellEffectClass`. -/
inductive ShellEffectClass where
  | readonly
  | workspaceMutating
  | processControl
  | remoteMutation
  | unknown
  deriving DecidableEq

def readonlyCmds : List PyStr :=
  ["ls", "cat", "grep", "find", "head", "tail", "wc", "diff"].map text

def mutatingCmds : List PyStr := ["mkdir", "cp", "mv", "rm", "touch", "chmod", "sed"].map text

def processCmds : List PyStr := ["kill", "pkill", "killall"].map text

/-- The commands of git that are read-only. -/
def readonlyGit : List PyStr := ["status", "log", "diff"].map text

/-- Those that change a remote repository. -/
def remoteGit : List PyStr := ["push", "remote"].map text

/-- Python's white space. -/
def isSpace : PyChar → Bool
  | .char c => Text.isSpace c
  | .surrogate _ => false

/-- `s.split()`. -/
def split (s : PyStr) : List PyStr := (s.splitOnP isSpace).filter (· ≠ [])

/-- `sub in s`. -/
def contains (s sub : PyStr) : Bool := s.tails.any sub.isPrefixOf

/-- `classify_command`. -/
def classifyCommand (command : PyStr) : ShellEffectClass :=
  let words := split command
  let cmdBase := words.head?.getD []
  let sub := words[1]?
  if cmdBase ∈ readonlyCmds then .readonly
  else if cmdBase ∈ mutatingCmds then .workspaceMutating
  else if cmdBase ∈ processCmds then .processControl
  else if cmdBase = text "git" ∧ sub.any (· ∈ readonlyGit) = true then .readonly
  else if cmdBase = text "git" ∧ sub.any (· ∈ remoteGit) = true then .remoteMutation
  else if cmdBase = text "echo" ∧ contains command (text ">") = true then .workspaceMutating
  else if contains command (text "curl -X POST") = true ∨
      contains command (text "wget --post") = true then .remoteMutation
  else .unknown

/-! ### The executor -/

/-- What `execute` raises. -/
inductive Raised where
  | permissionError (message : String)
  | valueError (message : String)
  deriving DecidableEq

/-- What is handed to the process manager. -/
structure Start where
  command : List PyStr
  workspacePath : List Char
  timeout : ℤ
  env : Option (List (String × String))
  deriving DecidableEq

/-- The record of a process: what is read of it. -/
structure ProcessRecord where
  processId : String
  exitCode : Option ℤ
  stdout : List Char
  stderr : List Char

/-- `ShellResult`. -/
structure ShellResult where
  exitCode : ℤ
  stdout : List Char
  stderr : List Char
  durationMs : ℤ

/-- The managers of the executor, which accept its calls. -/
structure Managers where
  /-- The local path of a workspace, if there is one. -/
  status : String → Option (List Char)
  start : ExecutionContext → Start → Option ProcessRecord
  wait : ExecutionContext → String → ℤ → Option ProcessRecord

/-- The capability that a class needs. -/
def reqCap : ShellEffectClass → Option String
  | .readonly => some "FILE_READ"
  | .workspaceMutating => some "FILE_WRITE"
  | .processControl => some "PROCESS_CONTROL"
  | .remoteMutation => some "REMOTE_REPOSITORY_MUTATION"
  | .unknown => none

/-- The checks of `execute`, and what it starts. -/
def prepare (m : Managers) (c : ExecutionContext) (command : PyStr) (timeout : ℤ)
    (env : Option (List (String × String))) : Except Raised Start := do
  match reqCap (classifyCommand command) with
  | none => .error (.permissionError "Effect UNKNOWN: Action denied by default")
  | some cap =>
    Guard.ensure (c.hasCapability cap = true)
      (.permissionError ("Action requires capability " ++ cap))
    Guard.ensure (c.hasWorkspace = true) (.valueError "Context must have a workspace_id")
    match c.workspaceId.bind m.status with
    | none => .error (.valueError "Workspace not found")
    | some localPath => .ok ⟨[text "bash", text "-c", command], localPath, timeout, env⟩

/-- The result of a process that was started, and waited for when there is a record. -/
def result (m : Managers) (c : ExecutionContext) (s : Start) (durationMs : ℤ) : ShellResult :=
  match (m.start c s).bind fun r => m.wait c r.processId s.timeout with
  | none => ⟨-1, [], [], durationMs⟩
  | some r => ⟨r.exitCode.getD (-1), r.stdout, r.stderr, durationMs⟩

/-- `execute`, with what is started. -/
def execute (m : Managers) (c : ExecutionContext) (command : PyStr) (timeout : ℤ)
    (env : Option (List (String × String))) (durationMs : ℤ) :
    Except Raised ShellResult × Option Start :=
  match prepare m c command timeout env with
  | .error e => (.error e, none)
  | .ok s => (.ok (result m c s durationMs), some s)

/-! ### What only reads -/

/-- The commands of bash itself, which are no programs. -/
def builtins : List PyStr :=
  [".", ":", "[", "alias", "bg", "bind", "break", "builtin", "caller", "cd", "command", "compgen",
    "complete", "compopt", "continue", "declare", "dirs", "disown", "echo", "enable", "eval",
    "exec", "exit", "export", "false", "fc", "fg", "getopts", "hash", "help", "history", "jobs",
    "kill", "let", "local", "logout", "mapfile", "popd", "printf", "pushd", "pwd", "read", "readarray",
    "readonly", "return", "set", "shift", "shopt", "source", "suspend", "test", "times", "trap",
    "true", "type", "typeset", "ulimit", "umask", "unalias", "unset", "wait"].map text

/-- The commands that are programs. -/
def program : Set (List PyStr) := {w | ∃ name, w.head? = some name ∧ name ∉ builtins}

/-- A command has the name of a read-only one. -/
def named (words : List PyStr) : Bool :=
  words.head?.any fun name =>
    name ∈ readonlyCmds || (name = text "git" && words[1]?.any (· ∈ readonlyGit))

/-- The arguments that are not the value of the one before. -/
def places (takesValue : PyStr → Bool) : Bool → List PyStr → List PyStr
  | _, [] => []
  | true, _ :: as => places takesValue false as
  | false, a :: as => a :: places takesValue (takesValue a) as

/-- The options of `find` that have effects. -/
def findEffects : List PyStr :=
  ["-delete", "-exec", "-execdir", "-ok", "-okdir", "-fprint", "-fprint0", "-fprintf", "-fls"].map
    text

/-- The option of git that writes a file. -/
def isOutput (a : PyStr) : Bool := a = text "--output" || (text "--output=").isPrefixOf a

/-- A command has an option with an effect.  The arguments of git after a separator are paths. -/
def effectful (takesValue : PyStr → PyStr → Bool) : List PyStr → Bool
  | [] => false
  | name :: args =>
    if name = text "find" then (places (takesValue name) false args).any (· ∈ findEffects)
    else if name = text "git" then
      (places (takesValue (args.head?.getD [])) false
        ((args.drop 1).takeWhile (· ≠ text "--"))).any isOutput
    else false

/-- Nothing is changed. -/
def Harmless (takesValue : PyStr → PyStr → Bool) : Event PyStr → Prop
  | .run words => named words = true ∧ effectful takesValue words = false
  | .call _ => False
  | .output => False

/-- The context does not allow more than reading. -/
structure Reads (c : ExecutionContext) : Prop where
  write : c.hasCapability "FILE_WRITE" = false
  process : c.hasCapability "PROCESS_CONTROL" = false
  remote : c.hasCapability "REMOTE_REPOSITORY_MUTATION" = false

/-- The script of `bash -c`. -/
def bashScript (parse : PyStr → Script PyStr) : List PyStr → Script PyStr
  | [_, _, command] => parse command
  | _ => .done true

/-- What is handed to bash in a context for reading only reads. -/
def Sound (m : Managers) (parse : PyStr → Script PyStr) (functions : Functions PyStr)
    (takesValue : PyStr → PyStr → Bool) (c : ExecutionContext) (command : PyStr) (timeout : ℤ)
    (env : Option (List (String × String))) : Prop :=
  ∀ durationMs s, (execute m c command timeout env durationMs).2 = some s → Reads c →
    Fine program (Harmless takesValue) (bashScript parse s.command) functions

/-- The command is handed to bash in a context for reading. -/
structure Handed (m : Managers) (c : ExecutionContext) (command : PyStr) : Prop where
  readonly : classifyCommand command = .readonly
  capability : c.hasCapability "FILE_READ" = true
  reads : Reads c
  workspace : c.hasWorkspace = true ∧ (c.workspaceId.bind m.status).isSome

variable {m : Managers} {c : ExecutionContext} {command : PyStr} {timeout : ℤ}
  {env : Option (List (String × String))}

/-- **What is handed to bash**: the whole text, when its class is allowed. -/
theorem execute_eq_some_iff {durationMs : ℤ} {s : Start} :
    (execute m c command timeout env durationMs).2 = some s ↔
      ∃ cap localPath, reqCap (classifyCommand command) = some cap ∧ c.hasCapability cap = true ∧
        c.hasWorkspace = true ∧ c.workspaceId.bind m.status = some localPath ∧
          s = ⟨[text "bash", text "-c", command], localPath, timeout, env⟩ := by
  have hprepare : (execute m c command timeout env durationMs).2 = some s ↔
      prepare m c command timeout env = .ok s := by
    unfold execute
    cases prepare m c command timeout env <;> simp
  rw [hprepare, prepare]
  cases hcap : reqCap (classifyCommand command) with
  | none => simp
  | some cap =>
    simp only [Guard.seq_eq_ok, Guard.ensure_eq_ok, Option.some.injEq]
    cases hpath : c.workspaceId.bind m.status with
    | none => simp
    | some localPath =>
      constructor
      · rintro ⟨-, hhas, -, hworkspace, hs⟩
        exact ⟨cap, localPath, rfl, hhas, hworkspace, rfl, (Except.ok.inj hs).symm⟩
      · rintro ⟨cap', localPath', rfl, hhas, hworkspace, hpath', rfl⟩
        obtain rfl := Option.some.inj hpath'
        exact ⟨(), hhas, (), hworkspace, rfl⟩

/-- In a context for reading, only a command of the read-only class is handed to bash. -/
theorem handed_iff (timeout : ℤ) (env : Option (List (String × String))) (durationMs : ℤ) :
    (∃ s, (execute m c command timeout env durationMs).2 = some s) ∧ Reads c ↔
      Handed m c command := by
  simp only [execute_eq_some_iff]
  constructor
  · rintro ⟨⟨s, cap, localPath, hcap, hhas, hworkspace, hstatus, -⟩, hreads⟩
    have hno : ∀ {cap'}, c.hasCapability cap' = false → cap ≠ cap' := by
      rintro cap' hfalse rfl
      exact absurd (hhas.symm.trans hfalse) (by decide)
    cases hclass : classifyCommand command <;> rw [hclass] at hcap
    case readonly =>
      obtain rfl := Option.some.inj hcap
      exact ⟨hclass, hhas, hreads, hworkspace, by simp [hstatus]⟩
    case workspaceMutating => exact absurd (Option.some.inj hcap).symm (hno hreads.write)
    case processControl => exact absurd (Option.some.inj hcap).symm (hno hreads.process)
    case remoteMutation => exact absurd (Option.some.inj hcap).symm (hno hreads.remote)
    case unknown => exact absurd hcap (by simp [reqCap])
  · intro h
    obtain ⟨localPath, hstatus⟩ := Option.isSome_iff_exists.1 h.workspace.2
    have hcap : reqCap (classifyCommand command) = some "FILE_READ" := by
      rw [h.readonly]
      rfl
    exact ⟨⟨_, "FILE_READ", localPath, hcap, h.capability, h.workspace.1, hstatus, rfl⟩, h.reads⟩

/-- A read-only command is a program. -/
theorem mem_program_of_named {words : List PyStr} (h : named words = true) : words ∈ program := by
  cases words with
  | nil => exact absurd h (by simp [named])
  | cons name args =>
    refine ⟨name, rfl, ?_⟩
    have hall : ∀ name ∈ readonlyCmds ++ [text "git"], name ∉ builtins := by decide
    refine hall name ?_
    simp only [named, List.head?_cons, Option.any_some, Bool.or_eq_true, Bool.and_eq_true,
      decide_eq_true_eq] at h
    rcases h with h | ⟨rfl, -⟩
    · exact List.mem_append_left _ h
    · simp

theorem guarded (takesValue : PyStr → PyStr → Bool) : Guarded program (Harmless takesValue) where
  call _ h := h
  run _ h := mem_program_of_named h.1

section

variable {parse : PyStr → Script PyStr} {functions : Functions PyStr}
  {takesValue : PyStr → PyStr → Bool}

/-- Of what is handed to bash, every run has to do no harm. -/
theorem sound_iff_fine (hhanded : Handed m c command) :
    Sound m parse functions takesValue c command timeout env ↔
      Fine program (Harmless takesValue) (parse command) functions := by
  constructor
  · intro h
    obtain ⟨⟨s, hs⟩, hreads⟩ := (handed_iff timeout env 0).2 hhanded
    have hfine := h 0 s hs hreads
    obtain ⟨cap, localPath, -, -, -, -, rfl⟩ := execute_eq_some_iff.1 hs
    exact hfine
  · intro h durationMs s hs hreads
    obtain ⟨cap, localPath, -, -, -, -, rfl⟩ := execute_eq_some_iff.1 hs
    exact h

/-- In a text of lists and pipelines, no command may do anything but read. -/
theorem sound_listed_iff {commands : List (List PyStr)} (hhanded : Handed m c command)
    (hlisted : Listed (parse command) commands) :
    Sound m parse functions takesValue c command timeout env ↔
      ∀ w ∈ commands, functions.called w = none ∧ Harmless takesValue (.run w) := by
  rw [sound_iff_fine hhanded, fine_iff_ok (guarded takesValue), ok_iff_of_listed hlisted]

end

/-- **Exactly when a command that needs no more than `FILE_READ` only reads**: when it is not handed
to bash, or bash can reach nothing in it that does not. -/
theorem sound_iff (m : Managers) (parse : PyStr → Script PyStr) (functions : Functions PyStr)
    (takesValue : PyStr → PyStr → Bool) (c : ExecutionContext) (command : PyStr) (timeout : ℤ)
    (env : Option (List (String × String))) :
    Sound m parse functions takesValue c command timeout env ↔
      (Handed m c command → (parse command).Ok (Harmless takesValue) functions) := by
  constructor
  · intro h hhanded
    exact (fine_iff_ok (guarded takesValue)).1 ((sound_iff_fine hhanded).1 h)
  · intro h durationMs s hs hreads
    -- what is handed to bash in such a context is of the read-only class
    have hhanded : Handed m c command := (handed_iff timeout env durationMs).1 ⟨⟨s, hs⟩, hreads⟩
    have hfine := (fine_iff_ok (guarded takesValue)).2 (h hhanded)
    exact (sound_iff_fine hhanded).2 hfine durationMs s hs hreads

/-- A context that allows reading. -/
def reader : ExecutionContext where
  tenantId := "tenant"
  accountId := "account"
  projectId := "project"
  annyInstanceId := "anny"
  runtimeId := "runtime"
  sessionId := "session"
  actorId := "actor"
  operationId := "operation"
  executionId := "execution"
  generation := 1
  issuedAt := ⟨0, none⟩
  expiresAt := ⟨1, none⟩
  workspaceId := some "ws-1"
  capabilities := ["FILE_READ"]

/-- Managers with one workspace. -/
def managers : Managers where
  status id := if id = "ws-1" then some "/srv/ws".toList else none
  start _ _ := some ⟨"process", none, [], []⟩
  wait _ processId _ := some ⟨processId, some 0, [], []⟩

/-- What bash makes of `ls && rm -rf build`. -/
def listAndRemove : Script PyStr :=
  .andThen (.literal [text "ls"]) (.literal [text "rm", text "-rf", text "build"])

/-- A command that starts with a read-only one removes a directory. -/
theorem not_sound_rm :
    ¬ Sound managers (fun _ => listAndRemove) (fun _ => none) (fun _ _ => false) reader
      (text "ls && rm -rf build") 300 none := by
  intro h
  have hclass : classifyCommand (text "ls && rm -rf build") = .readonly := by decide
  have hreads : Reads reader := ⟨by decide, by decide, by decide⟩
  obtain ⟨⟨s, hs⟩, -⟩ := (handed_iff (m := managers) 300 none 0).2
    ⟨hclass, by decide, hreads, by decide, by decide⟩
  have hfine := h 0 s hs hreads
  obtain ⟨cap, localPath, -, -, -, -, rfl⟩ := execute_eq_some_iff.1 hs
  have hrun : Runs program listAndRemove (fun _ => none)
      ([.run [text "ls"]] ++ [.run [text "rm", text "-rf", text "build"]]) none :=
    .condNext (r := true) (.run (Set.mem_singleton _) rfl true) (.running (Set.mem_singleton _) rfl)
  have hrm := hfine _ _ hrun (.run [text "rm", text "-rf", text "build"]) (by simp)
  exact absurd hrm.1 (by decide)

end ShellExecutor

end AnnyRuntime
