import AnnyRuntime.Execution.Output
import AnnyRuntime.Json.Access
import AnnyRuntime.Json.Indent
import AnnyRuntime.Json.Number
import AnnyRuntime.Lib.Text
import Mathlib.Algebra.Order.BigOperators.Group.List

/-!
# The evidence of a deterministic execution

`_finalize_workspace` writes the report of an execution, what was observed of it and how to
reproduce it into the workspace, records the hashes, and only then compares the size of the
workspace with its limit.  An execution that is over that limit ends with a status that none of the
files has.

* `reports_finalize_iff` : the evidence is that of the final status exactly when the workspace is
  within its limit, or the execution had exceeded a limit before.
* `consistent_iff` : what that means for `execute`, whatever the context and the workspace.

A call that writes nothing leaves the evidence of an earlier one as it is.
-/

namespace AnnyRuntime

namespace Execution

/-! ### Files -/

/-- The files below a directory, by their paths in it. -/
abbrev Tree := Dict (List String) (List UInt8)

namespace Tree

/-- `get_workspace_size`. -/
def size (t : Tree) : ℕ := (t.values.map List.length).sum

/-- What a reader of a JSON file finds. -/
def readJson (t : Tree) (path : List String) : Option Json :=
  (t.get? path).bind fun b => (Text.ofBytes b).bind Json.loads

/-- What a reader of a JSON file finds under a key. -/
def field (t : Tree) (path : List String) (key : String) : Option Json :=
  (t.readJson path).bind fun j => (j.get key).toOption

end Tree

/-- The file that `json.dump(j, handle, indent=2, sort_keys=True)` writes. -/
def jsonFile (j : Json) : List UInt8 := Text.bytes (Json.dumpsIndent 0 (Json.sortKeys j))

/-- The report of an execution. -/
def resultPath : List String := ["result", "result.json"]

/-- What was observed of it. -/
def observabilityPath : List String := ["logs", "observability.json"]

/-- How to reproduce it. -/
def reproducibilityPath : List String := ["metadata", "reproducibility.json"]

/-- All of its evidence. -/
def evidencePath : List String := ["evidence", "evidence.json"]

/-! ### Finalising -/

/-- The hash function, and the arithmetic of floats. -/
structure Hashing where
  sha256 : List Char → String
  arith : FloatArith

/-- `_hash_dict`. -/
def Hashing.hashDict (m : Hashing) (j : Json) : String := m.sha256 (Json.dumps (Json.sortKeys j))

/-- The state of an execution with what finalising records. -/
structure RunContext extends TaskExecutionContext where
  /-- The times, as texts. -/
  (startedAt completedAt : Option String := none)
  durationMs : Option ℤ := none
  inputHash : Option String := none
  /-- The path of its evidence in the workspace. -/
  evidenceRef : Option (List String) := none
  deriving DecidableEq

/-- The members of `result.json`. -/
def resultMembers (c : TaskExecutionContext) : List (String × Json) :=
  [("status", .str c.status.value),
    ("failure_reason", .ofOptString (c.failureReason.map FailureReason.value)),
    ("error_message", .ofOptString c.errorMessage), ("data", c.result.getD .null)]

/-- The content of `result.json`. -/
def resultData (c : TaskExecutionContext) : Json := .obj (resultMembers c)

/-- The exit code of an execution. -/
def exitCode (s : ExecutionStatus) : ℤ := if s = .succeeded then 0 else 1

/-- The members of `observability.json`. -/
def observabilityMembers (task : Task) (c : RunContext) (workspaceSize resultSize : ℕ) :
    List (String × Json) :=
  [("execution_started", .ofOptString c.startedAt),
    ("execution_completed", .ofOptString c.completedAt),
    ("duration_ms", (c.durationMs.map Json.int).getD .null),
    ("exit_code", .int (exitCode c.status)),
    ("workspace_size", .int workspaceSize), ("result_size", .int resultSize),
    ("capability_id", .str task.capabilityId),
    ("events", .arr [.str "execution_started", .str ("capability_invoked: " ++ task.capabilityId),
      .str "execution_completed"])]

/-- The workspace with the report in it. -/
def withResult (c : TaskExecutionContext) (t : Tree) : Tree :=
  t.set resultPath (jsonFile (resultData c))

/-- The content of `observability.json`. -/
def observability (task : Task) (c : RunContext) (t : Tree) : Json :=
  .obj (observabilityMembers task c (withResult c.toTaskExecutionContext t).size
    (jsonFile (resultData c.toTaskExecutionContext)).length)

/-- The members of `reproducibility.json`. -/
def reproducibilityMembers (m : Hashing) (task : Task) (c : RunContext) (t : Tree) :
    List (String × Json) :=
  [("task_id", .str task.taskId), ("execution_id", .str c.executionId),
    ("runtime_version", .str "1.1.0"), ("tool_version", .str "1.1.0"),
    ("capability_id", .str task.capabilityId),
    ("input_hash", .str (m.hashDict (.obj task.input))),
    ("output_hash", .str (m.hashDict (resultData c.toTaskExecutionContext))),
    ("evidence_hash", .str (m.hashDict (observability task c t)))]

/-- The content of `reproducibility.json`. -/
def reproducibility (m : Hashing) (task : Task) (c : RunContext) (t : Tree) : Json :=
  .obj (reproducibilityMembers m task c t)

/-- The members of `evidence.json`. -/
def evidenceMembers (m : Hashing) (task : Task) (c : RunContext) (t : Tree) :
    List (String × Json) :=
  [("observability", observability task c t), ("reproducibility", reproducibility m task c t)]

/-- The workspace with all the evidence in it. -/
def writeEvidence (m : Hashing) (task : Task) (c : RunContext) (t : Tree) : Tree :=
  (((withResult c.toTaskExecutionContext t).set observabilityPath
    (jsonFile (observability task c t))).set reproducibilityPath
    (jsonFile (reproducibility m task c t))).set evidencePath
    (jsonFile (.obj (evidenceMembers m task c t)))

/-- The context with the hashes in it. -/
def recordHashes (m : Hashing) (task : Task) (c : RunContext) : RunContext :=
  { c with
    inputHash := some (m.hashDict (.obj task.input))
    resultHash := some (m.hashDict (resultData c.toTaskExecutionContext))
    evidenceRef := some evidencePath }

/-- `workspace_size > max_ws`, for the workspace with the report in it. -/
def sizeCheck (A : FloatArith) (c : TaskExecutionContext) (t : Tree) : Except Raised Bool :=
  exceeds A (withResult c t).size
    ((Json.lookup "max_workspace_size" c.resourceLimits).getD (.int (10 * 1024 * 1024)))

/-- The workspace with the report in it is above its limit. -/
def Oversized (A : FloatArith) (c : TaskExecutionContext) (t : Tree) : Prop :=
  sizeCheck A c t = .ok true

/-- The execution has exceeded the limit on its workspace. -/
def RunContext.overLimit (c : RunContext) : RunContext :=
  { c with
    toTaskExecutionContext := c.toTaskExecutionContext.fail .limitExceeded .limitExceeded
      (some "Workspace size limit exceeded") }

/-- What a call leaves: the context, the workspace if there is one, and what it raises. -/
structure Ended where
  context : RunContext
  workspace : Option Tree
  raised : Option Raised := none
  deriving DecidableEq

/-- `_finalize_workspace`, of a workspace that may not exist. -/
def finalize (m : Hashing) (task : Task) (c : RunContext) : Option Tree → Ended
  | none => ⟨c, none, none⟩
  | some t =>
    let recorded := recordHashes m task c
    let written := some (writeEvidence m task c t)
    match sizeCheck m.arith c.toTaskExecutionContext t with
    | .error r => ⟨recorded, written, some r⟩
    | .ok true => ⟨recorded.overLimit, written, none⟩
    | .ok false => ⟨recorded, written, none⟩

/-- What a call of the executor takes from the outside. -/
structure Handling where
  /-- What the handler finds, and what it raises after that is stored. -/
  handler : Except Raised (Json × Option Raised)
  /-- The times. -/
  (startedAt completedAt : String)
  durationMs : ℤ
  deriving DecidableEq

/-- The context is refused. -/
def RunContext.refuse (c : RunContext) (message : String) : RunContext :=
  { c with
    toTaskExecutionContext := c.toTaskExecutionContext.fail .failed .invalidTask (some message) }

/-- The context after the handler. -/
def RunContext.handledBy (c : RunContext) (a : Handling) : RunContext :=
  { c with
    toTaskExecutionContext := c.toTaskExecutionContext.running.handled a.handler
    startedAt := some a.startedAt
    completedAt := some a.completedAt
    durationMs := some a.durationMs }

/-- `execute`. -/
def DeterministicExecutor.execute (m : Hashing) (task : Task) (a : Handling) (c : RunContext)
    (ws : Option Tree) : Ended :=
  if c.status ≠ .queued then ⟨c.refuse "Execution context is not QUEUED", ws, none⟩
  else if task.capabilityId ∉ supportedCapabilities then
    ⟨{ c.refuse ("Unsupported deterministic capability: " ++ task.capabilityId) with
        startedAt := some a.startedAt }, ws, none⟩
  else finalize m task (c.handledBy a) ws

/-! ### Reading back -/

theorem readJson_jsonFile {t : Tree} {path : List String} {j : Json}
    (h : t.get? path = some (jsonFile j)) : t.readJson path = some (Json.sortKeys j) := by
  rw [Tree.readJson, h, Option.bind_some, jsonFile, Text.ofBytes_bytes, Option.bind_some,
    Json.loads_dumpsIndent]

/-- A reader finds the members of the object that was written. -/
theorem field_jsonFile {t : Tree} {path : List String} {ms : List (String × Json)} {k : String}
    {v : Json} (h : t.get? path = some (jsonFile (.obj ms))) (hnodup : (ms.map Prod.fst).Nodup)
    (hv : (k, v) ∈ ms) : t.field path k = some (Json.sortKeys v) := by
  rw [Tree.field, readJson_jsonFile h, Option.bind_some, Json.sortKeys, Json.get,
    Json.lookup_insertionSort hnodup hv]
  rfl

@[simp] theorem hashDict_sortKeys (m : Hashing) (j : Json) :
    m.hashDict (Json.sortKeys j) = m.hashDict j := by
  rw [Hashing.hashDict, Json.sortKeys_sortKeys, Hashing.hashDict]

@[simp] theorem sortKeys_ofOptString (s : Option String) :
    Json.sortKeys (.ofOptString s) = .ofOptString s := by
  cases s <;> rfl

section

variable {m : Hashing} {task : Task} {c : RunContext} {t : Tree}

theorem get?_writeEvidence_result :
    (writeEvidence m task c t).get? resultPath =
      some (jsonFile (.obj (resultMembers c.toTaskExecutionContext))) := by
  rw [writeEvidence, Dict.get?_set_ne (by decide), Dict.get?_set_ne (by decide),
    Dict.get?_set_ne (by decide), withResult, Dict.get?_set_self, resultData]

theorem get?_writeEvidence_observability :
    (writeEvidence m task c t).get? observabilityPath =
      some (jsonFile (observability task c t)) := by
  rw [writeEvidence, Dict.get?_set_ne (by decide), Dict.get?_set_ne (by decide),
    Dict.get?_set_self]

theorem get?_writeEvidence_reproducibility :
    (writeEvidence m task c t).get? reproducibilityPath =
      some (jsonFile (reproducibility m task c t)) := by
  rw [writeEvidence, Dict.get?_set_ne (by decide), Dict.get?_set_self]

theorem get?_writeEvidence_evidence :
    (writeEvidence m task c t).get? evidencePath =
      some (jsonFile (.obj (evidenceMembers m task c t))) := by
  rw [writeEvidence, Dict.get?_set_self]

/-- Finalising leaves every other file alone. -/
theorem get?_writeEvidence_of_ne {path : List String} (h : path ≠ resultPath)
    (ho : path ≠ observabilityPath) (hr : path ≠ reproducibilityPath) (he : path ≠ evidencePath) :
    (writeEvidence m task c t).get? path = t.get? path := by
  rw [writeEvidence, Dict.get?_set_ne he, Dict.get?_set_ne hr, Dict.get?_set_ne ho, withResult,
    Dict.get?_set_ne h]

end

/-! ### Evidence of the final status -/

/-- **The evidence in a workspace is that of an execution**: the report has its status and the
reason of its failure, the exit code is that of its status, the hashes are those of the files, and
the context refers to all of it. -/
structure Reports (m : Hashing) (c : RunContext) (t : Tree) : Prop where
  status : t.field resultPath "status" = some (.str c.status.value)
  failureReason : t.field resultPath "failure_reason" =
    some (.ofOptString (c.failureReason.map FailureReason.value))
  exitCode : t.field observabilityPath "exit_code" = some (.int (exitCode c.status))
  resultHash : ∃ data, t.readJson resultPath = some data ∧
    c.resultHash = some (m.hashDict data) ∧
    t.field reproducibilityPath "output_hash" = some (.str (m.hashDict data))
  evidenceHash : ∃ data, t.readJson observabilityPath = some data ∧
    t.field reproducibilityPath "evidence_hash" = some (.str (m.hashDict data))
  evidence : ∃ path, c.evidenceRef = some path ∧
    t.field path "observability" = t.readJson observabilityPath ∧
    t.field path "reproducibility" = t.readJson reproducibilityPath

/-- The evidence is that of an execution, or there is none. -/
def Consistent (m : Hashing) (c : RunContext) (ws : Option Tree) : Prop :=
  (∃ t, ws = some t ∧ Reports m c t) ∨
    (c.resultHash = none ∧
      ∀ t, ws = some t → t.get? resultPath = none ∧ t.get? reproducibilityPath = none)

theorem ExecutionStatus.value_injective : Function.Injective ExecutionStatus.value := by
  intro s s' h
  have hs := ExecutionStatus.ofValue?_value s
  rw [h, ExecutionStatus.ofValue?_value] at hs
  exact (Option.some.inj hs).symm

theorem FailureReason.value_injective : Function.Injective FailureReason.value := by
  intro r r' h
  cases r <;> cases r' <;> first | rfl | exact absurd h (by decide)

theorem ofOptString_injective : Function.Injective Json.ofOptString := by
  intro s s' h
  cases s <;> cases s' <;> simp_all [Json.ofOptString]

section

variable {m : Hashing} {task : Task} {c c' : RunContext} {t : Tree}

theorem nodup_resultMembers (c : TaskExecutionContext) :
    ((resultMembers c).map Prod.fst).Nodup := by
  simp only [resultMembers, List.map_cons, List.map_nil]
  decide

theorem nodup_observabilityMembers (task : Task) (c : RunContext) (n k : ℕ) :
    ((observabilityMembers task c n k).map Prod.fst).Nodup := by
  simp only [observabilityMembers, List.map_cons, List.map_nil]
  decide

theorem nodup_reproducibilityMembers (m : Hashing) (task : Task) (c : RunContext) (t : Tree) :
    ((reproducibilityMembers m task c t).map Prod.fst).Nodup := by
  simp only [reproducibilityMembers, List.map_cons, List.map_nil]
  decide

theorem nodup_evidenceMembers (m : Hashing) (task : Task) (c : RunContext) (t : Tree) :
    ((evidenceMembers m task c t).map Prod.fst).Nodup := by
  simp only [evidenceMembers, List.map_cons, List.map_nil]
  decide

/-- What a reader of the report finds. -/
theorem field_result {k : String} {v : Json} (h : (k, v) ∈ resultMembers c.toTaskExecutionContext) :
    (writeEvidence m task c t).field resultPath k = some (Json.sortKeys v) :=
  field_jsonFile get?_writeEvidence_result (nodup_resultMembers _) h

/-- The texts that a reader of how to reproduce it finds. -/
theorem field_reproducibility {k s : String}
    (h : (k, .str s) ∈ reproducibilityMembers m task c t) :
    (writeEvidence m task c t).field reproducibilityPath k = some (.str s) :=
  field_jsonFile get?_writeEvidence_reproducibility (nodup_reproducibilityMembers m task c t) h

theorem field_exitCode :
    (writeEvidence m task c t).field observabilityPath "exit_code" =
      some (.int (exitCode c.status)) := by
  have hmem (n k : ℕ) :
      ("exit_code", .int (exitCode c.status)) ∈ observabilityMembers task c n k := by
    simp [observabilityMembers]
  exact field_jsonFile get?_writeEvidence_observability (nodup_observabilityMembers _ _ _ _)
    (hmem _ _)

theorem field_evidence {k : String} {v : Json} (h : (k, v) ∈ evidenceMembers m task c t) :
    (writeEvidence m task c t).field evidencePath k = some (Json.sortKeys v) :=
  field_jsonFile get?_writeEvidence_evidence (nodup_evidenceMembers m task c t) h

/-- What was written for a context is the evidence of the contexts of its status that have the
hashes. -/
theorem reports_writeEvidence_iff
    (hhash : c'.resultHash = some (m.hashDict (resultData c.toTaskExecutionContext)))
    (href : c'.evidenceRef = some evidencePath) :
    Reports m c' (writeEvidence m task c t) ↔
      c'.status = c.status ∧ c'.failureReason = c.failureReason := by
  have hstatus : (writeEvidence m task c t).field resultPath "status" =
      some (.str c.status.value) := by
    rw [field_result (v := .str c.status.value) (by simp [resultMembers]), Json.sortKeys]
    all_goals simp
  have hreason : (writeEvidence m task c t).field resultPath "failure_reason" =
      some (.ofOptString (c.failureReason.map FailureReason.value)) := by
    rw [field_result (v := .ofOptString (c.failureReason.map FailureReason.value))
      (by simp [resultMembers]), sortKeys_ofOptString]
  constructor
  · intro h
    have hs := h.status
    have hr := h.failureReason
    rw [hstatus, Option.some.injEq, Json.str.injEq] at hs
    rw [hreason, Option.some.injEq] at hr
    exact ⟨(ExecutionStatus.value_injective hs).symm,
      (Option.map_injective FailureReason.value_injective (ofOptString_injective hr)).symm⟩
  · rintro ⟨hs, hr⟩
    have hdata : (writeEvidence m task c t).readJson resultPath =
        some (Json.sortKeys (resultData c.toTaskExecutionContext)) :=
      readJson_jsonFile get?_writeEvidence_result
    have hobs : (writeEvidence m task c t).readJson observabilityPath =
        some (Json.sortKeys (observability task c t)) :=
      readJson_jsonFile get?_writeEvidence_observability
    refine ⟨by rw [hs, hstatus], by rw [hr, hreason], by rw [hs, field_exitCode],
      ⟨_, hdata, ?_, ?_⟩, ⟨_, hobs, ?_⟩, ⟨evidencePath, href, ?_, ?_⟩⟩
    · rw [hhash, hashDict_sortKeys]
    · rw [hashDict_sortKeys]
      refine field_reproducibility ?_
      simp [reproducibilityMembers]
    · rw [hashDict_sortKeys]
      refine field_reproducibility ?_
      simp [reproducibilityMembers]
    · rw [hobs]
      exact field_evidence (by simp [evidenceMembers])
    · rw [readJson_jsonFile get?_writeEvidence_reproducibility]
      exact field_evidence (by simp [evidenceMembers])

/-- Finalising a workspace writes all the evidence, records the hashes, and overrides the status of
an execution whose workspace is too large. -/
theorem finalize_some (m : Hashing) (task : Task) (c : RunContext) (t : Tree) :
    (finalize m task c (some t)).workspace = some (writeEvidence m task c t) ∧
      (Oversized m.arith c.toTaskExecutionContext t ∧
          (finalize m task c (some t)).context = (recordHashes m task c).overLimit ∨
        ¬ Oversized m.arith c.toTaskExecutionContext t ∧
          (finalize m task c (some t)).context = recordHashes m task c) := by
  unfold finalize Oversized
  dsimp only
  cases hsize : sizeCheck m.arith c.toTaskExecutionContext t with
  | error r => exact ⟨rfl, .inr ⟨by simp, rfl⟩⟩
  | ok b =>
    cases b with
    | true => exact ⟨rfl, .inl ⟨rfl, rfl⟩⟩
    | false => exact ⟨rfl, .inr ⟨by simp, rfl⟩⟩

theorem resultHash_finalize : (finalize m task c (some t)).context.resultHash ≠ none := by
  rcases (finalize_some m task c t).2 with ⟨-, h⟩ | ⟨-, h⟩
  · rw [h]
    exact Option.some_ne_none _
  · rw [h]
    exact Option.some_ne_none _

/-- **Finalising.**  The evidence is that of the status it leaves exactly when the workspace is
within its limit or a limit was exceeded before. -/
theorem reports_finalize_iff :
    Reports m (finalize m task c (some t)).context (writeEvidence m task c t) ↔
      ¬ Oversized m.arith c.toTaskExecutionContext t ∨
        (c.status = .limitExceeded ∧ c.failureReason = some .limitExceeded) := by
  rcases (finalize_some m task c t).2 with ⟨hover, h⟩ | ⟨hfits, h⟩
  · rw [h, reports_writeEvidence_iff rfl rfl]
    constructor
    · rintro ⟨hs, hr⟩
      exact .inr ⟨hs.symm, hr.symm⟩
    · rintro (hfits | ⟨hs, hr⟩)
      · exact absurd hover hfits
      · exact ⟨hs.symm, hr.symm⟩
  · rw [h, reports_writeEvidence_iff rfl rfl]
    exact iff_of_true ⟨rfl, rfl⟩ (.inl hfits)

/-! ### The executor -/

theorem execute_supported {a : Handling} {ws : Option Tree} (hc : c.status = .queued)
    (hs : task.capabilityId ∈ supportedCapabilities) :
    DeterministicExecutor.execute m task a c ws = finalize m task (c.handledBy a) ws := by
  rw [DeterministicExecutor.execute, if_neg (not_not.2 hc), if_neg (not_not.2 hs)]

/-- An exception of a limit. -/
def Raised.isLimits : Raised → Bool
  | .limits _ => true
  | _ => false

/-- A handler exceeds a limit: it raises so, or its result is too large. -/
def LimitHit (c : TaskExecutionContext) : Except Raised (Json × Option Raised) → Prop
  | .error r => r.isLimits = true
  | .ok (result, raised) =>
    c.maxOutputSize < (Json.dumps result).length ∨ ∃ r, raised = some r ∧ r.isLimits = true

theorem caught_limit_iff (d : TaskExecutionContext) (r : Raised) :
    ((d.caught r).status = .limitExceeded ∧ (d.caught r).failureReason = some .limitExceeded) ↔
      r.isLimits = true := by
  cases r <;> simp [TaskExecutionContext.caught, TaskExecutionContext.fail, Raised.isLimits]

/-- The handler exceeds a limit exactly when the execution ends that way. -/
theorem handled_limit_iff (d : TaskExecutionContext) (h : Except Raised (Json × Option Raised)) :
    ((d.handled h).status = .limitExceeded ∧
        (d.handled h).failureReason = some .limitExceeded) ↔ LimitHit d h := by
  rcases h with r | ⟨result, raised⟩
  · exact caught_limit_iff d r
  · rw [LimitHit, TaskExecutionContext.handled]
    by_cases hlarge : d.maxOutputSize < (Json.dumps result).length
    · rw [TaskExecutionContext.limitOutput, if_pos hlarge]
      exact iff_of_true ⟨rfl, rfl⟩ (.inl hlarge)
    · rw [TaskExecutionContext.limitOutput, if_neg hlarge]
      cases raised with
      | none => simp [hlarge]
      | some r => simpa [hlarge] using caught_limit_iff { d with result := some result } r

theorem resultHash_handled (d : TaskExecutionContext)
    (h : Except Raised (Json × Option Raised)) : (d.handled h).resultHash = d.resultHash := by
  have hcaught (d : TaskExecutionContext) (r : Raised) :
      (d.caught r).resultHash = d.resultHash := by
    cases r <;> rfl
  rcases h with r | ⟨result, raised⟩
  · exact hcaught d r
  · rw [TaskExecutionContext.handled, TaskExecutionContext.limitOutput]
    split_ifs
    · exact hcaught d _
    · cases raised with
      | none => rfl
      | some r => exact hcaught _ r

/-- Contexts of one status, with the same hash and reference, have the same evidence. -/
theorem Reports.congr (h : Reports m c t) (hs : c'.status = c.status)
    (hr : c'.failureReason = c.failureReason) (hh : c'.resultHash = c.resultHash)
    (he : c'.evidenceRef = c.evidenceRef) : Reports m c' t where
  status := hs ▸ h.status
  failureReason := hr ▸ h.failureReason
  exitCode := hs ▸ h.exitCode
  resultHash := hh ▸ h.resultHash
  evidenceHash := h.evidenceHash
  evidence := he ▸ h.evidence

theorem consistent_congr {ws : Option Tree} (hs : c'.status = c.status)
    (hr : c'.failureReason = c.failureReason) (hh : c'.resultHash = c.resultHash)
    (he : c'.evidenceRef = c.evidenceRef) : Consistent m c' ws ↔ Consistent m c ws := by
  constructor
  · rintro (⟨t, ht, h⟩ | ⟨h, hfiles⟩)
    · exact .inl ⟨t, ht, h.congr hs.symm hr.symm hh.symm he.symm⟩
    · exact .inr ⟨hh ▸ h, hfiles⟩
  · rintro (⟨t, ht, h⟩ | ⟨h, hfiles⟩)
    · exact .inl ⟨t, ht, h.congr hs hr hh he⟩
    · exact .inr ⟨hh ▸ h, hfiles⟩

open DeterministicExecutor in
/-- A call that finalises its workspace. -/
theorem consistent_finalized_iff {a : Handling} (hc : c.status = .queued)
    (hs : task.capabilityId ∈ supportedCapabilities) :
    Consistent m (execute m task a c (some t)).context (execute m task a c (some t)).workspace ↔
      ¬ Oversized m.arith (c.handledBy a).toTaskExecutionContext t ∨
        LimitHit c.toTaskExecutionContext a.handler := by
  have hlimit := handled_limit_iff c.toTaskExecutionContext.running a.handler
  rw [execute_supported hc hs, (finalize_some m task (c.handledBy a) t).1]
  constructor
  · rintro (⟨t', ht', h⟩ | ⟨h, -⟩)
    · obtain rfl := Option.some.inj ht'
      exact (reports_finalize_iff.1 h).imp_right hlimit.1
    · exact absurd h resultHash_finalize
  · intro h
    exact .inl ⟨_, rfl, reports_finalize_iff.2 (h.imp_right hlimit.2)⟩

/-- **When the evidence matches the outcome.**  A call that runs its handler in a workspace must not
find it too large, unless a limit was exceeded already; without a workspace there must be no hash of
an earlier call.  A call that is refused leaves the evidence that is there, which must be none, or
that of a refused execution. -/
def EvidenceHolds (m : Hashing) (task : Task) (a : Handling) (c : RunContext) (ws : Option Tree) :
    Prop :=
  if c.status = .queued ∧ task.capabilityId ∈ supportedCapabilities then
    match ws with
    | some t =>
      ¬ Oversized m.arith (c.handledBy a).toTaskExecutionContext t ∨
        LimitHit c.toTaskExecutionContext a.handler
    | none => c.resultHash = none
  else Consistent m (c.refuse "") ws

open DeterministicExecutor in
/-- **Deterministic evidence matches the outcome** exactly under that condition. -/
theorem consistent_iff (m : Hashing) (task : Task) (a : Handling) (c : RunContext)
    (ws : Option Tree) :
    Consistent m (execute m task a c ws).context (execute m task a c ws).workspace ↔
      EvidenceHolds m task a c ws := by
  unfold EvidenceHolds
  by_cases hc : c.status = .queued
  · by_cases hsupported : task.capabilityId ∈ supportedCapabilities
    · rw [if_pos ⟨hc, hsupported⟩]
      cases ws with
      | none =>
        have hhash : (c.handledBy a).resultHash = c.resultHash :=
          resultHash_handled _ a.handler
        rw [execute_supported hc hsupported]
        simp [Consistent, finalize, hhash]
      | some t => exact consistent_finalized_iff hc hsupported
    · rw [if_neg fun h => hsupported h.2, execute, if_neg (not_not.2 hc), if_pos hsupported]
      exact consistent_congr rfl rfl rfl rfl
  · rw [if_neg fun h => hc h.1, execute, if_pos hc]
    exact consistent_congr rfl rfl rfl rfl

end

/-- What finalising answers the worker. -/
def workspaceAnswer (m : Hashing) (c : TaskExecutionContext) (ws : Option Tree) :
    Except Raised (Option (String × Bool)) :=
  match ws with
  | none => .ok none
  | some t => (sizeCheck m.arith c t).map fun large => some (m.hashDict (resultData c), large)

/-- The worker sees the context that finalising leaves, unless it raises. -/
theorem finalize_toTaskExecutionContext {m : Hashing} {task : Task} {c : RunContext}
    {ws : Option Tree} (h : (finalize m task c ws).raised = none) :
    c.toTaskExecutionContext.finalizeWorkspace (workspaceAnswer m c.toTaskExecutionContext ws) =
      ((finalize m task c ws).context.toTaskExecutionContext, none) := by
  cases ws with
  | none => rfl
  | some t =>
    unfold finalize at h ⊢
    unfold workspaceAnswer
    dsimp only at h ⊢
    cases hsize : sizeCheck m.arith c.toTaskExecutionContext t with
    | error r =>
      rw [hsize] at h
      exact absurd h (Option.some_ne_none r)
    | ok b => cases b <;> rfl

/-! ### A listing in a workspace that is too large -/

/-- A workspace is at least as large as each of its files. -/
theorem Tree.length_le_size {t : Tree} {path : List String} {b : List UInt8}
    (h : t.get? path = some b) : b.length ≤ t.size :=
  List.le_sum_of_mem (List.mem_map_of_mem (Dict.mem_values_of_get? h))

/-- A hash function, for contexts whose limits are integers. -/
def sampleHashing : Hashing := ⟨String.ofList, .overflowing⟩

/-- A workspace with a file of more than 10 MiB. -/
def fullWorkspace : Tree :=
  Dict.empty.set ["work", "blob"] (List.replicate (10 * 1024 * 1024 + 1) 0)

/-- The task of listing a directory. -/
def listingTask : Task :=
  { sampleTask "filesystem.list" with input := [("path", .str "/srv/empty")] }

/-- The listing of an empty directory. -/
def emptyListing : Handling where
  handler := .ok (.obj [("path", .str "/srv/empty"), ("entries", .arr [])], none)
  startedAt := "12:00:00"
  completedAt := "12:00:01"
  durationMs := 1000

/-- An execution of a listing. -/
def listingContext : RunContext :=
  { toTaskExecutionContext := sampleContext "filesystem.list" }

theorem oversized_fullWorkspace :
    Oversized sampleHashing.arith (listingContext.handledBy emptyListing).toTaskExecutionContext
      fullWorkspace := by
  have hfile : (withResult (listingContext.handledBy emptyListing).toTaskExecutionContext
      fullWorkspace).get? ["work", "blob"] =
        some (List.replicate (10 * 1024 * 1024 + 1) 0) := by
    rw [withResult, Dict.get?_set_ne (by decide), fullWorkspace, Dict.get?_set_self]
  have hsize := Tree.length_le_size hfile
  rw [List.length_replicate] at hsize
  have hlimit : (Json.lookup "max_workspace_size"
      (listingContext.handledBy emptyListing).resourceLimits).getD (.int (10 * 1024 * 1024)) =
        .int (10 * 1024 * 1024) := rfl
  rw [Oversized, sizeCheck, hlimit, exceeds_int, Except.ok.injEq, decide_eq_true_eq]
  omega

open DeterministicExecutor in
/-- **The report says `SUCCEEDED`, the execution exceeded a limit.** -/
theorem not_consistent_fullWorkspace :
    ¬ Consistent sampleHashing
      (execute sampleHashing listingTask emptyListing listingContext (some fullWorkspace)).context
      (execute sampleHashing listingTask emptyListing listingContext
        (some fullWorkspace)).workspace := by
  rw [consistent_finalized_iff rfl (by decide)]
  rintro (hfits | hlimit | ⟨r, hr, -⟩)
  · exact hfits oversized_fullWorkspace
  · exact absurd hlimit (by decide)
  · exact Option.some_ne_none r hr.symm

end Execution

end AnnyRuntime
