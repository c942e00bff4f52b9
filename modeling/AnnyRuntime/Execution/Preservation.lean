import AnnyRuntime.Execution.Evidence

/-!
# Preserving the evidence

When an execution is over, `execute_sync` copies its evidence out of the workspace into a durable
directory, and destroys the workspace if the task says so.  It looks for `evidence.json` and
`reproducibility.json` at the root of the workspace; the executor writes them into `evidence/` and
`metadata/`.  So of the three files only `observability.json` is ever copied, and the context refers
to a file that the destruction removes.

`preserved_iff` says when the evidence survives: never when the workspace is destroyed, and
otherwise only where files of the same content happen to lie where the copies are looked for or put.

The durable directory and the workspace are two trees here; neither lies in the other.
-/

namespace AnnyRuntime

namespace Execution

/-! ### Running a worker in a workspace -/

/-- The context that a worker finalises the workspace for, if it does: that of a successful answer
of the gateway, or that of a deterministic handler. -/
def finalizing (w : World) (a : Handling) (worker : WorkerDefinition) (task : Task)
    (c : RunContext) : Option RunContext :=
  if w.late then none
  else if worker.executorType = "DETERMINISTIC" then
    if task.capabilityId ∈ externalCapabilities then
      match w.gateway with
      | some (.ok r) =>
        if r.succeeded then
          some { c with
            status := .succeeded
            result := some r.outputData
            resultHash := r.resultHash }
        else none
      | _ => none
    else if c.status = .queued ∧ task.capabilityId ∈ supportedCapabilities then
      some (c.handledBy a)
    else none
  else none

/-- `start_worker`, in a workspace that may not exist. -/
def startInWorkspace (m : Hashing) (w : World) (a : Handling) (worker : WorkerDefinition)
    (task : Task) (c : RunContext) (ws : Option Tree) : RunContext × Option Tree :=
  match finalizing w a worker task c with
  | none => ({ c with toTaskExecutionContext := endContext w worker task c.toTaskExecutionContext },
      ws)
  | some d =>
    let ended := finalize m task d ws
    match ended.raised with
    | none => (ended.context, ended.workspace)
    | some r =>
      ({ ended.context with
          toTaskExecutionContext := handle ended.context.toTaskExecutionContext r },
        ended.workspace)

/-! ### After the worker -/

/-- The files of an execution: its workspace, and the directory of its durable evidence. -/
structure EvidenceFiles where
  workspace : Option Tree
  durable : Tree
  deriving DecidableEq

/-- What is copied, and under which name. -/
def copies : List (List String × String) :=
  [(["evidence.json"], "evidence.json"), (["reproducibility.json"], "reproducibility.json"),
    (["logs", "observability.json"], "observability.json")]

/-- One file is copied, if it exists. -/
def copyFile (t : Tree) (durable : Tree) (copy : List String × String) : Tree :=
  match t.get? copy.1 with
  | some b => durable.set [copy.2] b
  | none => durable

/-- The evidence is copied, and the workspace is destroyed if the task says so. -/
def preserve (task : Task) (f : EvidenceFiles) : EvidenceFiles where
  workspace := if task.workspacePolicy = "destroy_on_complete" then none else f.workspace
  durable := f.workspace.elim f.durable fun t => copies.foldl (copyFile t) f.durable

/-- `execute_sync`, as far as files are concerned; an execution may be fenced off, with a
message. -/
def executeFiles (m : Hashing) (fencing : Option String) (w : World) (a : Handling)
    (worker : WorkerDefinition) (task : Task) (c : RunContext) (f : EvidenceFiles) :
    RunContext × EvidenceFiles :=
  match fencing with
  | some message =>
    ({ c with
        toTaskExecutionContext :=
          c.toTaskExecutionContext.fail .failed .authorizationDenied (some message) }, f)
  | none =>
    let started := startInWorkspace m w a worker task c f.workspace
    let f := { f with workspace := started.2 }
    (started.1, if started.1.status ∈ finalStatuses then preserve task f else f)

/-! ### What survives -/

/-- The evidence that the executor writes. -/
def evidenceFiles : List (List String) := [evidencePath, reproducibilityPath, observabilityPath]

/-- The name of a file in its directory. -/
def baseName (path : List String) : String := path.getLast?.getD ""

/-- What the executor writes into a file of the workspace; it is not run for an execution that is
fenced off. -/
def written (m : Hashing) (fencing : Option String) (w : World) (a : Handling)
    (worker : WorkerDefinition) (task : Task) (c : RunContext) (f : EvidenceFiles)
    (path : List String) : Option (List UInt8) :=
  if fencing.isSome then none
  else
    (finalizing w a worker task c).bind fun d =>
      f.workspace.bind fun t => (writeEvidence m task d t).get? path

/-- The context refers to a file of the workspace. -/
def Refers (c : RunContext) (ws : Option Tree) : Prop :=
  ∃ path, c.evidenceRef = some path ∧ ∃ t, ws = some t ∧ (t.get? path).isSome = true

/-- **Evidence survives the workspace.**  What the executor wrote is in the durable directory, and
the context refers to a file that exists. -/
structure Preserved (written : List String → Option (List UInt8)) (c : RunContext)
    (f : EvidenceFiles) : Prop where
  copied : ∀ path ∈ evidenceFiles, ∀ b, written path = some b →
    f.durable.get? [baseName path] = some b
  referenced : Refers c f.workspace

/-- A content is under a name where the copy is looked for, or where it is put and not
overwritten. -/
def LiesReady (t durable : Tree) (name : String) (b : List UInt8) : Prop :=
  (t.get? [name]).or (durable.get? [name]) = some b

/-- **When evidence survives.**  The workspace is kept; an executor that finalised it finds its
evidence at the root already, and one that did not has a reference to a file in it.  An execution
that is fenced off keeps its workspace in any case. -/
def Survives (m : Hashing) (fencing : Option String) (w : World) (a : Handling)
    (worker : WorkerDefinition) (task : Task) (c : RunContext) (f : EvidenceFiles) : Prop :=
  if fencing.isSome then Refers c f.workspace
  else
    task.workspacePolicy ≠ "destroy_on_complete" ∧
      match finalizing w a worker task c, f.workspace with
      | some d, some t =>
        LiesReady t f.durable "evidence.json" (jsonFile (.obj (evidenceMembers m task d t))) ∧
          LiesReady t f.durable "reproducibility.json" (jsonFile (reproducibility m task d t))
      | _, _ => Refers c f.workspace

variable {m : Hashing} {w : World} {a : Handling} {worker : WorkerDefinition} {task : Task}
  {c : RunContext} {f : EvidenceFiles}

theorem get?_copyFile (t durable : Tree) (copy : List String × String) (path : List String) :
    (copyFile t durable copy).get? path =
      if path = [copy.2] then (t.get? copy.1).or (durable.get? path) else durable.get? path := by
  unfold copyFile
  cases h : t.get? copy.1 with
  | none => simp
  | some b =>
    dsimp only
    rw [Dict.get?_set]
    simp

/-- What the durable directory has under the three names afterwards. -/
theorem get?_copies (t durable : Tree) :
    (copies.foldl (copyFile t) durable).get? ["evidence.json"] =
        (t.get? ["evidence.json"]).or (durable.get? ["evidence.json"]) ∧
      (copies.foldl (copyFile t) durable).get? ["reproducibility.json"] =
        (t.get? ["reproducibility.json"]).or (durable.get? ["reproducibility.json"]) ∧
      (copies.foldl (copyFile t) durable).get? ["observability.json"] =
        (t.get? observabilityPath).or (durable.get? ["observability.json"]) := by
  simp only [copies, List.foldl_cons, List.foldl_nil, get?_copyFile]
  exact ⟨rfl, rfl, rfl⟩

/-! ### Running -/

/-- What is finalised is over, and refers to what it referred to before. -/
theorem finalizing_eq_some {d : RunContext} (h : finalizing w a worker task c = some d) :
    d.status ∈ finalStatuses ∧ d.evidenceRef = c.evidenceRef := by
  unfold finalizing at h
  split_ifs at h with hlate hdet hext hsupported
  · split at h
    · split_ifs at h
      obtain rfl := Option.some.inj h
      exact ⟨succeeded_mem, rfl⟩
    · exact absurd h (by simp)
  · obtain rfl := Option.some.inj h
    exact ⟨status_handled _ _, rfl⟩

theorem startInWorkspace_of_none {ws : Option Tree} (h : finalizing w a worker task c = none) :
    startInWorkspace m w a worker task c ws =
      ({ c with toTaskExecutionContext := endContext w worker task c.toTaskExecutionContext },
        ws) := by
  rw [startInWorkspace, h]

/-- A worker that finalises a workspace leaves its evidence there, and a reference to it. -/
theorem startInWorkspace_of_some {d : RunContext} {t : Tree}
    (h : finalizing w a worker task c = some d) :
    (startInWorkspace m w a worker task c (some t)).1.evidenceRef = some evidencePath ∧
      (startInWorkspace m w a worker task c (some t)).2 = some (writeEvidence m task d t) := by
  obtain ⟨hws, hcontext⟩ := finalize_some m task d t
  have href : (finalize m task d (some t)).context.evidenceRef = some evidencePath := by
    rcases hcontext with ⟨-, hcontext⟩ | ⟨-, hcontext⟩
    · rw [hcontext]
      rfl
    · rw [hcontext]
      rfl
  rw [startInWorkspace, h]
  dsimp only
  cases (finalize m task d (some t)).raised with
  | none => exact ⟨href, hws⟩
  | some r => exact ⟨href, hws⟩

theorem startInWorkspace_without :
    (startInWorkspace m w a worker task c none).2 = none := by
  unfold startInWorkspace
  cases finalizing w a worker task c <;> rfl

/-- Finalising leaves a final status. -/
theorem status_finalize {d : RunContext} {ws : Option Tree} (h : d.status ∈ finalStatuses) :
    (finalize m task d ws).context.status ∈ finalStatuses := by
  cases ws with
  | none => exact h
  | some t =>
    rcases (finalize_some m task d t).2 with ⟨-, hcontext⟩ | ⟨-, hcontext⟩
    · rw [hcontext]
      exact limitExceeded_mem
    · rw [hcontext]
      exact h

/-- Every execution that is started reaches a final status. -/
theorem status_startInWorkspace {ws : Option Tree} :
    (startInWorkspace m w a worker task c ws).1.status ∈ finalStatuses := by
  cases h : finalizing w a worker task c with
  | none =>
    rw [startInWorkspace_of_none h]
    exact status_endContext w worker task _
  | some d =>
    rw [startInWorkspace, h]
    dsimp only
    cases (finalize m task d ws).raised with
    | none => exact status_finalize (finalizing_eq_some h).1
    | some r => exact status_handle _ r

theorem executeFiles_eq :
    executeFiles m none w a worker task c f =
      ((startInWorkspace m w a worker task c f.workspace).1,
        preserve task
          { f with workspace := (startInWorkspace m w a worker task c f.workspace).2 }) := by
  rw [executeFiles, if_pos status_startInWorkspace]

/-- The worker leaves the context that `start_worker` leaves, when its world answers as the
workspace does. -/
theorem startInWorkspace_toTaskExecutionContext {ws : Option Tree} (hhandler : w.handler = a.handler)
    (hws : ∀ d, finalizing w a worker task c = some d →
      w.workspace = workspaceAnswer m d.toTaskExecutionContext ws ∧
        (finalize m task d ws).raised = none) :
    (startInWorkspace m w a worker task c ws).1.toTaskExecutionContext =
      endContext w worker task c.toTaskExecutionContext := by
  cases h : finalizing w a worker task c with
  | none => rw [startInWorkspace_of_none h]
  | some d =>
    obtain ⟨hanswer, hraised⟩ := hws d h
    have hfinal := finalize_toTaskExecutionContext hraised
    rw [← hanswer] at hfinal
    have hrun : runWorker w worker task c.toTaskExecutionContext =
        d.toTaskExecutionContext.finalizeWorkspace w.workspace := by
      unfold finalizing at h
      split_ifs at h with hlate hdet hext hsupported
      · rw [runWorker, if_neg hlate, if_pos hdet, if_pos hext, executeExternal]
        split at h
        · split_ifs at h with hsucceeded
          obtain rfl := Option.some.inj h
          rename_i hgateway
          rw [hgateway]
          dsimp only
          rw [if_pos hsucceeded]
        · exact absurd h (by simp)
      · obtain rfl := Option.some.inj h
        rw [runWorker, if_neg hlate, if_pos hdet, if_neg hext,
          executeDeterministic_supported hsupported.1 hsupported.2, hhandler]
        rfl
    rw [startInWorkspace, h]
    dsimp only
    rw [hraised, endContext, hrun, hfinal]

/-! ### Surviving -/

theorem forall_evidenceFiles {P : List String → Prop} :
    (∀ path ∈ evidenceFiles, P path) ↔
      P evidencePath ∧ P reproducibilityPath ∧ P observabilityPath := by
  simp [evidenceFiles]

/-- The durable directory after a worker that finalised its workspace. -/
theorem durable_writeEvidence {d : RunContext} {t durable : Tree} :
    (∀ path ∈ evidenceFiles, ∀ b, (writeEvidence m task d t).get? path = some b →
        (copies.foldl (copyFile (writeEvidence m task d t)) durable).get? [baseName path] =
          some b) ↔
      LiesReady t durable "evidence.json" (jsonFile (.obj (evidenceMembers m task d t))) ∧
        LiesReady t durable "reproducibility.json" (jsonFile (reproducibility m task d t)) := by
  obtain ⟨hevidence, hreproducibility, hobservability⟩ :=
    get?_copies (writeEvidence m task d t) durable
  have hroot (name : String) :
      (writeEvidence m task d t).get? [name] = t.get? [name] :=
    get?_writeEvidence_of_ne (by simp [resultPath]) (by simp [observabilityPath])
      (by simp [reproducibilityPath]) (by simp [evidencePath])
  rw [hroot] at hevidence hreproducibility
  rw [get?_writeEvidence_observability] at hobservability
  rw [forall_evidenceFiles, get?_writeEvidence_evidence, get?_writeEvidence_reproducibility,
    get?_writeEvidence_observability]
  simp only [Option.some.injEq, forall_eq']
  rw [show baseName evidencePath = "evidence.json" from rfl,
    show baseName reproducibilityPath = "reproducibility.json" from rfl,
    show baseName observabilityPath = "observability.json" from rfl, hevidence, hreproducibility,
    hobservability]
  simp [LiesReady]

/-- A workspace that is destroyed takes what the context refers to with it. -/
theorem not_preserved_of_destroyed (hpolicy : task.workspacePolicy = "destroy_on_complete") :
    ¬ Preserved (written m none w a worker task c f) (executeFiles m none w a worker task c f).1
      (executeFiles m none w a worker task c f).2 := by
  rw [executeFiles_eq]
  rintro ⟨-, path, -, t, ht, -⟩
  simp [preserve, hpolicy] at ht

/-- A worker that writes nothing leaves the question whether the context refers to a file. -/
theorem preserved_of_unwritten {wrote : List String → Option (List UInt8)} {c' : RunContext}
    {f' : EvidenceFiles} (hwrote : ∀ path, wrote path = none)
    (href : c'.evidenceRef = c.evidenceRef) :
    Preserved wrote c' f' ↔ Refers c f'.workspace := by
  constructor
  · rintro ⟨-, path, hpath, hexists⟩
    exact ⟨path, href ▸ hpath, hexists⟩
  · rintro ⟨path, hpath, hexists⟩
    refine ⟨fun p _ b hb => ?_, path, href ▸ hpath, hexists⟩
    rw [hwrote] at hb
    exact nomatch hb

/-- A worker that finalises a workspace which is kept. -/
theorem preserved_of_finalizing {d : RunContext} {t durable : Tree}
    (hpolicy : task.workspacePolicy ≠ "destroy_on_complete")
    (h : finalizing w a worker task c = some d) :
    Preserved (written m none w a worker task c ⟨some t, durable⟩)
        (executeFiles m none w a worker task c ⟨some t, durable⟩).1
        (executeFiles m none w a worker task c ⟨some t, durable⟩).2 ↔
      LiesReady t durable "evidence.json" (jsonFile (.obj (evidenceMembers m task d t))) ∧
        LiesReady t durable "reproducibility.json" (jsonFile (reproducibility m task d t)) := by
  obtain ⟨href, hws⟩ := startInWorkspace_of_some (m := m) (t := t) h
  have hwritten (path : List String) :
      written m none w a worker task c ⟨some t, durable⟩ path =
        (writeEvidence m task d t).get? path := by
    rw [written, h]
    rfl
  rw [executeFiles_eq]
  constructor
  · rintro ⟨hcopied, -⟩
    refine durable_writeEvidence.1 fun path hpath b hb => ?_
    have hdone := hcopied path hpath b (by rw [hwritten, hb])
    simpa [preserve, hws] using hdone
  · intro hready
    refine ⟨fun path hpath b hb => ?_, evidencePath, href, writeEvidence m task d t, ?_, ?_⟩
    · rw [hwritten] at hb
      simpa [preserve, hws] using durable_writeEvidence.2 hready path hpath b hb
    · simpa [preserve, hpolicy] using hws
    · rw [get?_writeEvidence_evidence]
      rfl

/-- **Evidence survives** exactly under that condition. -/
theorem preserved_iff (m : Hashing) (fencing : Option String) (w : World) (a : Handling)
    (worker : WorkerDefinition) (task : Task) (c : RunContext) (f : EvidenceFiles) :
    Preserved (written m fencing w a worker task c f)
        (executeFiles m fencing w a worker task c f).1
        (executeFiles m fencing w a worker task c f).2 ↔
      Survives m fencing w a worker task c f := by
  cases fencing with
  | some message => exact preserved_of_unwritten (fun _ => rfl) rfl
  | none =>
    rw [Survives, if_neg (by simp)]
    by_cases hpolicy : task.workspacePolicy = "destroy_on_complete"
    · exact iff_of_false (not_preserved_of_destroyed hpolicy) fun h => h.1 hpolicy
    · rw [ne_eq, eq_false hpolicy, not_false_eq_true, true_and]
      obtain ⟨ws, durable⟩ := f
      cases h : finalizing w a worker task c with
      | none =>
        rw [executeFiles_eq, startInWorkspace_of_none h]
        have hkept : (preserve task ⟨ws, durable⟩).workspace = ws := by simp [preserve, hpolicy]
        have hwritten (path : List String) :
            written m none w a worker task c ⟨ws, durable⟩ path = none := by
          rw [written, h]
          rfl
        refine Iff.trans (preserved_of_unwritten (c := c) hwritten rfl) ?_
        exact Iff.of_eq (congrArg (Refers c) hkept)
      | some d =>
        cases ws with
        | none =>
          -- without a workspace there is no file to refer to
          refine iff_of_false ?_ fun ⟨_, _, t, ht, _⟩ => Option.some_ne_none t ht.symm
          rw [executeFiles_eq]
          rintro ⟨-, path, -, t, ht, -⟩
          simp [preserve, startInWorkspace_without] at ht
        | some t => exact preserved_of_finalizing hpolicy h

/-- An execution in a new workspace, with a new durable directory, never preserves its evidence. -/
theorem not_survives_new {fencing : Option String} (href : c.evidenceRef = none)
    (hroot : ∀ t, f.workspace = some t → t.get? ["evidence.json"] = none)
    (hdurable : f.durable.get? ["evidence.json"] = none) :
    ¬ Survives m fencing w a worker task c f := by
  have hrefers : ¬ Refers c f.workspace := by
    rintro ⟨path, hpath, -⟩
    rw [href] at hpath
    exact nomatch hpath
  unfold Survives
  split_ifs
  · exact hrefers
  · rintro ⟨-, h⟩
    split at h
    · rename_i d t _ ht
      have hready := h.1
      rw [LiesReady, hroot t ht, hdurable] at hready
      exact nomatch hready
    · exact hrefers h

/-- The listing of a directory, in a new workspace that is destroyed. -/
theorem not_preserved_listing :
    let f : EvidenceFiles := ⟨some Dict.empty, Dict.empty⟩
    let worker := sampleWorker "filesystem.list" "DETERMINISTIC"
    let ran := executeFiles sampleHashing none {} emptyListing worker listingTask listingContext f
    ¬ Preserved (written sampleHashing none {} emptyListing worker listingTask listingContext f)
      ran.1 ran.2 :=
  not_preserved_of_destroyed rfl

end Execution

end AnnyRuntime
