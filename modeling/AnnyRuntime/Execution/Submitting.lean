import AnnyRuntime.Continuity.FailedWrites
import AnnyRuntime.Execution.Admission
import AnnyRuntime.Telemetry.Totals
import AnnyRuntime.Workspace.Ephemeral

/-!
# Submissions that fail

`submit_task` counts the new task in the telemetry before it looks at it.  It plans the task, makes
the workspace, files the task, the execution and the worker, counts the route, and writes to the
continuity log.  What was done stays when a later step raises.

`Stores` are the stores it changes, and `SubmitFaults` is where it fails.

* `submit_eq_submitTask` : when nothing fails, it does what the manager says.
* `submit_filed` : when the workspace was made, it stays.
* `counted_created_iff` : what is counted of a task whose execution is new.
* `leaves_nothing_iff` : **a submission that raises leaves nothing exactly when it raises before
  anything is made, and its event is not counted.**
* `not_leaves_nothing_unknown` : a task for an unknown capability is counted.
-/

namespace AnnyRuntime

namespace Execution

open Continuity Telemetry Workspace

/-- The stores that a submission changes. -/
structure Stores where
  /-- The executions, the tasks, the workers and the continuity engine. -/
  manager : ExecutionManager
  /-- The directories that exist. -/
  tree : List AbsPath
  /-- The log of the telemetry collector, when there is one. -/
  telemetry : Option (List Char)

/-- The ids and times that a submission draws. -/
structure Draws where
  (executionId workerUuid continuityId eventUuid now : String)
  /-- Those of the two telemetry events. -/
  (createdUuid createdAt routedUuid routedAt : String)
  deriving DecidableEq

/-- How emitting an event fails. -/
inductive EmitFault where
  /-- The collector raises. -/
  | raises
  /-- Writing the line fails after so many characters, which the collector only reports. -/
  | writeFails (n : ℕ)
  deriving DecidableEq

/-- Where a submission fails. -/
structure SubmitFaults where
  /-- Emitting `task.created`. -/
  created : Option EmitFault := none
  /-- Making a directory, after so many. -/
  mkdir : Option ℕ := none
  /-- Creating the worker, before it is filed. -/
  worker : Bool := false
  /-- Emitting `task.routed`. -/
  routed : Option EmitFault := none
  /-- Writing the continuity record, and the event. -/
  (record event : Option FileFault := none)
  deriving DecidableEq

/-! ### Telemetry -/

/-- An envelope with some of its fields given, and no metadata. -/
def envelope (given : List (String × Json)) : TelemetryEnvelope Json where
  field name := (given.lookup name).getD ((envelopeFields.lookup name).getD .null)
  metadata := .obj []

/-- `department_id or "UNKNOWN"`. -/
def departmentOf (departmentId : Option String) : String :=
  match departmentId with
  | some d => if d = "" then "UNKNOWN" else d
  | none => "UNKNOWN"

/-- The event of a task that is submitted. -/
def createdEnvelope (d : Draws) (task : Task) : TelemetryEnvelope Json :=
  envelope
    [("event_id", .str ("evt-" ++ d.createdUuid)), ("timestamp", .str d.createdAt),
      ("component", .str "manager"), ("event_type", .str "task.created"),
      ("source", .str "execution"), ("execution_id", .str d.executionId),
      ("task_id", .str task.taskId), ("capability_id", .str task.capabilityId),
      ("department_id", .str (departmentOf task.departmentId)),
      ("project_id", .str task.projectId)]

/-- The event of a worker that is created. -/
def routedEnvelope (d : Draws) (w : WorkerDefinition) : TelemetryEnvelope Json :=
  envelope
    [("event_id", .str ("evt-" ++ d.routedUuid)), ("timestamp", .str d.routedAt),
      ("component", .str "worker"), ("event_type", .str "task.routed"),
      ("source", .str "execution"), ("execution_id", .str w.executionId), ("task_id", w.taskId),
      ("worker_id", .str w.workerId), ("capability_id", w.capabilityId),
      ("capability_family", .ofOptString w.capabilityFamily),
      ("executor_type", .str w.executorType), ("routing_class", .ofOptString w.routingClass),
      ("executor_id", .str w.executorId), ("model_id", .ofOptString w.modelId),
      ("department_id", .str (departmentOf w.departmentId)),
      ("workspace_id", .str w.workspaceId), ("status", .str "CREATED")]

/-- What is written of an event. -/
def emittedText (e : TelemetryEnvelope Json) : Option EmitFault → List Char
  | none => e.line ++ ['\n']
  | some .raises => []
  | some (.writeFails n) => (e.line ++ ['\n']).take n

/-- What the manager says of the draws, with a workspace. -/
def Draws.submission (d : Draws) (path : Option AbsPath) : Submission where
  executionId := d.executionId
  workerUuid := d.workerUuid
  continuityId := d.continuityId
  eventUuid := d.eventUuid
  now := d.now
  workspacePath := path.map fun p => String.ofList p.text

/-- It is what the collector writes when nothing fails. -/
theorem emit_envelope (printable : Char → Bool) (given : List (String × Json)) (log : List Char) :
    Telemetry.emit printable ⟨(envelope given).field, some []⟩ log =
      some (log ++ emittedText (envelope given) none) := rfl

namespace Stores

/-- An event is emitted, when there is a collector. -/
def emit (s : Stores) (e : TelemetryEnvelope Json) (fault : Option EmitFault) : Stores :=
  { s with telemetry := s.telemetry.map (· ++ emittedText e fault) }

/-- The collector raises. -/
def Raises (s : Stores) (fault : Option EmitFault) : Prop :=
  s.telemetry ≠ none ∧ fault = some .raises

instance (s : Stores) (fault : Option EmitFault) : Decidable (s.Raises fault) :=
  inferInstanceAs (Decidable (_ ∧ _))

/-! ### The continuity log -/

/-- `save_record`, on a file that can fail; the flag says that it raises. -/
def saveRecord (e : ContinuityEngine) (r : ContinuityRecord) (fault : Option FileFault) :
    ContinuityEngine × Bool :=
  let out := appendTo e.disk.records (some (recordLine r)) fault
  ({ e with
      records := e.records.set r.continuityId.norm r
      disk := { e.disk with records := out.1 } }, out.2)

/-- `append_event`, on a file that can fail; the flag says that it raises. -/
def appendEvent (e : ContinuityEngine) (ev : EventRecord) (fault : Option FileFault) :
    ContinuityEngine × Bool :=
  let ev := { ev with sequence := e.eventSequence + 1 }
  let out := appendTo e.disk.events (some (eventLine ev)) fault
  ({ e with
      eventSequence := ev.sequence
      events := e.events ++ [ev]
      disk := { e.disk with events := out.1 } }, out.2)

/-- What a submission writes to the continuity log; the flag says that it raises. -/
def log (e : ContinuityEngine) (sub : Submission) (task : Task) (c : TaskExecutionContext)
    (f : SubmitFaults) : ContinuityEngine × Bool :=
  let saved := saveRecord e (submissionRecord sub task) f.record
  if saved.2 then saved else appendEvent saved.1 (submissionEvent sub task c) f.event

/-! ### Submitting -/

/-- The capability of a task that is not denied, and the executor that is selected for it. -/
def planned (m : ExecutionManager) (task : Task) :
    ExecutionManager × Option (CapabilityDefinition × ExecutorSelection) :=
  match m.registry.get task.capabilityId with
  | none => (m, none)
  | some cap =>
    if !cap.enabled then (m, none)
    else if cap.sideEffect ≠ "read" ∧ cap.deterministicAllowed = true then (m, none)
    else
      let selected := m.selector.select task cap m.policy
      ({ m with selector := selected.2 }, selected.1.map fun selection => (cap, selection))

/-- The task and its execution are filed, the worker is created, and the log is written. -/
def file (s : Stores) (d : Draws) (task : Task) (cap : CapabilityDefinition)
    (selection : ExecutorSelection) (path : AbsPath) (f : SubmitFaults) :
    Option TaskExecutionContext × Stores :=
  let sub := d.submission (some path)
  let c := s.manager.newContext sub task cap selection (String.ofList path.text)
  let worker := ExecutionManager.newWorker sub task selection c
  let m :=
    { s.manager with
      tasks := s.manager.tasks.set d.executionId task
      executions := s.manager.executions.set d.executionId c }
  if f.worker then
    -- `create_worker` has not named the family of the context yet
    (none, { s with manager :=
      { m with
        executions := s.manager.executions.set d.executionId
          { c with capabilityFamily := some cap.family } } })
  else
    let s := { s with manager := { m with workers := m.workers.set worker.workerId worker } }
    let routed := s.emit (routedEnvelope d worker) f.routed
    if s.Raises f.routed then (none, routed)
    else
      match s.manager.continuityEngine with
      | none => (some c, routed)
      | some e =>
        let logged := log e sub task c f
        (if logged.2 then none else some c,
          { routed with manager := { s.manager with continuityEngine := some logged.1 } })

/-- `submit_task`: the context of the new execution, unless it raises, and the stores after it. -/
def submitTask (base : AbsPath) (s : Stores) (d : Draws) (task : Task) (f : SubmitFaults) :
    Option TaskExecutionContext × Stores :=
  if s.Raises f.created then (none, s)
  else
    let s := s.emit (createdEnvelope d task) f.created
    let plan := planned s.manager task
    let s := { s with manager := plan.1 }
    match plan.2 with
    | none => (none, s)
    | some (cap, selection) =>
      let workspace := createWorkspace base s.tree d.executionId task.projectId f.mkdir
      let s := { s with tree := workspace.1 }
      match workspace.2 with
      | none => (none, s)
      | some path => s.file d task cap selection path f

/-! ### Leaving nothing -/

/-- What is in the stores is what was in them. -/
structure Unchanged (L : Library) (s s' : Stores) : Prop where
  executions : s'.manager.executions = s.manager.executions
  tasks : s'.manager.tasks = s.manager.tasks
  workers : s'.manager.workers = s.manager.workers
  tree : SameTree s.tree s'.tree
  continuity : s'.manager.continuityEngine = s.manager.continuityEngine
  totals : ∀ log log', s.telemetry = some log → s'.telemetry = some log' →
    ∀ filters, totals L log' filters = totals L log filters

/-- When the submission raises, it leaves nothing. -/
def LeavesNothing (L : Library) (base : AbsPath) (s : Stores) (d : Draws) (task : Task)
    (f : SubmitFaults) : Prop :=
  (s.submitTask base d task f).1 = none → Unchanged L s (s.submitTask base d task f).2

/-- Nothing fails. -/
structure Completes (base : AbsPath) (s : Stores) (d : Draws) (task : Task) (f : SubmitFaults) :
    Prop where
  created : ¬ s.Raises f.created
  planned : (planned s.manager task).2 ≠ none
  admissible : admissible base s.tree d.executionId task.projectId = true
  made : ¬ Stops base s.tree d.executionId task.projectId f.mkdir
  worker : f.worker = false
  routed : ¬ s.Raises f.routed
  logged : s.manager.continuityEngine = none ∨ (f.record = none ∧ f.event = none)

/-- It fails before anything is made: the task is denied, the workspace cannot be made, or its first
directory. -/
def NothingMade (base : AbsPath) (s : Stores) (d : Draws) (task : Task) (f : SubmitFaults) :
    Prop :=
  (Stores.planned s.manager task).2 = none ∨
    Workspace.admissible base s.tree d.executionId task.projectId = false ∨ f.mkdir = some 0

/-- What is written of the event of the task is not counted. -/
def NotCounted (L : Library) (s : Stores) (d : Draws) (task : Task) (f : SubmitFaults) : Prop :=
  ∀ log, s.telemetry = some log → ¬ Counted L log (emittedText (createdEnvelope d task) f.created)

variable {L : Library} {base : AbsPath} {s : Stores} {d : Draws} {task : Task} {f : SubmitFaults}

/-! ### The steps -/

theorem log_raises {e : ContinuityEngine} {sub : Submission} {c : TaskExecutionContext} :
    (log e sub task c f).2 = false ↔ f.record = none ∧ f.event = none := by
  have hrecord : (saveRecord e (submissionRecord sub task) f.record).2 = false ↔ f.record = none :=
    (WritingEngine.appendTo_raises _).trans (by simp)
  have hevent : ∀ e', (appendEvent e' (submissionEvent sub task c) f.event).2 = false ↔
      f.event = none := fun e' => (WritingEngine.appendTo_raises _).trans (by simp)
  unfold log
  cases hs : (saveRecord e (submissionRecord sub task) f.record).2 with
  | true =>
    have hne : f.record ≠ none := fun h => absurd (hs.symm.trans (hrecord.2 h)) (by simp)
    simp [hs, hne]
  | false =>
    rw [if_neg (by rw [hs]; simp), hevent]
    exact ⟨fun h => ⟨hrecord.1 hs, h⟩, And.right⟩

/-- **Filing** leaves the tree alone, and raises when one of its steps does. -/
theorem file_spec (cap : CapabilityDefinition) (selection : ExecutorSelection) (path : AbsPath) :
    (s.file d task cap selection path f).2.tree = s.tree ∧
      ((s.file d task cap selection path f).1 ≠ none ↔ f.worker = false ∧ ¬ s.Raises f.routed ∧
        (s.manager.continuityEngine = none ∨ (f.record = none ∧ f.event = none))) := by
  unfold file
  cases hw : f.worker with
  | true => simp
  | false =>
    rw [if_neg (by simp)]
    dsimp only
    split_ifs with hr
    · have hraises : s.Raises f.routed := hr
      exact ⟨rfl, by simp [hraises]⟩
    · have hraises : ¬ s.Raises f.routed := hr
      cases he : s.manager.continuityEngine with
      | none => exact ⟨rfl, by simp [hraises]⟩
      | some e =>
        exact ⟨rfl, by simp [hraises, log_raises]⟩

/-- A file that does not fail is written as the engine says. -/
theorem log_of_none {e : ContinuityEngine} {sub : Submission} {c : TaskExecutionContext}
    (hrecord : f.record = none) (hevent : f.event = none) :
    log e sub task c f =
      ((e.saveRecord (submissionRecord sub task)).appendEvent (submissionEvent sub task c),
        false) := by
  simp only [log, hrecord, hevent]
  rfl

/-- **Filing**, when nothing fails, is what the manager says. -/
theorem file_eq {cap : CapabilityDefinition} {selection : ExecutorSelection} {path : AbsPath}
    (hworker : f.worker = false) (hrouted : ¬ s.Raises f.routed)
    (hlogged : s.manager.continuityEngine = none ∨ (f.record = none ∧ f.event = none)) :
    ((s.file d task cap selection path f).1, (s.file d task cap selection path f).2.manager) =
      let sub := d.submission (some path)
      let c := s.manager.newContext sub task cap selection (String.ofList path.text)
      (some c, s.manager.enqueue sub task c (ExecutionManager.newWorker sub task selection c)) := by
  unfold file
  rw [if_neg (by simp [hworker])]
  dsimp only
  split_ifs with hr
  · exact absurd hr hrouted
  · cases he : s.manager.continuityEngine with
    | none =>
      simp only [ExecutionManager.enqueue, he, Option.map_none]
      rfl
    | some e =>
      obtain ⟨hrecord, hevent⟩ := hlogged.resolve_left (by simp [he])
      simp only [log_of_none hrecord hevent, ExecutionManager.enqueue, he, Option.map_some]
      rfl

/-! ### What a submission leaves -/

/-- A collector that raises stops the submission at once. -/
theorem submit_created (h : s.Raises f.created) : s.submitTask base d task f = (none, s) := by
  rw [submitTask, if_pos h]

/-- **A submission that makes nothing** adds what is written of its event to the telemetry. -/
theorem submit_denied (h : ¬ s.Raises f.created) (hp : (planned s.manager task).2 = none) :
    s.submitTask base d task f = (none,
      { s with
        manager := (planned s.manager task).1
        telemetry := s.telemetry.map (· ++ emittedText (createdEnvelope d task) f.created) }) := by
  rw [submitTask, if_neg h]
  simp only [emit, hp]

/-- Planning changes no store. -/
theorem planned_manager (m : ExecutionManager) (task : Task) :
    (planned m task).1.executions = m.executions ∧ (planned m task).1.tasks = m.tasks ∧
      (planned m task).1.workers = m.workers ∧
        (planned m task).1.continuityEngine = m.continuityEngine := by
  unfold planned
  cases m.registry.get task.capabilityId with
  | none => exact ⟨rfl, rfl, rfl, rfl⟩
  | some cap =>
    dsimp only
    split_ifs
    · exact ⟨rfl, rfl, rfl, rfl⟩
    · exact ⟨rfl, rfl, rfl, rfl⟩
    · exact ⟨rfl, rfl, rfl, rfl⟩

/-- The manager plans a task in the same way. -/
theorem submitTask_of_planned {m : ExecutionManager} {sub : Submission} {path : String}
    {cap : CapabilityDefinition} {selection : ExecutorSelection}
    (hp : (planned m task).2 = some (cap, selection)) (hpath : sub.workspacePath = some path) :
    m.submitTask sub task =
      let m' := (planned m task).1
      let c := m'.newContext sub task cap selection path
      (some c, m'.enqueue sub task c (ExecutionManager.newWorker sub task selection c)) := by
  unfold planned at hp ⊢
  unfold ExecutionManager.submitTask
  cases hcap : m.registry.get task.capabilityId with
  | none => simp [hcap] at hp
  | some cap' =>
    simp only [hcap] at hp ⊢
    split_ifs at hp ⊢
    obtain ⟨selection', hselect, heq⟩ := Option.map_eq_some_iff.1 hp
    obtain ⟨rfl, rfl⟩ := Prod.mk.inj heq
    simp only [hselect, hpath]

/-- **When the task is planned**, the rest is up to the workspace. -/
theorem submit_planned {cap : CapabilityDefinition} {selection : ExecutorSelection}
    (h : ¬ s.Raises f.created) (hp : (planned s.manager task).2 = some (cap, selection)) :
    s.submitTask base d task f =
      let workspace := createWorkspace base s.tree d.executionId task.projectId f.mkdir
      let s' : Stores :=
        { manager := (planned s.manager task).1
          tree := workspace.1
          telemetry := s.telemetry.map (· ++ emittedText (createdEnvelope d task) f.created) }
      match workspace.2 with
      | none => (none, s')
      | some path => s'.file d task cap selection path f := by
  rw [submitTask, if_neg h]
  simp only [emit, hp]

/-- Where only the tree and the telemetry were written, nothing is left when the tree is the same
and the text is not counted. -/
theorem unchanged_iff {tree : List AbsPath} {text : List Char} :
    Unchanged L s
      { manager := (planned s.manager task).1
        tree := tree
        telemetry := s.telemetry.map (· ++ text) } ↔
      SameTree s.tree tree ∧ ∀ log, s.telemetry = some log → ¬ Counted L log text := by
  obtain ⟨hexecutions, htasks, hworkers, hcontinuity⟩ := planned_manager s.manager task
  constructor
  · intro h
    refine ⟨h.tree, fun log hlog hcounted => ?_⟩
    obtain ⟨filters, hne⟩ := hcounted
    exact hne (h.totals log _ hlog (by simp [hlog]) filters)
  · rintro ⟨htree, hcounted⟩
    refine ⟨hexecutions, htasks, hworkers, htree, hcontinuity, ?_⟩
    intro log log' hlog hlog' filters
    obtain rfl : log ++ text = log' := by simpa [hlog] using hlog'
    by_contra hne
    exact hcounted log hlog ⟨filters, hne⟩

/-- A submission whose workspace was made leaves it. -/
theorem submit_filed {cap : CapabilityDefinition} {selection : ExecutorSelection}
    {path : AbsPath} {tree : List AbsPath} {text : List Char}
    (h : s.submitTask base d task f =
      Stores.file
        { manager := (planned s.manager task).1
          tree := tree
          telemetry := s.telemetry.map (· ++ text) } d task cap selection path f) :
    (s.submitTask base d task f).2.tree = tree ∧
      ((s.submitTask base d task f).1 ≠ none ↔ f.worker = false ∧ ¬ s.Raises f.routed ∧
        (s.manager.continuityEngine = none ∨ (f.record = none ∧ f.event = none))) := by
  obtain ⟨-, -, -, hcontinuity⟩ := planned_manager s.manager task
  have hraises : Raises
      { manager := (planned s.manager task).1
        tree := tree
        telemetry := s.telemetry.map (· ++ text) } f.routed ↔ s.Raises f.routed := by
    simp [Raises]
  rw [h, ← hraises, ← hcontinuity]
  exact file_spec cap selection path

/-- **When nothing fails**, the manager does what it does when only its answers matter. -/
theorem submit_eq_submitTask (h : Completes base s d task f) :
    ((s.submitTask base d task f).1, (s.submitTask base d task f).2.manager) =
      s.manager.submitTask (d.submission (some (workspacePath base d.executionId task.projectId)))
        task := by
  obtain ⟨hcreated, hplanned, hadm, hmade, hworker, hrouted, hlogged⟩ := h
  obtain ⟨⟨cap, selection⟩, hp⟩ := Option.ne_none_iff_exists'.1 hplanned
  have heq := @submit_planned base s d task f cap selection hcreated hp
  rcases createWorkspace_cases base s.tree d.executionId task.projectId f.mkdir with
    ⟨hno, -⟩ | ⟨-, n, hn, hmkdir, -⟩ | ⟨-, -, hws⟩
  · exact absurd (hadm.symm.trans hno) (by simp)
  · exact absurd ⟨n, hmkdir, hn⟩ hmade
  rw [hws] at heq
  rw [submitTask_of_planned hp rfl, heq]
  refine file_eq hworker ?_ ?_
  · simpa [Raises] using hrouted
  · rw [(planned_manager s.manager task).2.2.2]
    exact hlogged

/-- **When a submission that raises leaves nothing.** -/
theorem leaves_nothing_iff (L : Library) (base : AbsPath) (s : Stores) (d : Draws) (task : Task)
    (f : SubmitFaults) :
    LeavesNothing L base s d task f ↔
      Completes base s d task f ∨ s.Raises f.created ∨
        (NothingMade base s d task f ∧ NotCounted L s d task f) := by
  by_cases hcreated : s.Raises f.created
  · refine iff_of_true (fun _ => ?_) (.inr (.inl hcreated))
    rw [submit_created hcreated]
    refine ⟨rfl, rfl, rfl, fun _ => Iff.rfl, rfl, fun log log' hlog hlog' filters => ?_⟩
    rw [Option.some.inj (hlog'.symm.trans hlog)]
  cases hp : (planned s.manager task).2 with
  | none =>
    have hcompletes : ¬ Completes base s d task f := fun h => h.planned hp
    simp only [LeavesNothing, submit_denied hcreated hp, hcompletes, hcreated, NothingMade, hp,
      true_or, true_and, false_or, true_implies]
    rw [unchanged_iff]
    exact ⟨And.right, fun h => ⟨fun _ => Iff.rfl, h⟩⟩
  | some x =>
    obtain ⟨cap, selection⟩ := x
    have heq := @submit_planned base s d task f cap selection hcreated hp
    have hsame : SameTree s.tree
        (createWorkspace base s.tree d.executionId task.projectId f.mkdir).1 ↔
          admissible base s.tree d.executionId task.projectId = false ∨ f.mkdir = some 0 :=
      sameTree_iff
    have hnothing : NothingMade base s d task f ↔
        SameTree s.tree (createWorkspace base s.tree d.executionId task.projectId f.mkdir).1 := by
      rw [hsame, NothingMade, hp]
      simp
    rcases createWorkspace_cases base s.tree d.executionId task.projectId f.mkdir with
      ⟨hadm, hws⟩ | ⟨hadm, n, hn, hmkdir, hws⟩ | ⟨hadm, hstops, hws⟩
    · have hcompletes : ¬ Completes base s d task f := fun h =>
        absurd (hadm.symm.trans h.admissible) (by simp)
      rw [hws] at heq hnothing
      rw [LeavesNothing, heq, hnothing]
      simp only [hcompletes, hcreated, false_or, true_implies]
      exact unchanged_iff
    · have hcompletes : ¬ Completes base s d task f := fun h => h.made ⟨n, hmkdir, hn⟩
      rw [hws] at heq hnothing
      rw [LeavesNothing, heq, hnothing]
      simp only [hcompletes, hcreated, false_or, true_implies]
      exact unchanged_iff
    · -- the workspace is there, so only a submission that does not raise will do
      have hchanged : ¬ NothingMade base s d task f := by
        rw [hnothing, hsame, hadm]
        rintro (h | h)
        · exact absurd h (by simp)
        · obtain ⟨q, rest, hdirs, -⟩ := head_workspaceDirs (not_mem_of_admissible hadm)
          exact hstops ⟨0, h, by rw [hdirs]; simp⟩
      have htree : ¬ SameTree s.tree (createWorkspace base s.tree d.executionId task.projectId
          f.mkdir).1 := mt hnothing.2 hchanged
      rw [hws] at heq htree
      have hfile := (submit_filed heq).2
      have htree' := (submit_filed heq).1
      have hleaves : LeavesNothing L base s d task f ↔ (s.submitTask base d task f).1 ≠ none := by
        refine ⟨fun h hnone => htree ?_, fun h hnone => absurd hnone h⟩
        rw [← htree']
        exact (h hnone).tree
      rw [hleaves, hfile]
      simp only [hchanged, hcreated, false_and, or_false]
      exact ⟨fun ⟨hw, hr, hl⟩ => ⟨hcreated, by rw [hp]; simp, hadm, hstops, hw, hr, hl⟩,
        fun h => ⟨h.worker, h.routed, h.logged⟩⟩

/-! ### What is counted -/

/-- What is written of an event is the start of its line. -/
theorem emittedText_eq_take (e : TelemetryEnvelope Json) (fault : Option EmitFault) :
    emittedText e fault = (e.line ++ ['\n']).take
      (match fault with
        | none => e.line.length + 1
        | some .raises => 0
        | some (.writeFails n) => n) := by
  rcases fault with - | ⟨- | n⟩
  · rw [emittedText, List.take_of_length_le (by simp)]
  · rfl
  · rfl

/-- **What is counted of a task** whose execution is new: its event, unless the line is cut. -/
theorem counted_created_iff {log : List Char} (hlog : Text.AtLineStart log)
    {now department : String}
    (h : NewExecution L log (createdEnvelope d task) d.executionId now department) :
    Counted L log (emittedText (createdEnvelope d task) f.created) ↔
      f.created = none ∨ ∃ n, f.created = some (.writeFails n) ∧
        (createdEnvelope d task).line.length ≤ n := by
  rw [emittedText_eq_take, counted_take_iff hlog h]
  rcases f.created with - | ⟨- | n⟩
  · simp
  · have hsolid : Text.Solid (createdEnvelope d task).line := Json.solid_dumps_obj _
    simp [hsolid.ne_nil]
  · simp

/-- A library that takes everything for the start of the epoch. -/
def epochLibrary : Library where
  arith := .overflowing
  isoparse _ := .time ⟨0, some 0⟩
  average _ := none

/-- Stores with a collector that has seen nothing. -/
def freshStores : Stores where
  manager := .init .bootstrap none none
  tree := []
  telemetry := some []

/-- What a submission draws. -/
def sampleDraws : Draws where
  executionId := "e-1"
  workerUuid := "00000001"
  continuityId := "c-1"
  eventUuid := "00000001"
  now := "2024-01-01T00:00:00+00:00"
  createdUuid := "000000000001"
  createdAt := "2024-01-01T00:00:00+00:00"
  routedUuid := "000000000002"
  routedAt := "2024-01-01T00:00:00+00:00"

/-- A task for a capability that there is not. -/
def unknownTask : Task :=
  { Orchestration.Orchestrator.listTask with capabilityId := "filesystem.shred" }

/-- The task is not taken, and counted. -/
theorem not_leaves_nothing_unknown :
    ¬ ∀ L base s d task f, LeavesNothing L base s d task f := by
  intro h
  have hraises : ¬ freshStores.Raises ({} : SubmitFaults).created := by decide
  have hplanned : (planned freshStores.manager unknownTask).2 = none := by decide +kernel
  have hleaves := h epochLibrary [] freshStores sampleDraws unknownTask {}
  rw [LeavesNothing, submit_denied hraises hplanned, unchanged_iff] at hleaves
  have hnew : NewExecution epochLibrary [] (createdEnvelope sampleDraws unknownTask) "e-1"
      sampleDraws.createdAt "UNKNOWN" :=
    ⟨rfl, rfl, rfl, rfl, by decide, rfl, by decide, ⟨0, some 0⟩, 0, rfl, by decide⟩
  exact (hleaves rfl).2 [] rfl
    ((counted_created_iff (by simp [Text.AtLineStart]) hnew).2 (.inl rfl))

end Stores

end Execution

end AnnyRuntime
