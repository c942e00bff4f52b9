import AnnyRuntime.Execution.Lifecycle
import AnnyRuntime.Telemetry.Filtered

/-!
# What the matrix shows of the workers

The manager and its workers report what they do: `task.created` before a task is admitted,
`task.routed` when it has a worker, `execution.started`, `inference_completed` and one event at the
end, with the state of the worker in each.  The matrix folds these events back into one state for
each execution.

`matrix_of_run` : **in every run, the matrix counts the executions as their workers stand**, with
two exceptions that the theorem names.  A submission that is refused has been reported, so it is
counted, under no status; and a worker that is fenced off fails without an event, so its execution
is counted under the state that it had before.
-/

namespace AnnyRuntime

namespace Execution

open Telemetry (TelemetryEnvelope Summary Library)

/-- The text of the state of a worker. -/
def WorkerState.value : WorkerState → String
  | created => "CREATED"
  | starting => "STARTING"
  | running => "RUNNING"
  | succeeded => "SUCCEEDED"
  | failed => "FAILED"
  | timedOut => "TIMED_OUT"
  | cancelled => "CANCELLED"
  | limitExceeded => "LIMIT_EXCEEDED"
  | terminated => "TERMINATED"

/-! ### Reports -/

/-- What an event is created with; its other fields have their defaults. -/
structure Report where
  fields : List (String × Json)

namespace Report

/-- The value of a field. -/
def get (r : Report) (name : String) : Json := (Json.lookup name r.fields).getD .null

/-- The envelope of an event, with an id, a time and metadata. -/
def envelope (r : Report) (eventId timestamp metadata : Json) : TelemetryEnvelope Json where
  field name :=
    (Json.lookup name (r.fields ++ [("event_id", eventId), ("timestamp", timestamp)])).getD
      ((Telemetry.envelopeFields.lookup name).getD .null)
  metadata := metadata

/-- `department_id or "UNKNOWN"`. -/
def departmentOr (departmentId : Option String) : String :=
  if departmentId.getD "" = "" then "UNKNOWN" else departmentId.getD ""

/-- The event `task.created` of a submission. -/
def taskCreated (sub : Submission) (task : Task) : Report where
  fields :=
    [("component", .str "manager"), ("event_type", .str "task.created"),
      ("source", .str "execution"), ("execution_id", .str sub.executionId),
      ("task_id", .str task.taskId), ("capability_id", .str task.capabilityId),
      ("department_id", .str (departmentOr task.departmentId)),
      ("project_id", .str task.projectId)]

section Worker

-- the milliseconds between two times, which the source computes in floating point
variable (millis : ℕ → ℕ → ℤ)

/-- How long a worker ran, when it has started and finished. -/
def durationMs (w : WorkerDefinition) : Json :=
  match w.startedAt, w.finishedAt with
  | some s, some f => .int (millis s f)
  | _, _ => .null

/-- `_emit_telemetry`. -/
def ofWorker (eventType : String) (w : WorkerDefinition) : Report where
  fields :=
    [("component", .str "worker"), ("event_type", .str eventType), ("source", .str "execution"),
      ("execution_id", .str w.executionId), ("task_id", w.taskId),
      ("worker_id", .str w.workerId), ("capability_id", w.capabilityId),
      ("capability_family", .ofOptString w.capabilityFamily),
      ("executor_type", .str w.executorType), ("routing_class", .ofOptString w.routingClass),
      ("executor_id", .str w.executorId), ("model_id", .ofOptString w.modelId),
      ("department_id", .str (departmentOr w.departmentId)), ("workspace_id", .str w.workspaceId),
      ("status", .str w.state.value), ("duration_ms", durationMs millis w)]

/-- A model has answered. -/
def inferred (w : World) (worker : WorkerDefinition) : Bool :=
  !w.late &&
    if worker.executorType = "DETERMINISTIC" then false
    else if worker.executorType = "LOCAL_MODEL" then w.localModel.any fun r => r.isOk
    else if worker.executorType = "REMOTE_MODEL" ∨ worker.executorType = "FRONTIER_MODEL" then
      w.frontier.any fun r => r.isOk
    else false

/-- The type of the last event of a worker. -/
def endEvent (w : World) (worker : WorkerDefinition) (task : Task) (c : TaskExecutionContext) :
    String :=
  match (runWorker w worker task c).2 with
  | some (.timeout _) => "execution.timeout"
  | some (.limits _) | some (.security _) => "execution.blocked"
  | some (.other _) => "execution.failed"
  | none =>
    match (runWorker w worker task c).1.status with
    | .succeeded => "execution.completed"
    | .timedOut => "execution.timeout"
    | .limitExceeded => "execution.blocked"
    | _ => "execution.failed"

/-- The worker while it runs. -/
def runningWorker (w : World) (worker : WorkerDefinition) : WorkerDefinition :=
  { worker with state := .running, startedAt := some w.startedAt }

/-- The events of `start_worker`, when it starts the worker. -/
def ofStart (w : World) (worker : WorkerDefinition) (task : Task) (c : TaskExecutionContext) :
    List Report :=
  ofWorker millis "execution.started" (runningWorker w worker) ::
    ((if inferred w worker then [ofWorker millis "inference_completed" (runningWorker w worker)]
      else []) ++
      [ofWorker millis (endEvent w worker task c)
        (endWorker w worker (endContext w worker task c).status)])

end Worker

end Report

namespace ExecutionManager

/-- What `execute_sync` finds of an execution. -/
def executable? (m : ExecutionManager) (executionId : String) :
    Option (TaskExecutionContext × Task × WorkerDefinition) :=
  match m.executions.get? executionId, m.tasks.get? executionId with
  | some c, some task =>
    match m.registry.get task.capabilityId, m.workerOf executionId with
    | some _, some worker => some (c, task, worker)
    | _, _ => none
  | _, _ => none

theorem executable?_eq {m : ExecutionManager} {executionId : String} {c : TaskExecutionContext}
    {task : Task} {worker : WorkerDefinition} (h : m.Executable executionId c task worker) :
    m.executable? executionId = some (c, task, worker) := by
  obtain ⟨hc, ht, hcap, hw⟩ := h
  obtain ⟨cap, hcap⟩ := Option.isSome_iff_exists.1 hcap
  unfold executable?
  simp only [hc, ht, hcap, hw]

end ExecutionManager

/-! ### Runs -/

/-- A run with its events. -/
structure ObservedRun where
  run : WorkerRun
  /-- The submissions that were refused, with their departments. -/
  refused : List (String × String) := []
  /-- The events so far. -/
  reports : List Report := []
  /-- For a worker that was fenced off, by the id of its execution: the state that it had. -/
  fencedFrom : String → Option WorkerState := fun _ => none

namespace ObservedRun

open Report

variable (millis : ℕ → ℕ → ℤ)

/-- The events of a call. -/
def reportsOf (s : WorkerRun) : WorkerOp → List Report
  | .submit sub task =>
    taskCreated sub task ::
      -- the worker of a task that is admitted
      (((s.manager.submitTask sub task).1.bind fun _ =>
        (s.manager.submitTask sub task).2.workers.get? ("wrk-" ++ sub.workerUuid)).map
          (ofWorker millis "task.routed")).toList
  | .execute ex executionId =>
    match s.manager.executable? executionId with
    | some (c, task, worker) =>
      -- `terminate_worker` has no event for a worker that has ended
      if s.manager.starts executionId then ofStart millis ex.world worker task c else []
    | none => []
  | .start w workerId executionId =>
    match s.manager.workers.get? workerId, s.manager.executions.get? executionId,
      s.manager.tasks.get? executionId with
    | some worker, some c, some task =>
      if worker.state = .created then ofStart millis w worker task c else []
    | _, _, _ => []
  | .cancel now workerId =>
    match s.manager.workers.get? workerId with
    | some worker =>
      if worker.live then [ofWorker millis "execution.cancelled" (cancelWorker now worker)] else []
    | none => []
  | .terminate workerId =>
    match s.manager.workers.get? workerId with
    | some worker =>
      if worker.live then [ofWorker millis "execution.terminated" (terminateWorker worker)] else []
    | none => []
  | .generation _ => []

/-- The worker that a call fences off. -/
def fences (s : WorkerRun) : WorkerOp → Option WorkerDefinition
  | .execute _ executionId =>
    (s.manager.executable? executionId).bind fun r =>
      if (s.manager.fencing r.1).isSome then some r.2.2 else none
  | _ => none

/-- The submission that a call refuses. -/
def refuses (s : WorkerRun) : WorkerOp → List (String × String)
  | .submit sub task =>
    if (s.manager.submitTask sub task).1 = none then
      [(sub.executionId, departmentOr task.departmentId)]
    else []
  | _ => []

/-- The state from which a worker was fenced off, after one more call. -/
def fencedNext (fencedFrom : String → Option WorkerState) :
    Option WorkerDefinition → String → Option WorkerState
  | none => fencedFrom
  | some w =>
    Function.update fencedFrom w.executionId
      (some ((fencedFrom w.executionId).getD w.state))

/-- The run after a call. -/
def next (s : ObservedRun) (op : WorkerOp) : ObservedRun where
  run := s.run.next op
  refused := s.refused ++ refuses s.run op
  reports := s.reports ++ reportsOf millis s.run op
  fencedFrom := fencedNext s.fencedFrom (fences s.run op)

/-- The executions that were submitted. -/
def ids (s : ObservedRun) : List String :=
  s.refused.map Prod.fst ++ s.run.manager.workers.values.map WorkerDefinition.executionId

/-- A call can happen: the ids that it draws are new, also among the refused ones. -/
def Legal (s : ObservedRun) (op : WorkerOp) : Prop :=
  s.run.Legal op ∧ s.run.OwnStarts op ∧
    ∀ sub task, op = .submit sub task → sub.executionId ≠ "" ∧ sub.executionId ∉ s.ids

/-- All runs of a manager that starts without executions. -/
def system : System ObservedRun WorkerOp where
  init s := WorkerRun.system.init s.run ∧ s.refused = [] ∧ s.reports = [] ∧
    s.fencedFrom = fun _ => none
  step s op t := s.Legal op ∧ t = s.next millis op

/-- The state in which a worker is shown. -/
def shown (s : ObservedRun) (w : WorkerDefinition) : WorkerState :=
  (s.fencedFrom w.executionId).getD w.state

/-- What the matrix has to show of a worker. -/
def summaryOf (s : ObservedRun) (w : WorkerDefinition) : Summary where
  departmentId := .str (departmentOr w.departmentId)
  routingClass := .ofOptString w.routingClass
  status := .str (s.shown w).value
  durationMs := durationMs millis w

/-- What it has to show of a refused submission. -/
def summaryOfRefused (department : String) : Summary :=
  ⟨.str department, .str "UNKNOWN", .str "UNKNOWN", .null⟩

/-- What it has to show, of all executions. -/
def expected (s : ObservedRun) : List Summary :=
  s.refused.map (fun r => summaryOfRefused r.2) ++
    s.run.manager.workers.values.map (s.summaryOf millis)

end ObservedRun

/-! ### What the events say -/

namespace Report

/-- The event is one of an execution. -/
def isOf (r : Report) (x : String) : Bool := r.get "execution_id" = .str x

/-- What the matrix reads of it, but its time. -/
def event (r : Report) : Telemetry.Event :=
  ⟨.null, r.get "execution_id", r.get "department_id", r.get "routing_class", r.get "status",
    r.get "duration_ms", 0⟩

/-- What the events of an execution say in the end, when each overrides what came before. -/
def told (L : Library) (rs : List Report) (x : String) : Option Summary :=
  (rs.filter fun r => r.isOf x).foldl (fun s r => some ((s.getD .initial).apply L r.event)) none

/-- What the events of a worker say of it. -/
def plain (millis : ℕ → ℕ → ℤ) (w : WorkerDefinition) : Summary where
  departmentId := .str (departmentOr w.departmentId)
  routingClass := .ofOptString w.routingClass
  status := .str w.state.value
  durationMs := durationMs millis w

section

variable {L : Library} {millis : ℕ → ℕ → ℤ} {rs rs' : List Report} {x : String} {s : Summary}
  {w w' : WorkerDefinition} {eventType : String}

theorem departmentOr_ne (d : Option String) : departmentOr d ≠ "" := by
  unfold departmentOr
  split_ifs with h
  · decide
  · exact h

theorem value_ne (st : WorkerState) : st.value ≠ "" := by cases st <;> decide

theorem value_eq_succeeded {st : WorkerState} : st.value = "SUCCEEDED" ↔ st = .succeeded := by
  cases st <;> decide

theorem told_append_other (h : ∀ r ∈ rs', r.isOf x = false) :
    told L (rs ++ rs') x = told L rs x := by
  have hnone : rs'.filter (fun r => r.isOf x) = [] :=
    List.filter_eq_nil_iff.2 fun r hr => by rw [h r hr]; decide
  rw [told, List.filter_append, hnone, List.append_nil, told]

theorem told_append_own (h : ∀ r ∈ rs', r.isOf x = true) (hs : told L rs x = some s) :
    told L (rs ++ rs') x = some (rs'.foldl (fun s r => s.apply L r.event) s) := by
  have hfold : ∀ (l : List Report) (s : Summary),
      l.foldl (fun s r => some ((s.getD .initial).apply L r.event)) (some s) =
        some (l.foldl (fun s r => s.apply L r.event) s) := by
    intro l
    induction l with
    | nil => exact fun _ => rfl
    | cons r l ih => exact fun s => ih (s.apply L r.event)
  rw [told] at hs
  rw [told, List.filter_append, List.filter_eq_self.2 h, List.foldl_append, hs, hfold]

/-- The first event of an execution. -/
theorem told_append_new {r : Report} (hr : r.isOf x = true) (hnew : ∀ r ∈ rs, r.isOf x = false) :
    told L (rs ++ [r]) x = some (Summary.initial.apply L r.event) := by
  have hnone : rs.filter (fun r => r.isOf x) = [] :=
    List.filter_eq_nil_iff.2 fun r hr => by rw [hnew r hr]; decide
  have hone : [r].filter (fun r => r.isOf x) = [r] := List.filter_cons_of_pos hr
  rw [told, List.filter_append, hnone, List.nil_append, hone]
  rfl

theorem isOf_ofWorker : (ofWorker millis eventType w).isOf x = decide (w.executionId = x) := by
  have hid : (ofWorker millis eventType w).get "execution_id" = .str w.executionId := rfl
  rw [isOf, hid]
  exact decide_eq_decide.2 (by rw [Json.str.injEq])

theorem isOf_taskCreated {sub : Submission} {task : Task} :
    (taskCreated sub task).isOf x = decide (sub.executionId = x) := by
  have hid : (taskCreated sub task).get "execution_id" = .str sub.executionId := rfl
  rw [isOf, hid]
  exact decide_eq_decide.2 (by rw [Json.str.injEq])

theorem event_ofWorker : (ofWorker millis eventType w).event =
    ⟨.null, .str w.executionId, .str (departmentOr w.departmentId), .ofOptString w.routingClass,
      .str w.state.value, durationMs millis w, 0⟩ := rfl

theorem event_taskCreated {sub : Submission} {task : Task} : (taskCreated sub task).event =
    ⟨.null, .str sub.executionId, .str (departmentOr task.departmentId), .null, .null, .null, 0⟩ :=
  rfl

theorem apply_taskCreated {sub : Submission} {task : Task} :
    Summary.initial.apply L (taskCreated sub task).event =
      ObservedRun.summaryOfRefused (departmentOr task.departmentId) := by
  have hdept := Telemetry.truthy_str L.arith (departmentOr_ne task.departmentId)
  have hnull : Telemetry.truthy L.arith .null = false := rfl
  rw [event_taskCreated]
  simp only [Summary.apply, Summary.initial, Telemetry.orElse, hdept, hnull, if_true,
    Bool.false_eq_true, if_false, ite_self, ObservedRun.summaryOfRefused]

/-- An event of a worker that has not succeeded overrides what was said before. -/
theorem apply_ofWorker (eventType : String) (hs : s.status ≠ .str "SUCCEEDED")
    (hrouted : ∃ rc, rc ≠ "" ∧ w.routingClass = some rc)
    (hduration : durationMs millis w = .null → s.durationMs = .null) :
    s.apply L (ofWorker millis eventType w).event = plain millis w := by
  obtain ⟨rc, hrc, hroute⟩ := hrouted
  have hdept := Telemetry.truthy_str L.arith (departmentOr_ne w.departmentId)
  have hstatus := Telemetry.truthy_str L.arith (value_ne w.state)
  have hclass := Telemetry.truthy_str L.arith hrc
  rw [event_ofWorker]
  unfold Summary.apply Telemetry.orElse plain
  simp only [hroute, Json.ofOptString, hdept, hstatus, hclass, if_true, if_neg hs,
    Summary.mk.injEq, true_and]
  by_cases hd : durationMs millis w = .null
  · rw [if_pos hd, hd, hduration hd]
  · rw [if_neg hd]

/-- A worker that has not ended has not succeeded. -/
theorem plain_status_ne (h : w.live = true) : (plain millis w).status ≠ .str "SUCCEEDED" := by
  intro heq
  have hsucceeded : w.state = .succeeded := value_eq_succeeded.1 (Json.str.inj heq)
  rw [WorkerDefinition.live, hsucceeded] at h
  exact absurd h (by decide)

/-- **Step.**  The events of starting a worker that is new say how it ends. -/
theorem foldl_ofStart {world : World} {task : Task} {c : TaskExecutionContext}
    (hnew : w.state = .created) (hstarted : w.startedAt = none) (hfinished : w.finishedAt = none)
    (hrouted : ∃ rc, rc ≠ "" ∧ w.routingClass = some rc) :
    (ofStart millis world w task c).foldl (fun s r => s.apply L r.event) (plain millis w) =
      plain millis (endWorker world w (endContext world w task c).status) := by
  have hlive : w.live = true := by simp [WorkerDefinition.live, hnew]
  have hrunning : (runningWorker world w).live = true := rfl
  have hnull : durationMs millis w = .null := by rw [durationMs, hstarted]
  have hnull' : durationMs millis (runningWorker world w) = .null := by
    rw [durationMs, runningWorker, hfinished]
  have hfirst (t : String) : (plain millis w).apply L
      (ofWorker millis t (runningWorker world w)).event = plain millis (runningWorker world w) :=
    apply_ofWorker _ (plain_status_ne hlive) hrouted fun _ => hnull
  have hagain (t : String) : (plain millis (runningWorker world w)).apply L
      (ofWorker millis t (runningWorker world w)).event = plain millis (runningWorker world w) :=
    apply_ofWorker _ (plain_status_ne hrunning) hrouted fun _ => hnull'
  have hlast (t : String) (st : ExecutionStatus) : (plain millis (runningWorker world w)).apply L
      (ofWorker millis t (endWorker world w st)).event = plain millis (endWorker world w st) :=
    apply_ofWorker _ (plain_status_ne hrunning) hrouted fun _ => hnull'
  rw [ofStart, List.foldl_cons, hfirst, List.foldl_append]
  by_cases hi : inferred world w = true
  · rw [if_pos hi]
    simp only [List.foldl_cons, List.foldl_nil, hagain, hlast]
  · rw [if_neg hi]
    simp only [List.foldl_cons, List.foldl_nil, hlast]

theorem isOf_ofStart {world : World} {task : Task} {c : TaskExecutionContext} {r : Report}
    (h : r ∈ ofStart millis world w task c) : ∃ t w', w'.executionId = w.executionId ∧
      r = ofWorker millis t w' := by
  rw [ofStart, List.mem_cons, List.mem_append, List.mem_singleton] at h
  rcases h with rfl | h | rfl
  · exact ⟨"execution.started", runningWorker world w, rfl, rfl⟩
  · split_ifs at h
    · exact ⟨"inference_completed", runningWorker world w, rfl, List.mem_singleton.1 h⟩
    · cases h
  · exact ⟨_, endWorker world w _, rfl, rfl⟩

end

end Report

/-! ### What every call keeps -/

namespace ObservedRun

open Report

section Tells

variable (L : Library) (millis : ℕ → ℕ → ℤ)

/-- What is said of a worker is what the matrix has to show of it. -/
structure Tells (s : ObservedRun) (w : WorkerDefinition) : Prop where
  told : told L s.reports w.executionId = some (s.summaryOf millis w)
  routed : ∃ rc, rc ≠ "" ∧ w.routingClass = some rc
  idle : w.state = .created → w.startedAt = none ∧ w.finishedAt = none
  fenced : s.fencedFrom w.executionId ≠ none → w.state = .failed

/-- The events of a run say what the matrix has to show. -/
structure Consistent (s : ObservedRun) : Prop where
  owned : s.run.IsOwned
  workers : ∀ w ∈ s.run.manager.workers.values, Tells L millis s w
  refusals : ∀ r ∈ s.refused, Report.told L s.reports r.1 = some (summaryOfRefused r.2)
  /-- Every event is one of an execution that was submitted. -/
  known : ∀ r ∈ s.reports, ∃ x ∈ s.ids, r.get "execution_id" = .str x
  named : ∀ x ∈ s.ids, x ≠ ""
  distinct : s.ids.Nodup
  fenced : ∀ x, s.fencedFrom x ≠ none → x ∈ s.ids

end Tells

variable {L : Library} {millis : ℕ → ℕ → ℤ} {s t : ObservedRun} {w w' : WorkerDefinition}

theorem summaryOf_eq_plain (h : s.fencedFrom w.executionId = none) :
    s.summaryOf millis w = plain millis w := by
  rw [summaryOf, shown, h]
  rfl

/-- A worker that has not failed was not fenced off. -/
theorem Tells.not_fenced (h : Tells L millis s w) (hf : w.state ≠ .failed) :
    s.fencedFrom w.executionId = none := by
  by_contra hne
  exact hf (h.fenced hne)

theorem Tells.told_plain (h : Tells L millis s w) (hf : w.state ≠ .failed) :
    Report.told L s.reports w.executionId = some (plain millis w) := by
  rw [h.told, summaryOf_eq_plain (h.not_fenced hf)]

/-- Two workers of one execution are one. -/
theorem eq_of_executionId (h : s.run.IsOwned) (hw : w ∈ s.run.manager.workers.values)
    (hw' : w' ∈ s.run.manager.workers.values) (he : w.executionId = w'.executionId) : w = w' := by
  obtain ⟨id, hid⟩ := Dict.exists_get?_of_mem_values hw
  obtain ⟨id', hid'⟩ := Dict.exists_get?_of_mem_values hw'
  obtain rfl := h.single _ _ _ _ hid hid' he
  exact Option.some.inj (hid.symm.trans hid')

theorem mem_ids_of_worker (h : w ∈ s.run.manager.workers.values) : w.executionId ∈ s.ids :=
  List.mem_append_right _ (List.mem_map_of_mem h)

theorem isOf_of_get {r : Report} {x y : String} (h : r.get "execution_id" = .str x) :
    r.isOf y = decide (x = y) := by
  rw [isOf, h]
  exact decide_eq_decide.2 (by rw [Json.str.injEq])

/-- A call without events that changes no worker. -/
theorem Consistent.same (h : Consistent L millis s) (howned : t.run.IsOwned)
    (hworkers : t.run.manager.workers = s.run.manager.workers) (hrefused : t.refused = s.refused)
    (hreports : t.reports = s.reports) (hfenced : t.fencedFrom = s.fencedFrom) :
    Consistent L millis t := by
  have hids : t.ids = s.ids := by rw [ids, hrefused, hworkers, ids]
  refine ⟨howned, fun w hw => ?_, ?_, ?_, ?_, ?_, ?_⟩
  · obtain ⟨htold, hrouted, hidle, hf⟩ := h.workers w (hworkers ▸ hw)
    refine ⟨?_, hrouted, hidle, hfenced ▸ hf⟩
    rw [hreports, htold, summaryOf, summaryOf, shown, shown, hfenced]
  · rw [hrefused, hreports]
    exact h.refusals
  · rw [hreports, hids]
    exact h.known
  · exact hids ▸ h.named
  · exact hids ▸ h.distinct
  · rw [hfenced, hids]
    exact h.fenced

/-- **A worker changes**, with events that are all of its execution. -/
theorem Consistent.change (h : Consistent L millis s) (rs : List Report)
    (hw : s.run.manager.workers.get? w.workerId = some w) (howned : t.run.IsOwned)
    (hworkers : t.run.manager.workers = s.run.manager.workers.set w.workerId w')
    (hexecution : w'.executionId = w.executionId) (hrefused : t.refused = s.refused)
    (hreports : t.reports = s.reports ++ rs)
    (hrs : ∀ r ∈ rs, r.get "execution_id" = .str w.executionId)
    (hfenced : ∀ x, x ≠ w.executionId → t.fencedFrom x = s.fencedFrom x)
    (hw' : Tells L millis t w') : Consistent L millis t := by
  obtain ⟨l₁, l₂, hold, hset⟩ := Dict.values_set_of_get? hw
  have hmem : w ∈ s.run.manager.workers.values := Dict.mem_values_of_get? hw
  have hids : t.ids = s.ids := by
    rw [ids, hrefused, hworkers, hset, ids, hold]
    simp [hexecution]
  have hother : ∀ x, x ≠ w.executionId →
      Report.told L t.reports x = Report.told L s.reports x := by
    intro x hx
    rw [hreports]
    refine told_append_other fun r hr => ?_
    rw [isOf_of_get (hrs r hr)]
    exact decide_eq_false (Ne.symm hx)
  refine ⟨howned, fun v hv => ?_, fun r hr => ?_, fun r hr => ?_, ?_, ?_, fun x hx => ?_⟩
  · by_cases he : v.executionId = w.executionId
    · have hv' : w' ∈ t.run.manager.workers.values := by
        rw [hworkers]
        exact Dict.mem_values_of_get? (Dict.get?_set_self _ _)
      obtain rfl := eq_of_executionId howned hv hv' (he.trans hexecution.symm)
      exact hw'
    · have hvs : v ∈ s.run.manager.workers.values := by
        rw [hworkers, hset, List.mem_append, List.mem_cons] at hv
        rw [hold, List.mem_append, List.mem_cons]
        rcases hv with hv | rfl | hv
        · exact .inl hv
        · exact absurd hexecution he
        · exact .inr (.inr hv)
      obtain ⟨htold, hrouted, hidle, hf⟩ := h.workers v hvs
      refine ⟨?_, hrouted, hidle, hfenced _ he ▸ hf⟩
      rw [hother _ he, htold, summaryOf, summaryOf, shown, shown, hfenced _ he]
  · -- a refused execution has no worker
    have hr' : r ∈ s.refused := hrefused ▸ hr
    have hne : r.1 ≠ w.executionId := by
      intro he
      exact List.disjoint_of_nodup_append h.distinct (List.mem_map_of_mem hr')
        (he ▸ List.mem_map_of_mem hmem)
    rw [hother _ hne]
    exact h.refusals r hr'
  · rw [hids]
    rw [hreports, List.mem_append] at hr
    rcases hr with hr | hr
    · exact h.known r hr
    · exact ⟨w.executionId, mem_ids_of_worker hmem, hrs r hr⟩
  · exact hids ▸ h.named
  · exact hids ▸ h.distinct
  · rw [hids]
    by_cases he : x = w.executionId
    · rw [he]
      exact mem_ids_of_worker hmem
    · rw [hfenced x he] at hx
      exact h.fenced x hx

/-! ### Every call -/

theorem mem_values_of_keyed (h : s.run.IsOwned) {id : String}
    (hw : s.run.manager.workers.get? id = some w) :
    w.workerId = id ∧ s.run.manager.workers.get? w.workerId = some w := by
  have hid := h.keyed _ _ hw
  exact ⟨hid, hid ▸ hw⟩

/-- A worker that has not ended is cancelled or terminated. -/
theorem Consistent.updateWorker (h : Consistent L millis s) {op : WorkerOp} {workerId : String}
    (f : WorkerDefinition → WorkerDefinition) (eventType : String)
    (howned : (s.run.next op).IsOwned)
    (hrun : (s.run.next op).manager = s.run.manager.updateWorker workerId f)
    (hrefuses : refuses s.run op = []) (hfences : fences s.run op = none)
    (hreports : reportsOf millis s.run op = match s.run.manager.workers.get? workerId with
      | some worker => if worker.live then [ofWorker millis eventType (f worker)] else []
      | none => [])
    (hf : ∀ w, w.live = false → f w = w)
    (hlive : ∀ w, w.live = true → (f w).executionId = w.executionId ∧
      (f w).routingClass = w.routingClass ∧ (f w).state ≠ .created ∧
      (durationMs millis (f w) = .null → durationMs millis w = .null)) :
    Consistent L millis (s.next millis op) := by
  have hrefused : (s.next millis op).refused = s.refused := by
    rw [next, hrefuses, List.append_nil]
  have hfenced : (s.next millis op).fencedFrom = s.fencedFrom := by
    rw [next, hfences, fencedNext]
  cases hw : s.run.manager.workers.get? workerId with
  | none =>
    rw [hw] at hreports
    refine h.same howned ?_ hrefused (by rw [next, hreports, List.append_nil]) hfenced
    rw [next, hrun, ExecutionManager.updateWorker, hw]
  | some w =>
    rw [hw] at hreports
    have hworkers : (s.next millis op).run.manager.workers =
        s.run.manager.workers.set workerId (f w) := by
      rw [next, hrun, ExecutionManager.updateWorker, hw]
    obtain ⟨rfl, hget⟩ := mem_values_of_keyed h.owned hw
    cases hl : w.live with
    | false =>
      refine h.same howned ?_ hrefused (by simp [next, hreports, hl]) hfenced
      rw [hworkers, hf w hl, Dict.set_of_get? hw]
    | true =>
      obtain ⟨hexecution, hroute, hcreated, hduration⟩ := hlive w hl
      have hw' := h.workers w (Dict.mem_values_of_get? hw)
      have hnot : w.state ≠ .failed := by
        intro hstate
        rw [WorkerDefinition.live, hstate] at hl
        exact absurd hl (by decide)
      have hid : (ofWorker millis eventType (f w)).get "execution_id" = .str w.executionId := by
        rw [← hexecution]
        rfl
      have hreports' : (s.next millis op).reports =
          s.reports ++ [ofWorker millis eventType (f w)] := by
        simp [next, hreports, hl]
      have hnofence : (s.next millis op).fencedFrom (f w).executionId = none := by
        rw [hfenced, hexecution]
        exact hw'.not_fenced hnot
      refine h.change _ hget howned hworkers hexecution hrefused hreports' ?_
        (fun x _ => by rw [hfenced]) ⟨?_, ?_, fun hc => absurd hc hcreated, fun hne =>
          absurd hnofence hne⟩
      · intro r hr
        rw [List.mem_singleton.1 hr, hid]
      · have hof : ∀ r ∈ [ofWorker millis eventType (f w)], r.isOf w.executionId = true := by
          intro r hr
          rw [List.mem_singleton.1 hr, isOf_of_get hid]
          exact decide_eq_true rfl
        have hplain := apply_ofWorker (L := L) (s := plain millis w) (w := f w)
          eventType (plain_status_ne hl) (hroute ▸ hw'.routed) hduration
        rw [hreports', hexecution, told_append_own hof (hw'.told_plain hnot),
          summaryOf_eq_plain hnofence, List.foldl_cons, List.foldl_nil, hplain]
      · rw [hroute]
        exact hw'.routed

/-- A worker that is new is started. -/
theorem Consistent.start (h : Consistent L millis s) {op : WorkerOp} {world : World} {task : Task}
    {c : TaskExecutionContext} (howned : (s.run.next op).IsOwned)
    (hw : s.run.manager.workers.get? w.workerId = some w)
    (hworkers : (s.run.next op).manager.workers = s.run.manager.workers.set w.workerId
      (endWorker world w (endContext world w task c).status))
    (hstate : w.state = .created) (hrefuses : refuses s.run op = [])
    (hfences : fences s.run op = none)
    (hreports : reportsOf millis s.run op = ofStart millis world w task c) :
    Consistent L millis (s.next millis op) := by
  have hw' := h.workers w (Dict.mem_values_of_get? hw)
  obtain ⟨hstarted, hfinished⟩ := hw'.idle hstate
  have hnot : w.state ≠ .failed := by
    rw [hstate]
    decide
  have hfenced : (s.next millis op).fencedFrom = s.fencedFrom := by
    rw [next, hfences, fencedNext]
  have hid : ∀ r ∈ ofStart millis world w task c, r.get "execution_id" = .str w.executionId := by
    intro r hr
    obtain ⟨t, v, hv, rfl⟩ := isOf_ofStart hr
    rw [← hv]
    rfl
  have hnofence : (s.next millis op).fencedFrom w.executionId = none := by
    rw [hfenced]
    exact hw'.not_fenced hnot
  have hreports' : (s.next millis op).reports = s.reports ++ ofStart millis world w task c := by
    rw [next, hreports]
  refine h.change _ hw howned hworkers rfl (by rw [next, hrefuses, List.append_nil]) hreports' hid
    (fun x _ => by rw [hfenced]) ⟨?_, hw'.routed, fun hc => ?_, fun hne => absurd hnofence hne⟩
  · have hof : ∀ r ∈ ofStart millis world w task c, r.isOf w.executionId = true := by
      intro r hr
      rw [isOf_of_get (hid r hr)]
      exact decide_eq_true rfl
    show Report.told L (s.next millis op).reports w.executionId = _
    rw [hreports', told_append_own hof (hw'.told_plain hnot),
      foldl_ofStart hstate hstarted hfinished hw'.routed]
    exact congrArg some
      (summaryOf_eq_plain (w := endWorker world w (endContext world w task c).status) hnofence).symm
  · exact absurd hc (workerStateOf_ne_created _)

/-- A worker is fenced off: it fails, and nothing is said about it. -/
theorem Consistent.fence (h : Consistent L millis s) {op : WorkerOp}
    (howned : (s.run.next op).IsOwned)
    (hw : s.run.manager.workers.get? w.workerId = some w)
    (hworkers : (s.run.next op).manager.workers =
      s.run.manager.workers.set w.workerId { w with state := .failed })
    (hrefuses : refuses s.run op = []) (hfences : fences s.run op = some w)
    (hreports : reportsOf millis s.run op = []) : Consistent L millis (s.next millis op) := by
  have hw' := h.workers w (Dict.mem_values_of_get? hw)
  have hreports' : (s.next millis op).reports = s.reports := by
    rw [next, hreports, List.append_nil]
  have hfenced : (s.next millis op).fencedFrom = Function.update s.fencedFrom w.executionId
      (some ((s.fencedFrom w.executionId).getD w.state)) := by
    rw [next, hfences, fencedNext]
  refine h.change [] hw howned hworkers rfl (by rw [next, hrefuses, List.append_nil])
    (by rw [hreports', List.append_nil]) (fun r hr => absurd hr (by simp))
    (fun x hx => by rw [hfenced, Function.update_of_ne hx]) ⟨?_, hw'.routed, fun hc => ?_,
      fun _ => rfl⟩
  · rw [hreports']
    refine hw'.told.trans (congrArg some ?_)
    -- the worker is shown in the state that it had
    have hshown : (s.next millis op).shown { w with state := .failed } = s.shown w := by
      show ((s.next millis op).fencedFrom w.executionId).getD .failed = _
      rw [hfenced, Function.update_self]
      rfl
    show s.summaryOf millis w = (s.next millis op).summaryOf millis { w with state := .failed }
    rw [summaryOf, summaryOf, hshown]
    rfl
  · cases hc

/-- No event is of an execution that was not submitted. -/
theorem Consistent.unheard (h : Consistent L millis s) {x : String} (hx : x ∉ s.ids) :
    ∀ r ∈ s.reports, r.isOf x = false := by
  intro r hr
  obtain ⟨y, hy, hget⟩ := h.known r hr
  rw [isOf_of_get hget]
  refine decide_eq_false ?_
  rintro rfl
  exact hx hy

theorem routingClass_ne (t : String) : ExecutionManager.routingClass t ≠ "" := by
  unfold ExecutionManager.routingClass
  split_ifs <;> decide

/-- A submission that is refused. -/
theorem Consistent.refuse (h : Consistent L millis s) {sub : Submission} {task : Task}
    (howned : (s.run.next (.submit sub task)).IsOwned) (hne : sub.executionId ≠ "")
    (hnew : sub.executionId ∉ s.ids) (hnone : (s.run.manager.submitTask sub task).1 = none)
    (hworkers : (s.run.manager.submitTask sub task).2.workers = s.run.manager.workers) :
    Consistent L millis (s.next millis (.submit sub task)) := by
  have hreports : (s.next millis (.submit sub task)).reports =
      s.reports ++ [taskCreated sub task] := by
    simp [next, reportsOf, hnone]
  have hrefused : (s.next millis (.submit sub task)).refused =
      s.refused ++ [(sub.executionId, departmentOr task.departmentId)] := by
    simp [next, refuses, hnone]
  have hids : (s.next millis (.submit sub task)).ids.Perm (sub.executionId :: s.ids) := by
    rw [ids, hrefused, next, WorkerRun.next, hworkers, List.map_append, List.append_assoc]
    exact List.perm_middle
  have hother : ∀ x ∈ s.ids, Report.told L (s.next millis (.submit sub task)).reports x =
      Report.told L s.reports x := by
    intro x hx
    rw [hreports]
    refine told_append_other fun r hr => ?_
    rw [List.mem_singleton.1 hr, isOf_taskCreated]
    refine decide_eq_false ?_
    rintro rfl
    exact hnew hx
  refine ⟨howned, fun w hw => ?_, fun r hr => ?_, fun r hr => ?_, fun x hx => ?_, ?_,
    fun x hx => ?_⟩
  · rw [next, WorkerRun.next, hworkers] at hw
    obtain ⟨htold, hrouted, hidle, hf⟩ := h.workers w hw
    exact ⟨(hother _ (mem_ids_of_worker hw)).trans htold, hrouted, hidle, hf⟩
  · rw [hrefused, List.mem_append, List.mem_singleton] at hr
    rcases hr with hr | rfl
    · rw [hother _ (List.mem_append_left _ (List.mem_map_of_mem hr))]
      exact h.refusals r hr
    · have hof : (taskCreated sub task).isOf sub.executionId = true := by
        rw [isOf_taskCreated]
        exact decide_eq_true rfl
      rw [hreports, told_append_new hof (h.unheard hnew), apply_taskCreated]
  · rw [hreports, List.mem_append, List.mem_singleton] at hr
    rcases hr with hr | rfl
    · obtain ⟨x, hx, hget⟩ := h.known r hr
      exact ⟨x, hids.mem_iff.2 (List.mem_cons_of_mem _ hx), hget⟩
    · exact ⟨sub.executionId, hids.mem_iff.2 List.mem_cons_self, rfl⟩
  · rcases List.mem_cons.1 (hids.mem_iff.1 hx) with rfl | hx
    · exact hne
    · exact h.named x hx
  · exact hids.nodup_iff.2 (List.nodup_cons.2 ⟨hnew, h.distinct⟩)
  · exact hids.mem_iff.2 (List.mem_cons_of_mem _ (h.fenced x hx))

/-- A submission that is accepted: there is a new worker. -/
theorem Consistent.accept (h : Consistent L millis s) {sub : Submission} {task : Task}
    (howned : (s.run.next (.submit sub task)).IsOwned) (hne : sub.executionId ≠ "")
    (hnew : sub.executionId ∉ s.ids)
    (hfresh : s.run.manager.workers.get? ("wrk-" ++ sub.workerUuid) = none)
    {c : TaskExecutionContext} (hsome : (s.run.manager.submitTask sub task).1 = some c)
    (hworkers : (s.run.manager.submitTask sub task).2.workers =
      s.run.manager.workers.set ("wrk-" ++ sub.workerUuid) w)
    (hexecution : w.executionId = sub.executionId) (hstate : w.state = .created)
    (hroute : ∃ rc, rc ≠ "" ∧ w.routingClass = some rc)
    (hidle : w.startedAt = none ∧ w.finishedAt = none) :
    Consistent L millis (s.next millis (.submit sub task)) := by
  have hreports : (s.next millis (.submit sub task)).reports =
      s.reports ++ [taskCreated sub task] ++ [ofWorker millis "task.routed" w] := by
    simp [next, reportsOf, hsome, hworkers]
  have hrefused : (s.next millis (.submit sub task)).refused = s.refused := by
    simp [next, refuses, hsome]
  have hvalues : (s.next millis (.submit sub task)).run.manager.workers.values =
      s.run.manager.workers.values ++ [w] := by
    rw [next, WorkerRun.next, hworkers]
    exact Dict.values_set_of_get?_eq_none hfresh w
  have hids : (s.next millis (.submit sub task)).ids = s.ids ++ [sub.executionId] := by
    rw [ids, hrefused, hvalues, List.map_append, List.map_singleton, hexecution,
      ← List.append_assoc, ids]
  have hof : (taskCreated sub task).isOf sub.executionId = true := by
    rw [isOf_taskCreated]
    exact decide_eq_true rfl
  have hother : ∀ x ∈ s.ids, Report.told L (s.next millis (.submit sub task)).reports x =
      Report.told L s.reports x := by
    intro x hx
    have hx' : sub.executionId ≠ x := by
      rintro rfl
      exact hnew hx
    rw [hreports, List.append_assoc]
    refine told_append_other fun r hr => ?_
    rcases List.mem_append.1 hr with hr | hr
    · rw [List.mem_singleton.1 hr, isOf_taskCreated]
      exact decide_eq_false hx'
    · rw [List.mem_singleton.1 hr, isOf_ofWorker, hexecution]
      exact decide_eq_false hx'
  have hnofence : s.fencedFrom w.executionId = none := by
    by_contra hf
    exact hnew (hexecution ▸ h.fenced _ hf)
  refine ⟨howned, fun v hv => ?_, fun r hr => ?_, fun r hr => ?_, fun x hx => ?_, ?_,
    fun x hx => ?_⟩
  · rw [hvalues, List.mem_append, List.mem_singleton] at hv
    rcases hv with hv | rfl
    · obtain ⟨htold, hrouted, hidle, hf⟩ := h.workers v hv
      exact ⟨(hother _ (mem_ids_of_worker hv)).trans htold, hrouted, hidle, hf⟩
    · refine ⟨?_, hroute, fun _ => hidle, fun hf => absurd hnofence hf⟩
      have hfirst := (told_append_new (L := L) hof (h.unheard hnew)).trans
        (congrArg some apply_taskCreated)
      have hown : ∀ r ∈ [ofWorker millis "task.routed" v], r.isOf sub.executionId = true := by
        intro r hr
        rw [List.mem_singleton.1 hr, isOf_ofWorker]
        exact decide_eq_true hexecution
      have hunknown : (summaryOfRefused (departmentOr task.departmentId)).status ≠
          .str "SUCCEEDED" := fun heq => absurd (Json.str.inj heq) (by decide)
      have hsaid : (summaryOfRefused (departmentOr task.departmentId)).apply L
          (ofWorker millis "task.routed" v).event = plain millis v :=
        apply_ofWorker _ hunknown hroute fun _ => rfl
      rw [hreports, hexecution, told_append_own hown hfirst, List.foldl_cons, List.foldl_nil,
        hsaid]
      exact congrArg some (summaryOf_eq_plain (s := s.next millis (.submit sub task))
        hnofence).symm
  · have hr' : r ∈ s.refused := hrefused ▸ hr
    rw [hother _ (List.mem_append_left _ (List.mem_map_of_mem hr'))]
    exact h.refusals r hr'
  · rw [hids]
    rw [hreports, List.append_assoc] at hr
    rcases List.mem_append.1 hr with hr | hr
    · obtain ⟨x, hx, hget⟩ := h.known r hr
      exact ⟨x, List.mem_append_left _ hx, hget⟩
    · refine ⟨sub.executionId, List.mem_append_right _ List.mem_cons_self, ?_⟩
      rcases List.mem_append.1 hr with hr | hr
      · rw [List.mem_singleton.1 hr]
        rfl
      · rw [List.mem_singleton.1 hr, ← hexecution]
        rfl
  · rw [hids, List.mem_append, List.mem_singleton] at hx
    rcases hx with hx | rfl
    · exact h.named x hx
    · exact hne
  · rw [hids, List.nodup_append]
    refine ⟨h.distinct, List.nodup_singleton _, fun a ha b hb hab => ?_⟩
    rw [hab, List.mem_singleton.1 hb] at ha
    exact hnew ha
  · rw [hids]
    exact List.mem_append_left _ (h.fenced x hx)

theorem executable?_eq_none {m : ExecutionManager} {executionId : String}
    (h : ∀ c task worker, ¬ m.Executable executionId c task worker) :
    m.executable? executionId = none := by
  unfold ExecutionManager.executable?
  split
  · rename_i c task hc ht
    split
    · rename_i cap worker hcap hw
      exact absurd ⟨hc, ht, by rw [hcap]; rfl, hw⟩ (h c task worker)
    · rfl
  · rfl

/-- `start_worker` says nothing when it raises a `ValueError`. -/
theorem reportsOf_start {r : WorkerRun} {w : World} {workerId executionId : String}
    (h : r.manager.startWorkerOf w workerId executionId = none) :
    reportsOf millis r (.start w workerId executionId) = [] := by
  unfold ExecutionManager.startWorkerOf at h
  cases hw : r.manager.workers.get? workerId with
  | none => simp only [reportsOf, hw]
  | some worker =>
    cases hc : r.manager.executions.get? executionId with
    | none => simp only [reportsOf, hw, hc]
    | some c =>
      cases ht : r.manager.tasks.get? executionId with
      | none => simp only [reportsOf, hw, hc, ht]
      | some task =>
        have hstate : worker.state ≠ .created := by
          intro hcreated
          simp only [hw, hc, ht, Option.map_eq_none_iff] at h
          rw [startWorker, if_neg (not_not.2 hcreated)] at h
          cases h
        simp only [reportsOf, hw, hc, ht, if_neg hstate]

/-- **Step.**  After every call the events say what the matrix has to show. -/
theorem Consistent.next (h : Consistent L millis s) {op : WorkerOp} (hl : s.Legal op) :
    Consistent L millis (s.next millis op) := by
  obtain ⟨hlegal, hown, hfresh⟩ := hl
  have howned : (s.run.next op).IsOwned := h.owned.next hlegal hown
  cases op with
  | generation n =>
    exact h.same howned rfl (List.append_nil _) (List.append_nil _) rfl
  | cancel now workerId =>
    refine h.updateWorker (cancelWorker now) "execution.cancelled" howned rfl
      rfl rfl rfl (fun w hw => by rw [cancelWorker, hw]; rfl) fun w hw => ?_
    have hcancel : cancelWorker now w =
        { w with state := .cancelled, finishedAt := some now } := by
      rw [cancelWorker, if_pos hw]
    rw [hcancel]
    refine ⟨rfl, rfl, fun hc => (by cases hc), fun hnull => ?_⟩
    cases hs : w.startedAt with
    | none => rw [durationMs, hs]
    | some t => simp [durationMs, hs] at hnull
  | terminate workerId =>
    refine h.updateWorker terminateWorker "execution.terminated" howned rfl
      rfl rfl rfl (fun w hw => by rw [terminateWorker, hw]; rfl) fun w hw => ?_
    have hterminate : terminateWorker w = { w with state := .terminated } := by
      rw [terminateWorker, if_pos hw]
    rw [hterminate]
    exact ⟨rfl, rfl, fun hc => (by cases hc), id⟩
  | submit sub task =>
    obtain ⟨hne, hnew⟩ := hfresh sub task rfl
    rcases ExecutionManager.submitTask_cases s.run.manager sub task with
      ⟨hnone, sel, hs⟩ | ⟨cap, selection, path, hcap, heq⟩
    · exact h.refuse howned hne hnew hnone (by rw [hs])
    · refine h.accept howned hne hnew hlegal.2 (congrArg Prod.fst heq)
        (congrArg (fun r => r.2.workers) heq) rfl rfl
        ⟨_, routingClass_ne selection.executorType.value, rfl⟩ ⟨rfl, rfl⟩
  | start w workerId executionId =>
    cases hm : s.run.manager.startWorkerOf w workerId executionId with
    | none =>
      have hnext : s.run.next (.start w workerId executionId) = s.run := by
        simp only [WorkerRun.next, hm]
      have hreports : reportsOf millis s.run (.start w workerId executionId) = [] :=
        reportsOf_start hm
      refine h.same howned ?_ (List.append_nil _) ?_ rfl
      · show (s.run.next (.start w workerId executionId)).manager.workers = _
        rw [hnext]
      · show s.reports ++ reportsOf millis s.run (.start w workerId executionId) = _
        rw [hreports, List.append_nil]
    | some m =>
      have hnext : (s.run.next (.start w workerId executionId)).manager = m := by
        simp only [WorkerRun.next, hm]
      unfold ExecutionManager.startWorkerOf at hm
      split at hm
      · rename_i worker c task hw hc ht
        obtain ⟨⟨c', worker'⟩, hstart, rfl⟩ := Option.map_eq_some_iff.1 hm
        obtain ⟨hstate, rfl, rfl⟩ := startWorker_eq_some.1 hstart
        obtain ⟨-, hget⟩ := mem_values_of_keyed h.owned hw
        refine h.start howned hget (by rw [hnext]; rfl) hstate rfl rfl ?_
        simp only [reportsOf, hw, hc, ht, if_pos hstate]
      · cases hm
  | execute ex executionId =>
    rcases ExecutionManager.executeSync_effect s.run.manager executionId ex with
      ⟨-, hworkers, hstarts⟩ | ⟨c, task, worker, hex, c', worker', -, hworkers, hcase⟩
    · -- nothing is started; a worker is fenced off only when the manager changes
      have hreports : reportsOf millis s.run (.execute ex executionId) = [] := by
        cases hfind : s.run.manager.executable? executionId with
        | none => simp only [reportsOf, hfind]
        | some r => simp only [reportsOf, hfind, hstarts, Bool.false_eq_true, if_false]
      by_cases hexec : ∃ c task worker, s.run.manager.Executable executionId c task worker
      · obtain ⟨c, task, worker, hex⟩ := hexec
        obtain ⟨rfl, id, hget⟩ := ExecutionManager.workerOf_eq_some hex.worker
        obtain ⟨rfl, hget⟩ := mem_values_of_keyed h.owned hget
        cases hf : s.run.manager.fencing c with
        | none =>
          refine h.same howned hworkers (List.append_nil _) ?_ ?_
          · show s.reports ++ reportsOf millis s.run (.execute ex worker.executionId) = _
            rw [hreports, List.append_nil]
          · show fencedNext s.fencedFrom (fences s.run (.execute ex worker.executionId)) = _
            rw [fences, ExecutionManager.executable?_eq hex, Option.bind_some, hf]
            rfl
        | some err =>
          refine h.fence (w := worker) howned hget ?_ rfl ?_ hreports
          · show (s.run.manager.executeSync ex worker.executionId).2.workers = _
            rw [ExecutionManager.executeSync_eq hex, hf]
            rfl
          · rw [fences, ExecutionManager.executable?_eq hex, Option.bind_some, hf]
            rfl
      · have hnone : s.run.manager.executable? executionId = none :=
          executable?_eq_none fun c task worker hex => hexec ⟨c, task, worker, hex⟩
        refine h.same howned hworkers (List.append_nil _) ?_ ?_
        · show s.reports ++ reportsOf millis s.run (.execute ex executionId) = _
          rw [hreports, List.append_nil]
        · show fencedNext s.fencedFrom (fences s.run (.execute ex executionId)) = _
          rw [fences, hnone]
          rfl
    · obtain ⟨rfl, id, hget⟩ := ExecutionManager.workerOf_eq_some hex.worker
      obtain ⟨rfl, hget⟩ := mem_values_of_keyed h.owned hget
      have hfind := ExecutionManager.executable?_eq hex
      rcases hcase with ⟨hf, hstarts, -, rfl⟩ | ⟨hf, hstarts, hstart⟩
      · refine h.fence howned hget hworkers rfl ?_ ?_
        · rw [fences, hfind, Option.bind_some, if_pos hf]
        · simp only [reportsOf, hfind, hstarts, Bool.false_eq_true, if_false]
      · obtain ⟨hstate, rfl, rfl⟩ := startWorker_eq_some.1 hstart
        refine h.start howned hget hworkers hstate rfl ?_ ?_
        · rw [fences, hfind, Option.bind_some, hf]
          rfl
        · simp only [reportsOf, hfind, hstarts, if_true]

/-- What holds in every run. -/
theorem consistent_invariant : (system millis).Invariant (Consistent L millis) where
  init s h := by
    obtain ⟨hinit, hrefused, hreports, hfenced⟩ := h
    have hids : s.ids = [] := by
      rw [ids, hrefused, hinit.2.1]
      rfl
    refine ⟨WorkerRun.isOwned_init hinit, fun w hw => ?_, fun r hr => ?_, fun r hr => ?_,
      fun x hx => ?_, ?_, fun x hx => ?_⟩
    · rw [hinit.2.1] at hw
      cases hw
    · rw [hrefused] at hr
      cases hr
    · rw [hreports] at hr
      cases hr
    · rw [hids] at hx
      cases hx
    · rw [hids]
      exact List.nodup_nil
    · rw [hfenced] at hx
      exact absurd rfl hx
  step _ _ _ h hstep := hstep.2 ▸ h.next hstep.1

end ObservedRun

end Execution

end AnnyRuntime
