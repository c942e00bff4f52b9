import AnnyRuntime.Continuity.Reconstruct
import AnnyRuntime.Execution.Admission
import AnnyRuntime.Lib.Transition

/-!
# Executions across a restart

A manager writes what becomes of its executions to the continuity log, and a new manager
reconstructs them from it.  `Faithful` says that a restart finds every execution with the status
that it had, and `KeepsOthers` that a call changes no record of another execution.

Both fail.  The record of an execution is looked up under a key that no record has, and then the
last record of its *task* is taken; and an execution that is still queued is reconstructed as a
failed one, since its record says `PENDING`.  `restart_spec` : **when every execution that runs is
the one that its lookup finds, other records are never touched, and a restart is faithful exactly
when nothing is queued.**
-/

namespace AnnyRuntime

namespace Execution

open Continuity AnnyRuntime.Core ContinuityEngine Orchestration

/-! ### Calls -/

/-- A call of the manager, or an increment of the generation of its runtime. -/
inductive ManagerOp where
  | submit (sub : Submission) (task : Task)
  | execute (ex : Execute) (executionId : String)
  | generation (n : ℤ)

namespace ExecutionManager

/-- The manager after a call. -/
def next (m : ExecutionManager) : ManagerOp → ExecutionManager
  | .submit sub task => (m.submitTask sub task).2
  | .execute ex executionId => (m.executeSync ex executionId).2
  | .generation n => { m with runtimeEngine := m.runtimeEngine.map fun _ => ⟨n⟩ }

/-- The execution that a call is about. -/
def subject : ManagerOp → Option String
  | .submit sub _ => some sub.executionId
  | .execute _ executionId => some executionId
  | .generation _ => none

/-- A manager that has not been used, over a log that a restart finds. -/
structure Unused (m : ExecutionManager) : Prop where
  executions : m.executions = Dict.empty
  log : ∃ e, m.continuityEngine = some e ∧ Durable e

/-- The ids of a submission are new: nothing in the log and no execution has them, nor the task. -/
structure FreshIds (m : ExecutionManager) (sub : Submission) (task : Task) : Prop where
  execution : m.executions.get? sub.executionId = none
  record : m.executions.get? sub.continuityId = none
  distinct : sub.continuityId ≠ sub.executionId
  task : task.taskId ≠ sub.executionId
  log : ∀ e, m.continuityEngine = some e → e.ownRecords sub.executionId = [] ∧
    e.ownEvents sub.executionId = [] ∧ e.records.get? (.str sub.continuityId) = none

/-- A call can happen: the ids that it draws are new. -/
def Legal (m : ExecutionManager) : ManagerOp → Prop
  | .submit sub task => FreshIds m sub task
  | .execute .. | .generation _ => True

/-- All runs of a manager that starts unused. -/
def managerSystem : System ExecutionManager ManagerOp where
  init := Unused
  step m op m' := m.Legal op ∧ m' = m.next op

/-- A restart finds every execution with the status that it had: the log can be loaded, and a new
manager over it gives that status. -/
def Faithful (m : ExecutionManager) : Prop :=
  ∀ x c, m.executions.get? x = some c → ∃ e e', m.continuityEngine = some e ∧
    ContinuityEngine.init e.disk = some e' ∧ ∀ registry runtime now,
      ((init registry (some e') runtime).getExecution now x).1.map (·.status) = some c.status

/-- A call changes no record but those of the execution that it is about. -/
def KeepsOthers (m : ExecutionManager) (op : ManagerOp) : Prop :=
  ∀ e e', m.continuityEngine = some e → (m.next op).continuityEngine = some e' →
    ∀ k r, e.records.get? k = some r → (∀ x, subject op = some x → r.executionId ≠ .str x) →
      e'.records.get? k = some r

/-- What a call must not do: name a task after an execution, or run an execution when the record
that is looked up for it is not its own. -/
def FindsOwn (m : ExecutionManager) : ManagerOp → Prop
  | .submit _ task => m.executions.get? task.taskId = none
  | .execute _ x => ∀ e c task worker, m.continuityEngine = some e → m.Executable x c task worker →
      m.fencing c = none → worker.state = .created →
      ∀ r, recordOf e x task = some r → r.executionId = .str x
  | .generation _ => True

/-! ### What the log says of an execution -/

/-- What the last event and the record say of an execution with a status. -/
def Told (s : ExecutionStatus) (ev : EventRecord) (r : ContinuityRecord) : Prop :=
  (s = .queued ∧ ev.status = .str "QUEUED" ∧ r.status = .str ContinuityStatus.pending.value) ∨
    (s ≠ .queued ∧ ev.status = .str s.value ∧
      (ev.status ∈ terminalStatuses ∨ r.status = .str s.value))

/-- The record and the last event of an execution. -/
structure Tracked (e : ContinuityEngine) (x : String) (task : Task) (s : ExecutionStatus)
    (r : ContinuityRecord) (ev : EventRecord) : Prop where
  /-- It has one record. -/
  records : e.ownRecords x = [r]
  executionId : r.executionId = .str x
  taskId : r.taskId = .str task.taskId
  /-- The evidence of the record is a list. -/
  evidence : ∃ refs, r.evidenceRefs = .arr refs
  last : (e.ownEvents x).getLast? = some ev
  told : Told s ev r

/-- The log tracks every execution. -/
structure Recorded (m : ExecutionManager) (e : ContinuityEngine) : Prop where
  engine : m.continuityEngine = some e
  durable : Durable e
  tracked : ∀ x c, m.executions.get? x = some c →
    ∃ task r ev, m.tasks.get? x = some task ∧ Tracked e x task c.status r ev

variable {e : ContinuityEngine} {x y : String} {task : Task} {s : ExecutionStatus}
  {r : ContinuityRecord} {ev : EventRecord}

/-! ### Reconstructing -/

/-- The status that a manager gives to an execution that it finds in the log only. -/
theorem status_getExecution {registry : ModelRegistry} {runtime : Option RuntimeGeneration}
    {now : ℕ} {e' : ContinuityEngine} {v : Json} (h : e'.reconstructedStatus x = some v) :
    ((init registry (some e') runtime).getExecution now x).1.map (·.status) =
      some ((ExecutionStatus.ofValue? v).getD .failed) := by
  obtain ⟨rec, hrec, rfl⟩ := Option.map_eq_some_iff.1 h
  have hnone : (init registry (some e') runtime).executions.get? x = none := rfl
  have hbind : ((init registry (some e') runtime).continuityEngine.bind fun e =>
      e.reconstructExecution x) = some rec := hrec
  rw [getExecution, hnone]
  dsimp only
  rw [hbind]
  rfl

theorem Tracked.reconstructed (h : Tracked e x task s r ev) (hd : Durable e) :
    e.reconstructedStatus x = some (if s = .queued then .str ContinuityStatus.pending.value
      else .str s.value) := by
  rw [status_reconstructExecution hd h.last, h.records]
  rcases h.told with ⟨rfl, hev, hr⟩ | ⟨hs, hev, hr⟩
  · have hnot : ev.status ∉ terminalStatuses := by
      rw [hev]
      decide
    rw [if_pos rfl, ← hr]
    exact congrArg some (if_neg hnot)
  · rw [if_neg hs]
    change some (if ev.status ∈ terminalStatuses then ev.status else r.status) = _
    split_ifs with ht
    · rw [hev]
    · rw [hr.resolve_left ht]

/-- What a restart finds of a tracked execution. -/
theorem Tracked.restart (h : Tracked e x task s r ev) (hd : Durable e) :
    ∃ e', ContinuityEngine.init e.disk = some e' ∧ ∀ registry runtime now,
      ((init registry (some e') runtime).getExecution now x).1.map (·.status) =
        some (if s = .queued then .failed else s) := by
  obtain ⟨e', hinit, hr, he, -, -⟩ := hd.init
  refine ⟨e', hinit, fun registry runtime now => ?_⟩
  have hstatus : e'.reconstructedStatus x = e.reconstructedStatus x := by
    rw [reconstructedStatus, reconstructExecution_congr hr he, reconstructedStatus]
  rw [status_getExecution (hstatus.trans (h.reconstructed hd))]
  split_ifs
  · rfl
  · rw [ExecutionStatus.ofValue?_value]
    rfl

theorem Recorded.faithful_iff {m : ExecutionManager} (h : Recorded m e) :
    Faithful m ↔ ∀ x c, m.executions.get? x = some c → c.status ≠ .queued := by
  constructor
  · intro hf x c hc hq
    obtain ⟨task, r, ev, -, ht⟩ := h.tracked x c hc
    obtain ⟨e₁, e', he₁, hinit, hs⟩ := hf x c hc
    obtain rfl := Option.some.inj (h.engine.symm.trans he₁)
    obtain ⟨e'', hinit', hs'⟩ := ht.restart h.durable
    obtain rfl := Option.some.inj (hinit.symm.trans hinit')
    have hne := (hs .empty none 0).symm.trans (hs' .empty none 0)
    rw [if_pos hq, hq] at hne
    exact absurd hne (by decide)
  · intro hq x c hc
    obtain ⟨task, r, ev, -, ht⟩ := h.tracked x c hc
    obtain ⟨e', hinit, hs⟩ := ht.restart h.durable
    refine ⟨e, e', h.engine, hinit, fun registry runtime now => ?_⟩
    rw [hs, if_neg (hq x c hc)]

/-! ### What writing changes -/

/-- An event of the execution `y` belongs to it, and to what its task is named after. -/
theorem relevantEvent_iff {t : String} (hx : ev.executionId = .str y) (ht : ev.taskId = .str t)
    (hi : inputOf ev "execution_id" = some (.str y)) :
    relevantEvent x ev = true ↔ y = x ∨ t = x := by
  simp only [relevantEvent, hx, ht, hi, Bool.or_eq_true, decide_eq_true_eq, Json.str.injEq,
    Option.some.injEq]
  exact ⟨fun h => h.elim id Or.inl, fun h => Or.inl h⟩

theorem relevantEvent_completion (ex : Execute) (c : TaskExecutionContext) :
    relevantEvent x (completionEvent ex task y c) = true ↔ y = x ∨ task.taskId = x :=
  relevantEvent_iff rfl rfl rfl

theorem relevantEvent_fenced (ex : Execute) (c : TaskExecutionContext) (message : String) :
    relevantEvent x (fencedEvent ex task y c message) = true ↔ y = x ∨ task.taskId = x :=
  relevantEvent_iff rfl rfl rfl

theorem relevantEvent_submission (sub : Submission) (c : TaskExecutionContext) :
    relevantEvent x (submissionEvent sub task c) = true ↔
      sub.executionId = x ∨ task.taskId = x :=
  relevantEvent_iff rfl rfl rfl

theorem relevantRecord_submission (sub : Submission) :
    relevantRecord x (submissionRecord sub task) = true ↔
      sub.executionId = x ∨ task.taskId = x ∨ sub.continuityId = x := by
  simp only [relevantRecord, Bool.or_eq_true, decide_eq_true_eq, or_assoc]
  refine or_congr ?_ (or_congr ?_ ?_)
  · exact Json.str.injEq _ _ ▸ Iff.rfl
  · exact Json.str.injEq _ _ ▸ Iff.rfl
  · exact Json.Key.str_inj

/-- An event of another execution. -/
theorem Tracked.appendEvent (h : Tracked e x task s r ev) {ev' : EventRecord}
    (hrel : ¬ relevantEvent x ev' = true) : Tracked (e.appendEvent ev') x task s r ev :=
  { h with
    last := by
      rw [ownEvents_appendEvent, if_neg hrel, List.append_nil]
      exact h.last }

/-- A record of another execution that is saved again. -/
theorem Tracked.saveRecord (h : Tracked e x task s r ev) {r' w : ContinuityRecord}
    (hget : e.records.get? r'.continuityId.norm = some w)
    (hrel : relevantRecord x r' = relevantRecord x w) (hw : relevantRecord x w = false) :
    Tracked (e.saveRecord r') x task s r ev :=
  { h with
    records := by
      rw [(ownRecords_saveRecord hget hrel).1 hw]
      exact h.records }

/-- A new record of another execution. -/
theorem Tracked.saveRecord_new (h : Tracked e x task s r ev) (r' : ContinuityRecord)
    (hget : e.records.get? r'.continuityId.norm = none) (hrel : ¬ relevantRecord x r' = true) :
    Tracked (e.saveRecord r') x task s r ev :=
  { h with
    records := by
      rw [ownRecords_saveRecord_new hget, if_neg hrel, List.append_nil]
      exact h.records }

theorem Tracked.mem_values (h : Tracked e x task s r ev) :
    r ∈ e.records.values ∧ relevantRecord x r = true := by
  have hmem : r ∈ e.ownRecords x := by
    rw [h.records]
    exact List.mem_singleton_self r
  exact List.mem_filter.1 hmem

/-- Of another execution, neither the record nor the name of the task is relevant. -/
theorem Tracked.irrelevant (h : Tracked e x task s r ev) {task' : Task} {s' : ExecutionStatus}
    {r' : ContinuityRecord} {ev' : EventRecord} (h' : Tracked e y task' s' r' ev') (hne : y ≠ x) :
    relevantRecord x r' = false ∧ task'.taskId ≠ x := by
  have hrel : relevantRecord x r' = false := by
    by_contra hrel
    have hmem : r' ∈ e.ownRecords x :=
      List.mem_filter.2 ⟨h'.mem_values.1, by simpa using hrel⟩
    rw [h.records, List.mem_singleton] at hmem
    subst hmem
    exact hne (Json.str.inj (h'.executionId.symm.trans h.executionId))
  refine ⟨hrel, fun ht => ?_⟩
  have htask : r'.taskId = .str x := by rw [h'.taskId, ht]
  rw [relevantRecord, htask] at hrel
  simp at hrel

/-! ### Submitting -/

variable {m : ExecutionManager}

theorem Recorded.congr (h : Recorded m e) {m' : ExecutionManager}
    (hx : m'.executions = m.executions) (ht : m'.tasks = m.tasks)
    (he : m'.continuityEngine = m.continuityEngine) : Recorded m' e where
  engine := he.trans h.engine
  durable := h.durable
  tracked := by
    rw [hx, ht]
    exact h.tracked

/-- A new execution is tracked, and the others still are. -/
theorem Recorded.enqueue (h : Recorded m e) {sub : Submission} (c : TaskExecutionContext)
    (worker : WorkerDefinition) (hids : FreshIds m sub task)
    (hname : m.executions.get? task.taskId = none) (hc : c.status = .queued) :
    Recorded (m.enqueue sub task c worker)
      ((e.saveRecord (submissionRecord sub task)).appendEvent (submissionEvent sub task c)) where
  engine := by
    change m.continuityEngine.map _ = _
    rw [h.engine]
    rfl
  durable := (h.durable.saveRecord _).appendEvent _
  tracked := by
    obtain ⟨hrecords, hevents, hnew⟩ := hids.log e h.engine
    intro x c' hx
    change (m.executions.set sub.executionId c).get? x = some c' at hx
    -- the new execution has the new event as its last one, and the others have theirs as before
    obtain ⟨rfl, rfl⟩ | ⟨hxs, hx⟩ := Dict.of_get?_set hx
    · refine ⟨task, submissionRecord sub task,
        { submissionEvent sub task c' with sequence := e.eventSequence + 1 }, ?_, ?_, rfl, rfl,
        ⟨[], rfl⟩, ?_, Or.inl ⟨hc, rfl, rfl⟩⟩
      · exact Dict.get?_set_self _ _
      · change (e.saveRecord (submissionRecord sub task)).ownRecords sub.executionId = _
        rw [ownRecords_saveRecord_new hnew, hrecords,
          if_pos (relevantRecord_submission sub |>.2 (Or.inl rfl)), List.nil_append]
      · rw [ownEvents_appendEvent]
        change (e.ownEvents sub.executionId ++ _).getLast? = _
        rw [hevents, if_pos (relevantEvent_submission sub c' |>.2 (Or.inl rfl))]
        rfl
    · obtain ⟨task', r, ev, htask, ht⟩ := h.tracked x c' hx
      have htx : task.taskId ≠ x := by
        rintro rfl
        exact absurd (hname.symm.trans hx) (by simp)
      have hcx : sub.continuityId ≠ x := by
        rintro rfl
        exact absurd (hids.record.symm.trans hx) (by simp)
      have hsaved := ht.saveRecord_new (submissionRecord sub task) hnew
      refine ⟨task', r, ev, ?_, (hsaved ?_).appendEvent ?_⟩
      · change (m.tasks.set sub.executionId task).get? x = some task'
        rw [Dict.get?_set_ne hxs]
        exact htask
      · rw [relevantRecord_submission]
        exact fun h => h.elim (fun h => hxs h.symm) fun h => h.elim htx hcx
      · rw [relevantEvent_submission]
        exact fun h => h.elim (fun h => hxs h.symm) htx

theorem recorded_submit (h : Recorded m e) {sub : Submission} (hids : FreshIds m sub task)
    (hname : m.executions.get? task.taskId = none) :
    ∃ e', Recorded (m.next (.submit sub task)) e' ∧
      ∀ k r, e.records.get? k = some r → e'.records.get? k = some r := by
  rcases submitTask_cases m sub task with ⟨-, sel, hs⟩ | ⟨cap, selection, path, -, hs⟩
  · exact ⟨e, by rw [next, hs]; exact h.congr rfl rfl rfl, fun k r => id⟩
  · have h' : Recorded { m with selector := (m.selector.select task cap m.policy).2 } e :=
      h.congr rfl rfl rfl
    have hids' : FreshIds { m with selector := (m.selector.select task cap m.policy).2 } sub task :=
      ⟨hids.execution, hids.record, hids.distinct, hids.task, hids.log⟩
    set c := newContext { m with selector := (m.selector.select task cap m.policy).2 } sub task cap
      selection path with hc
    have hrec := h'.enqueue c (newWorker sub task selection c) hids' hname rfl
    refine ⟨_, by rw [next, hs]; exact hrec, fun k r hk => ?_⟩
    change (e.records.set (.str sub.continuityId) _).get? k = some r
    rw [Dict.get?_set_ne]
    · exact hk
    · rintro rfl
      exact absurd ((hids.log e h.engine).2.2.symm.trans hk) (by simp)

/-! ### Executing -/

/-- When the record that is looked up is one with a list of evidence, the record is saved and the
event is appended. -/
theorem complete_eq (ex : Execute) (c : TaskExecutionContext) (hr : recordOf e x task = some r)
    (hrefs : ∃ refs, r.evidenceRefs = .arr refs) :
    ∃ refs, complete e ex task x c =
      ((e.saveRecord { completedRecord r ex.now c.status with evidenceRefs := .arr refs }).appendEvent
        (completionEvent ex task x c), false) := by
  obtain ⟨refs, hrefs⟩ := hrefs
  have hrec : (completedRecord r ex.now c.status).evidenceRefs = .arr refs := hrefs
  unfold complete
  rw [hr]
  dsimp only
  rw [hrec]
  cases hh : resultHashes c with
  | nil =>
    refine ⟨refs, ?_⟩
    dsimp only
    rw [← hrec]
  | cons a l => exact ⟨refs ++ a :: l, rfl⟩

theorem recordOf_mem (h : recordOf e x task = some r) : r ∈ e.records.values := by
  unfold recordOf at h
  split at h
  · rename_i r' hget
    rw [← Option.some.inj h]
    exact Dict.mem_values_of_get? hget
  · exact (List.mem_filter.1 (List.mem_of_getLast? h)).1

/-- The execution's own record is looked up, when it is a record of it that is. -/
theorem Tracked.recordOf (h : Tracked e x task s r ev)
    (hown : ∀ r', ExecutionManager.recordOf e x task = some r' → r'.executionId = .str x) :
    ExecutionManager.recordOf e x task = some r := by
  have hsome : ∃ r', ExecutionManager.recordOf e x task = some r' := by
    unfold ExecutionManager.recordOf
    cases e.getRecord x with
    | some r' => exact ⟨r', rfl⟩
    | none =>
      have hmem : r ∈ e.getRecordsByTask (.str task.taskId) :=
        List.mem_filter.2 ⟨h.mem_values.1, by simp [h.taskId]⟩
      exact ⟨_, List.getLast?_eq_getLast_of_ne_nil (List.ne_nil_of_mem hmem)⟩
  obtain ⟨r', hr'⟩ := hsome
  have hown' : r' ∈ e.ownRecords x := by
    refine List.mem_filter.2 ⟨recordOf_mem hr', ?_⟩
    simp [relevantRecord, hown r' hr']
  rw [h.records, List.mem_singleton] at hown'
  rw [hr', hown']

theorem told_final {s : ExecutionStatus} (hs : s ∈ finalStatuses) {ev : EventRecord}
    {r : ContinuityRecord} (hev : ev.status = .str s.value) (hr : r.status = .str s.value) :
    Told s ev r := by
  refine Or.inr ⟨?_, hev, Or.inr hr⟩
  rintro rfl
  exact absurd hs (by decide)

/-- What is written when an execution is over: it stays tracked, and so do the others. -/
theorem Recorded.complete (h : Recorded m e) (ex : Execute) {c c' : TaskExecutionContext}
    {task : Task} (hx : m.executions.get? x = some c) (htask : m.tasks.get? x = some task)
    (hc' : c'.status ∈ finalStatuses)
    (hown : ∀ r', recordOf e x task = some r' → r'.executionId = .str x)
    (m' : ExecutionManager) (hexec : m'.executions = m.executions.set x c')
    (htasks : m'.tasks = m.tasks)
    (hlog : m'.continuityEngine = some (complete e ex task x c').1) :
    ∃ e', Recorded m' e' ∧ ∀ k r, e.records.get? k = some r → r.executionId ≠ .str x →
      e'.records.get? k = some r := by
  obtain ⟨task', r, ev, htask', ht⟩ := h.tracked x c hx
  obtain rfl := Option.some.inj (htask.symm.trans htask')
  obtain ⟨refs, hcomplete⟩ := complete_eq ex c' (ht.recordOf hown) ht.evidence
  set r' : ContinuityRecord :=
    { completedRecord r ex.now c'.status with evidenceRefs := .arr refs } with hr'
  have hget : e.records.get? r'.continuityId.norm = some r := h.durable.get?_norm ht.mem_values.1
  have hrel : ∀ y, relevantRecord y r' = relevantRecord y r := fun y => rfl
  refine ⟨(e.saveRecord r').appendEvent (completionEvent ex task x c'), ?_, ?_⟩
  · refine ⟨by rw [hlog, hcomplete], (h.durable.saveRecord _).appendEvent _, fun y cy hy => ?_⟩
    rw [hexec, Dict.get?_set] at hy
    rw [htasks]
    -- the record and the event are those of the execution; another one sees neither
    split_ifs at hy with hyx
    · obtain rfl := Option.some.inj hy
      subst hyx
      refine ⟨task, r', { completionEvent ex task y c' with sequence := e.eventSequence + 1 },
        htask, ?_, ht.executionId, ht.taskId, ⟨refs, rfl⟩, ?_, told_final hc' rfl rfl⟩
      · exact (ownRecords_saveRecord hget (hrel y)).2 ht.records
      · rw [ownEvents_appendEvent, if_pos ((relevantEvent_completion ex c').2 (Or.inl rfl)),
          List.getLast?_concat]
        rfl
    · obtain ⟨taskY, rY, evY, htaskY, htY⟩ := h.tracked y cy hy
      obtain ⟨hirr, hname⟩ := htY.irrelevant ht (Ne.symm hyx)
      refine ⟨taskY, rY, evY, htaskY,
        (htY.saveRecord hget (hrel y) hirr).appendEvent ?_⟩
      rw [relevantEvent_completion]
      exact fun h => h.elim (fun h => hyx h.symm) hname
  · intro k w hk hw
    change (e.records.set r'.continuityId.norm r').get? k = some w
    rw [Dict.get?_set_ne]
    · exact hk
    · rintro rfl
      obtain rfl := Option.some.inj (hget.symm.trans hk)
      exact hw ht.executionId

/-- What is written when an execution is fenced off. -/
theorem Recorded.fenceOff (h : Recorded m e) (ex : Execute) {c : TaskExecutionContext} {task : Task}
    (worker : WorkerDefinition) (message : String) (hx : m.executions.get? x = some c)
    (htask : m.tasks.get? x = some task) :
    ∃ e', Recorded (m.fenceOff ex x task c worker message).2 e' ∧ e'.records = e.records := by
  obtain ⟨task', r, ev, htask', ht⟩ := h.tracked x c hx
  obtain rfl := Option.some.inj (htask.symm.trans htask')
  set c' := c.fail .failed .authorizationDenied (some message) with hc'
  refine ⟨e.appendEvent (fencedEvent ex task x c' message), ⟨?_, h.durable.appendEvent _, ?_⟩, rfl⟩
  · change m.continuityEngine.map _ = _
    rw [h.engine]
    rfl
  · intro y cy hy
    change (m.executions.set x c').get? y = some cy at hy
    -- a fenced execution keeps its record and gets a last event
    obtain ⟨rfl, rfl⟩ | ⟨hyx, hy⟩ := Dict.of_get?_set hy
    · refine ⟨task, r, { fencedEvent ex task y c' message with sequence := e.eventSequence + 1 },
        htask, { ht with last := ?_, told := ?_ }⟩
      · rw [ownEvents_appendEvent, if_pos ((relevantEvent_fenced ex c' message).2 (Or.inl rfl)),
          List.getLast?_concat]
      · refine Or.inr ⟨fun h => ?_, rfl, Or.inl ?_⟩
        · exact absurd (show ExecutionStatus.failed = .queued from h) (by decide)
        · change Json.str "FAILED" ∈ terminalStatuses
          decide
    · obtain ⟨taskY, rY, evY, htaskY, htY⟩ := h.tracked y cy hy
      obtain ⟨-, hname⟩ := htY.irrelevant ht (Ne.symm hyx)
      refine ⟨taskY, rY, evY, htaskY, htY.appendEvent ?_⟩
      rw [relevantEvent_fenced]
      exact fun h => h.elim (fun h => hyx h.symm) hname

theorem recorded_execute (h : Recorded m e) {ex : Execute}
    (hown : m.FindsOwn (.execute ex x)) :
    ∃ e', Recorded (m.next (.execute ex x)) e' ∧ ∀ k r, e.records.get? k = some r →
      r.executionId ≠ .str x → e'.records.get? k = some r := by
  by_cases hex : ∃ c task worker, m.Executable x c task worker
  swap
  · rw [next, executeSync_unknown fun c task worker hc => hex ⟨c, task, worker, hc⟩]
    exact ⟨e, h, fun k r hk _ => hk⟩
  obtain ⟨c, task, worker, hex⟩ := hex
  rw [next, executeSync_eq hex]
  cases hf : m.fencing c with
  | some err =>
    obtain ⟨e', hrec, hr⟩ := h.fenceOff ex worker err.text hex.context hex.submitted
    exact ⟨e', hrec, fun k r hk _ => by rw [hr]; exact hk⟩
  | none =>
    cases hs : startWorker ex.world worker task c with
    | none => exact ⟨e, h, fun k r hk _ => hk⟩
    | some ran =>
      obtain ⟨c', worker'⟩ := ran
      dsimp only
      rw [h.engine]
      refine h.complete ex hex.context hex.submitted (status_startWorker hs).1 ?_
        { m.afterRun x c' worker' with
          continuityEngine := some (ExecutionManager.complete e ex task x c').1 } rfl rfl rfl
      -- its worker was new, or else nothing would have been started
      refine hown e c task worker h.engine hex hf ?_
      by_contra hstate
      rw [startWorker, if_pos hstate] at hs
      exact absurd hs (by simp)

/-- One call: the log still tracks every execution, and no record of another one changed. -/
theorem recorded_next (h : Recorded m e) {op : ManagerOp} (hl : m.Legal op) (ho : m.FindsOwn op) :
    (∃ e', Recorded (m.next op) e') ∧ KeepsOthers m op := by
  have hstep : ∃ e', Recorded (m.next op) e' ∧ ∀ k r, e.records.get? k = some r →
      (∀ x, subject op = some x → r.executionId ≠ .str x) → e'.records.get? k = some r := by
    cases op with
    | submit sub task =>
      obtain ⟨e', hrec, hk⟩ := recorded_submit h hl ho
      exact ⟨e', hrec, fun k r hr _ => hk k r hr⟩
    | execute ex x =>
      obtain ⟨e', hrec, hk⟩ := recorded_execute h ho
      exact ⟨e', hrec, fun k r hr hx => hk k r hr (hx x rfl)⟩
    | generation n => exact ⟨e, h.congr rfl rfl rfl, fun k r hr _ => hr⟩
  obtain ⟨e', hrec, hk⟩ := hstep
  refine ⟨⟨e', hrec⟩, fun e₁ e₂ h₁ h₂ k r hr hx => ?_⟩
  obtain rfl := Option.some.inj (h.engine.symm.trans h₁)
  obtain rfl := Option.some.inj (hrec.engine.symm.trans h₂)
  exact hk k r hr hx

theorem recorded_invariant :
    (managerSystem.restrict FindsOwn).Invariant fun m => ∃ e, Recorded m e where
  init m h := by
    obtain ⟨e, he, hd⟩ := h.log
    exact ⟨e, he, hd, fun x c hx => absurd hx (by simp [h.executions])⟩
  step m op m' h hstep := by
    obtain ⟨e, h⟩ := h
    obtain ⟨ho, hl, rfl⟩ := hstep
    exact (recorded_next h hl ho).1

/-- **Executions across a restart.**  In every run in which no task is named after an execution
and every execution that runs is the one that its lookup finds, a restart is faithful exactly when
no execution is queued, and the next such call changes no record of another execution. -/
theorem restart_spec (h : (managerSystem.restrict FindsOwn).Reachable m) :
    (Faithful m ↔ ∀ x c, m.executions.get? x = some c → c.status ≠ .queued) ∧
      ∀ op, m.Legal op → m.FindsOwn op → KeepsOthers m op := by
  obtain ⟨e, hrec⟩ := recorded_invariant.holds h
  exact ⟨hrec.faithful_iff, fun op hl ho => (recorded_next hrec hl ho).2⟩

/-! ### Two executions of one task -/

/-- A manager over an empty directory. -/
def unusedManager : ExecutionManager := init .bootstrap (some emptyEngine) none

/-- A second submission. -/
def secondSubmission : Submission :=
  { plainSubmission with
    executionId := "e-2", workerUuid := "00000002", continuityId := "c-2", eventUuid := "00000002" }

/-- Running an execution whose handler lists an empty directory. -/
def plainExecute : Execute where
  world := { handler := .ok (.arr [], none) }
  eventUuid := "00000003"
  now := "2024-01-01T00:00:01+00:00"

/-- The manager when one task was submitted. -/
def submittedOnce : ExecutionManager :=
  unusedManager.next (.submit plainSubmission Orchestrator.listTask)

/-- The manager when the same task was submitted again. -/
def submittedTwice : ExecutionManager :=
  submittedOnce.next (.submit secondSubmission Orchestrator.listTask)

theorem unused_unusedManager : Unused unusedManager :=
  ⟨rfl, emptyEngine, rfl, durable_emptyEngine⟩

theorem legal_first : unusedManager.Legal (.submit plainSubmission Orchestrator.listTask) where
  execution := rfl
  record := rfl
  distinct := by decide
  task := by decide
  log e he := by
    obtain rfl := Option.some.inj he
    exact ⟨rfl, rfl, rfl⟩

theorem legal_second : submittedOnce.Legal (.submit secondSubmission Orchestrator.listTask) where
  execution := by decide +kernel
  record := by decide +kernel
  distinct := by decide
  task := by decide
  log e he := by
    have h : (submittedOnce.continuityEngine.all fun e => e.ownRecords "e-2" = [] ∧
        e.ownEvents "e-2" = [] ∧ e.records.get? (.str "c-2") = none) = true := by decide +kernel
    rw [he] at h
    exact of_decide_eq_true h

/-- Running the first of two executions of a task changes the record of the second one. -/
theorem not_keepsOthers_submittedTwice :
    ¬ ∀ m, managerSystem.Reachable m →
      Faithful m ∧ ∀ op, m.Legal op → KeepsOthers m op := by
  intro h
  have hreach : managerSystem.Reachable submittedTwice :=
    .step (.step (.init unused_unusedManager) ⟨legal_first, rfl⟩) ⟨legal_second, rfl⟩
  have hkeep := (h _ hreach).2 (.execute plainExecute "e-1") trivial
  have hbefore : (submittedTwice.continuityEngine.bind fun e =>
      (e.records.get? (.str "c-2")).map fun r => (r.executionId, r.status)) =
      some (.str "e-2", .str "PENDING") := by decide +kernel
  have hafter : ((submittedTwice.next (.execute plainExecute "e-1")).continuityEngine.bind fun e =>
      (e.records.get? (.str "c-2")).map fun r => (r.executionId, r.status)) =
      some (.str "e-2", .str "SUCCEEDED") := by decide +kernel
  obtain ⟨e, he, hr⟩ := Option.bind_eq_some_iff.1 hbefore
  obtain ⟨r, hr, hrs⟩ := Option.map_eq_some_iff.1 hr
  obtain ⟨e', he', hr'⟩ := Option.bind_eq_some_iff.1 hafter
  have hsame := hkeep e e' he he' _ r hr fun x hx => by
    rw [(Prod.mk.inj hrs).1, ← Option.some.inj hx]
    decide
  rw [hsame, Option.map_some, hrs] at hr'
  exact absurd hr' (by decide)

/-- After one submission and its execution, a restart finds the execution succeeded. -/
theorem faithful_submittedOnce :
    Faithful (submittedOnce.next (.execute plainExecute "e-1")) := by
  have hname : unusedManager.FindsOwn (.submit plainSubmission Orchestrator.listTask) := rfl
  have hfirst : (managerSystem.restrict FindsOwn).Reachable submittedOnce :=
    .step (.init unused_unusedManager) ⟨hname, legal_first, rfl⟩
  have hown : submittedOnce.FindsOwn (.execute plainExecute "e-1") := by
    intro e c task worker he _ _ _ r hr
    have hall : (submittedOnce.continuityEngine.all fun e =>
        e.records.values.all fun r => r.executionId = .str "e-1") = true := by decide +kernel
    have he' : submittedOnce.continuityEngine = some e := he
    rw [he', Option.all_some, List.all_eq_true] at hall
    simpa using hall r (recordOf_mem hr)
  have hsecond : (managerSystem.restrict FindsOwn).Reachable
      (submittedOnce.next (.execute plainExecute "e-1")) := .step hfirst ⟨hown, trivial, rfl⟩
  refine (restart_spec hsecond).1.2 ?_
  intro x c hx
  have hall : ((submittedOnce.next (.execute plainExecute "e-1")).executions.values.all
      fun c => c.status ≠ .queued) = true := by decide +kernel
  rw [List.all_eq_true] at hall
  simpa using hall c (Dict.mem_values_of_get? hx)

end ExecutionManager

end Execution

end AnnyRuntime
