import AnnyRuntime.Lib.Transition
import AnnyRuntime.Process.Manager
import AnnyRuntime.Security.Pipeline
import Mathlib.Tactic.Linarith

/-!
# The limit of concurrent processes

`start` counts the records that say `RUNNING` and refuses when there are as many as the limit.  A
record does not always say what its process does: `stop` marks it as killed when the signal was
sent, whether the process ends or not, and a process that exits by itself goes on as running until
someone waits for it.

* `alive_eq` : the living processes are those that run, but for the *ghosts* (records that run
  without a process) and the *survivors* (processes that go on after their record was killed).
* `limited_iff` : **the limit holds over a run, and only a full manager refuses, exactly when no
  start finds room, or none, because of ghosts and survivors.**
* `limited_of_noticed` : **that is so when no signal is ignored and no process exits by itself.**
-/

namespace AnnyRuntime

namespace Process

open Pipeline (ExecutionContext)

/-- `ProcessRecord`, with everything that it has. -/
structure FullRecord extends ProcessRecord where
  executionId : String
  operationId : String
  actorId : String
  sessionId : String
  tenantId : String
  workspaceId : Option String
  command : List String
  pid : Option ℕ
  exitCode : Option ℤ
  stdout : String
  stderr : String
  startedAt : Option String
  finishedAt : Option String
  timeoutSeconds : ℤ
  deriving DecidableEq

/-- A record, and its handle, if it has one: whether the process is alive. -/
structure Entry where
  record : FullRecord
  handle : Option Bool
  deriving DecidableEq

namespace Entry

/-- The process is alive. -/
def alive (x : Entry) : Bool := x.handle = some true

/-- The record says that it runs. -/
def running (x : Entry) : Bool := x.record.state = .running

/-- The process ended. -/
def gone (x : Entry) : Entry := { x with handle := x.handle.map fun _ => false }

end Entry

/-- `ProcessManager`, with its handles and its limit. -/
structure LimitedManager where
  generation : ℤ
  maxConcurrent : ℤ
  processes : Dict String Entry

/-- What a call raises. -/
inductive Raised where
  | permissionError (message : String)
  | runtimeError (message : String)
  /-- What the library raises. -/
  | other
  deriving DecidableEq

/-- The error of a full manager. -/
def Raised.full : Raised := .runtimeError "Max concurrent executions reached"

/-- How sending a signal goes: it raises, or the process ends or goes on. -/
inductive Signal where
  | raises
  | ends
  | goesOn
  deriving DecidableEq

/-- How waiting goes. -/
inductive Waited where
  /-- The process exits in time. -/
  | exited (code : ℤ) (stdout stderr : String)
  /-- It does not and is killed; its output is read, unless that raises. -/
  | timedOut (output : Option (String × String))
  /-- Reading its output raises; the process may have ended. -/
  | raises (ended : Bool)

namespace LimitedManager

variable (m : LimitedManager)

/-- `len(active_processes())`. -/
def running : ℕ := m.processes.values.countP Entry.running

/-- The number of processes that are alive. -/
def alive : ℕ := m.processes.values.countP Entry.alive

/-- The records that run without a process. -/
def ghosts : ℕ := m.processes.values.countP fun x => x.running && !x.alive

/-- The processes that go on though their record does not run. -/
def survivors : ℕ := m.processes.values.countP fun x => x.alive && !x.running

/-- A manager with a changed process. -/
def put (processId : String) (x : Entry) : LimitedManager :=
  { m with processes := m.processes.set processId x }

/-- `_enforce_limits`. -/
def enforceLimits : Except Raised Unit :=
  if m.maxConcurrent ≤ m.running then .error .full else .ok ()

/-- `_validate_ownership`, for a record that there is. -/
def validateOwnership (ctx : ExecutionContext) (r : FullRecord) : Except Raised Unit :=
  if r.tenantId ≠ ctx.tenantId then .error (.permissionError "Access denied: tenant mismatch")
  else if r.actorId ≠ ctx.actorId then .error (.permissionError "Access denied: actor mismatch")
  else if r.workspaceId ≠ ctx.workspaceId then
    .error (.permissionError "Access denied: workspace mismatch")
  else if r.runtimeGeneration ≠ ctx.generation then
    .error (.permissionError "Access denied: generation stale")
  else .ok ()

/-- The record of a process that is not started yet. -/
def pending (ctx : ExecutionContext) (processId : String) (command : List String) (timeout : ℤ)
    (now : String) : FullRecord where
  processId := processId
  state := .pending
  runtimeGeneration := ctx.generation
  executionId := ctx.executionId
  operationId := ctx.operationId
  actorId := ctx.actorId
  sessionId := ctx.sessionId
  tenantId := ctx.tenantId
  workspaceId := ctx.workspaceId
  command := command
  pid := none
  exitCode := none
  stdout := ""
  stderr := ""
  startedAt := some now
  finishedAt := none
  timeoutSeconds := timeout

/-- `start`, when the process gets a pid, or when starting it raises something and that is noted
later. -/
def start (ctx : ExecutionContext) (command : List String) (timeout : ℤ)
    (processId now later : String) (spawned : Except String ℕ) :
    Except Raised FullRecord × LimitedManager :=
  if ctx.hasCapability "PROCESS_EXECUTION" then
    match m.enforceLimits with
    | .error e => (.error e, m)
    | .ok () =>
      match spawned with
      | .ok pid =>
        let record := { pending ctx processId command timeout now with
          pid := some pid
          state := .running }
        (.ok record, m.put processId ⟨record, some true⟩)
      | .error text =>
        let record := { pending ctx processId command timeout now with
          state := .failed
          stderr := text
          finishedAt := some later }
        (.ok record, m.put processId ⟨record, none⟩)
  else (.error (.permissionError "Access denied: missing PROCESS_EXECUTION capability"), m)

/-- A call for a process, which is made of the one that there is. -/
def withProcess (ctx : ExecutionContext) (processId : String)
    (call : Entry → Except Raised (Option FullRecord) × LimitedManager) :
    Except Raised (Option FullRecord) × LimitedManager :=
  match m.processes.get? processId with
  | none => (.ok none, m)
  | some x =>
    match validateOwnership ctx x.record with
    | .error e => (.error e, m)
    | .ok () => call x

/-- `stop`. -/
def stop (ctx : ExecutionContext) (processId now : String) (signal : Signal) :
    Except Raised (Option FullRecord) × LimitedManager :=
  if ctx.hasCapability "PROCESS_CONTROL" then
    m.withProcess ctx processId fun x =>
      if x.handle.isSome && x.running then
        let record := { x.record with
          state := .killed
          finishedAt := some now }
        match signal with
        | .raises => (.error .other, m)
        | .ends => (.ok (some record), m.put processId { x.gone with record := record })
        | .goesOn => (.ok (some record), m.put processId { x with record := record })
      else (.ok (some x.record), m)
  else (.error (.permissionError "Access denied: missing PROCESS_CONTROL capability"), m)

/-- `wait`. -/
def wait (ctx : ExecutionContext) (processId now : String) (waited : Waited) :
    Except Raised (Option FullRecord) × LimitedManager :=
  m.withProcess ctx processId fun x =>
    if x.handle.isSome && x.running then
      match waited with
      | .exited code stdout stderr =>
        let record := { x.record with
          stdout := stdout
          stderr := stderr
          exitCode := some code
          state := if code = 0 then .completed else .failed
          finishedAt := some now }
        (.ok (some record), m.put processId { x.gone with record := record })
      | .timedOut (some (stdout, stderr)) =>
        let record := { x.record with
          stdout := stdout
          stderr := stderr
          state := .timedOut
          finishedAt := some now }
        (.ok (some record), m.put processId { x.gone with record := record })
      | .timedOut none =>
        (.error .other,
          m.put processId { x.gone with record := { x.record with state := .timedOut } })
      | .raises ended => (.error .other, if ended then m.put processId x.gone else m)
    else (.ok (some x.record), m)

/-- A stale process is killed. -/
def markEntry (currentGeneration : ℤ) (x : Entry) : Entry :=
  if x.record.isStale currentGeneration then
    { x.gone with record := { x.record with state := .killed } }
  else x

/-- `mark_stale`. -/
def markStale (currentGeneration : ℤ) : LimitedManager :=
  { m with processes := m.processes.map (markEntry currentGeneration) }

/-- A process exits by itself. -/
def exits (processId : String) : LimitedManager :=
  match m.processes.get? processId with
  | none => m
  | some x => m.put processId x.gone

/-- The records, as marking them stale reads them. -/
def records : ProcessManager := ⟨m.processes.map fun x => x.record.toProcessRecord⟩

/-- **Marking** does to the records what it does. -/
theorem records_markStale (currentGeneration : ℤ) :
    (m.markStale currentGeneration).records = m.records.markStale currentGeneration := by
  have hentry (x : Entry) : (markEntry currentGeneration x).record.toProcessRecord =
      x.record.toProcessRecord.markStale currentGeneration := by
    unfold markEntry ProcessRecord.markStale
    split_ifs <;> rfl
  simp only [records, markStale, ProcessManager.markStale, Dict.map, List.map_map]
  congr 2
  exact List.map_congr_left fun e _ => by simp [hentry]

end LimitedManager

/-! ### Runs -/

/-- What happens to a manager. -/
inductive Step where
  | start (ctx : ExecutionContext) (command : List String) (timeout : ℤ)
      (processId now later : String) (spawned : Except String ℕ)
  | stop (ctx : ExecutionContext) (processId now : String) (signal : Signal)
  | wait (ctx : ExecutionContext) (processId now : String) (waited : Waited)
  | markStale (currentGeneration : ℤ)
  | exits (processId : String)

namespace LimitedManager

variable (m : LimitedManager)

/-- The manager after a step. -/
def after : Step → LimitedManager
  | .start ctx command timeout id now later spawned =>
    (m.start ctx command timeout id now later spawned).2
  | .stop ctx id now signal => (m.stop ctx id now signal).2
  | .wait ctx id now waited => (m.wait ctx id now waited).2
  | .markStale currentGeneration => m.markStale currentGeneration
  | .exits id => m.exits id

/-- The id of a new process is new. -/
def Fresh : Step → Prop
  | .start _ _ _ id _ _ _ => m.processes.get? id = none
  | _ => True

/-- The step is a start that is refused because the manager is full. -/
def Refuses : Step → Prop
  | .start ctx command timeout id now later spawned =>
    (m.start ctx command timeout id now later spawned).1 = .error .full
  | _ => False

/-- Ghosts do not fill the manager when a start is refused, and survivors do not when one is not:
then there is room for one more. -/
def Tracked : Step → Prop
  | .start ctx _ _ _ _ _ spawned => ctx.hasCapability "PROCESS_EXECUTION" = true →
    (m.maxConcurrent ≤ m.running → (m.ghosts : ℤ) ≤ m.survivors + (m.running - m.maxConcurrent)) ∧
      ((m.running : ℤ) < m.maxConcurrent → (∃ pid, spawned = .ok pid) →
        (m.survivors : ℤ) < m.ghosts + (m.maxConcurrent - m.running))
  | _ => True

/-- The manager learns what a process does: no signal is ignored, and nothing exits by itself or is
lost while it is waited for. -/
def Noticed : Step → Prop
  | .stop _ _ _ signal => signal ≠ .goesOn
  | .wait _ _ _ waited => waited ≠ .raises true
  | .exits id => ∀ x, m.processes.get? id = some x → x.running = false
  | _ => True

/-- Every record says whether its process is alive. -/
def Exact : Prop := ∀ id x, m.processes.get? id = some x → x.alive = x.running

/-- A new manager. -/
def new (generation maxConcurrent : ℤ) : LimitedManager := ⟨generation, maxConcurrent, .empty⟩

/-- A manager after some steps. -/
def run (steps : List Step) : LimitedManager := steps.foldl after m

/-- Over a whole run the limit holds, and only a full manager refuses. -/
structure Limited (steps : List Step) : Prop where
  bounded : ∀ before rest, steps = before ++ rest →
    ((m.run before).alive : ℤ) ≤ (m.run before).maxConcurrent
  refused : ∀ before a rest, steps = before ++ a :: rest → (m.run before).Refuses a →
    (m.run before).maxConcurrent ≤ (m.run before).alive

variable {m : LimitedManager} {a : Step} {x y : Entry} {id : String}

/-! ### Counting -/

/-- **The living processes** are those that run, without the ghosts, and the survivors. -/
theorem alive_eq (m : LimitedManager) : m.alive + m.ghosts = m.running + m.survivors := by
  unfold alive ghosts running survivors
  induction m.processes.values with
  | nil => rfl
  | cons x xs ih =>
    simp only [List.countP_cons]
    cases x.alive <;> cases x.running <;> simp <;> omega

@[simp] theorem alive_gone (x : Entry) (r : FullRecord) :
    Entry.alive { x.gone with record := r } = false := by
  cases h : x.handle <;> simp [Entry.alive, Entry.gone, h]

@[simp] theorem alive_gone' (x : Entry) : x.gone.alive = false := alive_gone x x.record

/-- Changing a process does not bring it back. -/
theorem alive_put_le (hx : m.processes.get? id = some x) (h : y.alive = true → x.alive = true) :
    (m.put id y).alive ≤ m.alive := by
  have hcount := Dict.countP_values_set Entry.alive hx y
  change (m.processes.set id y).values.countP Entry.alive ≤ m.processes.values.countP Entry.alive
  cases hy : y.alive with
  | false => simp only [hy] at hcount; split_ifs at hcount <;> simp at * <;> omega
  | true => simp only [hy, h hy, if_true] at hcount; omega

/-- A new process is one more. -/
theorem alive_put_new (hid : m.processes.get? id = none) (y : Entry) :
    (m.put id y).alive = m.alive + if y.alive = true then 1 else 0 := by
  change (m.processes.set id y).values.countP Entry.alive = _
  rw [Dict.values_set_of_get?_eq_none hid, List.countP_append, List.countP_singleton]
  rfl

/-! ### Steps -/

/-- Nothing of a process comes back, and the limit stays. -/
structure Keeps (m m' : LimitedManager) : Prop where
  alive : m'.alive ≤ m.alive
  maxConcurrent : m'.maxConcurrent = m.maxConcurrent

theorem Keeps.refl (m : LimitedManager) : Keeps m m := ⟨le_refl _, rfl⟩

theorem keeps_put (hx : m.processes.get? id = some x) (h : y.alive = true → x.alive = true) :
    Keeps m (m.put id y) := ⟨alive_put_le hx h, rfl⟩

/-- A process that is gone. -/
theorem keeps_gone (hx : m.processes.get? id = some x) (r : FullRecord) :
    Keeps m (m.put id { x.gone with record := r }) :=
  keeps_put hx fun h => absurd h (by simp)

theorem keeps_withProcess {ctx : ExecutionContext}
    {call : Entry → Except Raised (Option FullRecord) × LimitedManager}
    (h : ∀ x, m.processes.get? id = some x → Keeps m (call x).2) :
    Keeps m (m.withProcess ctx id call).2 := by
  unfold withProcess
  split
  · exact Keeps.refl m
  · split
    · exact Keeps.refl m
    · exact h _ ‹_›

theorem keeps_stop (ctx : ExecutionContext) (id now : String) (signal : Signal) :
    Keeps m (m.stop ctx id now signal).2 := by
  rw [stop]
  by_cases hcap : ctx.hasCapability "PROCESS_CONTROL" = true
  · rw [if_pos hcap]
    refine keeps_withProcess fun x hx => ?_
    split_ifs
    · cases signal with
      | raises => exact Keeps.refl m
      | ends => exact keeps_gone hx _
      | goesOn => exact keeps_put hx fun h => h
    · exact Keeps.refl m
  · rw [if_neg hcap]
    exact Keeps.refl m

theorem keeps_wait (ctx : ExecutionContext) (id now : String) (waited : Waited) :
    Keeps m (m.wait ctx id now waited).2 := by
  rw [wait]
  refine keeps_withProcess fun x hx => ?_
  split_ifs
  · cases waited with
    | exited code stdout stderr => exact keeps_gone hx _
    | timedOut output =>
      cases output with
      | none => exact keeps_gone hx _
      | some output => exact keeps_gone hx _
    | raises ended =>
      cases ended with
      | false => exact Keeps.refl m
      | true => exact keeps_gone hx x.record
  · exact Keeps.refl m

theorem keeps_markStale (currentGeneration : ℤ) : Keeps m (m.markStale currentGeneration) := by
  refine ⟨?_, rfl⟩
  have hentry (x : Entry) : (markEntry currentGeneration x).alive = true → x.alive = true := by
    unfold markEntry
    split_ifs
    · intro h
      exact absurd h (by simp)
    · exact id
  change (m.processes.map (markEntry currentGeneration)).values.countP Entry.alive ≤
    m.processes.values.countP Entry.alive
  rw [Dict.values_map, List.countP_map]
  exact List.countP_mono_left fun x _ => hentry x

theorem keeps_exits (id : String) : Keeps m (m.exits id) := by
  unfold exits
  split
  · exact Keeps.refl m
  · exact keeps_gone ‹_› _

/-- A start that finds room adds a process. -/
theorem start_alive {ctx : ExecutionContext} (command : List String) (timeout : ℤ)
    (now later : String) (pid : ℕ) (hfresh : m.processes.get? id = none)
    (hcap : ctx.hasCapability "PROCESS_EXECUTION" = true)
    (hroom : (m.running : ℤ) < m.maxConcurrent) :
    (m.start ctx command timeout id now later (.ok pid)).2.alive = m.alive + 1 ∧
      (m.start ctx command timeout id now later (.ok pid)).2.maxConcurrent = m.maxConcurrent := by
  unfold start
  rw [if_pos hcap, enforceLimits, if_neg (not_le_of_gt hroom)]
  exact ⟨alive_put_new hfresh _, rfl⟩

/-- **What a start does**: nothing, or it adds a process. -/
theorem start_cases {ctx : ExecutionContext} {command : List String} {timeout : ℤ}
    {id now later : String} {spawned : Except String ℕ} (hfresh : m.processes.get? id = none) :
    Keeps m (m.start ctx command timeout id now later spawned).2 ∨
      (ctx.hasCapability "PROCESS_EXECUTION" = true ∧ (m.running : ℤ) < m.maxConcurrent ∧
        ∃ pid, spawned = .ok pid) := by
  unfold start
  by_cases hcap : ctx.hasCapability "PROCESS_EXECUTION" = true
  · rw [if_pos hcap, enforceLimits]
    by_cases hfull : m.maxConcurrent ≤ m.running
    · rw [if_pos hfull]
      exact .inl (Keeps.refl m)
    · rw [if_neg hfull]
      cases spawned with
      | ok pid => exact .inr ⟨hcap, lt_of_not_ge hfull, pid, rfl⟩
      | error text => exact .inl ⟨(alive_put_new hfresh _).le, rfl⟩
  · rw [if_neg hcap]
    exact .inl (Keeps.refl m)

/-- When a start is refused because of the limit. -/
theorem refuses_start_iff {ctx : ExecutionContext} {command : List String} {timeout : ℤ}
    {id now later : String} {spawned : Except String ℕ} :
    m.Refuses (.start ctx command timeout id now later spawned) ↔
      ctx.hasCapability "PROCESS_EXECUTION" = true ∧ m.maxConcurrent ≤ m.running := by
  change (m.start ctx command timeout id now later spawned).1 = .error .full ↔ _
  unfold start
  by_cases hcap : ctx.hasCapability "PROCESS_EXECUTION" = true
  · rw [if_pos hcap, enforceLimits]
    by_cases hfull : m.maxConcurrent ≤ m.running
    · rw [if_pos hfull]
      exact iff_of_true rfl ⟨hcap, hfull⟩
    · rw [if_neg hfull]
      cases spawned <;> simp [hfull]
  · rw [if_neg hcap]
    simp [hcap, Raised.full]

/-- **One step**, when ghosts and survivors do not mislead it. -/
theorem bounded_after (hfresh : m.Fresh a) (htracked : m.Tracked a)
    (h : (m.alive : ℤ) ≤ m.maxConcurrent) :
    ((m.after a).alive : ℤ) ≤ (m.after a).maxConcurrent := by
  have hkeeps {m' : LimitedManager} (hm : Keeps m m') : (m'.alive : ℤ) ≤ m'.maxConcurrent := by
    rw [hm.maxConcurrent]
    exact (Int.ofNat_le.2 hm.alive).trans h
  cases a with
  | start ctx command timeout id now later spawned =>
    have hcases : Keeps m (m.start ctx command timeout id now later spawned).2 ∨ _ :=
      start_cases hfresh
    rcases hcases with hm | ⟨hcap, hroom, pid, rfl⟩
    · exact hkeeps hm
    · have hlt := (htracked hcap).2 hroom ⟨pid, rfl⟩
      have heq := alive_eq m
      have hstart := start_alive command timeout now later pid hfresh hcap hroom
      change ((m.start ctx command timeout id now later (.ok pid)).2.alive : ℤ) ≤
        (m.start ctx command timeout id now later (.ok pid)).2.maxConcurrent
      rw [hstart.1, hstart.2]
      push_cast
      omega
  | stop ctx id now signal => exact hkeeps (keeps_stop ctx id now signal)
  | wait ctx id now waited => exact hkeeps (keeps_wait ctx id now waited)
  | markStale currentGeneration => exact hkeeps (keeps_markStale currentGeneration)
  | exits id => exact hkeeps (keeps_exits id)

/-- A refused start finds a full manager, when ghosts do not mislead it. -/
theorem full_of_refuses (htracked : m.Tracked a) (h : m.Refuses a) : m.maxConcurrent ≤ m.alive := by
  cases a with
  | start ctx command timeout id now later spawned =>
    obtain ⟨hcap, hfull⟩ := refuses_start_iff.1 h
    have hle := (htracked hcap).1 hfull
    have heq := alive_eq m
    omega
  | stop | wait | markStale | exits => exact h.elim

/-- **When a step is not misled.** -/
theorem tracked_of_limited (hfresh : m.Fresh a)
    (hbounded : ((m.after a).alive : ℤ) ≤ (m.after a).maxConcurrent)
    (hrefused : m.Refuses a → m.maxConcurrent ≤ m.alive) : m.Tracked a := by
  cases a with
  | start ctx command timeout id now later spawned =>
    intro hcap
    have heq := alive_eq m
    refine ⟨fun hfull => ?_, ?_⟩
    · have hle := hrefused (refuses_start_iff.2 ⟨hcap, hfull⟩)
      omega
    · rintro hroom ⟨pid, rfl⟩
      change ((m.start ctx command timeout id now later (.ok pid)).2.alive : ℤ) ≤
        (m.start ctx command timeout id now later (.ok pid)).2.maxConcurrent at hbounded
      have hstart := start_alive command timeout now later pid hfresh hcap hroom
      rw [hstart.1, hstart.2] at hbounded
      push_cast at hbounded
      omega
  | stop | wait | markStale | exits => exact trivial

/-! ### The limit over a run -/

theorem run_concat (m : LimitedManager) (steps : List Step) (a : Step) :
    m.run (steps ++ [a]) = (m.run steps).after a := by
  rw [run, List.foldl_append]
  rfl

/-- **The limit over a run**, in which the ids of new processes are new. -/
theorem limited_iff (generation maxConcurrent : ℤ) (steps : List Step)
    (hfresh : ∀ before a rest, steps = before ++ a :: rest →
      ((new generation maxConcurrent).run before).Fresh a) :
    (new generation maxConcurrent).Limited steps ↔ 0 ≤ maxConcurrent ∧
      ∀ before a rest, steps = before ++ a :: rest →
        ((new generation maxConcurrent).run before).Tracked a := by
  constructor
  · intro h
    refine ⟨h.bounded [] steps rfl, fun before a rest hsteps => ?_⟩
    have hnext := h.bounded (before ++ [a]) rest (by rw [hsteps]; simp)
    rw [run_concat] at hnext
    exact tracked_of_limited (hfresh before a rest hsteps) hnext (h.refused before a rest hsteps)
  · rintro ⟨hmax, htracked⟩
    refine ⟨fun before rest hsteps => ?_, fun before a rest hsteps hrefused => ?_⟩
    · have hnew : ((new generation maxConcurrent).alive : ℤ) ≤ maxConcurrent := hmax
      refine System.foldl_keeps
        (I := fun m : LimitedManager => (m.alive : ℤ) ≤ m.maxConcurrent) hnew ?_ hsteps
      intro before a rest hsteps
      exact bounded_after (hfresh before a rest hsteps) (htracked before a rest hsteps)
    · exact full_of_refuses (htracked before a rest hsteps) hrefused

/-! ### When the records are exact -/

theorem Exact.put (h : m.Exact) (hy : y.alive = y.running) : (m.put id y).Exact :=
  Dict.forall_get?_set h hy

/-- The record of a process that is gone. -/
theorem Exact.put_gone (h : m.Exact) {r : FullRecord} (hr : r.state ≠ .running) :
    (m.put id { x.gone with record := r }).Exact :=
  h.put ((alive_gone x r).trans (by simp [Entry.running, hr]))

theorem Exact.withProcess (h : m.Exact) {ctx : ExecutionContext}
    {call : Entry → Except Raised (Option FullRecord) × LimitedManager}
    (hcall : ∀ x, m.processes.get? id = some x → (call x).2.Exact) :
    (m.withProcess ctx id call).2.Exact := by
  unfold LimitedManager.withProcess
  split
  · exact h
  · split
    · exact h
    · exact hcall _ ‹_›

theorem Exact.start (h : m.Exact) (ctx : ExecutionContext) (command : List String) (timeout : ℤ)
    (id now later : String) (spawned : Except String ℕ) :
    (m.start ctx command timeout id now later spawned).2.Exact := by
  unfold LimitedManager.start
  by_cases hcap : ctx.hasCapability "PROCESS_EXECUTION" = true
  · rw [if_pos hcap, enforceLimits]
    by_cases hfull : m.maxConcurrent ≤ m.running
    · rw [if_pos hfull]
      exact h
    · rw [if_neg hfull]
      cases spawned with
      | ok pid => exact h.put rfl
      | error text => exact h.put rfl
  · rw [if_neg hcap]
    exact h

theorem Exact.stop (h : m.Exact) (ctx : ExecutionContext) (id now : String) {signal : Signal}
    (hsignal : signal ≠ .goesOn) : (m.stop ctx id now signal).2.Exact := by
  rw [LimitedManager.stop]
  by_cases hcap : ctx.hasCapability "PROCESS_CONTROL" = true
  · rw [if_pos hcap]
    refine h.withProcess fun x _ => ?_
    split_ifs
    · cases signal with
      | raises => exact h
      | ends => exact h.put_gone (by simp)
      | goesOn => exact absurd rfl hsignal
    · exact h
  · rw [if_neg hcap]
    exact h

theorem Exact.wait (h : m.Exact) (ctx : ExecutionContext) (id now : String) {waited : Waited}
    (hwaited : waited ≠ .raises true) : (m.wait ctx id now waited).2.Exact := by
  rw [LimitedManager.wait]
  refine h.withProcess fun x _ => ?_
  split_ifs
  · cases waited with
    | exited code stdout stderr => exact h.put_gone (by dsimp only; split_ifs <;> simp)
    | timedOut output =>
      cases output with
      | none => exact h.put_gone (by simp)
      | some output => exact h.put_gone (by simp)
    | raises ended =>
      cases ended with
      | false => exact h
      | true => exact absurd rfl hwaited
  · exact h

theorem Exact.markStale (h : m.Exact) (currentGeneration : ℤ) :
    (m.markStale currentGeneration).Exact := by
  intro id x hx
  change (m.processes.map (markEntry currentGeneration)).get? id = some x at hx
  rw [Dict.get?_map, Option.map_eq_some_iff] at hx
  obtain ⟨y, hy, rfl⟩ := hx
  unfold markEntry
  split_ifs
  · exact (alive_gone y _).trans (by simp [Entry.running])
  · exact h id y hy

theorem Exact.exits (h : m.Exact) {id : String}
    (hid : ∀ x, m.processes.get? id = some x → x.running = false) : (m.exits id).Exact := by
  unfold LimitedManager.exits
  cases hx : m.processes.get? id with
  | none => exact h
  | some x => exact h.put ((alive_gone' x).trans (hid x hx).symm)

/-- **A noticed step** keeps the records exact. -/
theorem Exact.after (h : m.Exact) (ha : m.Noticed a) : (m.after a).Exact := by
  cases a with
  | start ctx command timeout id now later spawned =>
    exact h.start ctx command timeout id now later spawned
  | stop ctx id now signal => exact h.stop ctx id now ha
  | wait ctx id now waited => exact h.wait ctx id now ha
  | markStale currentGeneration => exact h.markStale currentGeneration
  | exits id => exact h.exits ha

/-- Exact records have no ghosts and no survivors, and mislead no step. -/
theorem Exact.tracked (h : m.Exact) (a : Step) : m.Tracked a := by
  have hexact (x : Entry) (hx : x ∈ m.processes.values) : x.alive = x.running := by
    obtain ⟨id, hid⟩ := Dict.exists_get?_of_mem_values hx
    exact h id x hid
  have hghosts : m.ghosts = 0 :=
    List.countP_eq_zero.2 fun x hx => by simp [hexact x hx]
  have hsurvivors : m.survivors = 0 :=
    List.countP_eq_zero.2 fun x hx => by simp [hexact x hx]
  cases a with
  | start ctx command timeout id now later spawned =>
    intro _
    rw [hghosts, hsurvivors]
    exact ⟨fun hfull => by push_cast; omega, fun hroom _ => by push_cast; omega⟩
  | stop | wait | markStale | exits => exact trivial

/-- **A run whose steps are all noticed is limited.** -/
theorem limited_of_noticed {generation maxConcurrent : ℤ} {steps : List Step}
    (hmax : 0 ≤ maxConcurrent)
    (hfresh : ∀ before a rest, steps = before ++ a :: rest →
      ((new generation maxConcurrent).run before).Fresh a)
    (hnoticed : ∀ before a rest, steps = before ++ a :: rest →
      ((new generation maxConcurrent).run before).Noticed a) :
    (new generation maxConcurrent).Limited steps := by
  refine (limited_iff generation maxConcurrent steps hfresh).2
    ⟨hmax, fun before a rest hsteps => Exact.tracked ?_ a⟩
  have hnew : (new generation maxConcurrent).Exact := fun id x hx => by simp [new] at hx
  exact System.foldl_keeps (I := Exact) hnew
    (fun before a rest hsteps h => h.after (hnoticed before a rest hsteps)) hsteps

/-! ### Runs that are limited, and runs that are not -/

/-- A context that may start and stop processes. -/
def operator : ExecutionContext where
  tenantId := "tenant"
  accountId := "account"
  projectId := "project"
  annyInstanceId := "anny"
  runtimeId := "runtime"
  sessionId := "session"
  actorId := "actor"
  operationId := "operation"
  executionId := "execution"
  generation := 1
  issuedAt := ⟨0, none⟩
  expiresAt := ⟨1, none⟩
  capabilities := ["PROCESS_EXECUTION", "PROCESS_CONTROL"]

/-- A start of a process. -/
def spawn (processId : String) (pid : ℕ) : Step :=
  .start operator ["sleep", "60"] 60 processId "0" "0" (.ok pid)

/-- A process that ends when it is told to makes room for the next one. -/
def obedient : List Step :=
  [spawn "a" 1, .stop operator "a" "1" .ends, spawn "b" 2]

theorem fresh_obedient : ∀ before a rest, obedient = before ++ a :: rest →
    ((new 1 1).run before).Fresh a := by
  simp only [obedient, forall_split_cons]
  exact ⟨rfl, trivial, rfl, forall_split_nil⟩

theorem limited_obedient : (new 1 1).Limited obedient := by
  refine (limited_iff 1 1 obedient fresh_obedient).2 ⟨by decide, ?_⟩
  simp only [obedient, forall_split_cons]
  exact ⟨fun _ => ⟨by decide, fun _ _ => by decide⟩, trivial,
    fun _ => ⟨by decide, fun _ _ => by decide⟩, forall_split_nil⟩

/-- A process that goes on when it is told to end. -/
def stubborn : List Step :=
  [spawn "a" 1, .stop operator "a" "1" .goesOn, spawn "b" 2]

/-- A process that exits by itself. -/
def unnoticed : List Step :=
  [spawn "a" 1, .exits "a"]

/-- **Two processes are alive where one may be**, and none is alive where a start is refused. -/
theorem not_limited :
    (∀ before a rest, stubborn = before ++ a :: rest → ((new 1 1).run before).Fresh a) ∧
      ((new 1 1).run stubborn).alive = 2 ∧ ¬ (new 1 1).Limited stubborn ∧
      (∀ before a rest, unnoticed ++ [spawn "b" 2] = before ++ a :: rest →
        ((new 1 1).run before).Fresh a) ∧
      ((new 1 1).run unnoticed).alive = 0 ∧ ((new 1 1).run unnoticed).Refuses (spawn "b" 2) ∧
      ¬ (new 1 1).Limited (unnoticed ++ [spawn "b" 2]) := by
  have htwo : ((new 1 1).run stubborn).alive = 2 := by decide
  have hnone : ((new 1 1).run unnoticed).alive = 0 := by decide
  have hrefuses : ((new 1 1).run unnoticed).Refuses (spawn "b" 2) :=
    refuses_start_iff.2 (by decide)
  refine ⟨?_, htwo, fun h => ?_, ?_, hnone, hrefuses, fun h => ?_⟩
  · simp only [stubborn, forall_split_cons]
    exact ⟨rfl, trivial, rfl, forall_split_nil⟩
  · exact absurd (h.bounded stubborn [] (List.append_nil _).symm) (by decide)
  · simp only [unnoticed, List.cons_append, List.nil_append, forall_split_cons]
    exact ⟨rfl, trivial, rfl, forall_split_nil⟩
  · exact absurd (h.refused unnoticed _ [] rfl hrefuses) (by decide)

end LimitedManager

end Process

end AnnyRuntime
