import AnnyRuntime.Journal.Journal
import AnnyRuntime.Process.Manager

/-!
# Recovery

`recover` reports the operations that a restart interrupted, and kills the processes of the runtime
before it.

It takes the entries of a generation before the one that ended, and not of that one; and it takes
every entry that is neither `COMPLETED` nor `FAILED`, whatever the operation's last entry says.  So
an operation of the last generation is not reported, and one that ran and succeeded is.  For the
same bound the running processes of the last generation go on, and those it kills are not reported,
as `mark_stale` returns nothing.

* `RecoveryManager.recovers_iff` : **when recovery is right**, in terms of the journal and the
  process table.
-/

namespace AnnyRuntime

namespace Core

open Journal Process

/-- `RecoveryReport`. -/
structure RecoveryReport where
  (previousGeneration newGeneration : ℤ)
  /-- A list made of a set: the order says nothing. -/
  interruptedOperations : List Json.Key
  staleProcesses : Option (List String)
  recoveredWorkspaces : List String
  recoveryTimestamp : String

/-- `RecoveryManager`, with what it works on. -/
structure RecoveryManager where
  /-- The file of the journal. -/
  journal : Option ByteArray
  /-- What `list_workspaces` lists. -/
  workspaces : List String
  processManager : ProcessManager
  generation : ℤ

/-- The operation of an entry, when its id can be in a set. -/
def operation? (e : LoadedEntry) : Option Json.Key :=
  if h : e.operationId.hashable = true then some (Json.Key.norm ⟨e.operationId, h⟩) else none

namespace RecoveryManager

/-- `recover`, or an exception. -/
def recover (A : FloatArith) (m : RecoveryManager) (now : String) :
    Option (RecoveryReport × RecoveryManager) := do
  let entries ← Journal.load m.journal
  let interruptedEntries ← getInterrupted A m.generation entries
  let operations ← interruptedEntries.mapM operation?
  let report : RecoveryReport :=
    { previousGeneration := m.generation
      newGeneration := m.generation + 1
      interruptedOperations := operations.dedup
      -- `mark_stale` has no `return`
      staleProcesses := none
      recoveredWorkspaces := m.workspaces
      recoveryTimestamp := now }
  return (report,
    { m with
      generation := m.generation + 1
      processManager := m.processManager.markStale m.generation })

end RecoveryManager

/-! ### What recovery should report -/

/-- The states of a finished operation. -/
def terminalStates : List String :=
  ["COMPLETED", "SUCCEEDED", "FAILED", "TIMED_OUT", "LIMIT_EXCEEDED", "CANCELLED"]

/-- The state is terminal. -/
def IsTerminal (e : LoadedEntry) : Prop := ∃ s ∈ terminalStates, e.state = .str s

/-- The entry is of an older generation. -/
def Older (A : FloatArith) (generation : ℤ) (e : LoadedEntry) : Prop :=
  ∃ g, e.runtimeGeneration.number? = some g ∧ g.lt A (.int generation) = true

/-- The entry is of the generation or an older one. -/
def UpTo (A : FloatArith) (generation : ℤ) (e : LoadedEntry) : Prop :=
  ∃ g, e.runtimeGeneration.number? = some g ∧ g.le A (.int generation) = true

/-- The entries of an operation. -/
def ofOperation (entries : List LoadedEntry) (op : Json.Key) : List LoadedEntry :=
  entries.filter fun e => operation? e = some op

/-- The latest entry of the operation is of the generation or an older one, and not terminal. -/
def IsInterrupted (A : FloatArith) (generation : ℤ) (entries : List LoadedEntry) (op : Json.Key) :
    Prop :=
  ∃ e, (ofOperation entries op).getLast? = some e ∧ UpTo A generation e ∧ ¬ IsTerminal e

namespace RecoveryManager

/-- Recovery reports exactly the interrupted operations and the processes that it kills, and no
process of the generation before goes on. -/
def Recovers (A : FloatArith) (m : RecoveryManager) (now : String) : Prop :=
  ∃ report m', m.recover A now = some (report, m') ∧
    (∀ entries, Journal.load m.journal = some entries →
      ∀ op, op ∈ report.interruptedOperations ↔ IsInterrupted A m.generation entries op) ∧
    m'.processManager.NoneRunning m.generation ∧
    ∀ id, id ∈ report.staleProcesses.getD [] ↔ id ∈ m.processManager.stale m.generation

end RecoveryManager

/-! ### When it does -/

section Entries

variable {A : FloatArith} {generation : ℤ} {entries : List LoadedEntry} {e : LoadedEntry}
  {op : Json.Key}

theorem isInterrupted_iff :
    e.isInterrupted A generation = true ↔ Older A generation e ∧ e.isFinished = false := by
  simp [LoadedEntry.isInterrupted, Older, Option.any_eq_true]

/-- What the journal takes for finished is terminal. -/
theorem isTerminal_of_isFinished (h : e.isFinished = true) : IsTerminal e := by
  rcases Bool.or_eq_true_iff.1 h with h | h
  · exact ⟨"COMPLETED", by decide, of_decide_eq_true h⟩
  · exact ⟨"FAILED", by decide, of_decide_eq_true h⟩

theorem mem_ofOperation : e ∈ ofOperation entries op ↔ e ∈ entries ∧ operation? e = some op := by
  simp [ofOperation]

variable (A generation entries)

/-- Looking for any older entry that is not finished comes to looking at the latest entry. -/
structure LatestDecides : Prop where
  /-- Where the latest entry is terminal, or of a newer generation, all older entries are
  `COMPLETED` or `FAILED`. -/
  closed : ∀ op last, (ofOperation entries op).getLast? = some last →
    IsTerminal last ∨ ¬ UpTo A generation last →
    ∀ e ∈ ofOperation entries op, Older A generation e → e.isFinished = true
  /-- Where the latest entry is of the generation itself and not terminal, an older entry is
  neither. -/
  reached : ∀ op last, (ofOperation entries op).getLast? = some last → ¬ IsTerminal last →
    UpTo A generation last → ¬ Older A generation last →
    ∃ e ∈ ofOperation entries op, Older A generation e ∧ e.isFinished = false

variable {A generation entries}

/-- The entries that are taken are those of the interrupted operations. -/
theorem taken_iff_isInterrupted :
    (∀ op, (∃ e ∈ ofOperation entries op, e.isInterrupted A generation = true) ↔
      IsInterrupted A generation entries op) ↔ LatestDecides A generation entries := by
  simp only [isInterrupted_iff]
  constructor
  · intro h
    refine ⟨fun op last hlast hend e he holder => ?_, fun op last hlast hterminal hupTo _ => ?_⟩
    · by_contra hunfinished
      obtain ⟨last', hlast', hupTo, hterminal⟩ :=
        (h op).1 ⟨e, he, holder, Bool.eq_false_iff.2 hunfinished⟩
      obtain rfl : last = last' := Option.some.inj (hlast.symm.trans hlast')
      rcases hend with hend | hend
      · exact hterminal hend
      · exact hend hupTo
    · exact (h op).2 ⟨last, hlast, hupTo, hterminal⟩
  · intro h op
    constructor
    · rintro ⟨e, he, holder, hunfinished⟩
      -- the operation has an entry, so it has a latest one
      obtain ⟨last, hlast⟩ := Option.isSome_iff_exists.1
        (List.getLast?_isSome.2 (List.ne_nil_of_mem he))
      refine ⟨last, hlast, ?_, ?_⟩
      · by_contra hupTo
        simp [h.closed op last hlast (.inr hupTo) e he holder] at hunfinished
      · intro hterminal
        simp [h.closed op last hlast (.inl hterminal) e he holder] at hunfinished
    · rintro ⟨last, hlast, hupTo, hterminal⟩
      by_cases holder : Older A generation last
      · refine ⟨last, List.mem_of_getLast? hlast, holder, Bool.eq_false_iff.2 fun hfinished => ?_⟩
        exact hterminal (isTerminal_of_isFinished hfinished)
      · exact h.reached op last hlast hterminal hupTo holder

/-- An entry that is taken names an operation when one of the operation's entries is taken. -/
theorem exists_taken_iff :
    (∃ e ∈ entries.filter (LoadedEntry.isInterrupted A generation), operation? e = some op) ↔
      ∃ e ∈ ofOperation entries op, e.isInterrupted A generation = true := by
  simp only [List.mem_filter, mem_ofOperation]
  exact exists_congr fun e => and_right_comm

/-- What a list of entries reports. -/
theorem mem_dedup_operations {taken : List LoadedEntry} {operations : List Json.Key}
    (h : taken.mapM operation? = some operations) :
    op ∈ operations.dedup ↔ ∃ e ∈ taken, operation? e = some op := by
  rw [Json.mapM_eq_some_iff] at h
  have hmem : some op ∈ taken.map operation? ↔ some op ∈ operations.map some := by rw [h]
  simpa using hmem.symm

end Entries

namespace RecoveryManager

variable {A : FloatArith} {m : RecoveryManager} {now : String}

/-- What recovery answers, when it does not raise. -/
theorem recover_eq_some {r : RecoveryReport × RecoveryManager} :
    m.recover A now = some r ↔
      ∃ entries operations, Journal.load m.journal = some entries ∧
        (∀ e ∈ entries, e.runtimeGeneration.number?.isSome = true) ∧
        (entries.filter (LoadedEntry.isInterrupted A m.generation)).mapM operation? =
          some operations ∧
        r = (⟨m.generation, m.generation + 1, operations.dedup, none, m.workspaces, now⟩,
          { m with
            generation := m.generation + 1
            processManager := m.processManager.markStale m.generation }) := by
  simp only [recover, Option.bind_eq_bind, Option.bind_eq_some_iff, getInterrupted_eq_some,
    Option.pure_def, Option.some.injEq]
  constructor
  · rintro ⟨entries, hload, _, ⟨hnumbers, rfl⟩, operations, hoperations, rfl⟩
    exact ⟨entries, operations, hload, hnumbers, hoperations, rfl⟩
  · rintro ⟨entries, operations, hload, hnumbers, hoperations, rfl⟩
    exact ⟨entries, hload, _, ⟨hnumbers, rfl⟩, operations, hoperations, rfl⟩

/-- The journal can be read, and what it says about its operations decides by their latest entry. -/
structure Diagnosable (A : FloatArith) (m : RecoveryManager) (entries : List LoadedEntry) :
    Prop where
  load : Journal.load m.journal = some entries
  numbers : ∀ e ∈ entries, e.runtimeGeneration.number?.isSome = true
  hashable : ∀ e ∈ entries, e.isInterrupted A m.generation = true → (operation? e).isSome = true
  latest : LatestDecides A m.generation entries

/-- **When recovery is right.**  The journal is diagnosable, and no process of the generation or
an older one was running. -/
theorem recovers_iff (A : FloatArith) (m : RecoveryManager) (now : String) :
    m.Recovers A now ↔
      (∃ entries, Diagnosable A m entries) ∧ m.processManager.NoneRunning m.generation := by
  rw [ProcessManager.noneRunning_iff]
  constructor
  · rintro ⟨report, m', hrecover, hreport, hrunning, hkilled⟩
    obtain ⟨entries, operations, hload, hnumbers, hoperations, heq⟩ := recover_eq_some.1 hrecover
    obtain ⟨rfl, rfl⟩ := Prod.mk.inj heq
    refine ⟨⟨entries, hload, hnumbers, ?_, ?_⟩, hrunning, ?_⟩
    · intro e he htaken
      exact Json.exists_mapM_eq_some.1 ⟨_, hoperations⟩ e (List.mem_filter.2 ⟨he, htaken⟩)
    · refine taken_iff_isInterrupted.1 fun op => Iff.trans ?_ (hreport entries hload op)
      rw [mem_dedup_operations hoperations, exists_taken_iff]
    · -- the report names no process
      exact List.eq_nil_iff_forall_not_mem.2 fun id hid => List.not_mem_nil ((hkilled id).2 hid)
  · rintro ⟨⟨entries, h⟩, hrunning, hkilled⟩
    obtain ⟨operations, hoperations⟩ := Json.exists_mapM_eq_some.2 fun e he =>
      h.hashable e (List.mem_filter.1 he).1 (List.mem_filter.1 he).2
    refine ⟨_, _, recover_eq_some.2 ⟨entries, operations, h.load, h.numbers, hoperations, rfl⟩,
      ?_, hrunning, ?_⟩
    · intro entries' hload op
      obtain rfl : entries = entries' := Option.some.inj (h.load.symm.trans hload)
      rw [mem_dedup_operations hoperations, exists_taken_iff]
      exact taken_iff_isInterrupted.2 h.latest op
    · rw [hkilled]
      exact fun id => Iff.rfl

/-! ### An operation that succeeded -/

/-- What the bridge records of a task that succeeds. -/
def succeededTask : Api.OperationJournal :=
  ["QUEUED", "RUNNING", "SUCCEEDED"].map fun state =>
    { entryId := "ev-" ++ state ++ "-exec-1", operationId := "task-1", executionId := "exec-1",
      sessionId := "bridge_session", tenantId := "test-tenant", accountId := "bridge-account",
      projectId := "bridge-project", actorId := "chatgpt_luna", workspaceId := "",
      tool := "fabric.read", state := state, startedAt := "2026-01-01T00:00:00",
      runtimeGeneration := 1 }

/-- Recovery from the generation after that task's. -/
def afterSuccess : RecoveryManager where
  journal := some (Text.encode (journalText succeededTask))
  workspaces := []
  processManager := {}
  generation := 2

/-- The entry that says that the task was queued is of an older generation and not finished, so the
task is reported. -/
theorem not_recovers_afterSuccess :
    ¬ afterSuccess.Recovers .overflowing "2026-01-02T00:00:00" := by
  rintro ⟨report, m', hrecover, hreport, -⟩
  have hload : Journal.load afterSuccess.journal = some (succeededTask.map loaded) :=
    load_journalText succeededTask
  obtain ⟨entries, operations, hload', hnumbers, hoperations, heq⟩ := recover_eq_some.1 hrecover
  obtain rfl : succeededTask.map loaded = entries := Option.some.inj (hload.symm.trans hload')
  obtain ⟨rfl, rfl⟩ := Prod.mk.inj heq
  have hinterrupted := (hreport _ hload (.str "task-1")).1
    ((mem_dedup_operations hoperations).2 (exists_taken_iff.2
      ⟨⟨.str "task-1", .str "QUEUED", .int 1⟩, by decide, by decide⟩))
  obtain ⟨last, hlast, -, hterminal⟩ := hinterrupted
  obtain rfl : (⟨.str "task-1", .str "SUCCEEDED", .int 1⟩ : LoadedEntry) = last :=
    Option.some.inj hlast
  exact hterminal ⟨"SUCCEEDED", by decide, rfl⟩

end RecoveryManager

end Core

end AnnyRuntime
