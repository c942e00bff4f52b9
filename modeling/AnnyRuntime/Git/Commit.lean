import AnnyRuntime.Continuity.Contract
import AnnyRuntime.Continuity.Rerun
import AnnyRuntime.Execution.Handlers

/-!
# Committing

`GitService.commit` prepares a change, runs `git add` and `git commit`, and finalizes the change.
Between the two it does not look at the exit code of the command, nor whether the commit of the
repository is another one.

What the shell returns is arbitrary, and so is what the repository is at before and after.

* `stepRecord_prepared` : the record that is finalized is the one that was prepared.
* `commit_runs` : what a call writes that comes to run its commands.
* `honest_iff` : **a finalization is recorded for a real commit only, exactly when the commands make
  one, or the call does not get to run them** (or it raises at the lists of its record).
* `not_honest_rejected` : a commit that git refuses is recorded as one that was made.
-/

namespace AnnyRuntime

namespace Git

open Continuity

/-- What a command returned. -/
structure ShellResult where
  exitCode : ℤ
  stdout : String
  deriving DecidableEq

/-- What `commit` is given, next to the message and the author. -/
structure CommitRequest where
  (missionId taskId stepId actorId actorLevel repository branch reason action nextAction : String)
  executionId : Option String := none
  (tests evidenceRefs : List String)
  deriving DecidableEq

/-- What `commit` takes from the outside. -/
structure CommitWorld where
  /-- The gate allows `GIT_WRITE`. -/
  allowed : Bool
  /-- `git rev-parse HEAD || echo ''`. -/
  revParse : ShellResult
  /-- `git diff --name-only --cached || git diff --name-only`. -/
  diffNames : ShellResult
  /-- `git add -A && git commit …`. -/
  addCommit : ShellResult
  /-- `git log -1 --format='%H%n%an%n%s'`. -/
  log : ShellResult
  /-- The commit that the repository is at before the commands, and after them. -/
  (headBefore headAfter : String)
  prepareStamp : PrepareStamp
  finalizeStamp : FinalizeStamp
  /-- `str(time.time())`. -/
  timestamp : String
  deriving DecidableEq

/-- What `commit` returns. -/
structure CommitResult where
  (commitSha author message timestamp : String)
  deriving DecidableEq

/-- How a call of `commit` goes. -/
structure CommitRun where
  /-- What it writes. -/
  writes : List Write := []
  /-- It comes to run its commands. -/
  ran : Bool := false
  /-- What it returns, unless it raises. -/
  result : Option CommitResult := none

/-- `commit_before`. -/
def CommitWorld.commitBefore (w : CommitWorld) : String :=
  String.ofList (Text.strip w.revParse.stdout.toList)

/-- `files_changed`. -/
def CommitWorld.filesChanged (w : CommitWorld) : List String :=
  (Execution.outputLines w.diffNames.stdout).filter (· ≠ "")

/-- The lines of what `git log` printed. -/
def CommitWorld.logLines (w : CommitWorld) : List String :=
  ((Text.strip w.log.stdout.toList).splitOn '\n').map String.ofList

/-- `commit_after`. -/
def CommitWorld.commitAfter (w : CommitWorld) : String := (w.logLines[0]?).getD ""

/-- The request to prepare the change. -/
def CommitRequest.prepare (q : CommitRequest) (commitBefore : String) : PrepareRequest where
  missionId := q.missionId
  taskId := q.taskId
  stepId := q.stepId
  actorId := q.actorId
  actorLevel := q.actorLevel
  repository := q.repository
  branch := q.branch
  commitBefore := commitBefore
  reason := q.reason
  action := q.action
  nextAction := q.nextAction
  executionId := q.executionId

/-- The request to finalize it. -/
def CommitRequest.finalize (q : CommitRequest) (w : CommitWorld) (prepareEvent : EventRecord) :
    FinalizeRequest where
  prepareEvent := prepareEvent
  commitAfter := w.commitAfter
  filesChanged := w.filesChanged
  tests := q.tests
  evidenceRefs := q.evidenceRefs

/-- `commit`. -/
def commit (e : ContinuityEngine) (q : CommitRequest) (w : CommitWorld) : CommitRun :=
  if w.allowed then
    match stepRecord e (.str q.missionId) (.str q.stepId) with
    -- `prepare_mutation` raises
    | none => {}
    | some r =>
      let request := q.prepare w.commitBefore
      let r := preparedRecord request w.prepareStamp r
      let prepared := preparedEvent request w.prepareStamp r
      let writes := [.record r, .event prepared]
      let event := { prepared with sequence := e.eventSequence + 1 }
      match finalizeMutation (e.writeAll writes) (q.finalize w event) w.finalizeStamp with
      | none => { writes := writes, ran := true }
      | some finalized =>
        { writes := writes ++ finalized
          ran := true
          result := some
            { commitSha := w.commitAfter
              author := (w.logLines[1]?).getD ""
              message := (w.logLines[2]?).getD ""
              timestamp := w.timestamp } }
  -- the gate denies it
  else {}

/-- The command succeeded, and the repository moved from the one commit to the other. -/
structure RealCommit (w : CommitWorld) : Prop where
  exitCode : w.addCommit.exitCode = 0
  before : w.headBefore = w.commitBefore
  after : w.headAfter = w.commitAfter
  moved : w.headBefore ≠ w.headAfter

instance (w : CommitWorld) : Decidable (RealCommit w) :=
  decidable_of_iff (w.addCommit.exitCode = 0 ∧ w.headBefore = w.commitBefore ∧
    w.headAfter = w.commitAfter ∧ w.headBefore ≠ w.headAfter)
    ⟨fun ⟨h1, h2, h3, h4⟩ => ⟨h1, h2, h3, h4⟩, fun ⟨h1, h2, h3, h4⟩ => ⟨h1, h2, h3, h4⟩⟩

/-- The write is a finalization. -/
def FinalizesWrite : Write → Prop
  | .event ev => ev.eventType = .str ContinuityEventType.mutationFinalized.value
  | .record _ => False

/-- What a call records is what happened. -/
structure Honest (e : ContinuityEngine) (q : CommitRequest) (w : CommitWorld) : Prop where
  /-- A finalization is written exactly when a commit was made. -/
  finalized : (∃ x ∈ (commit e q w).writes, FinalizesWrite x) ↔
    (commit e q w).ran = true ∧ RealCommit w
  /-- Otherwise the change stays open: the record of its step is active. -/
  stays : (commit e q w).ran = true → ¬ RealCommit w →
    ∃ r, stepRecord (e.writeAll (commit e q w).writes) (.str q.missionId) (.str q.stepId) = some r ∧
      r.implementationState = .str ContinuityStatus.active.value

/-- The call comes to run its commands: it is allowed, and the step has a record. -/
def Runs (e : ContinuityEngine) (q : CommitRequest) (w : CommitWorld) : Prop :=
  w.allowed = true ∧ ∃ r, stepRecord e (.str q.missionId) (.str q.stepId) = some r

/-- The lists of the record of the step are lists. -/
def Finalizable (e : ContinuityEngine) (q : CommitRequest) : Prop :=
  ∀ r, stepRecord e (.str q.missionId) (.str q.stepId) = some r → Listed r

variable {e : ContinuityEngine} {q : CommitRequest} {w : CommitWorld}

/-! ### The record of a step -/

/-- Where the last element that passes is replaced by one that passes, that is the last one. -/
theorem getLast?_filter_replace {α : Type*} {p : α → Bool} {l₁ l₂ : List α} {a b : α}
    (h : ((l₁ ++ a :: l₂).filter p).getLast? = some a) (hnot : a ∉ l₂) (hb : p b = true) :
    ((l₁ ++ b :: l₂).filter p).getLast? = some b := by
  have hl₂ : l₂.filter p = [] := by
    by_contra hne
    obtain ⟨c, hc⟩ := Option.isSome_iff_exists.1 (List.getLast?_isSome.2 hne)
    have hpa : p a = true := (List.mem_filter.1 (List.mem_of_getLast? h)).2
    rw [List.filter_append, List.filter_cons_of_pos hpa, List.getLast?_append_of_ne_nil _
      (List.cons_ne_nil _ _), List.getLast?_cons, hc] at h
    obtain rfl : c = a := Option.some.inj h
    exact hnot (List.mem_of_mem_filter (List.mem_of_getLast? hc))
  rw [List.filter_append, List.filter_cons_of_pos hb, hl₂]
  simp

/-- **The record of a step stays the record of the step** when it is saved in another state. -/
theorem stepRecord_put {missionId stepId : Json} {r x : ContinuityRecord} {e' : ContinuityEngine}
    (hkeyed : Keyed e.records) (h : stepRecord e missionId stepId = some r)
    (hid : x.continuityId = r.continuityId) (hm : x.missionId = r.missionId)
    (hs : x.stepId = r.stepId) (he : e'.records = putRecord e.records x) :
    stepRecord e' missionId stepId = some x := by
  obtain ⟨hmem, hstep⟩ := stepRecord_spec h
  have hmission := Tracked.missionId_of_stepRecord h
  have hget : e.records.get? x.continuityId.norm = some r := by
    rw [hid]
    exact Tracked.get?_of_mem_values (s := { engine := e }) hkeyed hmem
  obtain ⟨l₁, l₂, hentries, -, hset⟩ := Dict.entries_set_of_get? hget
  -- a record is under its id only, so no later entry is the same one
  have hnot : r ∉ l₂.map Prod.snd := by
    intro hr
    obtain ⟨⟨k, r'⟩, hin, rfl : r' = r⟩ := List.mem_map.1 hr
    have hk : e.records.get? k = some r' :=
      Dict.get?_of_mem_entries (hentries ▸ List.mem_append_right _ (List.mem_cons_of_mem _ hin))
    have hnodup := e.records.nodup
    rw [hentries, List.map_append, List.map_cons] at hnodup
    refine (List.nodup_cons.1 hnodup.of_append_right).1 (List.mem_map.2 ⟨(k, r'), hin, ?_⟩)
    exact (hkeyed k r' hk).symm.trans (hkeyed _ r' hget)
  simp only [stepRecord, ContinuityEngine.getRecordsByMission, List.filter_filter] at h ⊢
  have hp : (decide (x.stepId = stepId) && decide (x.missionId = missionId)) = true := by
    rw [hm, hs, hstep, hmission]
    simp
  have hvalues : e.records.values = l₁.map Prod.snd ++ r :: l₂.map Prod.snd := by
    simp [Dict.values, hentries]
  have hvalues' : e'.records.values = l₁.map Prod.snd ++ x :: l₂.map Prod.snd := by
    simp [Dict.values, he, putRecord, hset]
  rw [hvalues] at h
  rw [hvalues']
  exact getLast?_filter_replace h hnot hp

/-- The record that is finalized is the one that was prepared. -/
theorem stepRecord_prepared {r : ContinuityRecord} (hkeyed : Keyed e.records)
    (h : stepRecord e (.str q.missionId) (.str q.stepId) = some r) (p : PrepareRequest)
    (t : PrepareStamp) (ev : EventRecord) :
    stepRecord (e.writeAll [.record (preparedRecord p t r), .event ev]) (.str q.missionId)
      (.str q.stepId) = some (preparedRecord p t r) :=
  stepRecord_put hkeyed h rfl rfl rfl rfl

/-! ### A call -/

/-- The record of the step, when the change is prepared. -/
def openRecord (q : CommitRequest) (w : CommitWorld) (r : ContinuityRecord) : ContinuityRecord :=
  preparedRecord (q.prepare w.commitBefore) w.prepareStamp r

/-- What the call writes before it runs its commands. -/
def openWrites (q : CommitRequest) (w : CommitWorld) (r : ContinuityRecord) : List Write :=
  [.record (openRecord q w r),
    .event (preparedEvent (q.prepare w.commitBefore) w.prepareStamp (openRecord q w r))]

/-- The request to finalize the change. -/
def finalRequest (e : ContinuityEngine) (q : CommitRequest) (w : CommitWorld)
    (r : ContinuityRecord) : FinalizeRequest :=
  q.finalize w { preparedEvent (q.prepare w.commitBefore) w.prepareStamp (openRecord q w r) with
    sequence := e.eventSequence + 1 }

/-- A record with a value that is no list cannot be finalized. -/
theorem listed_of_finalizedRecord {p : FinalizeRequest} {t : FinalizeStamp}
    {r r' : ContinuityRecord} (h : finalizedRecord p t r = some r') : Listed r := by
  have hextend : ∀ {v v' : Json} {l : List String}, extend v l = some v' → ∃ xs, v = .arr xs := by
    intro v v' l hv
    cases v with
    | arr xs => exact ⟨xs, rfl⟩
    | _ => exact absurd hv (by simp [extend])
  simp only [finalizedRecord, Option.bind_eq_bind, Option.bind_eq_some_iff] at h
  obtain ⟨_, hfiles, _, htests, _, hevidence, -⟩ := h
  exact ⟨hextend hfiles, hextend htests, hextend hevidence⟩

theorem listed_openRecord {r : ContinuityRecord} : Listed (openRecord q w r) ↔ Listed r :=
  ⟨fun h => ⟨h.filesChanged, h.tests, h.evidenceRefs⟩,
    fun h => ⟨h.filesChanged, h.tests, h.evidenceRefs⟩⟩

/-- **What finalizing does** at the end of a call. -/
theorem finalizeMutation_open {r : ContinuityRecord} (hkeyed : Keyed e.records)
    (h : stepRecord e (.str q.missionId) (.str q.stepId) = some r) :
    finalizeMutation (e.writeAll (openWrites q w r)) (finalRequest e q w r) w.finalizeStamp =
      (finalizedRecord (finalRequest e q w r) w.finalizeStamp (openRecord q w r)).map fun r' =>
        [.record r', .event (finalizedEvent (finalRequest e q w r) w.finalizeStamp r'),
          .event (mutatedEvent (finalRequest e q w r) w.finalizeStamp r')] := by
  have hstep : stepRecord (e.writeAll (openWrites q w r))
      (finalRequest e q w r).prepareEvent.missionId (finalRequest e q w r).prepareEvent.stepId =
        some (openRecord q w r) :=
    stepRecord_prepared hkeyed h _ _ _
  rw [finalizeMutation, hstep, Option.bind_eq_bind, Option.bind_some]
  cases finalizedRecord (finalRequest e q w r) w.finalizeStamp (openRecord q w r) <;> rfl

theorem finalizesWrite_event {p : FinalizeRequest} {t : FinalizeStamp} {r : ContinuityRecord} :
    FinalizesWrite (.event (finalizedEvent p t r)) := rfl

theorem not_finalizesWrite_open {r : ContinuityRecord} :
    ¬ ∃ x ∈ openWrites q w r, FinalizesWrite x := by
  rintro ⟨x, hx, hf⟩
  simp only [openWrites, List.mem_cons, List.not_mem_nil, or_false] at hx
  rcases hx with rfl | rfl
  · exact hf
  · have hne : ContinuityEventType.mutationPrepared.value ≠
        ContinuityEventType.mutationFinalized.value := by decide
    exact hne (Json.str.inj hf)

/-- A call that does not come to run its commands writes nothing. -/
theorem commit_of_not_runs (h : ¬ Runs e q w) : commit e q w = {} := by
  by_cases ha : w.allowed = true
  · cases hr : stepRecord e (.str q.missionId) (.str q.stepId) with
    | none => simp [commit, ha, hr]
    | some r => exact absurd ⟨ha, r, hr⟩ h
  · simp [commit, ha]

/-- **What a call writes** that comes to run its commands: it finalizes what it prepared, whatever
the commands return. -/
theorem commit_runs {r : ContinuityRecord} (hkeyed : Keyed e.records) (ha : w.allowed = true)
    (h : stepRecord e (.str q.missionId) (.str q.stepId) = some r) :
    (commit e q w).ran = true ∧
      (Listed r → ∃ r', (commit e q w).writes = openWrites q w r ++
        [.record r', .event (finalizedEvent (finalRequest e q w r) w.finalizeStamp r'),
          .event (mutatedEvent (finalRequest e q w r) w.finalizeStamp r')]) ∧
      (¬ Listed r → (commit e q w).writes = openWrites q w r) := by
  have hfinal := finalizeMutation_open (w := w) hkeyed h
  have hcommit : commit e q w =
      match finalizeMutation (e.writeAll (openWrites q w r)) (finalRequest e q w r)
        w.finalizeStamp with
      | none => { writes := openWrites q w r, ran := true }
      | some finalized =>
        { writes := openWrites q w r ++ finalized
          ran := true
          result := some
            { commitSha := w.commitAfter
              author := (w.logLines[1]?).getD ""
              message := (w.logLines[2]?).getD ""
              timestamp := w.timestamp } } := by
    simp only [commit, ha, if_true, h]
    rfl
  rw [hcommit, hfinal]
  cases hr' : finalizedRecord (finalRequest e q w r) w.finalizeStamp (openRecord q w r) with
  | none =>
    refine ⟨rfl, fun hl => ?_, fun _ => rfl⟩
    obtain ⟨r', hsome, -⟩ := Tracked.finalizedRecord_listed (finalRequest e q w r) w.finalizeStamp
      (listed_openRecord.2 hl)
    exact absurd (hr'.symm.trans hsome) (by simp)
  | some r' =>
    exact ⟨rfl, fun _ => ⟨r', rfl⟩,
      fun hl => absurd (listed_openRecord.1 (listed_of_finalizedRecord hr')) hl⟩

/-- It writes a finalization whatever the commands return. -/
theorem finalizes_iff {r : ContinuityRecord} (hkeyed : Keyed e.records) (ha : w.allowed = true)
    (h : stepRecord e (.str q.missionId) (.str q.stepId) = some r) :
    (∃ x ∈ (commit e q w).writes, FinalizesWrite x) ↔ Listed r := by
  obtain ⟨-, hlisted, hnot⟩ := commit_runs hkeyed ha h
  constructor
  · intro hx
    by_contra hl
    rw [hnot hl] at hx
    exact not_finalizesWrite_open hx
  · intro hl
    obtain ⟨r', hwrites⟩ := hlisted hl
    rw [hwrites]
    exact ⟨_, List.mem_append_right _ (List.mem_cons_of_mem _ List.mem_cons_self),
      finalizesWrite_event⟩

theorem finalizable_iff {r : ContinuityRecord}
    (h : stepRecord e (.str q.missionId) (.str q.stepId) = some r) : Finalizable e q ↔ Listed r :=
  ⟨fun hf => hf r h, fun hl _ hr' => Option.some.inj (h.symm.trans hr') ▸ hl⟩

/-- **A finalization is recorded for a real commit only** exactly when the commands make one, or
are not run. -/
theorem honest_iff (h : Reached e) :
    Honest e q w ↔ (Runs e q w → (Finalizable e q ↔ RealCommit w)) := by
  by_cases hruns : Runs e q w
  · obtain ⟨ha, r, hr⟩ := hruns
    obtain ⟨hran, -, hnot⟩ := commit_runs h.keyed ha hr
    have hwritten := finalizes_iff h.keyed ha hr
    rw [finalizable_iff hr]
    constructor
    · intro hh _
      rw [← hwritten, hh.finalized, hran]
      simp
    · intro hreal
      have hreal := hreal ⟨ha, r, hr⟩
      refine ⟨by rw [hwritten, hreal, hran]; simp, fun _ hnever => ?_⟩
      rw [hnot (mt hreal.1 hnever)]
      exact ⟨openRecord q w r, stepRecord_prepared h.keyed hr _ _ _, rfl⟩
  · have hnone := commit_of_not_runs hruns
    refine ⟨fun _ hr => absurd hr hruns, fun _ => ⟨?_, ?_⟩⟩
    · simp [hnone]
    · simp [hnone]

/-- What is committed, with no author. -/
def sampleRequest : CommitRequest where
  missionId := "m-1"
  taskId := "t-1"
  stepId := "s-1"
  actorId := "ANNY"
  actorLevel := "L0"
  repository := "ANNY-OPERATIONAL"
  branch := "main"
  reason := "Updated documentation"
  action := "commit"
  nextAction := "RUN_TESTS"
  tests := ["test_docs"]
  evidenceRefs := []

/-- A hook refuses the commit. -/
def rejectedWorld : CommitWorld where
  allowed := true
  revParse := ⟨0, "abc1234\n"⟩
  diffNames := ⟨0, "README.md\n"⟩
  addCommit := ⟨1, ""⟩
  log := ⟨0, "abc1234\nANNY\nBefore\n"⟩
  headBefore := "abc1234"
  headAfter := "abc1234"
  prepareStamp := ⟨"evt-1", "2024-01-01", "2024-01-01"⟩
  finalizeStamp := ⟨"evt-2", "evt-3", "2024-01-01", "2024-01-01", "2024-01-01"⟩
  timestamp := "1700000000.0"

/-- The commit is made. -/
def committedWorld : CommitWorld :=
  { rejectedWorld with
    addCommit := ⟨0, "[main def5678] After\n"⟩
    log := ⟨0, "def5678\nANNY\nAfter\n"⟩
    headAfter := "def5678" }

/-- Nothing was committed, and a finalization is recorded. -/
theorem not_honest_rejected :
    ¬ ∀ e, Reached e → ∀ q w, Honest e q w := by
  intro h
  have hh := h createdEngine (reached_emptyEngine.write (.record _)) sampleRequest rejectedWorld
  have hwritten : ∃ x ∈ (commit createdEngine sampleRequest rejectedWorld).writes,
      FinalizesWrite x := by
    refine (finalizes_iff (reached_emptyEngine.write (.record _)).keyed rfl
      (r := createdEngine.records.values.head (by decide)) (by decide +kernel)).2 ?_
    exact ⟨⟨[], rfl⟩, ⟨[], rfl⟩, ⟨[], rfl⟩⟩
  exact absurd (hh.finalized.1 hwritten).2.exitCode (by decide)

/-- A commit that was made is recorded as one. -/
theorem honest_committed : Honest createdEngine sampleRequest committedWorld := by
  refine (honest_iff (reached_emptyEngine.write (.record _))).2 fun _ => ?_
  have hreal : RealCommit committedWorld := by decide +kernel
  refine iff_of_true (fun r hr => ?_) hreal
  have hget : r = createdEngine.records.values.head (by decide) := by
    refine Option.some.inj (hr.symm.trans ?_)
    decide +kernel
  rw [hget]
  exact ⟨⟨[], rfl⟩, ⟨[], rfl⟩, ⟨[], rfl⟩⟩

end Git

end AnnyRuntime
