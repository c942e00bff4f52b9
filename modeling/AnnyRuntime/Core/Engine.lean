import AnnyRuntime.Json.RoundTrip
import AnnyRuntime.Lib.Text
import AnnyRuntime.Lib.Transition

/-!
# Start-up and shutdown of the engine

`engine_state.json` says whether the runtime was shut down.  `shutdown` writes that it was, and
`startup` and `verify` write that it was not; `startup` reads the file to find how the run before
ended.

`startup` writes its own checkpoint before it reads the file.  So what it reads is what it wrote
itself, and every termination is taken for an abnormal one (`verdict_abnormal`), which is right only
where no shutdown completed before (`detects_iff`).

A run is any sequence of calls.  A call takes its steps one after the other; each of them may raise,
and the process may die at each of them.
-/

namespace AnnyRuntime

namespace Core

/-- `RuntimeState`. -/
inductive RuntimeState where
  | starting
  | verifying
  | ready
  | waitingForSession
  | draining
  | stopped
  | error
  | adminMode
  deriving DecidableEq

/-- The name of a state. -/
def RuntimeState.name : RuntimeState → String
  | .starting => "STARTING"
  | .verifying => "VERIFYING"
  | .ready => "READY"
  | .waitingForSession => "WAITING_FOR_SESSION"
  | .draining => "DRAINING"
  | .stopped => "STOPPED"
  | .error => "ERROR"
  | .adminMode => "ADMIN_MODE"

/-! ### The file -/

/-- The text that `_persist_state` writes. -/
def engineStateText (generation : Json) (state : RuntimeState) (cleanShutdown : Bool)
    (now : String) : List Char :=
  Json.dumps (.obj
    [("schema_version", .int 1), ("generation", generation), ("state", .str state.name),
      ("clean_shutdown", .bool cleanShutdown), ("timestamp", .str now)])

/-- `previous_clean`: what the file says about the previous termination. -/
def previousClean : Option ByteArray → Bool
  | none => true
  | some b =>
    match (Text.decode b).bind Json.loads with
    | some (.obj ms) => ((Json.lookup "clean_shutdown" ms).getD (.bool false)).truthy
    -- the file cannot be read, or holds no dictionary: the exception is caught
    | _ => false

/-- What was persisted is read. -/
theorem previousClean_engineStateText (generation : Json) (state : RuntimeState) (clean : Bool)
    (now : String) :
    previousClean (some (Text.encode (engineStateText generation state clean now))) = clean := by
  rw [previousClean, Text.decode_encode, Option.bind_some, engineStateText, Json.loads_dumps]
  rfl

/-! ### The engine -/

/-- Where `_persist_state` is called. -/
inductive Place where
  /-- At the beginning of `startup`. -/
  | checkpoint
  /-- At the beginning of `verify`. -/
  | verifying
  /-- At the end of `startup` and of `verify`, inside the `try`. -/
  | derived
  /-- In their exception handlers. -/
  | failed
  /-- At the end of `shutdown`. -/
  | stopped
  deriving DecidableEq

/-- The argument `clean_shutdown`. -/
def Place.cleanShutdown : Place → Bool
  | .stopped => true
  | _ => false

/-- The steps of `_persist_state`. -/
inductive PersistStep where
  | openTemp
  | write
  | replace
  deriving DecidableEq

/-- Where the engine is. -/
inductive EnginePhase where
  /-- In no call. -/
  | idle
  | persisting (place : Place) (step : PersistStep)
  /-- `startup` initializes the subsystems and loads continuity. -/
  | loading
  /-- `startup` inspects the file. -/
  | inspecting
  /-- The bootstrap of `startup` and of `verify` is resolved. -/
  | resolving
  /-- `shutdown` flushes continuity. -/
  | flushing
  deriving DecidableEq

/-- What a start-up took the previous termination for, with what it was. -/
structure Verdict where
  /-- No start-up was called before this one. -/
  first : Bool
  /-- The run before ended with a completed shutdown. -/
  afterShutdown : Bool
  clean : Bool
  deriving DecidableEq

/-- The engine over its data directory, and what happened before. -/
structure EngineRun where
  /-- `engine_state.json`. -/
  stateFile : Option ByteArray
  /-- `engine_state.tmp`. -/
  tempFile : Option ByteArray
  /-- The value that the generation counter keeps. -/
  generation : Json
  state : RuntimeState := .stopped
  phase : EnginePhase := .idle
  /-- `startup` was called. -/
  started : Bool := false
  /-- The last call was a `shutdown`, and it completed. -/
  completed : Bool := false
  /-- The last start-up is the first one. -/
  first : Bool := false
  /-- `completed`, when the last start-up was called. -/
  afterShutdown : Bool := false
  /-- What the start-ups found, the last one first. -/
  verdicts : List Verdict := []

/-- What happens. -/
inductive EngineAction where
  /-- `startup` is called; `increment` returns a generation or raises. -/
  | startup (generation : Option Json)
  | verify
  | shutdown
  /-- The next step of `_persist_state`. -/
  | persist (now : String)
  | load
  | inspect
  /-- The bootstrap reports whether Anny is ready. -/
  | resolve (annyReady : Bool)
  | flush
  /-- The step at hand raises; a write may leave a part of its text. -/
  | raise (now : String) (written : ℕ)
  /-- The process ends, and an engine is made in a new one. -/
  | crash (now : String) (written : ℕ) (generation : Json)
  deriving DecidableEq

namespace EngineRun

variable (s : EngineRun)

/-- The bytes that `_persist_state` writes. -/
def stateBytes (place : Place) (now : String) : List Char :=
  engineStateText s.generation s.state place.cleanShutdown now

/-- The temporary file after a step that did not end. -/
def tornTemp (now : String) (written : ℕ) : Option ByteArray :=
  match s.phase with
  | .persisting place .write => some (Text.encode ((s.stateBytes place now).take written))
  | _ => s.tempFile

/-- `_persist_state` is called. -/
def persistState (state : RuntimeState) (place : Place) : EngineRun :=
  { s with state := state, phase := .persisting place .openTemp }

/-- What follows `_persist_state`. -/
def persisted : Place → EngineRun
  | .checkpoint => { s with phase := .loading }
  | .verifying => { s with phase := .resolving }
  | .derived | .failed => { s with phase := .idle }
  | .stopped => { s with phase := .idle, completed := true }

/-- An exception leaves the step at hand. -/
def raised : EngineRun :=
  match s.phase with
  -- the exception handler persists the error
  | .loading | .inspecting | .resolving | .persisting .derived _ => s.persistState .error .failed
  | .idle | .flushing | .persisting _ _ => { s with phase := .idle }

/-- A step of the engine, when it can happen. -/
def next (s : EngineRun) : EngineAction → Option EngineRun
  | .startup generation =>
    if s.phase = .idle then
      let s := { s with
        state := .starting
        started := true
        completed := false
        first := !s.started
        afterShutdown := s.completed }
      match generation with
      | some g => some ({ s with generation := g }.persistState .starting .checkpoint)
      | none => some s
    else none
  | .verify =>
    if s.phase = .idle then some ({ s with completed := false }.persistState .verifying .verifying)
    else none
  | .shutdown =>
    if s.phase = .idle then
      some { s with state := .draining, phase := .flushing, completed := false }
    else none
  | .persist now =>
    match s.phase with
    | .persisting place .openTemp =>
      some { s with tempFile := some (Text.encode []), phase := .persisting place .write }
    | .persisting place .write =>
      some { s with
        tempFile := some (Text.encode (s.stateBytes place now))
        phase := .persisting place .replace }
    | .persisting place .replace =>
      some ({ s with stateFile := s.tempFile, tempFile := none }.persisted place)
    | _ => none
  | .load => if s.phase = .loading then some { s with phase := .inspecting } else none
  | .inspect =>
    if s.phase = .inspecting then
      some { s with
        phase := .resolving
        verdicts := ⟨s.first, s.afterShutdown, previousClean s.stateFile⟩ :: s.verdicts }
    else none
  | .resolve annyReady =>
    if s.phase = .resolving then
      some (s.persistState (if annyReady then .waitingForSession else .adminMode) .derived)
    else none
  | .flush =>
    if s.phase = .flushing then some (s.persistState .stopped .stopped) else none
  | .raise now written =>
    if s.phase = .idle then none else some { s.raised with tempFile := s.tornTemp now written }
  | .crash now written generation =>
    some { s with
      tempFile := s.tornTemp now written
      generation := generation
      state := .stopped
      phase := .idle }

/-- No call was made, whatever is in the files. -/
def Start (s : EngineRun) : Prop :=
  ∃ stateFile tempFile generation, s = { stateFile, tempFile, generation }

end EngineRun

/-- The runs of engines over one data directory, one after the other. -/
def engineSystem : System EngineRun EngineAction := .ofFn EngineRun.Start EngineRun.next

namespace EngineRun

/-- On every start-up after the first, the previous termination is taken for a clean one exactly if
the run before ended with a completed shutdown. -/
def Detects (s : EngineRun) : Prop :=
  ∀ v ∈ s.verdicts, v.first = false → (v.clean = true ↔ v.afterShutdown = true)

/-! ### What a start-up finds -/

/-- The file says that the runtime was not shut down. -/
def SaysUnclean (file : Option ByteArray) : Prop := previousClean file = false

/-- What a start-up has written before it inspects the file. -/
structure Checkpointed (s : EngineRun) : Prop where
  /-- The file that a checkpoint is replaced with is complete. -/
  ready : s.phase = .persisting .checkpoint .replace → SaysUnclean s.tempFile
  loading : s.phase = .loading → SaysUnclean s.stateFile
  inspecting : s.phase = .inspecting → SaysUnclean s.stateFile
  /-- Every start-up found its own checkpoint. -/
  verdicts : ∀ v ∈ s.verdicts, v.clean = false

section Steps

variable {s t : EngineRun}

/-- A step that ends in another phase, and inspects nothing. -/
theorem Checkpointed.of_phase (h : Checkpointed s) (hverdicts : t.verdicts = s.verdicts)
    (hready : t.phase ≠ .persisting .checkpoint .replace) (hloading : t.phase ≠ .loading)
    (hinspecting : t.phase ≠ .inspecting) : Checkpointed t where
  ready hp := absurd hp hready
  loading hp := absurd hp hloading
  inspecting hp := absurd hp hinspecting
  verdicts := hverdicts ▸ h.verdicts

theorem Checkpointed.persist (h : Checkpointed s) {now : String}
    (hnext : s.next (.persist now) = some t) : Checkpointed t := by
  unfold next at hnext
  cases hp : s.phase with
  | persisting place step =>
    cases step with
    | openTemp =>
      simp only [hp, Option.some.injEq] at hnext
      subst hnext
      exact h.of_phase rfl (by simp) (by simp) (by simp)
    | write =>
      simp only [hp, Option.some.injEq] at hnext
      subst hnext
      refine ⟨fun hready => ?_, by simp, by simp, h.verdicts⟩
      obtain rfl : place = .checkpoint := by simpa using hready
      exact previousClean_engineStateText ..
    | replace =>
      simp only [hp, Option.some.injEq] at hnext
      subst hnext
      cases place with
      | checkpoint =>
        exact ⟨by simp [persisted], fun _ => h.ready hp, by simp [persisted], h.verdicts⟩
      | verifying | derived | failed | stopped =>
        exact h.of_phase rfl (by simp [persisted]) (by simp [persisted]) (by simp [persisted])
  | idle | loading | inspecting | resolving | flushing => simp [hp] at hnext

theorem phase_raised :
    s.raised.phase = .idle ∨ s.raised.phase = .persisting .failed .openTemp := by
  unfold raised
  split
  all_goals simp [persistState]

theorem verdicts_raised : s.raised.verdicts = s.verdicts := by
  unfold raised
  split
  all_goals rfl

theorem Checkpointed.step (h : Checkpointed s) {a : EngineAction} (hnext : s.next a = some t) :
    Checkpointed t := by
  cases a with
  | persist now => exact h.persist hnext
  | startup generation =>
    rw [next, Option.ite_none_right_eq_some] at hnext
    obtain ⟨hp, hnext⟩ := hnext
    cases generation with
    | some g =>
      obtain rfl := Option.some.inj hnext
      exact h.of_phase rfl (by simp [persistState]) (by simp [persistState])
        (by simp [persistState])
    | none =>
      obtain rfl := Option.some.inj hnext
      exact h.of_phase rfl (by simp [hp]) (by simp [hp]) (by simp [hp])
  | verify =>
    simp only [next, Option.ite_none_right_eq_some, Option.some.injEq] at hnext
    obtain ⟨-, rfl⟩ := hnext
    exact h.of_phase rfl (by simp [persistState]) (by simp [persistState]) (by simp [persistState])
  | shutdown =>
    simp only [next, Option.ite_none_right_eq_some, Option.some.injEq] at hnext
    obtain ⟨-, rfl⟩ := hnext
    exact h.of_phase rfl (by simp) (by simp) (by simp)
  | load =>
    simp only [next, Option.ite_none_right_eq_some, Option.some.injEq] at hnext
    obtain ⟨hp, rfl⟩ := hnext
    -- loading leaves the file alone
    exact ⟨by simp, by simp, fun _ => h.loading hp, h.verdicts⟩
  | inspect =>
    simp only [next, Option.ite_none_right_eq_some, Option.some.injEq] at hnext
    obtain ⟨hp, rfl⟩ := hnext
    exact ⟨by simp, by simp, by simp, List.forall_mem_cons.2 ⟨h.inspecting hp, h.verdicts⟩⟩
  | resolve annyReady =>
    simp only [next, Option.ite_none_right_eq_some, Option.some.injEq] at hnext
    obtain ⟨-, rfl⟩ := hnext
    exact h.of_phase rfl (by simp [persistState]) (by simp [persistState]) (by simp [persistState])
  | flush =>
    simp only [next, Option.ite_none_right_eq_some, Option.some.injEq] at hnext
    obtain ⟨-, rfl⟩ := hnext
    exact h.of_phase rfl (by simp [persistState]) (by simp [persistState]) (by simp [persistState])
  | raise now written =>
    simp only [next, Option.ite_none_left_eq_some] at hnext
    obtain ⟨-, hnext⟩ := hnext
    obtain rfl := Option.some.inj hnext
    rcases phase_raised (s := s) with hp | hp
    · exact h.of_phase verdicts_raised (by simp [hp]) (by simp [hp]) (by simp [hp])
    · exact h.of_phase verdicts_raised (by simp [hp]) (by simp [hp]) (by simp [hp])
  | crash now written generation =>
    obtain rfl := Option.some.inj hnext
    exact h.of_phase rfl (by simp) (by simp) (by simp)

end Steps

theorem checkpointed_invariant : engineSystem.Invariant Checkpointed where
  init := by
    rintro s ⟨stateFile, tempFile, generation, rfl⟩
    constructor <;> simp
  step _ _ _ h hstep := h.step hstep

/-- Every start-up takes the previous termination for an abnormal one. -/
theorem verdict_abnormal {s : EngineRun} (hs : engineSystem.Reachable s) :
    ∀ v ∈ s.verdicts, v.clean = false := (checkpointed_invariant.holds hs).verdicts

/-- **When crashes are told from shutdowns.**  In every run: as long as no start-up after the first
that inspected the file followed a run that ended with a completed shutdown. -/
theorem detects_iff :
    ∀ s, engineSystem.Reachable s →
      (Detects s ↔ ∀ v ∈ s.verdicts, v.first = false → v.afterShutdown = false) := by
  intro s hs
  have habnormal := verdict_abnormal hs
  constructor
  · intro h v hv hfirst
    by_contra hafter
    have hclean := (h v hv hfirst).2 (Bool.eq_true_of_not_eq_false hafter)
    rw [habnormal v hv] at hclean
    exact Bool.false_ne_true hclean
  · intro h v hv hfirst
    rw [habnormal v hv, h v hv hfirst]

/-- A start-up. -/
def startingUp : List EngineAction :=
  let now := "2026-01-01T00:00:00+00:00"
  [.startup (some (.int 1)), .persist now, .persist now, .persist now, .load, .inspect]

/-- What follows in a start-up, and a shutdown. -/
def shuttingDown : List EngineAction :=
  let now := "2026-01-01T00:00:01+00:00"
  [.resolve true, .persist now, .persist now, .persist now, .shutdown, .flush, .persist now,
    .persist now, .persist now]

/-- Over an empty directory. -/
def emptyRun : EngineRun := { stateFile := none, tempFile := none, generation := .int 0 }

/-- A start-up, a crash and another start-up. -/
def afterCrash : EngineRun :=
  (System.runFn next emptyRun
    (startingUp ++ .crash "2026-01-01T00:00:01+00:00" 0 (.int 1) :: startingUp)).get
    (by decide +kernel)

theorem detects_afterCrash : afterCrash.verdicts.length = 2 ∧ Detects afterCrash := by
  refine ⟨by decide +kernel, (detects_iff afterCrash ?_).2 (by decide +kernel)⟩
  exact System.reachable_runFn (.init ⟨none, none, .int 0, rfl⟩) (Option.some_get _).symm

/-- A start-up after a shutdown that completed finds an abnormal termination. -/
theorem not_detects_afterShutdown : ¬ ∀ s, engineSystem.Reachable s → Detects s := by
  intro h
  have hrun : (System.runFn next emptyRun (startingUp ++ shuttingDown ++ startingUp)).map
      (fun s => s.verdicts.map fun v => (v.first, v.afterShutdown)) =
        some [(false, true), (true, false)] := by decide +kernel
  obtain ⟨s, hs, hverdicts⟩ := Option.map_eq_some_iff.1 hrun
  have hreach : engineSystem.Reachable s :=
    System.reachable_runFn (.init ⟨none, none, .int 0, rfl⟩) hs
  obtain ⟨v, hv, hfirst, hafter⟩ :
      ∃ v ∈ s.verdicts, v.first = false ∧ v.afterShutdown = true := by
    have hmem : (false, true) ∈ s.verdicts.map fun v => (v.first, v.afterShutdown) := by
      simp [hverdicts]
    simpa using hmem
  have hclean := (h s hreach v hv hfirst).2 hafter
  rw [verdict_abnormal hreach v hv] at hclean
  exact Bool.false_ne_true hclean

end EngineRun

end Core

end AnnyRuntime
