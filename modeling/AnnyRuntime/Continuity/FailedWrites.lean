import AnnyRuntime.Continuity.Reload

/-!
# Writes that fail

`save_record` and `append_event` change the memory of the engine first, then open the log, then
encode the entry and write its line.  When one of these raises, the memory stays as it is by then.

* `attempt_of_writes` : a call whose line is written does what the engine says.
* `events_attempt` : an event whose write failed is always left in memory.
* `failed_write_iff` : **a call that raises leaves the memory alone exactly when it saves a record
  whose id cannot be a key, or one that is there already.**
* `sequence_after_failure` : the next event has the number after the lost one.
-/

namespace AnnyRuntime

namespace Continuity

/-- A record with any values. -/
structure GivenRecord (κ : Type*) where
  /-- What a dictionary compares of its id, unless the id cannot be a key. -/
  key : Option κ
  /-- The values of its fields. -/
  values : List PyVal
  full : values.length = ContinuityRecord.fields.length

/-- The line that is written for a record, unless `asdict` or `json.dumps` raises. -/
def GivenRecord.line? {κ : Type*} (r : GivenRecord κ) : Option (List Char) :=
  (r.values.mapM PyVal.dump?).map fun vs =>
    Json.dumps (.obj (Json.zipFields ContinuityRecord.fields vs))

/-- The memory of an engine and its logs. -/
structure WritingEngine (κ : Type*) where
  records : Dict κ (GivenRecord κ)
  events : List LoggedEvent
  eventSequence : PyNumber
  /-- `continuity_records.jsonl`. -/
  recordLog : Option ByteArray
  /-- `event_records.jsonl`. -/
  eventLog : Option ByteArray

/-- Where the file fails. -/
inductive FileFault where
  | openFails
  /-- A write, a flush or the close, after so many characters. -/
  | writeFails (n : ℕ)
  deriving DecidableEq

/-- A call. -/
inductive GivenCall (κ : Type*) where
  | saveRecord (r : GivenRecord κ)
  | appendEvent (e : LoggedEvent)

/-- A line is appended to a file; the flag says that this raises. -/
def appendTo (file : Option ByteArray) (line : Option (List Char)) :
    Option FileFault → Option ByteArray × Bool
  | some .openFails => (file, true)
  | fault =>
    match line with
    -- the file is open when the entry is encoded
    | none => (some (file.getD ByteArray.empty), true)
    | some line =>
      match fault with
      | some (.writeFails n) =>
        (some (file.getD ByteArray.empty ++ Text.encode ((line ++ ['\n']).take n)), true)
      | _ => (ContinuityEngine.appendLine file line, false)

namespace WritingEngine

variable {κ : Type*} [DecidableEq κ] (A : FloatArith)

/-- The event that `append_event` writes, with its number. -/
def numberEvent (e : WritingEngine κ) (event : LoggedEvent) : LoggedEvent :=
  { event with sequence := e.eventSequence.addOne A }

/-- `save_record`; the flag says that it raises. -/
def saveRecord (e : WritingEngine κ) (r : GivenRecord κ) (fault : Option FileFault) :
    WritingEngine κ × Bool :=
  match r.key with
  | none => (e, true)
  | some k =>
    let out := appendTo e.recordLog r.line? fault
    ({ e with records := e.records.set k r, recordLog := out.1 }, out.2)

/-- `append_event`; the flag says that it raises. -/
def appendEvent (e : WritingEngine κ) (event : LoggedEvent) (fault : Option FileFault) :
    WritingEngine κ × Bool :=
  let event := e.numberEvent A event
  let out := appendTo e.eventLog event.line? fault
  ({ e with
      eventSequence := event.sequence
      events := e.events ++ [event]
      eventLog := out.1 }, out.2)

/-- A call; the flag says that it raises. -/
def attempt (e : WritingEngine κ) (c : GivenCall κ) (fault : Option FileFault) :
    WritingEngine κ × Bool :=
  match c with
  | .saveRecord r => e.saveRecord r fault
  | .appendEvent event => e.appendEvent A event fault

/-- The memories of two engines agree. -/
structure SameMemory (e e' : WritingEngine κ) : Prop where
  records : e'.records = e.records
  events : e'.events = e.events
  eventSequence : e'.eventSequence = e.eventSequence

/-- When the call raises, the memory is the one from before. -/
def AllOrNothing (e : WritingEngine κ) (c : GivenCall κ) (fault : Option FileFault) : Prop :=
  (e.attempt A c fault).2 = true → SameMemory e (e.attempt A c fault).1

/-- The line of the call can be encoded, and the file does not fail. -/
def Writes (e : WritingEngine κ) (c : GivenCall κ) (fault : Option FileFault) : Prop :=
  fault = none ∧
    match c with
    | .saveRecord r => r.line?.isSome = true
    | .appendEvent event => (e.numberEvent A event).line?.isSome = true

/-- The call changes nothing in memory: the id of the record cannot be a key, or the record is
there. -/
def Harmless (e : WritingEngine κ) : GivenCall κ → Prop
  | .saveRecord r => ∀ k, r.key = some k → e.records.get? k = some r
  | .appendEvent _ => False

variable {A} {e : WritingEngine κ} {c : GivenCall κ} {fault : Option FileFault}

/-! ### What a call leaves -/

theorem appendTo_raises (file : Option ByteArray) {line : Option (List Char)} :
    (appendTo file line fault).2 = false ↔ fault = none ∧ line.isSome = true := by
  cases fault with
  | none => cases line <;> simp [appendTo]
  | some f => cases f <;> cases line <;> simp [appendTo]

/-- **A call whose line is written** changes the memory and appends the line. -/
theorem attempt_of_writes (h : e.Writes A c fault) :
    match c with
    | .saveRecord r => ∀ k, r.key = some k → ∃ line, r.line? = some line ∧
        e.attempt A (.saveRecord r) fault =
          ({ e with
              records := e.records.set k r
              recordLog := ContinuityEngine.appendLine e.recordLog line }, false)
    | .appendEvent event => ∃ line, (e.numberEvent A event).line? = some line ∧
        e.attempt A (.appendEvent event) fault =
          ({ e with
              eventSequence := (e.numberEvent A event).sequence
              events := e.events ++ [e.numberEvent A event]
              eventLog := ContinuityEngine.appendLine e.eventLog line }, false) := by
  obtain ⟨rfl, hline⟩ := h
  cases c with
  | saveRecord r =>
    intro k hk
    obtain ⟨line, hline⟩ := Option.isSome_iff_exists.1 hline
    refine ⟨line, hline, ?_⟩
    simp only [attempt, saveRecord, hk, hline, appendTo]
  | appendEvent event =>
    obtain ⟨line, hline⟩ := Option.isSome_iff_exists.1 hline
    refine ⟨line, hline, ?_⟩
    simp only [attempt, appendEvent, hline, appendTo]

/-- **An event whose write failed** is in memory, under the next number. -/
theorem events_attempt (e : WritingEngine κ) (event : LoggedEvent) (fault : Option FileFault) :
    (e.attempt A (.appendEvent event) fault).1.events = e.events ++ [e.numberEvent A event] ∧
      (e.attempt A (.appendEvent event) fault).1.eventSequence = e.eventSequence.addOne A :=
  ⟨rfl, rfl⟩

/-- **When a call that raises leaves the memory alone.** -/
theorem failed_write_iff (A : FloatArith) (e : WritingEngine κ) (c : GivenCall κ)
    (fault : Option FileFault) : AllOrNothing A e c fault ↔ e.Harmless c ∨ e.Writes A c fault := by
  cases c with
  | saveRecord r =>
    cases hk : r.key with
    | none =>
      refine iff_of_true (fun _ => ?_) (.inl fun k hk' => absurd (hk.symm.trans hk') (by simp))
      simp only [attempt, saveRecord, hk]
      exact ⟨rfl, rfl, rfl⟩
    | some k =>
      have hraises : (e.attempt A (.saveRecord r) fault).2 = true ↔
          ¬ e.Writes A (.saveRecord r) fault := by
        simp only [attempt, saveRecord, hk, Writes]
        rw [← appendTo_raises e.recordLog, Bool.not_eq_false]
      have hrecords : (e.attempt A (.saveRecord r) fault).1.records = e.records.set k r := by
        simp only [attempt, saveRecord, hk]
      unfold AllOrNothing
      rw [hraises]
      constructor
      · intro h
        by_contra hnot
        obtain ⟨hharm, hwrites⟩ := not_or.1 hnot
        refine hharm fun k' hk' => ?_
        obtain rfl := Option.some.inj (hk.symm.trans hk')
        -- what was set is what was there
        rw [← (h hwrites).records, hrecords, Dict.get?_set_self]
      · intro h hwrites
        refine ⟨?_, by simp only [attempt, saveRecord, hk], by simp only [attempt, saveRecord, hk]⟩
        rw [hrecords, Dict.set_of_get? (h.resolve_right hwrites k hk)]
  | appendEvent event =>
    have hraises : (e.attempt A (.appendEvent event) fault).2 = true ↔
        ¬ e.Writes A (.appendEvent event) fault := by
      simp only [attempt, appendEvent, Writes]
      rw [← appendTo_raises e.eventLog, Bool.not_eq_false]
    unfold AllOrNothing
    rw [hraises]
    constructor
    · intro h
      by_contra hnot
      have hevents := (h fun hw => hnot (.inr hw)).events
      rw [(events_attempt e event fault).1] at hevents
      exact absurd hevents (by simp)
    · exact fun h hwrites => absurd (h.resolve_left not_false) hwrites

/-! ### Numbers and logs -/

/-- **The next event** has the number after the lost one, which the log does not hold. -/
theorem sequence_after_failure (e : WritingEngine κ) (lost next : LoggedEvent)
    (fault : Option FileFault) :
    ((e.attempt A (.appendEvent lost) fault).1.numberEvent A next).sequence =
      (e.eventSequence.addOne A).addOne A := rfl

/-- When a file cannot be opened, the logs are as they were. -/
theorem logs_attempt_openFails (e : WritingEngine κ) (c : GivenCall κ) :
    (e.attempt A c (some .openFails)).1.recordLog = e.recordLog ∧
      (e.attempt A c (some .openFails)).1.eventLog = e.eventLog := by
  cases c with
  | saveRecord r =>
    simp only [attempt, saveRecord]
    cases r.key <;> exact ⟨rfl, rfl⟩
  | appendEvent event => exact ⟨rfl, rfl⟩

/-! ### An event that is lost -/

/-- A new engine without logs. -/
def empty : WritingEngine DictKey where
  records := Dict.empty
  events := []
  eventSequence := .int 0
  recordLog := none
  eventLog := none

/-- The log cannot be opened: the event is in memory, and in no log. -/
theorem not_allOrNothing_event :
    ¬ ∀ (A : FloatArith) (e : WritingEngine DictKey) c fault, AllOrNothing A e c fault := by
  intro h
  have hsame := h .overflowing empty (.appendEvent (LogEngine.numberedEvent (.int 0)))
    (some .openFails) rfl
  have hevents := hsame.events
  rw [(events_attempt empty _ _).1] at hevents
  exact absurd hevents (by simp [empty])

end WritingEngine

end Continuity

end AnnyRuntime
