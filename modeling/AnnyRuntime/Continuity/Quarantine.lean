import AnnyRuntime.Continuity.Reload

/-!
# What a start makes of corrupted logs

`load` over any bytes, with any values in the lines: the lines that hold a record or an event are
loaded, the others are set aside in memory and written to the quarantine file, and a status says
how it went.

* `load_isSome` : a start succeeds exactly when both logs are UTF-8.
* `LoadedFrom.clean` : the status is clean only when no line was set aside and no event numbered
  again.
* `quarantine_reload` : another start writes the lines that it sets aside to the quarantine file
  again.
* `quarantine_faithful_iff` : **all that is asked of a start holds exactly when both logs are UTF-8
  and every line of them holds a record or an event.**
* `status_renumbered` : an event that is numbered again hides that a line was set aside.
-/

namespace AnnyRuntime

namespace Continuity

open LineLog

/-- An engine: what is loaded, and its files. -/
structure LoadedEngine where
  records : Dict DictKey LoggedRecord := Dict.empty
  events : List LoggedEvent := []
  eventSequence : PyNumber := .int 0
  quarantinedRecords : List QuarantineEntry := []
  corruptionStatus : CorruptionSeverity := .clean
  disk : Disk

namespace LoadedEngine

/-- Set a line aside, in memory and in the quarantine file. -/
def setAside (e : LoadedEngine) (file : LogFile) (l : ℕ × List Char) : LoadedEngine :=
  { e with
    quarantinedRecords := e.quarantinedRecords ++ [quarantineEntry file l]
    corruptionStatus := .quarantined
    disk := { e.disk with quarantine := e.disk.quarantine ++ [quarantineEntry file l] } }

/-- One line of the record log. -/
def loadRecordLine (A : FloatArith) (e : LoadedEngine) (l : ℕ × List Char) : LoadedEngine :=
  match LoggedRecord.parse l.2 with
  | some r => { e with records := LogEngine.putRecord A e.records r }
  | none => e.setAside .records l

/-- One line of the event log.  A sequence number that does not grow is replaced. -/
def loadEventLine (A : FloatArith) (e : LoadedEngine) (l : ℕ × List Char) : LoadedEngine :=
  match LoggedEvent.parse l.2 with
  | some ev =>
    let st := LogEngine.putEvent A (e.events, e.eventSequence) ev
    { e with
      events := st.1
      eventSequence := st.2
      corruptionStatus :=
        if ev.sequence.le A e.eventSequence then .recovered else e.corruptionStatus }
  | none => e.setAside .events l

/-- `load`, over the files of an engine; it raises when a log is not UTF-8. -/
def load (A : FloatArith) (disk : Disk) : Option LoadedEngine :=
  (fileText disk.records).bind fun tR => (fileText disk.events).map fun tE =>
    (logLines tE).foldl (loadEventLine A) ((logLines tR).foldl (loadRecordLine A) { disk := disk })

/-- The lines of a log that hold no entry. -/
def bad {ε : Type} (parse : List Char → Option ε) (file : LogFile) (t : List Char) :
    List QuarantineEntry := (rejects parse t).map (quarantineEntry file)

/-- An event without its number. -/
def body (ev : LoggedEvent) : LoggedEvent := { ev with sequence := .int 0 }

/-- All that is asked of a start over files with the texts `tR` and `tE`. -/
structure Faithful (A : FloatArith) (disk : Disk) (tR tE : List Char) (e : LoadedEngine) :
    Prop where
  /-- The records are those of the log, the last one of an id. -/
  records : e.records = (entries LoggedRecord.parse tR).foldl (LogEngine.putRecord A) Dict.empty
  /-- The events are those of the log, up to their numbers. -/
  events : e.events.map body = (entries LoggedEvent.parse tE).map body
  /-- Every other line is set aside once. -/
  quarantined : e.quarantinedRecords =
    bad LoggedRecord.parse .records tR ++ bad LoggedEvent.parse .events tE
  /-- The status is clean only when nothing was set aside or numbered again. -/
  clean : e.corruptionStatus = .clean →
    e.quarantinedRecords = [] ∧ e.events = entries LoggedEvent.parse tE
  /-- It says so whenever something was set aside. -/
  status : e.quarantinedRecords ≠ [] → e.corruptionStatus = .quarantined
  /-- Another start leaves the quarantine file alone. -/
  again : ∀ e', load A e.disk = some e' → e'.disk.quarantine = e.disk.quarantine

variable {A : FloatArith} {e : LoadedEngine}

/-! ### One log at a time -/

/-- What replaying lines of the record log leaves. -/
structure RecordsRead (A : FloatArith) (ls : List (ℕ × List Char)) (e e' : LoadedEngine) :
    Prop where
  records : e'.records =
    (ls.filterMap fun l => LoggedRecord.parse l.2).foldl (LogEngine.putRecord A) e.records
  events : e'.events = e.events ∧ e'.eventSequence = e.eventSequence
  setAside : ∃ bs, bs = (ls.filter fun l => (LoggedRecord.parse l.2).isNone).map
      (quarantineEntry .records) ∧
    e'.quarantinedRecords = e.quarantinedRecords ++ bs ∧
    e'.disk = { e.disk with quarantine := e.disk.quarantine ++ bs } ∧
    e'.corruptionStatus = if bs = [] then e.corruptionStatus else .quarantined

theorem foldl_loadRecordLine (A : FloatArith) (ls : List (ℕ × List Char)) (e : LoadedEngine) :
    RecordsRead A ls e (ls.foldl (loadRecordLine A) e) := by
  induction ls generalizing e with
  | nil => exact ⟨rfl, ⟨rfl, rfl⟩, [], rfl, (List.append_nil _).symm, by simp, rfl⟩
  | cons l ls ih =>
    obtain ⟨hr, he, bs, hbs, hq, hd, hs⟩ := ih (loadRecordLine A e l)
    rw [List.foldl_cons]
    cases hp : LoggedRecord.parse l.2 with
    | some r =>
      have hl : loadRecordLine A e l = { e with records := LogEngine.putRecord A e.records r } := by
        simp only [loadRecordLine, hp]
      rw [hl] at hr he hq hd hs ⊢
      refine ⟨?_, he, bs, ?_, hq, hd, hs⟩
      · rw [hr, List.filterMap_cons, hp]
        rfl
      · rw [hbs, List.filter_cons_of_neg (by simp [hp])]
    | none =>
      have hl : loadRecordLine A e l = e.setAside .records l := by simp only [loadRecordLine, hp]
      rw [hl] at hr he hq hd hs ⊢
      refine ⟨?_, he, quarantineEntry .records l :: bs, ?_, ?_, ?_, ?_⟩
      · rw [hr, List.filterMap_cons, hp]
        rfl
      · rw [hbs, List.filter_cons_of_pos (by simp [hp]), List.map_cons]
      · rw [hq, List.append_cons]
        rfl
      · rw [hd, List.append_cons]
        rfl
      · rw [hs, if_neg (List.cons_ne_nil _ _)]
        exact ite_self _

/-- What replaying lines of the event log leaves. -/
structure EventsRead (A : FloatArith) (ls : List (ℕ × List Char)) (e e' : LoadedEngine) :
    Prop where
  events : (e'.events, e'.eventSequence) =
    (ls.filterMap fun l => LoggedEvent.parse l.2).foldl (LogEngine.putEvent A)
      (e.events, e.eventSequence)
  records : e'.records = e.records
  setAside : ∃ bs, bs = (ls.filter fun l => (LoggedEvent.parse l.2).isNone).map
      (quarantineEntry .events) ∧
    e'.quarantinedRecords = e.quarantinedRecords ++ bs ∧
    e'.disk = { e.disk with quarantine := e.disk.quarantine ++ bs }
  /-- The status stays clean only over events whose numbers grow. -/
  clean : e'.corruptionStatus = .clean → e.corruptionStatus = .clean ∧
    e'.quarantinedRecords = e.quarantinedRecords ∧
    e'.events = e.events ++ ls.filterMap fun l => LoggedEvent.parse l.2

theorem foldl_loadEventLine (A : FloatArith) (ls : List (ℕ × List Char)) (e : LoadedEngine) :
    EventsRead A ls e (ls.foldl (loadEventLine A) e) := by
  induction ls generalizing e with
  | nil =>
    exact ⟨rfl, rfl, ⟨[], rfl, (List.append_nil _).symm, by simp⟩,
      fun h => ⟨h, rfl, (List.append_nil _).symm⟩⟩
  | cons l ls ih =>
    obtain ⟨he, hr, ⟨bs, hbs, hq, hd⟩, hc⟩ := ih (loadEventLine A e l)
    rw [List.foldl_cons]
    cases hp : LoggedEvent.parse l.2 with
    | some ev =>
      have hl : loadEventLine A e l =
          { e with
            events := (LogEngine.putEvent A (e.events, e.eventSequence) ev).1
            eventSequence := (LogEngine.putEvent A (e.events, e.eventSequence) ev).2
            corruptionStatus :=
              if ev.sequence.le A e.eventSequence then .recovered else e.corruptionStatus } := by
        simp only [loadEventLine, hp]
      rw [hl] at he hr hq hd hc ⊢
      refine ⟨?_, hr, ⟨bs, ?_, hq, hd⟩, fun hclean => ?_⟩
      · rw [he, List.filterMap_cons, hp]
        rfl
      · rw [hbs, List.filter_cons_of_neg (by simp [hp])]
      · obtain ⟨hs, hq', he'⟩ := hc hclean
        -- a number that does not grow does not leave the status clean
        by_cases hle : ev.sequence.le A e.eventSequence = true
        · exact absurd hs (by simp [hle])
        · refine ⟨by simpa [hle] using hs, hq', ?_⟩
          rw [he', List.filterMap_cons, hp, LogEngine.putEvent, if_neg hle]
          simp
    | none =>
      have hl : loadEventLine A e l = e.setAside .events l := by simp only [loadEventLine, hp]
      rw [hl] at he hr hq hd hc ⊢
      refine ⟨?_, hr, ⟨quarantineEntry .events l :: bs, ?_, ?_, ?_⟩, fun hclean => ?_⟩
      · rw [he, List.filterMap_cons, hp]
        rfl
      · rw [hbs, List.filter_cons_of_pos (by simp [hp]), List.map_cons]
      · rw [hq, List.append_cons]
        rfl
      · rw [hd, List.append_cons]
        rfl
      · exact absurd (hc hclean).1 (by simp [setAside])

theorem body_putEvent (st : List LoggedEvent × PyNumber) (ev : LoggedEvent) :
    (LogEngine.putEvent A st ev).1.map body = st.1.map body ++ [body ev] := by
  unfold LogEngine.putEvent
  dsimp only
  split_ifs <;> simp [body]

theorem body_foldl_putEvent (evs : List LoggedEvent) (st : List LoggedEvent × PyNumber) :
    (evs.foldl (LogEngine.putEvent A) st).1.map body = st.1.map body ++ evs.map body := by
  induction evs generalizing st with
  | nil => exact (List.append_nil _).symm
  | cons ev evs ih =>
    rw [List.foldl_cons, ih, body_putEvent, List.map_cons, List.append_assoc,
      List.singleton_append]

/-! ### The whole start -/

/-- What a start over the texts `tR` and `tE` leaves. -/
structure LoadedFrom (A : FloatArith) (disk : Disk) (tR tE : List Char) (e : LoadedEngine) :
    Prop where
  records : e.records = (entries LoggedRecord.parse tR).foldl (LogEngine.putRecord A) Dict.empty
  events : (e.events, e.eventSequence) =
    (entries LoggedEvent.parse tE).foldl (LogEngine.putEvent A) ([], .int 0)
  quarantined : e.quarantinedRecords =
    bad LoggedRecord.parse .records tR ++ bad LoggedEvent.parse .events tE
  disk : e.disk = { disk with quarantine := disk.quarantine ++ e.quarantinedRecords }
  clean : e.corruptionStatus = .clean →
    e.quarantinedRecords = [] ∧ e.events = entries LoggedEvent.parse tE

theorem loadedFrom {disk : Disk} {tR tE : List Char} (hR : fileText disk.records = some tR)
    (hE : fileText disk.events = some tE) :
    ∃ e, load A disk = some e ∧ LoadedFrom A disk tR tE e := by
  obtain ⟨hr, he, bs, hbs, hq, hd, hs⟩ := foldl_loadRecordLine A (logLines tR) { disk := disk }
  obtain ⟨he', hr', ⟨bs', hbs', hq', hd'⟩, hc⟩ := foldl_loadEventLine A (logLines tE)
    ((logLines tR).foldl (loadRecordLine A) { disk := disk })
  have hall : ((logLines tE).foldl (loadEventLine A)
      ((logLines tR).foldl (loadRecordLine A) { disk := disk })).quarantinedRecords =
        bs ++ bs' := by
    rw [hq', hq]
    rfl
  refine ⟨_, by rw [load, hR, hE]; rfl, ?_, ?_, ?_, ?_, fun hclean => ?_⟩
  · rw [hr', hr]
    rfl
  · rw [he', he.1, he.2]
    rfl
  · rw [hall, hbs, hbs']
    rfl
  · rw [hd', hd, hall, ← List.append_assoc]
  · obtain ⟨hs', hq'', hevents⟩ := hc hclean
    rw [hs'] at hs
    have hnil : bs = [] := by
      by_contra hne
      rw [if_neg hne] at hs
      exact absurd hs (by simp)
    refine ⟨?_, ?_⟩
    · rw [hq'', hq, hnil]
      rfl
    · rw [hevents, he.1]
      rfl

/-- **A start succeeds exactly when both logs are UTF-8.** -/
theorem load_isSome {disk : Disk} : (load A disk).isSome = true ↔
    (fileText disk.records).isSome = true ∧ (fileText disk.events).isSome = true := by
  rw [load]
  cases fileText disk.records <;> cases fileText disk.events <;> simp

theorem load_eq_some {disk : Disk} (h : load A disk = some e) :
    ∃ tR tE, fileText disk.records = some tR ∧ fileText disk.events = some tE ∧
      LoadedFrom A disk tR tE e := by
  obtain ⟨hR, hE⟩ := load_isSome.1 (Option.isSome_iff_exists.2 ⟨e, h⟩)
  obtain ⟨tR, hR⟩ := Option.isSome_iff_exists.1 hR
  obtain ⟨tE, hE⟩ := Option.isSome_iff_exists.1 hE
  obtain ⟨e', he', hloaded⟩ := loadedFrom (A := A) hR hE
  obtain rfl := Option.some.inj (he'.symm.trans h)
  exact ⟨tR, tE, hR, hE, hloaded⟩

/-- **Another start** over the files that a start leaves writes the lines that it sets aside to the
quarantine file again. -/
theorem quarantine_reload {disk : Disk} (h : load A disk = some e) :
    ∃ e', load A e.disk = some e' ∧
      e'.disk.quarantine = e.disk.quarantine ++ e.quarantinedRecords := by
  obtain ⟨tR, tE, hR, hE, hloaded⟩ := load_eq_some h
  have hsame : fileText e.disk.records = some tR ∧ fileText e.disk.events = some tE := by
    rw [hloaded.disk]
    exact ⟨hR, hE⟩
  obtain ⟨e', he', hagain⟩ := loadedFrom (A := A) hsame.1 hsame.2
  refine ⟨e', he', ?_⟩
  rw [hagain.disk, hagain.quarantined, ← hloaded.quarantined]

/-- The same entries as an engine that does not quarantine finds. -/
theorem load_logEngine {disk : Disk} (h : load A disk = some e) :
    ∃ log, LogEngine.load A disk.records disk.events = some log ∧ log.records = e.records ∧
      log.events = e.events ∧ log.eventSequence = e.eventSequence := by
  obtain ⟨tR, tE, hR, hE, hloaded⟩ := load_eq_some h
  have hevents := Prod.mk.inj hloaded.events
  refine ⟨_, by rw [LogEngine.load, hR, hE]; rfl, hloaded.records.symm, hevents.1.symm,
    hevents.2.symm⟩

/-- **An event that is numbered again** at the end of the event log hides that lines were set
aside. -/
theorem status_renumbered {ls : List (ℕ × List Char)} {l : ℕ × List Char} {ev : LoggedEvent}
    (hp : LoggedEvent.parse l.2 = some ev)
    (hle : ev.sequence.le A (ls.foldl (loadEventLine A) e).eventSequence = true) :
    ((ls ++ [l]).foldl (loadEventLine A) e).corruptionStatus = .recovered := by
  rw [List.foldl_append, List.foldl_cons, List.foldl_nil, loadEventLine, hp]
  exact if_pos hle

/-- A start over the files does all that is asked of it. -/
def Handles (A : FloatArith) (disk : Disk) : Prop :=
  ∃ e, load A disk = some e ∧ ∀ tR tE, fileText disk.records = some tR →
    fileText disk.events = some tE → Faithful A disk tR tE e

/-- Both logs are UTF-8, and every line of them holds a record or an event. -/
def Intact (disk : Disk) : Prop :=
  ∃ tR tE, fileText disk.records = some tR ∧ fileText disk.events = some tE ∧
    rejects LoggedRecord.parse tR = [] ∧ rejects LoggedEvent.parse tE = []

/-- **What holds of every start**, but for the status and for another start. -/
theorem LoadedFrom.faithful {disk : Disk} {tR tE : List Char} (h : LoadedFrom A disk tR tE e)
    (hstatus : e.quarantinedRecords ≠ [] → e.corruptionStatus = .quarantined)
    (hagain : ∀ e', load A e.disk = some e' → e'.disk.quarantine = e.disk.quarantine) :
    Faithful A disk tR tE e where
  records := h.records
  events := by
    have hevents : e.events = _ := congrArg Prod.fst h.events
    rw [hevents, body_foldl_putEvent]
    rfl
  quarantined := h.quarantined
  clean := h.clean
  status := hstatus
  again := hagain

/-- **When a start does all that is asked of it.** -/
theorem quarantine_faithful_iff (A : FloatArith) (disk : Disk) : Handles A disk ↔ Intact disk := by
  constructor
  · rintro ⟨e, he, h⟩
    obtain ⟨tR, tE, hR, hE, hloaded⟩ := load_eq_some he
    obtain ⟨e', he', hquarantine⟩ := quarantine_reload he
    have hnil : e.quarantinedRecords = [] :=
      List.append_right_eq_self.1 (hquarantine.symm.trans ((h tR tE hR hE).again e' he'))
    rw [hloaded.quarantined, List.append_eq_nil_iff, bad, bad, List.map_eq_nil_iff,
      List.map_eq_nil_iff] at hnil
    exact ⟨tR, tE, hR, hE, hnil⟩
  · rintro ⟨tR, tE, hR, hE, hgoodR, hgoodE⟩
    obtain ⟨e, he, hloaded⟩ := loadedFrom (A := A) hR hE
    have hnil : e.quarantinedRecords = [] := by
      rw [hloaded.quarantined, bad, bad, hgoodR, hgoodE]
      rfl
    refine ⟨e, he, fun tR' tE' hR' hE' => ?_⟩
    obtain rfl := Option.some.inj (hR.symm.trans hR')
    obtain rfl := Option.some.inj (hE.symm.trans hE')
    refine hloaded.faithful (fun hne => absurd hnil hne) fun e' he' => ?_
    obtain ⟨e'', he'', hquarantine⟩ := quarantine_reload he
    obtain rfl := Option.some.inj (he''.symm.trans he')
    rw [hquarantine, hnil, List.append_nil]

/-! ### Logs that are not handled -/

/-- A log that holds one byte that is no text. -/
def binaryDisk : Disk where
  records := some ⟨#[255]⟩

/-- A record log with one torn line. -/
def tornDisk : Disk where
  records := some (Text.encode ['{', '\n'])

theorem bad_tornDisk : bad LoggedRecord.parse .records ['{', '\n'] = [⟨.records, 1, ['{']⟩] := by
  decide +kernel

/-- A start raises over a log that is not text, and each start over a torn line writes it to the
quarantine file once more. -/
theorem not_handles : (¬ ∀ A disk, Handles A disk) ∧
    ¬ ∀ A disk, (load A disk).isSome = true → Handles A disk := by
  constructor
  · intro h
    obtain ⟨e, he, -⟩ := h .overflowing binaryDisk
    have hsome := (load_isSome.1 (Option.isSome_iff_exists.2 ⟨e, he⟩)).1
    exact absurd hsome (by decide +kernel)
  · intro h
    have hR : fileText tornDisk.records = some ['{', '\n'] := Text.decode_encode _
    have hE : fileText tornDisk.events = some [] := LogEngine.fileText_none
    obtain ⟨e, he, hloaded⟩ := loadedFrom (A := .overflowing) hR hE
    obtain ⟨e₁, he₁, hfaithful⟩ := h .overflowing tornDisk (Option.isSome_iff_exists.2 ⟨e, he⟩)
    obtain rfl := Option.some.inj (he.symm.trans he₁)
    obtain ⟨e', he', hquarantine⟩ := quarantine_reload he
    have hnil : e.quarantinedRecords = [] :=
      List.append_right_eq_self.1 (hquarantine.symm.trans ((hfaithful _ _ hR hE).again e' he'))
    rw [hloaded.quarantined, bad_tornDisk] at hnil
    exact absurd hnil (by simp)

end LoadedEngine

end Continuity

end AnnyRuntime
