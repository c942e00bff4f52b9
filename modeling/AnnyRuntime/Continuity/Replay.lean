import AnnyRuntime.Continuity.Engine
import AnnyRuntime.Json.Torn

/-!
# What a reload finds

`load` as a function of the texts of the two logs: the records are replayed into a dictionary
(`replayRecords`), the events are numbered again where their numbers do not grow
(`replayEvents`), and the lines that hold neither are set aside (`LoadedFrom`).

An engine is `Durable` when a reload of its files finds its memory.  Saving records and appending
events keeps it so, and `Durable.init` says what a restart finds.
-/

namespace AnnyRuntime

namespace Continuity

open LineLog

/-- The text of a file; a file that does not exist is empty. -/
def fileText (file : Option ByteArray) : Option (List Char) :=
  Text.decode (file.getD ByteArray.empty)

/-- A record is written to the dictionary. -/
def putRecord (d : Dict Json.Key ContinuityRecord) (r : ContinuityRecord) :
    Dict Json.Key ContinuityRecord := d.set r.continuityId.norm r

/-- The dictionary that a list of records builds. -/
def replayRecords (rs : List ContinuityRecord) : Dict Json.Key ContinuityRecord :=
  rs.foldl putRecord Dict.empty

/-- An event is added to the list, with a number above the last one. -/
def putEvent (st : List EventRecord × ℤ) (ev : EventRecord) : List EventRecord × ℤ :=
  if ev.sequence ≤ st.2 then (st.1 ++ [{ ev with sequence := st.2 + 1 }], st.2 + 1)
  else (st.1 ++ [ev], ev.sequence)

/-- The events that a list of events becomes, and the last number. -/
def replayEvents (evs : List EventRecord) : List EventRecord × ℤ := evs.foldl putEvent ([], 0)

/-- A line set aside. -/
def quarantineEntry (file : LogFile) (l : ℕ × List Char) : QuarantineEntry := ⟨file, l.1, l.2⟩

/-! ### One log at a time -/

namespace ContinuityEngine

theorem loadFile_eq (file : Option ByteArray)
    (line : ContinuityEngine → ℕ × List Char → ContinuityEngine) (e : ContinuityEngine) :
    loadFile file line e = (fileText file).map fun t => (logLines t).foldl line e := by
  cases file with
  | some b => rfl
  | none =>
    have h : fileText none = some [] := Text.decode_encode []
    rw [h]
    rfl

/-- The lines of the record log that hold no record. -/
def badRecords (ls : List (ℕ × List Char)) : List QuarantineEntry :=
  (ls.filter fun l => (parseRecord l.2).isNone).map (quarantineEntry .records)

/-- The lines of the event log that hold no event. -/
def badEvents (ls : List (ℕ × List Char)) : List QuarantineEntry :=
  (ls.filter fun l => (parseEvent l.2).isNone).map (quarantineEntry .events)

/-- What replaying lines of the record log changes. -/
structure RecordsRead (ls : List (ℕ × List Char)) (e e' : ContinuityEngine) : Prop where
  /-- The records are added. -/
  records : e'.records = (ls.filterMap fun l => parseRecord l.2).foldl putRecord e.records
  /-- The bad lines are set aside. -/
  quarantined : e'.quarantinedRecords = e.quarantinedRecords ++ badRecords ls
  /-- The events stay. -/
  events : e'.events = e.events ∧ e'.eventSequence = e.eventSequence
  /-- The logs stay. -/
  disk : e'.disk.records = e.disk.records ∧ e'.disk.events = e.disk.events

theorem foldl_loadRecordLine (ls : List (ℕ × List Char)) (e : ContinuityEngine) :
    RecordsRead ls e (ls.foldl loadRecordLine e) := by
  induction ls generalizing e with
  | nil => exact ⟨rfl, (List.append_nil _).symm, ⟨rfl, rfl⟩, ⟨rfl, rfl⟩⟩
  | cons l ls ih =>
    obtain ⟨hr, hq, he, hd⟩ := ih (loadRecordLine e l)
    rw [List.foldl_cons]
    cases hp : parseRecord l.2 with
    | some r =>
      have hl : loadRecordLine e l = { e with records := putRecord e.records r } := by
        simp only [loadRecordLine, hp, putRecord]
      rw [hl] at hr hq he hd ⊢
      refine ⟨?_, ?_, he, hd⟩
      · rw [hr, List.filterMap_cons, hp]; rfl
      · rw [hq, badRecords, badRecords, List.filter_cons_of_neg (by simp [hp])]
    | none =>
      have hl : loadRecordLine e l = e.setAside .records l.1 l.2 := by
        simp only [loadRecordLine, hp]
      rw [hl] at hr hq he hd ⊢
      refine ⟨?_, ?_, he, hd⟩
      · rw [hr, List.filterMap_cons, hp]; rfl
      · rw [hq, badRecords, badRecords, List.filter_cons_of_pos (by simp [hp]), List.map_cons]
        simp [setAside, quarantineEntry]

/-- What replaying lines of the event log changes. -/
structure EventsRead (ls : List (ℕ × List Char)) (e e' : ContinuityEngine) : Prop where
  /-- The events are added. -/
  events : (e'.events, e'.eventSequence) =
    (ls.filterMap fun l => parseEvent l.2).foldl putEvent (e.events, e.eventSequence)
  /-- The bad lines are set aside. -/
  quarantined : e'.quarantinedRecords = e.quarantinedRecords ++ badEvents ls
  /-- The records stay. -/
  records : e'.records = e.records
  /-- The logs stay. -/
  disk : e'.disk.records = e.disk.records ∧ e'.disk.events = e.disk.events

theorem loadEventLine_some {e : ContinuityEngine} {l : ℕ × List Char} {ev : EventRecord}
    (h : parseEvent l.2 = some ev) :
    ∃ s, loadEventLine e l =
      { e with
        corruptionStatus := s
        events := (putEvent (e.events, e.eventSequence) ev).1
        eventSequence := (putEvent (e.events, e.eventSequence) ev).2 } := by
  simp only [loadEventLine, h, putEvent]
  split_ifs
  · exact ⟨.recovered, rfl⟩
  · exact ⟨e.corruptionStatus, rfl⟩

theorem foldl_loadEventLine (ls : List (ℕ × List Char)) (e : ContinuityEngine) :
    EventsRead ls e (ls.foldl loadEventLine e) := by
  induction ls generalizing e with
  | nil => exact ⟨rfl, (List.append_nil _).symm, rfl, ⟨rfl, rfl⟩⟩
  | cons l ls ih =>
    obtain ⟨he, hq, hr, hd⟩ := ih (loadEventLine e l)
    rw [List.foldl_cons]
    cases hp : parseEvent l.2 with
    | some ev =>
      obtain ⟨s, hl⟩ := loadEventLine_some (e := e) hp
      rw [hl] at he hq hr hd ⊢
      refine ⟨?_, ?_, hr, hd⟩
      · rw [he, List.filterMap_cons, hp]; rfl
      · rw [hq, badEvents, badEvents, List.filter_cons_of_neg (by simp [hp])]
    | none =>
      have hl : loadEventLine e l = e.setAside .events l.1 l.2 := by
        simp only [loadEventLine, hp]
      rw [hl] at he hq hr hd ⊢
      refine ⟨?_, ?_, hr, hd⟩
      · rw [he, List.filterMap_cons, hp]; rfl
      · rw [hq, badEvents, badEvents, List.filter_cons_of_pos (by simp [hp]), List.map_cons]
        simp [setAside, quarantineEntry]

/-! ### The whole load -/

/-- The memory after the logs `tR` and `tE` were read from the files `disk`. -/
structure LoadedFrom (disk : Disk) (tR tE : List Char) (e : ContinuityEngine) : Prop where
  /-- The records of the record log. -/
  records : e.records = replayRecords (entries parseRecord tR)
  /-- The events of the event log. -/
  events : (e.events, e.eventSequence) = replayEvents (entries parseEvent tE)
  /-- The lines that hold neither. -/
  quarantined : e.quarantinedRecords =
    badRecords (logLines tR) ++ badEvents (logLines tE)
  /-- The logs are as they were. -/
  disk : e.disk.records = disk.records ∧ e.disk.events = disk.events

theorem load_eq {e : ContinuityEngine} {tR : List Char} (hR : fileText e.disk.records = some tR) :
    load e = (fileText e.disk.events).map fun tE => (logLines tE).foldl loadEventLine
      ((logLines tR).foldl loadRecordLine { disk := e.disk }) := by
  have hd := (foldl_loadRecordLine (logLines tR) { disk := e.disk }).disk.2
  simp only [load, loadFile_eq, hR, Option.map_some, Option.bind_eq_bind, Option.bind_some, hd]

theorem load_spec {e : ContinuityEngine} {tR tE : List Char}
    (hR : fileText e.disk.records = some tR) (hE : fileText e.disk.events = some tE) :
    ∃ e', load e = some e' ∧ LoadedFrom e.disk tR tE e' := by
  have r := foldl_loadRecordLine (logLines tR) { disk := e.disk }
  have v := foldl_loadEventLine (logLines tE) ((logLines tR).foldl loadRecordLine { disk := e.disk })
  refine ⟨_, by rw [load_eq hR, hE]; rfl, ?_⟩
  refine ⟨by rw [v.records, r.records]; rfl, ?_, ?_, ?_⟩
  · rw [v.events, r.events.1, r.events.2]; rfl
  · rw [v.quarantined, r.quarantined]; rfl
  · exact ⟨v.disk.1.trans r.disk.1, v.disk.2.trans r.disk.2⟩

theorem load_eq_none {e : ContinuityEngine}
    (h : fileText e.disk.records = none ∨ fileText e.disk.events = none) : load e = none := by
  cases hR : fileText e.disk.records with
  | none =>
    simp only [load, loadFile_eq, hR, Option.map_none, Option.bind_eq_bind, Option.bind_none]
  | some tR => rw [load_eq hR, h.resolve_left (by simp [hR]), Option.map_none]

theorem load_inv {e e' : ContinuityEngine} (h : load e = some e') :
    ∃ tR tE, fileText e.disk.records = some tR ∧ fileText e.disk.events = some tE ∧
      LoadedFrom e.disk tR tE e' := by
  cases hR : fileText e.disk.records with
  | none => rw [load_eq_none (Or.inl hR)] at h; exact absurd h (by simp)
  | some tR =>
    cases hE : fileText e.disk.events with
    | none => rw [load_eq_none (Or.inr hE)] at h; exact absurd h (by simp)
    | some tE =>
      obtain ⟨e'', h', hl⟩ := load_spec hR hE
      rw [h'] at h
      obtain rfl := Option.some.inj h
      exact ⟨tR, tE, rfl, rfl, hl⟩

end ContinuityEngine

/-! ### What is written -/

theorem parseRecord_recordLine (r : ContinuityRecord) : parseRecord (recordLine r) = some r := by
  rw [parseRecord, recordLine, Json.loads_dumps, Option.bind_some, ContinuityRecord.ofJson_toJson]

theorem parseEvent_eventLine (e : EventRecord) : parseEvent (eventLine e) = some e := by
  rw [parseEvent, eventLine, Json.loads_dumps, Option.bind_some, EventRecord.ofJson_toJson]

theorem solid_recordLine (r : ContinuityRecord) : Text.Solid (recordLine r) := Json.solid_dumps_obj _

theorem solid_eventLine (e : EventRecord) : Text.Solid (eventLine e) := Json.solid_dumps_obj _

theorem fileText_appendLine {file : Option ByteArray} {line : List Char}
    (h : ∀ c ∈ line, Json.Printable c) :
    fileText (ContinuityEngine.appendLine file line) =
      (fileText file).map (· ++ written [line]) := by
  have hw : written [line] = line ++ ['\n'] := by simp
  rw [hw]
  exact Text.decode_append ((Json.ascii_of_printable h).append Text.ascii_newline)

theorem printable_recordLine (r : ContinuityRecord) : ∀ c ∈ recordLine r, Json.Printable c :=
  Json.printable_dumps _

theorem printable_eventLine (e : EventRecord) : ∀ c ∈ eventLine e, Json.Printable c :=
  Json.printable_dumps _

/-! ### The numbers of the events -/

/-- The numbers of the events grow, and none is above the last one. -/
structure Numbered (st : List EventRecord × ℤ) : Prop where
  /-- They grow. -/
  sorted : st.1.Pairwise fun a b => a.sequence < b.sequence
  /-- The last one is the highest. -/
  le : ∀ ev ∈ st.1, ev.sequence ≤ st.2

theorem Numbered.concat {st : List EventRecord × ℤ} (h : Numbered st) {ev : EventRecord}
    (hev : st.2 < ev.sequence) : Numbered (st.1 ++ [ev], ev.sequence) where
  sorted := List.pairwise_append.2 ⟨h.sorted, List.pairwise_singleton _ _, fun a ha b hb => by
    rw [List.mem_singleton.1 hb]
    exact lt_of_le_of_lt (h.le a ha) hev⟩
  le a ha := by
    rcases List.mem_append.1 ha with ha | ha
    · exact le_of_lt (lt_of_le_of_lt (h.le a ha) hev)
    · rw [List.mem_singleton.1 ha]

theorem Numbered.putEvent {st : List EventRecord × ℤ} (h : Numbered st) (ev : EventRecord) :
    Numbered (putEvent st ev) := by
  unfold Continuity.putEvent
  split_ifs with hle
  · have hlt : st.2 < ({ ev with sequence := st.2 + 1 } : EventRecord).sequence := Int.lt_succ _
    exact h.concat hlt
  · exact h.concat (not_le.1 hle)

theorem numbered_replayEvents (evs : List EventRecord) : Numbered (replayEvents evs) := by
  have h0 : Numbered ([], 0) := ⟨List.Pairwise.nil, by simp⟩
  unfold replayEvents
  generalize (([], 0) : List EventRecord × ℤ) = st at h0
  induction evs generalizing st with
  | nil => exact h0
  | cons ev evs ih => exact ih _ (h0.putEvent ev)

/-! ### Durability -/

/-- A reload of the files finds the memory, and the logs end at a line end. -/
structure Durable (e : ContinuityEngine) : Prop where
  /-- The record log builds the dictionary. -/
  records : ∃ t, fileText e.disk.records = some t ∧ Text.AtLineStart t ∧
    e.records = replayRecords (entries parseRecord t)
  /-- The event log builds the list. -/
  events : ∃ t, fileText e.disk.events = some t ∧ Text.AtLineStart t ∧
    (e.events, e.eventSequence) = replayEvents (entries parseEvent t)

theorem atLineStart_written (t line : List Char) :
    Text.AtLineStart (t ++ written [line]) := by
  have : (t ++ written [line]).getLast? = some '\n' := by
    rw [show written [line] = line ++ ['\n'] by simp, ← List.append_assoc, List.getLast?_concat]
  intro c hc
  rw [this] at hc
  exact Or.inl (Option.some.inj hc).symm

theorem Durable.numbered {e : ContinuityEngine} (h : Durable e) :
    Numbered (e.events, e.eventSequence) := by
  obtain ⟨t, -, -, ht⟩ := h.events
  rw [ht]
  exact numbered_replayEvents _

theorem Durable.saveRecord {e : ContinuityEngine} (h : Durable e) (r : ContinuityRecord) :
    Durable (e.saveRecord r) where
  records := by
    obtain ⟨t, ht, hs, hr⟩ := h.records
    refine ⟨t ++ written [recordLine r], ?_, atLineStart_written _ _, ?_⟩
    · change fileText (ContinuityEngine.appendLine e.disk.records (recordLine r)) = _
      rw [fileText_appendLine (printable_recordLine r), ht]
      rfl
    · rw [entries_append hs (by simpa using solid_recordLine r), replayRecords,
        List.foldl_append, ← replayRecords, ← hr, List.filterMap_cons,
        parseRecord_recordLine]
      rfl
  events := h.events

theorem Durable.appendEvent {e : ContinuityEngine} (h : Durable e) (ev : EventRecord) :
    Durable (e.appendEvent ev) where
  records := h.records
  events := by
    obtain ⟨t, ht, hs, hr⟩ := h.events
    set ev' := { ev with sequence := e.eventSequence + 1 } with hev'
    refine ⟨t ++ written [eventLine ev'], ?_, atLineStart_written _ _, ?_⟩
    · change fileText (ContinuityEngine.appendLine e.disk.events (eventLine ev')) = _
      rw [fileText_appendLine (printable_eventLine ev'), ht]
      rfl
    · rw [entries_append hs (by simpa using solid_eventLine ev'), replayEvents,
        List.foldl_append, ← replayEvents, ← hr, List.filterMap_cons, parseEvent_eventLine]
      have hnot : ¬ ev'.sequence ≤ e.eventSequence := not_le.2 (Int.lt_succ _)
      change _ = putEvent (e.events, e.eventSequence) ev'
      rw [putEvent, if_neg hnot]
      rfl

/-- An engine over an empty directory. -/
def emptyEngine : ContinuityEngine := { disk := {} }

theorem durable_emptyEngine : Durable emptyEngine where
  records := ⟨[], by rfl, by simp [Text.AtLineStart], by rfl⟩
  events := ⟨[], by rfl, by simp [Text.AtLineStart], by rfl⟩

/-- **Restart.**  A new engine over the files of a durable one has its memory. -/
theorem Durable.init {e : ContinuityEngine} (h : Durable e) :
    ∃ e', ContinuityEngine.init e.disk = some e' ∧ e'.records = e.records ∧
      e'.events = e.events ∧ e'.eventSequence = e.eventSequence ∧ Durable e' := by
  obtain ⟨tR, hR, hRs, hr⟩ := h.records
  obtain ⟨tE, hE, hEs, he⟩ := h.events
  obtain ⟨e', hl, hf⟩ := ContinuityEngine.load_spec (e := { disk := e.disk }) hR hE
  have hev : (e'.events, e'.eventSequence) = (e.events, e.eventSequence) := hf.events.trans he.symm
  refine ⟨e', hl, hf.records.trans hr.symm, (Prod.mk.inj hev).1, (Prod.mk.inj hev).2, ?_⟩
  exact ⟨⟨tR, by rw [hf.disk.1]; exact hR, hRs, hf.records⟩,
    ⟨tE, by rw [hf.disk.2]; exact hE, hEs, hf.events⟩⟩

end Continuity

end AnnyRuntime
