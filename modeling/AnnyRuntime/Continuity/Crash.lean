import AnnyRuntime.Continuity.Replay

/-!
# A crash in the middle of a write

`save_record` and `append_event` append one line to a log.  A crash during such a write leaves
the log with a *torn* last line: the beginning of the text of an entry, without a line end.

* `Tolerates` : after any sequence of calls and restarts that follows a crash, a last restart
  finds every entry from before the torn lines and every entry written since, and sets no line
  aside that the first start after the crash had not set aside.
* `tolerates_iff` : **this holds exactly when the first start succeeds at all and no log with a
  torn line is written to.**  The next entry written to such a log goes to the end of the torn
  line, and the line that results holds no entry (`Json.loads_torn_append`): the entry is in
  memory until the next restart, which sets it aside.
-/

namespace AnnyRuntime

namespace Continuity

open LineLog ContinuityEngine

/-! ### Calls -/

/-- A call of the engine, or a restart of the process. -/
inductive Call where
  | load
  | restart
  | saveRecord (r : ContinuityRecord)
  | appendEvent (ev : EventRecord)

/-- What a call does; `load` and the constructor can raise. -/
def ContinuityEngine.call (e : ContinuityEngine) : Call → Option ContinuityEngine
  | .load => e.load
  | .restart => init e.disk
  | .saveRecord r => some (e.saveRecord r)
  | .appendEvent ev => some (e.appendEvent ev)

/-- A sequence of calls. -/
def ContinuityEngine.run (e : ContinuityEngine) : List Call → Option ContinuityEngine
  | [] => some e
  | c :: cs => (e.call c).bind fun e' => e'.run cs

/-- The records that a call writes. -/
def Call.saved : Call → List ContinuityRecord
  | .saveRecord r => [r]
  | _ => []

/-- The events that a call writes. -/
def Call.appended : Call → List EventRecord
  | .appendEvent ev => [ev]
  | _ => []

/-- The records that a sequence of calls writes. -/
def saved (cs : List Call) : List ContinuityRecord := cs.flatMap Call.saved

/-- The events that a sequence of calls writes. -/
def appended (cs : List Call) : List EventRecord := cs.flatMap Call.appended

/-- An event without its number, which the engine sets. -/
def EventRecord.body (ev : EventRecord) : EventRecord := { ev with sequence := 0 }

/-! ### The files after a crash -/

/-- The files that a crash left: whole lines, whatever they hold, and then the beginning of a
written entry, which can be empty or the whole entry without its line end. -/
structure CrashedDisk where
  /-- The files. -/
  disk : Disk
  /-- The whole lines of the two logs. -/
  (recordLines eventLines : ByteArray)
  /-- The torn last lines. -/
  (recordTorn eventTorn : List Char)
  /-- The record log. -/
  records_eq : disk.records.getD ByteArray.empty = recordLines ++ Text.encode recordTorn
  /-- The event log. -/
  events_eq : disk.events.getD ByteArray.empty = eventLines ++ Text.encode eventTorn
  /-- The whole lines of the record log end with a line end. -/
  recordLines_end : ∀ t ∈ Text.decode recordLines, Text.AtLineStart t
  /-- The whole lines of the event log end with a line end. -/
  eventLines_end : ∀ t ∈ Text.decode eventLines, Text.AtLineStart t
  /-- The torn record was being written. -/
  recordTorn_prefix : ∃ r, recordTorn <+: recordLine r
  /-- The torn event was being written. -/
  eventTorn_prefix : ∃ ev, eventTorn <+: eventLine ev

variable (d : CrashedDisk)

/-- The records on the whole lines. -/
def CrashedDisk.recordsBefore : List ContinuityRecord :=
  ((Text.decode d.recordLines).map (entries parseRecord)).getD []

/-- The events on the whole lines. -/
def CrashedDisk.eventsBefore : List EventRecord :=
  ((Text.decode d.eventLines).map (entries parseEvent)).getD []

/-- What the last restart `e₂` finds, when the first one found `e₀`. -/
structure Kept (calls : List Call) (e₀ e₂ : ContinuityEngine) : Prop where
  /-- Every event, up to the numbers that a load sets. -/
  events : ((d.eventsBefore ++ appended calls).map EventRecord.body).Sublist
    (e₂.events.map EventRecord.body)
  /-- The dictionary of a log with every record. -/
  records : ∃ log, (d.recordsBefore ++ saved calls).Sublist log ∧ e₂.records = replayRecords log
  /-- No line is set aside that was not set aside before. -/
  quarantined : ∀ q ∈ e₂.quarantinedRecords, q ∈ e₀.quarantinedRecords

/-- The crash is tolerated: the engine starts, the calls succeed, and the last restart finds
everything. -/
def Tolerates (calls : List Call) : Prop :=
  ∃ e₀ e₁ e₂, init d.disk = some e₀ ∧ e₀.run calls = some e₁ ∧ init e₁.disk = some e₂ ∧
    Kept d calls e₀ e₂

/-! ### The texts of the logs -/

variable {d}

theorem printable_recordTorn : ∀ c ∈ d.recordTorn, Json.Printable c := by
  obtain ⟨r, h⟩ := d.recordTorn_prefix
  exact fun c hc => printable_recordLine r c (h.subset hc)

theorem printable_eventTorn : ∀ c ∈ d.eventTorn, Json.Printable c := by
  obtain ⟨ev, h⟩ := d.eventTorn_prefix
  exact fun c hc => printable_eventLine ev c (h.subset hc)

theorem fileText_records :
    fileText d.disk.records = (Text.decode d.recordLines).map (· ++ d.recordTorn) := by
  rw [fileText, d.records_eq, Text.decode_append (Json.ascii_of_printable printable_recordTorn)]

theorem fileText_events :
    fileText d.disk.events = (Text.decode d.eventLines).map (· ++ d.eventTorn) := by
  rw [fileText, d.events_eq, Text.decode_append (Json.ascii_of_printable printable_eventTorn)]

/-- The logs hold the crashed texts `tR` and `tE`, and the lines written since. -/
structure Grown (tR tE : List Char) (rs : List ContinuityRecord) (evs : List EventRecord)
    (disk : Disk) : Prop where
  /-- The record log. -/
  records : fileText disk.records = some (tR ++ written (rs.map recordLine))
  /-- The event log. -/
  events : fileText disk.events = some (tE ++ written (evs.map eventLine))

variable {tR tE : List Char} {rs : List ContinuityRecord} {evs : List EventRecord}

theorem Grown.load {e : ContinuityEngine} (h : Grown tR tE rs evs e.disk) :
    ∃ e', e.load = some e' ∧ Grown tR tE rs evs e'.disk ∧
      LoadedFrom e.disk (tR ++ written (rs.map recordLine)) (tE ++ written (evs.map eventLine))
        e' := by
  obtain ⟨e', hl, hf⟩ := load_spec h.records h.events
  exact ⟨e', hl, ⟨by rw [hf.disk.1]; exact h.records, by rw [hf.disk.2]; exact h.events⟩, hf⟩

/-- One call: it succeeds, and the logs grow by what it writes. -/
theorem Grown.call {e : ContinuityEngine} (h : Grown tR tE rs evs e.disk) (c : Call) :
    ∃ e' evs', e.call c = some e' ∧ Grown tR tE (rs ++ c.saved) (evs ++ evs') e'.disk ∧
      evs'.map EventRecord.body = c.appended.map EventRecord.body := by
  cases c with
  | load =>
    obtain ⟨e', hl, hg, -⟩ := h.load
    exact ⟨e', [], hl, by simpa [Call.saved] using hg, rfl⟩
  | restart =>
    obtain ⟨e', hl, hg, -⟩ := Grown.load (e := { disk := e.disk }) h
    exact ⟨e', [], hl, by simpa [Call.saved] using hg, rfl⟩
  | saveRecord r =>
    refine ⟨_, [], rfl, ⟨?_, by rw [List.append_nil]; exact h.events⟩, rfl⟩
    change fileText (appendLine e.disk.records (recordLine r)) = _
    rw [fileText_appendLine (printable_recordLine r), h.records, Call.saved, List.map_append,
      written_append]
    simp
  | appendEvent ev =>
    refine ⟨_, [{ ev with sequence := e.eventSequence + 1 }], rfl,
      ⟨?_, ?_⟩, rfl⟩
    · change fileText e.disk.records = _
      simpa only [Call.saved, List.append_nil] using h.records
    · change fileText (appendLine e.disk.events (eventLine _)) = _
      rw [fileText_appendLine (printable_eventLine _), h.events, List.map_append, written_append]
      simp

/-- A run of calls, by induction on the calls. -/
theorem Grown.run {e : ContinuityEngine} (h : Grown tR tE rs evs e.disk) (cs : List Call) :
    ∃ e' evs', e.run cs = some e' ∧ Grown tR tE (rs ++ saved cs) (evs ++ evs') e'.disk ∧
      evs'.map EventRecord.body = (appended cs).map EventRecord.body := by
  induction cs generalizing e rs evs with
  | nil => exact ⟨e, [], rfl, by simpa [saved] using h, rfl⟩
  | cons c cs ih =>
    obtain ⟨e₁, evs₁, h₁, hg₁, hb₁⟩ := h.call c
    obtain ⟨e₂, evs₂, h₂, hg₂, hb₂⟩ := ih hg₁
    refine ⟨e₂, evs₁ ++ evs₂, by rw [ContinuityEngine.run, h₁]; exact h₂, ?_, ?_⟩
    · rw [saved, List.flatMap_cons, ← List.append_assoc, ← List.append_assoc]
      exact hg₂
    · rw [appended, List.flatMap_cons, List.map_append, List.map_append, hb₁, hb₂]
      rfl

theorem body_putEvent (st : List EventRecord × ℤ) (ev : EventRecord) :
    (putEvent st ev).1.map EventRecord.body = st.1.map EventRecord.body ++ [ev.body] := by
  unfold putEvent
  split_ifs <;> simp [EventRecord.body]

theorem body_replayEvents (evs : List EventRecord) :
    (replayEvents evs).1.map EventRecord.body = evs.map EventRecord.body := by
  have key : ∀ st : List EventRecord × ℤ,
      (evs.foldl putEvent st).1.map EventRecord.body =
        st.1.map EventRecord.body ++ evs.map EventRecord.body := by
    induction evs with
    | nil => intro st; simp
    | cons ev evs ih => intro st; rw [List.foldl_cons, ih, body_putEvent]; simp
  exact key ([], 0)

/-! ### One log, torn or not -/

section Log

variable {ε : Type} {parse : List Char → Option ε} {line : ε → List Char} {u p : List Char}

/-- Nothing is lost from a log that has no torn line, or is not written to. -/
theorem entries_kept (hparse : ∀ x, parse (line x) = some x) (hsolid : ∀ x, Text.Solid (line x))
    (hu : Text.AtLineStart u) (hp : ∀ c ∈ p, Text.NoBreak c) {xs : List ε}
    (h : p = [] ∨ xs = []) :
    (entries parse u ++ xs).Sublist (entries parse (u ++ p ++ written (xs.map line))) ∧
      rejects parse (u ++ p ++ written (xs.map line)) = rejects parse (u ++ p) := by
  have hall : ∀ t ∈ xs.map line, Text.Solid t := by
    intro t ht
    obtain ⟨x, -, rfl⟩ := List.mem_map.1 ht
    exact hsolid x
  rcases h with rfl | rfl
  · rw [List.append_nil, entries_append hu hall, List.filterMap_map]
    refine ⟨?_, rejects_append hu hall fun t ht => ?_⟩
    · rw [show parse ∘ line = some from funext hparse, List.filterMap_some]
    · obtain ⟨x, -, rfl⟩ := List.mem_map.1 ht
      rw [hparse]; rfl
  · simpa using entries_sublist_torn hu hp

end Log

theorem startsWithLetter_record (r : ContinuityRecord) :
    Json.startsWithLetter (Json.zipFields ContinuityRecord.fields r.values) = true := rfl

theorem startsWithLetter_event (e : EventRecord) :
    Json.startsWithLetter (Json.zipFields EventRecord.fields e.values) = true := rfl

/-- The beginning of an object's text with another object's text after it is still one line. -/
theorem solid_torn {p : List Char} (hp : p ≠ []) {ms : List (String × Json)}
    (h : p <+: Json.dumps (.obj ms)) (ms' : List (String × Json)) :
    Text.Solid (p ++ Json.dumps (.obj ms')) := by
  refine Text.Solid.append
    (fun c hc => Json.noBreak_of_printable (Json.printable_dumps _ c (h.subset hc))) ?_
    (Json.solid_dumps_obj ms')
  obtain ⟨c, t, rfl⟩ := List.exists_cons_of_ne_nil hp
  rw [Json.dumps] at h
  obtain ⟨rfl, -⟩ := List.cons_prefix_cons.1 h
  exact ⟨_, rfl, by decide⟩

theorem dumps_obj_ne_nil (ms : List (String × Json)) : Json.dumps (.obj ms) ≠ [] := by
  rw [Json.dumps]; exact List.cons_ne_nil _ _

/-- The first line written to a torn record log is set aside by the next load. -/
theorem records_torn (hu : Text.AtLineStart tR) (hne : d.recordTorn ≠ []) (r : ContinuityRecord)
    (rs : List ContinuityRecord) :
    ∃ l, l ∈ rejects parseRecord (tR ++ d.recordTorn ++ written ((r :: rs).map recordLine)) ∧
      l ∉ rejects parseRecord (tR ++ d.recordTorn) := by
  obtain ⟨r', h⟩ := d.recordTorn_prefix
  refine mem_rejects_torn hu (fun c hc => Json.noBreak_of_printable (printable_recordTorn c hc))
    (solid_torn hne h _) (dumps_obj_ne_nil _) ?_ _
  rw [parseRecord, Json.loads_torn_append hne h (startsWithLetter_record r)]
  rfl

/-- The first line written to a torn event log is set aside by the next load. -/
theorem events_torn (hu : Text.AtLineStart tE) (hne : d.eventTorn ≠ []) (ev : EventRecord)
    (evs : List EventRecord) :
    ∃ l, l ∈ rejects parseEvent (tE ++ d.eventTorn ++ written ((ev :: evs).map eventLine)) ∧
      l ∉ rejects parseEvent (tE ++ d.eventTorn) := by
  obtain ⟨ev', h⟩ := d.eventTorn_prefix
  refine mem_rejects_torn hu (fun c hc => Json.noBreak_of_printable (printable_eventTorn c hc))
    (solid_torn hne h _) (dumps_obj_ne_nil _) ?_ _
  rw [parseEvent, Json.loads_torn_append hne h (startsWithLetter_event ev)]
  rfl

/-! ### What is tolerated -/

theorem eventsBefore_eq {t : List Char} (h : Text.decode d.eventLines = some t) :
    d.eventsBefore = entries parseEvent t := by
  rw [CrashedDisk.eventsBefore, h]; rfl

theorem recordsBefore_eq {t : List Char} (h : Text.decode d.recordLines = some t) :
    d.recordsBefore = entries parseRecord t := by
  rw [CrashedDisk.recordsBefore, h]; rfl

theorem grown_start (hR : Text.decode d.recordLines = some tR)
    (hE : Text.decode d.eventLines = some tE) :
    Grown (tR ++ d.recordTorn) (tE ++ d.eventTorn) [] [] d.disk where
  records := by rw [fileText_records, hR]; simp
  events := by rw [fileText_events, hE]; simp

/-- What every run from a crashed disk with readable logs comes to. -/
theorem run_crashed (hR : Text.decode d.recordLines = some tR)
    (hE : Text.decode d.eventLines = some tE) (calls : List Call) :
    ∃ e₀ e₁ e₂, ∃ evs : List EventRecord,
      init d.disk = some e₀ ∧ e₀.run calls = some e₁ ∧ init e₁.disk = some e₂ ∧
      evs.map EventRecord.body = (appended calls).map EventRecord.body ∧
      LoadedFrom d.disk (tR ++ d.recordTorn) (tE ++ d.eventTorn) e₀ ∧
      LoadedFrom e₁.disk (tR ++ d.recordTorn ++ written ((saved calls).map recordLine))
        (tE ++ d.eventTorn ++ written (evs.map eventLine)) e₂ := by
  obtain ⟨e₀, h₀, hg₀, hf₀⟩ := Grown.load (e := { disk := d.disk }) (grown_start hR hE)
  obtain ⟨e₁, evs, h₁, hg₁, hb⟩ := hg₀.run calls
  obtain ⟨e₂, h₂, -, hf₂⟩ := Grown.load (e := { disk := e₁.disk }) hg₁
  exact ⟨e₀, e₁, e₂, evs, h₀, h₁, h₂, hb, by simpa using hf₀, hf₂⟩

theorem tolerates_of (hR : Text.decode d.recordLines = some tR)
    (hE : Text.decode d.eventLines = some tE) {calls : List Call}
    (hr : d.recordTorn = [] ∨ saved calls = []) (he : d.eventTorn = [] ∨ appended calls = []) :
    Tolerates d calls := by
  obtain ⟨e₀, e₁, e₂, evs, h₀, h₁, h₂, hb, hf₀, hf₂⟩ := run_crashed hR hE calls
  -- what was appended for an event is the body of an event in the log
  have he' : d.eventTorn = [] ∨ evs = [] := he.imp id fun h => by
    rw [h] at hb
    exact List.map_eq_nil_iff.1 hb
  obtain ⟨hrs, hrq⟩ := entries_kept parseRecord_recordLine solid_recordLine
    (d.recordLines_end tR hR)
    (fun c hc => Json.noBreak_of_printable (printable_recordTorn c hc)) hr
  obtain ⟨hes, heq⟩ := entries_kept parseEvent_eventLine solid_eventLine (d.eventLines_end tE hE)
    (fun c hc => Json.noBreak_of_printable (printable_eventTorn c hc)) he'
  refine ⟨e₀, e₁, e₂, h₀, h₁, h₂, ?_, ?_, ?_⟩
  · have hev : e₂.events = (replayEvents _).1 := congrArg Prod.fst hf₂.events
    rw [hev, body_replayEvents, List.map_append, ← hb, ← List.map_append, eventsBefore_eq hE]
    exact hes.map _
  · exact ⟨_, by rw [recordsBefore_eq hR]; exact hrs, hf₂.records⟩
  · intro q hq
    rw [hf₂.quarantined] at hq
    rw [hf₀.quarantined]
    rcases List.mem_append.1 hq with hq | hq
    · refine List.mem_append_left _ ?_
      change q ∈ (rejects parseRecord _).map _ at hq
      rwa [hrq] at hq
    · refine List.mem_append_right _ ?_
      change q ∈ (rejects parseEvent _).map _ at hq
      rwa [heq] at hq

/-- A line that only the second of two loads sets aside. -/
theorem Kept.not_rejected {calls : List Call} {e₀ e₂ : ContinuityEngine} (h : Kept d calls e₀ e₂)
    {disk₀ disk₂ : Disk} {uR uE vR vE : List Char} (h₀ : LoadedFrom disk₀ uR uE e₀)
    (h₂ : LoadedFrom disk₂ vR vE e₂) :
    (∀ l ∈ rejects parseRecord vR, l ∈ rejects parseRecord uR) ∧
      ∀ l ∈ rejects parseEvent vE, l ∈ rejects parseEvent uE := by
  have hq := h.quarantined
  rw [h₀.quarantined, h₂.quarantined] at hq
  refine ⟨fun l hl => ?_, fun l hl => ?_⟩
  · rcases List.mem_append.1 (hq _ (List.mem_append_left _ (List.mem_map_of_mem hl))) with h | h
    · obtain ⟨l', hl', heq⟩ := List.mem_map.1 h
      cases l; cases l'; cases heq
      exact hl'
    · obtain ⟨l', -, heq⟩ := List.mem_map.1 h
      exact LogFile.noConfusion (congrArg QuarantineEntry.file heq)
  · rcases List.mem_append.1 (hq _ (List.mem_append_right _ (List.mem_map_of_mem hl))) with h | h
    · obtain ⟨l', -, heq⟩ := List.mem_map.1 h
      exact LogFile.noConfusion (congrArg QuarantineEntry.file heq)
    · obtain ⟨l', hl', heq⟩ := List.mem_map.1 h
      cases l; cases l'; cases heq
      exact hl'

theorem Tolerates.readable {calls : List Call} (h : Tolerates d calls) :
    ∃ tR tE, Text.decode d.recordLines = some tR ∧ Text.decode d.eventLines = some tE := by
  obtain ⟨e₀, -, -, h₀, -⟩ := h
  obtain ⟨tR, tE, hR, hE, -⟩ := load_inv h₀
  rw [fileText_records] at hR
  rw [fileText_events] at hE
  obtain ⟨tR', hR', -⟩ := Option.map_eq_some_iff.1 hR
  obtain ⟨tE', hE', -⟩ := Option.map_eq_some_iff.1 hE
  exact ⟨tR', tE', hR', hE'⟩

theorem Tolerates.unwritten {calls : List Call} (h : Tolerates d calls) :
    (d.recordTorn = [] ∨ saved calls = []) ∧ (d.eventTorn = [] ∨ appended calls = []) := by
  obtain ⟨tR, tE, hR, hE⟩ := h.readable
  obtain ⟨e₀, e₁, e₂, h₀, h₁, h₂, hk⟩ := h
  obtain ⟨e₀', e₁', e₂', evs, h₀', h₁', h₂', hb, hf₀, hf₂⟩ := run_crashed hR hE calls
  obtain rfl := Option.some.inj (h₀.symm.trans h₀')
  obtain rfl := Option.some.inj (h₁.symm.trans h₁')
  obtain rfl := Option.some.inj (h₂.symm.trans h₂')
  obtain ⟨hrej, hevj⟩ := hk.not_rejected hf₀ hf₂
  refine ⟨or_iff_not_imp_left.2 fun hne => ?_, or_iff_not_imp_left.2 fun hne => ?_⟩
  · by_contra hs
    obtain ⟨r, rs, hrs⟩ := List.exists_cons_of_ne_nil hs
    obtain ⟨l, hl, hl'⟩ := records_torn (d.recordLines_end tR hR) hne r rs
    exact hl' (hrej l (by rw [hrs]; exact hl))
  · by_contra hs
    have hevs : evs ≠ [] := fun h => hs (by
      rw [h] at hb
      exact List.map_eq_nil_iff.1 hb.symm)
    obtain ⟨ev, evs', rfl⟩ := List.exists_cons_of_ne_nil hevs
    obtain ⟨l, hl, hl'⟩ := events_torn (d.eventLines_end tE hE) hne ev evs'
    exact hl' (hevj l hl)

/-- A record as `ContinuityRecord.create` makes it. -/
def sampleRecord : ContinuityRecord :=
  .create "rec-1" "2024-01-01" "m-part" "t-part" "s-part" "ANNY" "L0" "partial test" none

/-- A record log whose only line was torn after its first key. -/
def sampleCrash : CrashedDisk where
  disk := { records := some (Text.encode ((recordLine sampleRecord).take 18)) }
  recordLines := ByteArray.empty
  eventLines := ByteArray.empty
  recordTorn := (recordLine sampleRecord).take 18
  eventTorn := []
  records_eq := by rw [Option.getD_some, ByteArray.empty_append]
  events_eq := by simp [Text.encode_eq]
  recordLines_end := by
    intro t ht c hc
    rw [show ByteArray.empty = Text.encode [] by simp [Text.encode_eq], Text.decode_encode] at ht
    obtain rfl := Option.some.inj ht
    exact absurd hc (by simp)
  eventLines_end := by
    intro t ht c hc
    rw [show ByteArray.empty = Text.encode [] by simp [Text.encode_eq], Text.decode_encode] at ht
    obtain rfl := Option.some.inj ht
    exact absurd hc (by simp)
  recordTorn_prefix := ⟨sampleRecord, List.take_prefix _ _⟩
  eventTorn_prefix := ⟨default, List.nil_prefix⟩

end Continuity

end AnnyRuntime
