import AnnyRuntime.Continuity.Replay
import AnnyRuntime.Json.Number
import AnnyRuntime.Json.Sorted

/-!
# Any values in the continuity logs

Nothing checks the values that `save_record` and `append_event` are given, nor the sequence numbers
that `load` reads.  A number may be a float, and a value may be one that JSON writes in another way
than it reads it.  `LogEngine` is the engine over such values: its records and events are what is
read and compared of them, the id or the number, and the values of all other fields.  The lines that
hold neither a record nor an event are skipped here.

* `LogEngine.reloads` : after any run of JSON values, over any logs, a new engine finds the records
  and the events; the numbers of the events grow where the numbers in the first log are integers.
* `LogEngine.not_reloads` : they need not grow after a number such as `Infinity`, and a dictionary
  whose keys are numbers is not found again.
-/

namespace AnnyRuntime

/-- The JSON value whose text `json.dumps(v)` writes, unless it raises. -/
def PyVal.dump? (v : PyVal) : Option Json := if v.known then v.encode false else Option.none

/-- A value that JSON reads as it was written. -/
def PyVal.IsJson (v : PyVal) : Prop := ∃ j, v = PyVal.ofJson j

@[simp] theorem PyVal.dump?_ofJson (j : Json) : (PyVal.ofJson j).dump? = some j := by
  rw [dump?, if_pos (known_ofJson j), encode_ofJson]

/-- JSON values are those of a list of JSON values. -/
theorem PyVal.exists_map_ofJson {vs : List PyVal} (h : ∀ v ∈ vs, v.IsJson) :
    ∃ js : List Json, vs = js.map PyVal.ofJson := by
  induction vs with
  | nil => exact ⟨[], rfl⟩
  | cons v vs ih =>
    obtain ⟨j, hj⟩ := h v List.mem_cons_self
    obtain ⟨js, hjs⟩ := ih fun w hw => h w (List.mem_cons_of_mem v hw)
    exact ⟨j :: js, by rw [List.map_cons, hj, hjs]⟩

theorem PyVal.mapM_dump?_ofJson (js : List Json) :
    (js.map PyVal.ofJson).mapM PyVal.dump? = some js :=
  Json.mapM_map_eq_some fun j _ => PyVal.dump?_ofJson j

namespace Continuity

/-- What a dictionary compares of a key: numbers by their values.  `NaN` is the one object that the
decoder has for it. -/
inductive DictKey where
  | none
  | number (v : NumberValue)
  | nan
  | str (s : String)
  deriving DecidableEq

/-- The key of a value. -/
def dictKey (A : FloatArith) (k : Json.Key) : DictKey :=
  match k.1.number? with
  | some n => (n.value? A).elim .nan .number
  | Option.none =>
    match k.1 with
    | .str s => .str s
    | _ => .none

/-! ### Records and events -/

/-- A record. -/
structure LoggedRecord where
  continuityId : Json.Key
  /-- The other fields. -/
  others : List PyVal
  full : others.length + 1 = ContinuityRecord.fields.length

/-- An event. -/
structure LoggedEvent where
  eventId : PyVal
  sequence : PyNumber
  /-- The other fields. -/
  others : List PyVal
  full : others.length + 2 = EventRecord.fields.length

namespace LoggedRecord

/-- A record with the given values, in the order of the fields. -/
def ofValues : List Json → Option LoggedRecord
  | continuityId :: others =>
    if h : continuityId.hashable = true ∧ others.length + 1 = ContinuityRecord.fields.length then
      some ⟨⟨continuityId, h.1⟩, others.map PyVal.ofJson, by rw [List.length_map]; exact h.2⟩
    else none
  | _ => none

/-- The record that a line holds. -/
def parse (line : List Char) : Option LoggedRecord :=
  match Json.loads line with
  | some (.obj ms) => (Json.bindKwargs ContinuityRecord.fields ms).bind ofValues
  | _ => none

/-- The line that is written for a record, unless `json.dumps` raises. -/
def line? (r : LoggedRecord) : Option (List Char) :=
  (r.others.mapM PyVal.dump?).map fun vs =>
    Json.dumps (.obj (Json.zipFields ContinuityRecord.fields (r.continuityId.1 :: vs)))

/-- The record is made of JSON values. -/
def IsJson (r : LoggedRecord) : Prop := ∀ v ∈ r.others, v.IsJson

end LoggedRecord

namespace LoggedEvent

/-- An event with the given values, in the order of the fields. -/
def ofValues : List Json → Option LoggedEvent
  | eventId :: sequence :: others =>
    if h : others.length + 2 = EventRecord.fields.length then
      sequence.number?.map fun n =>
        ⟨PyVal.ofJson eventId, n, others.map PyVal.ofJson, by rw [List.length_map]; exact h⟩
    else none
  | _ => none

/-- The event that a line holds. -/
def parse (line : List Char) : Option LoggedEvent :=
  match Json.loads line with
  | some (.obj ms) => (Json.bindKwargs EventRecord.fields ms).bind ofValues
  | _ => none

/-- The line that is written for an event, unless `json.dumps` raises. -/
def line? (e : LoggedEvent) : Option (List Char) :=
  e.eventId.dump?.bind fun eventId => (e.others.mapM PyVal.dump?).map fun vs =>
    Json.dumps (.obj (Json.zipFields EventRecord.fields (eventId :: e.sequence.toJson :: vs)))

/-- The event is made of JSON values. -/
def IsJson (e : LoggedEvent) : Prop := e.eventId.IsJson ∧ ∀ v ∈ e.others, v.IsJson

end LoggedEvent

/-! ### The engine -/

/-- The memory of an engine and its logs. -/
structure LogEngine where
  records : Dict DictKey LoggedRecord
  events : List LoggedEvent
  eventSequence : PyNumber
  /-- `continuity_records.jsonl`. -/
  recordLog : Option ByteArray
  /-- `event_records.jsonl`. -/
  eventLog : Option ByteArray

/-- A call. -/
inductive LogCall where
  | saveRecord (r : LoggedRecord)
  | appendEvent (e : LoggedEvent)

namespace LogEngine

variable (A : FloatArith)

/-- A record that was read. -/
def putRecord (d : Dict DictKey LoggedRecord) (r : LoggedRecord) : Dict DictKey LoggedRecord :=
  d.set (dictKey A r.continuityId) r

/-- An event that was read, with a number above the last one. -/
def putEvent (st : List LoggedEvent × PyNumber) (e : LoggedEvent) : List LoggedEvent × PyNumber :=
  let e := if e.sequence.le A st.2 then { e with sequence := st.2.addOne A } else e
  (st.1 ++ [e], if st.2.lt A e.sequence then e.sequence else st.2)

/-- The dictionary of the records of a log. -/
def readRecords (t : List Char) : Dict DictKey LoggedRecord :=
  (LineLog.entries LoggedRecord.parse t).foldl (putRecord A) Dict.empty

/-- The events of a log and the last number. -/
def readEvents (t : List Char) : List LoggedEvent × PyNumber :=
  (LineLog.entries LoggedEvent.parse t).foldl (putEvent A) ([], .int 0)

/-- A new engine over two logs, when they are text. -/
def load (recordLog eventLog : Option ByteArray) : Option LogEngine :=
  (fileText recordLog).bind fun tR => (fileText eventLog).map fun tE =>
    { records := readRecords A tR
      events := (readEvents A tE).1
      eventSequence := (readEvents A tE).2
      recordLog := recordLog
      eventLog := eventLog }

/-- A log that was opened to append a line. -/
def appendLine? (file : Option ByteArray) : Option (List Char) → Option ByteArray
  | some line => ContinuityEngine.appendLine file line
  -- the exception comes after the file was opened
  | none => some (file.getD ByteArray.empty)

/-- `save_record`. -/
def saveRecord (e : LogEngine) (r : LoggedRecord) : LogEngine :=
  { e with
    records := e.records.set (dictKey A r.continuityId) r
    recordLog := appendLine? e.recordLog r.line? }

/-- `append_event`. -/
def appendEvent (e : LogEngine) (event : LoggedEvent) : LogEngine :=
  let event := { event with sequence := e.eventSequence.addOne A }
  { e with
    eventSequence := event.sequence
    events := e.events ++ [event]
    eventLog := appendLine? e.eventLog event.line? }

/-- A call. -/
def call (e : LogEngine) : LogCall → LogEngine
  | .saveRecord r => e.saveRecord A r
  | .appendEvent event => e.appendEvent A event

/-- A new engine over the logs finds the records and the events. -/
def FindsAgain (e : LogEngine) : Prop :=
  ∃ e', load A e.recordLog e.eventLog = some e' ∧ e'.records = e.records ∧ e'.events = e.events

/-- The numbers of the events grow. -/
def Increasing (e : LogEngine) : Prop :=
  e.events.Pairwise fun a b => a.sequence.lt A b.sequence = true

end LogEngine

/-- The call is made with JSON values. -/
def LogCall.IsJson : LogCall → Prop
  | .saveRecord r => r.IsJson
  | .appendEvent event => event.IsJson

/-- The numbers in the log are integers. -/
def IntegerNumbers (eventLog : Option ByteArray) : Prop :=
  ∀ t, fileText eventLog = some t → ∀ e ∈ LineLog.entries LoggedEvent.parse t,
    ∃ n, e.sequence = .int n

/-- The file is empty or ends with a line end. -/
def EndsLine (file : Option ByteArray) : Prop := ∀ t, fileText file = some t → Text.AtLineStart t

/-! ### What is written is read -/

theorem LoggedRecord.ofValues_map {r : LoggedRecord} {js : List Json}
    (h : r.others = js.map PyVal.ofJson) : ofValues (r.continuityId.1 :: js) = some r := by
  have hlen : js.length + 1 = ContinuityRecord.fields.length := by
    rw [← r.full, h, List.length_map]
  obtain ⟨id, others, full⟩ := r
  obtain rfl : others = js.map PyVal.ofJson := h
  rw [ofValues, dif_pos ⟨id.2, hlen⟩]

theorem LoggedEvent.ofValues_map {e : LoggedEvent} {j : Json} {js : List Json}
    (hid : e.eventId = PyVal.ofJson j) (h : e.others = js.map PyVal.ofJson) :
    ofValues (j :: e.sequence.toJson :: js) = some e := by
  have hlen : js.length + 2 = EventRecord.fields.length := by rw [← e.full, h, List.length_map]
  obtain ⟨eventId, sequence, others, full⟩ := e
  obtain rfl : eventId = PyVal.ofJson j := hid
  obtain rfl : others = js.map PyVal.ofJson := h
  rw [ofValues, dif_pos hlen, PyNumber.number?_toJson, Option.map_some]

/-- The line of an object that holds the fields of an entry. -/
structure IsLine {ε : Type} (parse : List Char → Option ε) (e : ε) (line : List Char) : Prop where
  solid : Text.Solid line
  printable : ∀ c ∈ line, Json.Printable c
  parse : parse line = some e

theorem LoggedRecord.exists_line {r : LoggedRecord} (h : r.IsJson) :
    ∃ line, r.line? = some line ∧ IsLine LoggedRecord.parse r line := by
  obtain ⟨js, hjs⟩ := PyVal.exists_map_ofJson h
  refine ⟨Json.dumps (.obj (Json.zipFields ContinuityRecord.fields (r.continuityId.1 :: js))), ?_,
    Json.solid_dumps_obj _, Json.printable_dumps _, ?_⟩
  · rw [line?, hjs, PyVal.mapM_dump?_ofJson, Option.map_some]
  · have hlen : ContinuityRecord.fields.length = (r.continuityId.1 :: js).length := by
      rw [← r.full, hjs, List.length_map, List.length_cons]
    rw [LoggedRecord.parse, Json.loads_dumps]
    exact (congrArg (·.bind ofValues) (Json.bindKwargs_zip (by decide) hlen)).trans
      (ofValues_map hjs)

theorem LoggedEvent.exists_line {e : LoggedEvent} (h : e.IsJson) :
    ∃ line, e.line? = some line ∧ IsLine LoggedEvent.parse e line := by
  obtain ⟨⟨j, hid⟩, hothers⟩ := h
  obtain ⟨js, hjs⟩ := PyVal.exists_map_ofJson hothers
  refine ⟨Json.dumps (.obj (Json.zipFields EventRecord.fields (j :: e.sequence.toJson :: js))), ?_,
    Json.solid_dumps_obj _, Json.printable_dumps _, ?_⟩
  · rw [line?, hid, PyVal.dump?_ofJson, Option.bind_some, hjs, PyVal.mapM_dump?_ofJson,
      Option.map_some]
  · have hlen : EventRecord.fields.length = (j :: e.sequence.toJson :: js).length := by
      rw [← e.full, hjs, List.length_map, List.length_cons, List.length_cons]
    rw [LoggedEvent.parse, Json.loads_dumps]
    exact (congrArg (·.bind ofValues) (Json.bindKwargs_zip (by decide) hlen)).trans
      (ofValues_map hid hjs)

/-- A log to which the line of an entry was appended. -/
theorem fileText_appendLine? {ε : Type} {parse : List Char → Option ε} {e : ε} {line t : List Char}
    {file : Option ByteArray} (hline : IsLine parse e line) (ht : fileText file = some t)
    (hstart : Text.AtLineStart t) :
    fileText (LogEngine.appendLine? file (some line)) = some (t ++ LineLog.written [line]) ∧
      LineLog.entries parse (t ++ LineLog.written [line]) = LineLog.entries parse t ++ [e] := by
  constructor
  · rw [LogEngine.appendLine?, fileText_appendLine hline.printable, ht, Option.map_some]
  · rw [LineLog.entries_append hstart (by simpa using hline.solid), List.filterMap_cons,
      hline.parse]
    rfl

namespace LogEngine

variable {A : FloatArith}

/-! ### What a new engine finds -/

/-- The logs hold the memory; the last number may be one that is not told apart. -/
structure Durable (A : FloatArith) (e : LogEngine) : Prop where
  records : ∃ t, fileText e.recordLog = some t ∧ Text.AtLineStart t ∧ e.records = readRecords A t
  events : ∃ t, fileText e.eventLog = some t ∧ Text.AtLineStart t ∧
    e.events = (readEvents A t).1 ∧ PyNumber.Agree A e.eventSequence (readEvents A t).2

theorem Durable.findsAgain {e : LogEngine} (h : Durable A e) : FindsAgain A e := by
  obtain ⟨tR, hR, -, hrecords⟩ := h.records
  obtain ⟨tE, hE, -, hevents, -⟩ := h.events
  exact ⟨_, by rw [load, hR, hE, Option.bind_some, Option.map_some], hrecords.symm, hevents.symm⟩

/-- The last number is a number that compares. -/
theorem isSome_putEvent {st : List LoggedEvent × PyNumber} (h : (st.2.value? A).isSome = true)
    (e : LoggedEvent) : ((putEvent A st e).2.value? A).isSome = true := by
  unfold putEvent
  dsimp only
  split_ifs with hle hlt hlt
  · exact PyNumber.isSome_addOne h
  · exact h
  · -- a number that is above another one is not `NaN`
    unfold PyNumber.lt at hlt
    cases hv : e.sequence.value? A with
    | none => cases hs : st.2.value? A <;> simp [hv, hs] at hlt
    | some v => rfl
  · exact h

theorem isSome_readEvents (t : List Char) : (((readEvents A t).2).value? A).isSome = true := by
  have hstart : ((PyNumber.int 0).value? A).isSome = true := rfl
  unfold readEvents
  generalize hst : (([], .int 0) : List LoggedEvent × PyNumber) = st
  rw [← show st.2 = .int 0 by rw [← hst]] at hstart
  clear hst
  induction LineLog.entries LoggedEvent.parse t generalizing st with
  | nil => exact hstart
  | cons e es ih => exact ih _ (isSome_putEvent hstart e)

theorem durable_load {recordLog eventLog : Option ByteArray} {e : LogEngine}
    (h : load A recordLog eventLog = some e) (hR : EndsLine recordLog) (hE : EndsLine eventLog) :
    Durable A e := by
  obtain ⟨tR, htR, h⟩ := Option.bind_eq_some_iff.1 h
  obtain ⟨tE, htE, rfl⟩ := Option.map_eq_some_iff.1 h
  exact ⟨⟨tR, htR, hR tR htR, rfl⟩,
    ⟨tE, htE, hE tE htE, rfl, PyNumber.Agree.refl (isSome_readEvents tE)⟩⟩

/-- **Numbers that are not told apart.**  An event that was appended is read with its number. -/
theorem putEvent_appended {m n : PyNumber} (h : PyNumber.Agree A m n) (es : List LoggedEvent)
    (e : LoggedEvent) (he : e.sequence = m.addOne A) :
    (putEvent A (es, n) e).1 = es ++ [e] ∧
      PyNumber.Agree A e.sequence (putEvent A (es, n) e).2 := by
  have hn : (n.value? A).isSome = true := h.value ▸ h.isSome
  have hseq : e.sequence = n.addOne A := he.trans h.addOne
  -- a number that does not grow is replaced by itself
  have hkept : (if e.sequence.le A n then { e with sequence := n.addOne A } else e) = e := by
    rw [← hseq]
    exact ite_self e
  unfold putEvent
  dsimp only
  rw [hkept]
  refine ⟨rfl, ?_⟩
  split_ifs with hlt
  · exact PyNumber.Agree.refl (hseq ▸ PyNumber.isSome_addOne hn)
  · rcases PyNumber.lt_addOne_or_agree hn with hgrows | hagree
    · exact absurd (hseq ▸ hgrows) hlt
    · exact hseq ▸ hagree

theorem Durable.saveRecord {e : LogEngine} (h : Durable A e) {r : LoggedRecord} (hr : r.IsJson) :
    Durable A (e.saveRecord A r) where
  records := by
    obtain ⟨t, ht, hstart, hrecords⟩ := h.records
    obtain ⟨line, hline?, hline⟩ := LoggedRecord.exists_line hr
    obtain ⟨htext, hentries⟩ := fileText_appendLine? hline ht hstart
    refine ⟨_, by rw [LogEngine.saveRecord, hline?]; exact htext, atLineStart_written t line, ?_⟩
    rw [readRecords, hentries, List.foldl_append, ← readRecords, ← hrecords]
    rfl
  events := h.events

theorem Durable.appendEvent {e : LogEngine} (h : Durable A e) {event : LoggedEvent}
    (hevent : event.IsJson) : Durable A (e.appendEvent A event) where
  records := h.records
  events := by
    obtain ⟨t, ht, hstart, hevents, hagree⟩ := h.events
    obtain ⟨line, hline?, hline⟩ :=
      LoggedEvent.exists_line (e := { event with sequence := e.eventSequence.addOne A }) hevent
    obtain ⟨htext, hentries⟩ := fileText_appendLine? hline ht hstart
    obtain ⟨hlist, hlast⟩ := putEvent_appended hagree (readEvents A t).1
      { event with sequence := e.eventSequence.addOne A } rfl
    have hread : readEvents A (t ++ LineLog.written [line]) =
        putEvent A (readEvents A t) { event with sequence := e.eventSequence.addOne A } := by
      rw [readEvents, hentries, List.foldl_append]
      rfl
    refine ⟨_, by rw [LogEngine.appendEvent, hline?]; exact htext, atLineStart_written t line, ?_⟩
    rw [hread]
    refine ⟨?_, hlast⟩
    rw [hlist, ← hevents]
    rfl

/-! ### Integers -/

/-- The numbers are integers that grow up to the last one. -/
structure Numbered (st : List LoggedEvent × PyNumber) (last : ℤ) : Prop where
  last_eq : st.2 = .int last
  le : ∀ e ∈ st.1, ∃ n, e.sequence = .int n ∧ n ≤ last
  sorted : st.1.Pairwise fun a b => ∃ m n, a.sequence = .int m ∧ b.sequence = .int n ∧ m < n

/-- An event with a higher number. -/
theorem Numbered.concat {st : List LoggedEvent × PyNumber} {last n : ℤ} (h : Numbered st last)
    {e : LoggedEvent} (he : e.sequence = .int n) (hlt : last < n) :
    Numbered (st.1 ++ [e], .int n) n where
  last_eq := rfl
  le a ha := by
    rcases List.mem_append.1 ha with ha | ha
    · obtain ⟨m, hm, hle⟩ := h.le a ha
      exact ⟨m, hm, by omega⟩
    · exact ⟨n, List.mem_singleton.1 ha ▸ he, le_refl n⟩
  sorted := by
    refine List.pairwise_append.2 ⟨h.sorted, List.pairwise_singleton _ _, fun a ha b hb => ?_⟩
    obtain ⟨m, hm, hle⟩ := h.le a ha
    exact ⟨m, n, hm, List.mem_singleton.1 hb ▸ he, by omega⟩

theorem Numbered.putEvent {st : List LoggedEvent × PyNumber} {last n : ℤ} (h : Numbered st last)
    {e : LoggedEvent} (he : e.sequence = .int n) : ∃ last', Numbered (putEvent A st e) last' := by
  unfold LogEngine.putEvent
  dsimp only
  rw [h.last_eq, he, PyNumber.le_int]
  by_cases hle : n ≤ last
  · rw [if_pos (decide_eq_true hle), PyNumber.addOne, PyNumber.lt_int,
      if_pos (decide_eq_true (Int.lt_succ last))]
    exact ⟨last + 1, h.concat rfl (Int.lt_succ last)⟩
  · rw [if_neg (by simpa using hle), he, PyNumber.lt_int, if_pos (by simpa using hle)]
    exact ⟨n, h.concat he (by omega)⟩

theorem numbered_readEvents {t : List Char}
    (h : ∀ e ∈ LineLog.entries LoggedEvent.parse t, ∃ n, e.sequence = .int n) :
    ∃ last, Numbered (readEvents A t) last := by
  have hstart : ∃ last, Numbered ([], .int 0) last := ⟨0, rfl, by simp, List.Pairwise.nil⟩
  unfold readEvents
  generalize LineLog.entries LoggedEvent.parse t = es at h ⊢
  generalize (([], .int 0) : List LoggedEvent × PyNumber) = st at hstart ⊢
  induction es generalizing st with
  | nil => exact hstart
  | cons e es ih =>
    obtain ⟨last, hlast⟩ := hstart
    obtain ⟨n, hn⟩ := h e List.mem_cons_self
    exact ih (fun a ha => h a (List.mem_cons_of_mem e ha)) _ (hlast.putEvent hn)

theorem numbered_load {recordLog eventLog : Option ByteArray} {e : LogEngine}
    (h : load A recordLog eventLog = some e) (hint : IntegerNumbers eventLog) :
    ∃ last, Numbered (e.events, e.eventSequence) last := by
  obtain ⟨tR, -, h⟩ := Option.bind_eq_some_iff.1 h
  obtain ⟨tE, htE, rfl⟩ := Option.map_eq_some_iff.1 h
  exact numbered_readEvents (hint tE htE)

theorem Numbered.increasing {e : LogEngine} {last : ℤ}
    (h : Numbered (e.events, e.eventSequence) last) : Increasing A e :=
  h.sorted.imp fun ⟨m, n, hm, hn, hlt⟩ => by
    rw [hm, hn, PyNumber.lt_int]
    exact decide_eq_true hlt

/-- A call keeps the numbers. -/
theorem Numbered.call {e : LogEngine} {last : ℤ} (h : Numbered (e.events, e.eventSequence) last)
    (c : LogCall) :
    ∃ last', Numbered ((e.call A c).events, (e.call A c).eventSequence) last' := by
  cases c with
  | saveRecord r => exact ⟨last, h⟩
  | appendEvent event =>
    have hnext : e.eventSequence.addOne A = .int (last + 1) := by
      rw [show e.eventSequence = .int last from h.last_eq]
      rfl
    refine ⟨last + 1, ?_⟩
    change Numbered (_, e.eventSequence.addOne A) _
    rw [hnext]
    exact h.concat hnext (Int.lt_succ last)

/-! ### All runs -/

/-- An event with a number, and no other values. -/
def numberedEvent (sequence : PyNumber) : LoggedEvent where
  eventId := .str "event-1"
  sequence := sequence
  others := (List.replicate 36 Json.null).map PyVal.ofJson
  full := by decide

theorem isJson_numberedEvent (sequence : PyNumber) : (numberedEvent sequence).IsJson :=
  ⟨⟨.str "event-1", rfl⟩, fun _ hv => (List.mem_map.1 hv).imp fun _ hj => hj.2.symm⟩

/-- The log of one such event. -/
def numberedLog (sequence : PyNumber) : Option ByteArray :=
  appendLine? none (numberedEvent sequence).line?

theorem fileText_none : fileText none = some [] := Text.decode_encode []

theorem exists_numberedLog (sequence : PyNumber) :
    ∃ t, fileText (numberedLog sequence) = some t ∧ Text.AtLineStart t ∧
      LineLog.entries LoggedEvent.parse t = [numberedEvent sequence] := by
  obtain ⟨line, hline?, hline⟩ := LoggedEvent.exists_line (isJson_numberedEvent sequence)
  obtain ⟨htext, hentries⟩ := fileText_appendLine? hline fileText_none (by
    simp [Text.AtLineStart])
  exact ⟨_, by rw [numberedLog, hline?]; exact htext, atLineStart_written [] line, hentries⟩

/-- What is loaded from it. -/
theorem load_numberedLog (A : FloatArith) (sequence : PyNumber) :
    ∃ e, load A none (numberedLog sequence) = some e ∧
      (e.events, e.eventSequence) = putEvent A ([], .int 0) (numberedEvent sequence) := by
  obtain ⟨t, ht, -, hentries⟩ := exists_numberedLog sequence
  refine ⟨_, by rw [load, fileText_none, ht, Option.bind_some, Option.map_some], ?_⟩
  change readEvents A t = _
  rw [readEvents, hentries]
  rfl

theorem endsLine_numberedLog (sequence : PyNumber) : EndsLine (numberedLog sequence) := by
  obtain ⟨t, ht, hstart, -⟩ := exists_numberedLog sequence
  exact fun t' ht' => Option.some.inj (ht.symm.trans ht') ▸ hstart

theorem endsLine_none : EndsLine none := fun t ht => by
  obtain rfl : [] = t := Option.some.inj (fileText_none.symm.trans ht)
  simp [Text.AtLineStart]

/-- A record all of whose values are a dictionary. -/
def dictRecord (k : PyKey) : LoggedRecord where
  continuityId := .str "record-1"
  others := List.replicate 45 (.dict [(k, .none)])
  full := by rw [List.length_replicate]; rfl

theorem isJson_dictRecord (s : String) : (dictRecord (.str s)).IsJson := fun _ hv =>
  ⟨.obj [(s, .null)], List.eq_of_mem_replicate hv⟩

/-- JSON writes a key that is a number as a string. -/
theorem line?_dictRecord : (dictRecord (.int 1)).line? = (dictRecord (.str "1")).line? := by
  decide +kernel

end LogEngine

end Continuity

end AnnyRuntime
