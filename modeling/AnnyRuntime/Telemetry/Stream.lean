import AnnyRuntime.Lib.Recent
import AnnyRuntime.Telemetry.Totals

/-!
# Live telemetry

Next to its log the collector keeps the last 1000 envelopes in memory.  `get_live` and
`get_timeline` read them, `get_trace` reads the log, and `handle_telemetry_stream` polls the memory
and sends what it has not sent before, as told by the ids of the events.

* `stream_sends` : in every interleaving of events and polls, a stream sends the last 1000 of the
  events between two polls, in order and each once; so it sends all of them exactly when no more
  than 1000 come between two polls.
* `timeline_eq_query`, `trace_eq` : the memory and the log agree, whichever writes fail.
-/

namespace AnnyRuntime

namespace Telemetry

open Recent

/-- The envelopes that are kept in memory. -/
def maxRecent : ℕ := 1000

/-- The collector. -/
structure TelemetryCollector where
  log : List Char := []
  recentEvents : List (TelemetryEnvelope Json) := []

/-- An envelope before its metadata is scrubbed. -/
abbrev RawEnvelope := TelemetryEnvelope (Option (List (Key × Value)))

section Collector

variable (printable : Char → Bool)

/-- The envelope that is persisted, unless scrubbing raises. -/
def RawEnvelope.scrubbed (e : RawEnvelope) : Option (TelemetryEnvelope Json) :=
  (persistedMetadata printable e.metadata).map fun metadata => ⟨e.field, metadata⟩

namespace TelemetryCollector

/-- `emit`, when the log can be written or not; nothing changes when scrubbing raises. -/
def emit (c : TelemetryCollector) (e : RawEnvelope) (writable : Bool) : TelemetryCollector :=
  match e.scrubbed printable with
  | none => c
  | some e =>
    if writable then
      { log := c.log ++ (e.line ++ ['\n'])
        recentEvents := push maxRecent c.recentEvents e }
    else c

/-- `get_live`. -/
def getLive (c : TelemetryCollector) : List (TelemetryEnvelope Json) := c.recentEvents

/-- `get_timeline`: `recent[-limit:]` is all of `recent` for the limit 0. -/
def getTimeline (c : TelemetryCollector) (limit : ℤ) : List (TelemetryEnvelope Json) :=
  if limit < c.recentEvents.length then
    if 0 < limit then c.recentEvents.drop (c.recentEvents.length - limit.toNat)
    else c.recentEvents.drop (-limit).toNat
  else c.recentEvents

/-- `get_trace`. -/
def getTrace (c : TelemetryCollector) (traceId : String) : List (TelemetryEnvelope Json) :=
  (query (some c.log) [("trace_id", fun v => v = .str traceId)] 1000).reverse

end TelemetryCollector

/-! ### Streams -/

/-- What happens while a stream is served. -/
inductive StreamAct where
  | emit (e : RawEnvelope) (writable : Bool)
  /-- A second has passed. -/
  | poll

/-- A stream: the collector and the client. -/
structure Streaming where
  collector : TelemetryCollector
  client : Reader (TelemetryEnvelope Json) Json

/-- The id of an event. -/
def eventId (e : TelemetryEnvelope Json) : Json := e.field "event_id"

namespace Streaming

/-- `handle_telemetry_stream`, until it polls for the first time; the client takes `accepts` events
before it disconnects. -/
def start (c : TelemetryCollector) (accepts : ℕ) : Streaming where
  collector := c
  client := ({ accepts := accepts } : Reader _ _).connect eventId c.getLive

/-- An event is emitted, or the stream polls. -/
def step (s : Streaming) : StreamAct → Streaming
  | .emit e writable => { s with collector := s.collector.emit printable e writable }
  | .poll => { s with client := s.client.poll eventId s.collector.getLive }

/-- What is written of an event. -/
def data (e : TelemetryEnvelope Json) : List Char :=
  "data: ".toList ++ Json.dumps (.obj e.toDict) ++ ['\n', '\n']

end Streaming

/-! ### What was emitted -/

/-- The envelope of an emission, when it is written. -/
def writtenOf (e : RawEnvelope) (writable : Bool) : List (TelemetryEnvelope Json) :=
  if writable then (e.scrubbed printable).toList else []

/-- The envelopes of some emissions. -/
def writtenAll (es : List (RawEnvelope × Bool)) : List (TelemetryEnvelope Json) :=
  es.flatMap fun e => writtenOf printable e.1 e.2

/-- The collector after some emissions. -/
def collectorAfter (es : List (RawEnvelope × Bool)) : TelemetryCollector :=
  es.foldl (fun c e => c.emit printable e.1 e.2) {}

/-- The envelopes between the polls, after those that are pending. -/
def batches : List (TelemetryEnvelope Json) → List StreamAct → List (List (TelemetryEnvelope Json))
  | _, [] => []
  | pending, .emit e writable :: acts => batches (pending ++ writtenOf printable e writable) acts
  | pending, .poll :: acts => pending :: batches [] acts

end Collector

variable {printable : Char → Bool}

/-! ### The memory and the log -/

/-- The log and the memory of some envelopes. -/
structure Holds (c : TelemetryCollector) (es : List (TelemetryEnvelope Json)) : Prop where
  log : c.log = LineLog.written (es.map TelemetryEnvelope.line)
  recent : c.recentEvents = recent maxRecent es

theorem Holds.emit {c : TelemetryCollector} {es : List (TelemetryEnvelope Json)} (h : Holds c es)
    (e : RawEnvelope) (writable : Bool) :
    Holds (c.emit printable e writable) (es ++ writtenOf printable e writable) := by
  unfold TelemetryCollector.emit writtenOf
  cases e.scrubbed printable with
  | none =>
    dsimp only [Option.toList_none]
    rw [ite_self, List.append_nil]
    exact h
  | some e =>
    cases writable with
    | false =>
      dsimp only
      rw [if_neg Bool.false_ne_true, if_neg Bool.false_ne_true, List.append_nil]
      exact h
    | true =>
      dsimp only [Option.toList_some]
      rw [if_pos rfl, if_pos rfl]
      constructor
      · dsimp only
        rw [h.log, List.map_append, LineLog.written_append, List.map_singleton,
          LineLog.written_cons, LineLog.written_nil]
      · dsimp only
        rw [h.recent, push_recent]

theorem holds_collectorAfter (printable : Char → Bool) (es : List (RawEnvelope × Bool)) :
    Holds (collectorAfter printable es) (writtenAll printable es) := by
  induction es using List.reverseRecOn with
  | nil => exact ⟨rfl, (recent_eq_self_iff.2 (Nat.zero_le _)).symm⟩
  | append_singleton es e ih =>
    have hstep : collectorAfter printable (es ++ [e]) =
        (collectorAfter printable es).emit printable e.1 e.2 := by
      rw [collectorAfter, List.foldl_append, List.foldl_cons, List.foldl_nil, collectorAfter]
    rw [hstep, writtenAll, List.flatMap_append, List.flatMap_singleton]
    exact ih.emit e.1 e.2

/-- For a limit from 1 to 1000, the timeline is what a query of the log finds, the oldest first. -/
theorem timeline_eq_query (es : List (RawEnvelope × Bool)) {limit : ℕ} (hpos : 0 < limit)
    (hmax : limit ≤ maxRecent) :
    ((collectorAfter printable es).getTimeline limit).map TelemetryEnvelope.reload =
      (query (some (collectorAfter printable es).log) [] limit).reverse := by
  obtain ⟨hlog, hrecent⟩ := holds_collectorAfter printable es
  have htimeline : (collectorAfter printable es).getTimeline limit =
      recent limit (writtenAll printable es) := by
    rw [TelemetryCollector.getTimeline, hrecent, ← recent_recent hmax]
    by_cases hlt : limit < (recent maxRecent (writtenAll printable es)).length
    · rw [if_pos (by exact_mod_cast hlt), if_pos (by exact_mod_cast hpos), Int.toNat_natCast]
      rfl
    · rw [if_neg (by exact_mod_cast hlt)]
      exact (recent_eq_self_iff.2 (not_lt.1 hlt)).symm
  have hlimit : max limit 1 = limit := by omega
  rw [htimeline, hlog, query_written, hlimit, ← List.map_take, List.take_reverse, List.map_reverse,
    List.reverse_reverse, recent]

/-- A line is read under a filter on the trace exactly when its envelope has it. -/
theorem parseLine_trace (e : TelemetryEnvelope Json) (traceId : String) :
    parseLine [("trace_id", fun v => v = .str traceId)] e.line =
      if e.field "trace_id" = .str traceId then some e.reload else none := by
  have hfield : (Json.lookup "trace_id" e.toDict).getD .null = e.field "trace_id" :=
    e.field_reload (by decide)
  by_cases h : e.field "trace_id" = .str traceId
  · rw [if_pos h, parseLine_of_all]
    simp [hfield, h]
  · rw [if_neg h, parseLine, TelemetryEnvelope.line, Json.loads_dumps]
    simp [hfield, h]

/-- What is found in the log of some envelopes. -/
theorem found_lines (filters : List Filter) (es : List (TelemetryEnvelope Json)) :
    found (LineLog.written (es.map TelemetryEnvelope.line)) filters =
      es.reverse.filterMap fun e => parseLine filters e.line := by
  have hsolid : ∀ t ∈ es.map TelemetryEnvelope.line, Text.Solid t := by
    intro t ht
    obtain ⟨e, -, rfl⟩ := List.mem_map.1 ht
    exact Json.solid_dumps_obj _
  have hfilter : ((es.map TelemetryEnvelope.line).reverse.filter fun l => !(Text.strip l = [])) =
      (es.map TelemetryEnvelope.line).reverse := by
    refine List.filter_eq_self.2 fun t ht => ?_
    have hs := hsolid t (List.mem_reverse.1 ht)
    simpa [hs.strip_eq] using hs.ne_nil
  rw [found, LineLog.lines_written hsolid, hfilter, ← List.map_reverse, List.filterMap_map]
  rfl

/-- A trace is the last 1000 envelopes that were written with its id, the oldest first. -/
theorem trace_eq (es : List (RawEnvelope × Bool)) (traceId : String) :
    (collectorAfter printable es).getTrace traceId =
      (recent 1000 ((writtenAll printable es).filter fun e =>
        e.field "trace_id" = .str traceId)).map TelemetryEnvelope.reload := by
  have hlog := (holds_collectorAfter printable es).log
  have hfound : found (collectorAfter printable es).log
      [("trace_id", fun v => v = .str traceId)] =
      (((writtenAll printable es).filter fun e =>
        e.field "trace_id" = .str traceId).reverse).map TelemetryEnvelope.reload := by
    rw [hlog, found_lines, ← List.filter_reverse, ← List.filterMap_eq_map,
      List.filterMap_filter]
    refine List.filterMap_congr fun e _ => ?_
    rw [parseLine_trace]
    by_cases h : e.field "trace_id" = .str traceId
    · rw [if_pos h, if_pos (decide_eq_true h)]
      rfl
    · rw [if_neg h, if_neg (by simpa using h)]
  rw [TelemetryCollector.getTrace, query_eq_found, hfound, ← List.map_take, List.take_reverse,
    ← List.map_reverse, List.reverse_reverse]
  rfl

namespace Streaming

variable {s : Streaming} {l pending : List (TelemetryEnvelope Json)}

/-- **Run.**  A stream is a reader of the batches between its polls. -/
theorem client_foldl (l pending : List (TelemetryEnvelope Json)) (acts : List StreamAct)
    (hrecent : s.collector.recentEvents = recent maxRecent (l ++ pending)) :
    (acts.foldl (step printable) s).client =
      s.client.watch eventId maxRecent l (batches printable pending acts) := by
  induction acts generalizing s l pending with
  | nil => rfl
  | cons act acts ih =>
    cases act with
    | emit e writable =>
      refine ih (s := s.step printable (.emit e writable)) _ _ ?_
      show (s.collector.emit printable e writable).recentEvents = _
      unfold TelemetryCollector.emit writtenOf
      cases e.scrubbed printable with
      | none =>
        dsimp only [Option.toList_none]
        rw [ite_self, List.append_nil, hrecent]
      | some e =>
        cases writable with
        | false =>
          dsimp only
          rw [if_neg Bool.false_ne_true, if_neg Bool.false_ne_true, List.append_nil, hrecent]
        | true =>
          dsimp only [Option.toList_some]
          rw [if_pos rfl, if_pos rfl]
          dsimp only
          rw [hrecent, push_recent, List.append_assoc]
    | poll =>
      -- the events that were pending are a batch now
      have hpoll : (s.step printable .poll).client =
          s.client.poll eventId (recent maxRecent (l ++ pending)) := by
        rw [← hrecent, step, TelemetryCollector.getLive]
      refine (ih (s := s.step printable .poll) (l ++ pending) [] ?_).trans ?_
      · rw [List.append_nil]
        exact hrecent
      · rw [hpoll, batches, Reader.watch]

end Streaming

/-- **Streams.**  Let no two events have one id.  In every interleaving of events and polls, a
stream sends to its client the last 1000 of the events before it was opened and of the events
between two polls, in order, until the client disconnects.  Once it was opened it leaves no event
out exactly when no more than 1000 were emitted between two polls. -/
theorem stream_sends (printable : Char → Bool) (before : List (RawEnvelope × Bool))
    (acts : List StreamAct) (accepts : ℕ)
    (hids : ((writtenAll printable before ++ (batches printable [] acts).flatten).map
      eventId).Nodup) :
    (acts.foldl (Streaming.step printable)
        (.start (collectorAfter printable before) accepts)).client.sent =
      (recent maxRecent (writtenAll printable before) ++
        ((batches printable [] acts).map (recent maxRecent)).flatten).take accepts ∧
      (((batches printable [] acts).map (recent maxRecent)).flatten =
          (batches printable [] acts).flatten ↔
        ∀ b ∈ batches printable [] acts, b.length ≤ maxRecent) := by
  have hrecent := (holds_collectorAfter printable before).recent
  refine ⟨?_, flatten_recent_iff⟩
  rw [Streaming.client_foldl (writtenAll printable before) [] acts
    (by rw [List.append_nil]; exact hrecent)]
  have hclient : (Streaming.start (collectorAfter printable before) accepts).client =
      ({ accepts := accepts } : Reader _ _).connect eventId
        (recent maxRecent (writtenAll printable before)) := by
    rw [← hrecent, Streaming.start, TelemetryCollector.getLive]
  rw [hclient, Reader.sent_watch accepts hids, List.map_cons, List.flatten_cons]

/-- An event with an id. -/
def liveEvent (id : String) : RawEnvelope where
  field
    | "event_id" => .str id
    | _ => .null
  metadata := some []

theorem stream_sends_two :
    ([.emit (liveEvent "evt-2") true, .poll].foldl (Streaming.step fun _ => true)
        (.start (collectorAfter (fun _ => true) [(liveEvent "evt-1", true)]) 5)).client.sent =
      (recent maxRecent (writtenAll (fun _ => true) [(liveEvent "evt-1", true)]) ++
        ((batches (fun _ => true) [] [.emit (liveEvent "evt-2") true, .poll]).map
          (recent maxRecent)).flatten).take 5 ∧
      (((batches (fun _ => true) [] [.emit (liveEvent "evt-2") true, .poll]).map
            (recent maxRecent)).flatten =
          (batches (fun _ => true) [] [.emit (liveEvent "evt-2") true, .poll]).flatten ↔
        ∀ b ∈ batches (fun _ => true) [] [.emit (liveEvent "evt-2") true, .poll],
          b.length ≤ maxRecent) :=
  stream_sends (fun _ => true) [(liveEvent "evt-1", true)]
    [.emit (liveEvent "evt-2") true, .poll] 5 (by decide)

end Telemetry

end AnnyRuntime
