import AnnyRuntime.Json.Dataclass
import AnnyRuntime.Json.Torn
import AnnyRuntime.Lib.LineLog
import AnnyRuntime.Telemetry.Secrecy

/-!
# The telemetry collector

`emit` scrubs the metadata of an envelope and appends the envelope to the log, one JSON object a
line, without the fields that are `None`.  `query` reads the log from its end; a line that is no
envelope is skipped.

The fields of an envelope are given by their names.  An envelope that was read holds any JSON values
in them, since nothing checks their types.

* `scrubs_completely_iff` : what is persisted of the metadata is scrubbed, and scrubbing does what
  it is for exactly on the covered values.
* `query_written` : the envelopes that were appended are read back, the newest first.
-/

namespace AnnyRuntime

namespace Telemetry

/-- The fields of a `TelemetryEnvelope` but its metadata, with their defaults.  (The default of
`event_id` is a fresh identifier and that of `timestamp` the time; nothing here reads the one, and
`query` replaces the other.) -/
def envelopeFields : List (String × Json) :=
  [("event_id", .null), ("trace_id", .null), ("span_id", .null), ("parent_span_id", .null),
    ("timestamp", .null), ("component", .str ""), ("event_type", .str ""), ("source", .str ""),
    ("domain", .str "ANNY_UNIVERSE"), ("task_id", .null), ("execution_id", .null),
    ("worker_id", .null), ("directorate_id", .null), ("department_id", .null),
    ("workspace_id", .null), ("tenant_id", .null), ("account_id", .null), ("project_id", .null),
    ("repository_id", .null), ("resource_id", .null), ("capability_id", .null),
    ("capability_family", .null), ("execution_mode", .null), ("routing_class", .null),
    ("executor_type", .null), ("executor_id", .null), ("model_id", .null),
    ("model_version", .null), ("policy_version", .null), ("status", .null), ("duration_ms", .null),
    ("input_size", .null), ("output_size", .null), ("input_hash", .null), ("result_hash", .null)]

/-- An envelope, with metadata of type `μ`. -/
structure TelemetryEnvelope (μ : Type) where
  /-- The value of a field. -/
  field : String → Json
  /-- Its metadata. -/
  metadata : μ

namespace TelemetryEnvelope

/-- `to_dict`: the fields that are not `None`. -/
def toDict (e : TelemetryEnvelope Json) : List (String × Json) :=
  (envelopeFields.map (fun f => (f.1, e.field f.1)) ++ [("metadata", e.metadata)]).filter
    fun m => !(m.2 = .null)

/-- The line of an envelope. -/
def line (e : TelemetryEnvelope Json) : List Char := Json.dumps (.obj e.toDict)

/-- `TelemetryEnvelope(**data)`, or a `TypeError`, when a missing time was set to `None`. -/
def ofMembers (data : List (String × Json)) : Option (TelemetryEnvelope Json) :=
  if data.all fun m => m.1 = "metadata" || envelopeFields.any fun f => f.1 = m.1 then
    some
      { field := fun name =>
          (Json.lookup name data).getD ((envelopeFields.lookup name).getD .null)
        metadata := (Json.lookup "metadata" data).getD (.obj []) }
  else none

end TelemetryEnvelope

/-- The metadata that is persisted, unless scrubbing raises: `None` and an empty dictionary are not
scrubbed. -/
def persistedMetadata (printable : Char → Bool) : Option (List (Key × Value)) → Option Json
  | none => some .null
  | some [] => some (.obj [])
  | some ms => scrubMetadata printable (.dict ms)

/-- `emit`, when the log can be written: the log after it.  It raises when scrubbing does. -/
def emit (printable : Char → Bool) (e : TelemetryEnvelope (Option (List (Key × Value))))
    (log : List Char) : Option (List Char) :=
  (persistedMetadata printable e.metadata).map fun metadata =>
    log ++ (TelemetryEnvelope.line ⟨e.field, metadata⟩ ++ ['\n'])

/-- A filter: the name of a field, and whether a value is equal to the one that is asked for. -/
abbrev Filter := String × (Json → Bool)

/-- The envelope of a line, when it is one and matches the filters. -/
def parseLine (filters : List Filter) (line : List Char) : Option (TelemetryEnvelope Json) :=
  match Json.loads line with
  | some (.obj data) =>
    if filters.all fun f => f.2 ((Json.lookup f.1 data).getD .null) then
      TelemetryEnvelope.ofMembers data
    else none
  | _ => none

/-- `query`: the last envelopes that match, the newest first.  A log that is missing or that cannot
be read has none. -/
def query (log : Option (List Char)) (filters : List Filter) (limit : ℕ) :
    List (TelemetryEnvelope Json) :=
  match log with
  | none => []
  | some text =>
    (((Text.lines text).reverse.filter fun l => !(Text.strip l = [])).filterMap
      (parseLine filters)).take (max limit 1)

/-! ### What is read back -/

namespace TelemetryEnvelope

/-- The envelope that is read from the line of an envelope. -/
def reload (e : TelemetryEnvelope Json) : TelemetryEnvelope Json where
  field name := (Json.lookup name e.toDict).getD ((envelopeFields.lookup name).getD .null)
  metadata := (Json.lookup "metadata" e.toDict).getD (.obj [])

variable {e : TelemetryEnvelope Json}

theorem mem_toDict {name : String} {v : Json} (h : (name, v) ∈ e.toDict) :
    v ≠ .null ∧ ((name ∈ envelopeFields.map Prod.fst ∧ v = e.field name) ∨ name = "metadata") := by
  obtain ⟨hmem, hv⟩ := List.mem_filter.1 h
  refine ⟨by simpa using hv, ?_⟩
  rcases List.mem_append.1 hmem with hmem | hmem
  · obtain ⟨f, hf, heq⟩ := List.mem_map.1 hmem
    obtain ⟨rfl, rfl⟩ := Prod.mk.inj heq
    exact .inl ⟨List.mem_map_of_mem hf, rfl⟩
  · exact .inr (Prod.mk.inj (List.mem_singleton.1 hmem)).1

theorem nodup_toDict : (e.toDict.map Prod.fst).Nodup := by
  have hall : (envelopeFields.map Prod.fst ++ ["metadata"]).Nodup := by decide
  refine List.Nodup.sublist (List.filter_sublist.map _) ?_
  rw [List.map_append, List.map_map]
  exact hall

/-- A field whose default is `None` is read as it was written. -/
theorem field_reload {name : String} (h : (name, Json.null) ∈ envelopeFields) :
    e.reload.field name = e.field name := by
  have hname : name ∈ envelopeFields.map Prod.fst := List.mem_map_of_mem h
  change (Json.lookup name e.toDict).getD ((envelopeFields.lookup name).getD .null) = e.field name
  by_cases hv : e.field name = .null
  · have hnone : Json.lookup name e.toDict = none := by
      rw [Json.lookup, List.lookup_eq_none_iff]
      intro m hm
      rw [bne_iff_ne]
      rintro rfl
      obtain ⟨hne, hmem⟩ := mem_toDict (List.mem_reverse.1 hm)
      rcases hmem with ⟨-, hval⟩ | hmeta
      · exact hne (hval.trans hv)
      · rw [hmeta] at hname
        exact absurd hname (by decide)
    have hdefault : ∀ f ∈ envelopeFields, f.2 = .null →
        (envelopeFields.lookup f.1).getD .null = .null := by decide
    rw [hnone, Option.getD_none, hdefault _ h rfl, hv]
  · have hmem : (name, e.field name) ∈ e.toDict := by
      refine List.mem_filter.2
        ⟨List.mem_append_left _ (List.mem_map.2 ⟨_, h, rfl⟩), by simpa using hv⟩
    rw [Json.lookup_of_mem nodup_toDict hmem, Option.getD_some]

end TelemetryEnvelope

theorem parseLine_line (e : TelemetryEnvelope Json) : parseLine [] e.line = some e.reload := by
  have hall : (e.toDict.all fun m => m.1 = "metadata" || envelopeFields.any fun f => f.1 = m.1) =
      true := by
    rw [List.all_eq_true]
    rintro ⟨name, v⟩ hm
    rcases (TelemetryEnvelope.mem_toDict hm).2 with ⟨hname, -⟩ | rfl
    · obtain ⟨f, hf, rfl⟩ := List.mem_map.1 hname
      rw [Bool.or_eq_true, List.any_eq_true]
      exact .inr ⟨f, hf, by simp⟩
    · simp
  rw [parseLine, TelemetryEnvelope.line, Json.loads_dumps]
  simp only [List.all_nil, if_true, TelemetryEnvelope.ofMembers, hall]
  rfl

/-- **Reading back.**  The envelopes that were appended to a new log are read, the newest first. -/
theorem query_written (es : List (TelemetryEnvelope Json)) (limit : ℕ) :
    query (some (LineLog.written (es.map TelemetryEnvelope.line))) [] limit =
      (es.reverse.map TelemetryEnvelope.reload).take (max limit 1) := by
  have hsolid : ∀ t ∈ es.map TelemetryEnvelope.line, Text.Solid t := by
    intro t ht
    obtain ⟨e, -, rfl⟩ := List.mem_map.1 ht
    exact Json.solid_dumps_obj _
  have hfilter : ((es.map TelemetryEnvelope.line).reverse.filter fun l => !(Text.strip l = [])) =
      (es.map TelemetryEnvelope.line).reverse := by
    refine List.filter_eq_self.2 fun t ht => ?_
    have hs := hsolid t (List.mem_reverse.1 ht)
    simpa [hs.strip_eq] using hs.ne_nil
  have hparse : ((es.map TelemetryEnvelope.line).reverse).filterMap (parseLine []) =
      es.reverse.map TelemetryEnvelope.reload := by
    rw [← List.map_reverse, List.filterMap_map, ← List.filterMap_eq_map]
    exact List.filterMap_congr fun e _ => parseLine_line e
  rw [query, LineLog.lines_written hsolid]
  simp only [hfilter, hparse]

/-! ### What is persisted -/

/-- **Scrubbing.**  On every value, scrubbing gives a JSON value that does not depend on what stands
below secret keys, that keeps the other keys and that scrubbing leaves alone, exactly when the value
is covered; and what is persisted of the metadata of an envelope is what scrubbing gives. -/
theorem scrubs_completely_iff (printable : Char → Bool) :
    (∀ v : Value, Complete printable v ↔ v.covered printable = true) ∧
      ∀ (field : String → Json) (ms : List (Key × Value)) (log : List Char),
        emit printable ⟨field, some ms⟩ log =
          (scrubMetadata printable (.dict ms)).map fun metadata =>
            log ++ (TelemetryEnvelope.line ⟨field, metadata⟩ ++ ['\n']) := by
  refine ⟨fun v => ⟨fun h => ?_, Value.complete_of_covered⟩, fun field ms log => ?_⟩
  · obtain ⟨j, hj⟩ := h.serialisable
    exact Value.covered_of_tight v ⟨⟨j, hj, h.kept j hj⟩, h.hidden⟩
  · cases ms with
    | nil => rfl
    | cons m ms => rfl

/-- A password in a dictionary inside a tuple. -/
def inTuple (password : String) : Value :=
  .dict [(.str "items", .tuple [.dict [(.str "password", .str password)]])]

/-- A password below a key with a line break in it. -/
def belowBrokenKey (password : String) : Value :=
  .dict [(.str "note\npassword", .str password)]

/-- Both passwords show: with another password there is another output. -/
theorem passwords_show :
    ¬ Complete (fun _ => true) (inTuple "hunter2") ∧
      ¬ Complete (fun _ => true) (belowBrokenKey "hunter2") := by
  constructor
  · intro h
    exact absurd (h.hidden (inTuple "swordfish") rfl) (by decide)
  · intro h
    exact absurd (h.hidden (belowBrokenKey "swordfish") rfl) (by decide)

end Telemetry

end AnnyRuntime
