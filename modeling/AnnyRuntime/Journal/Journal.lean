import AnnyRuntime.Api.Bridge
import AnnyRuntime.Continuity.Replay
import AnnyRuntime.Json.Number

/-!
# The file of the operation journal

`load` takes every line that holds the fields of an entry, whatever their values are, and skips the
others; so the entries that are loaded hold any JSON values.  `load_journalText` : the entries that
were recorded are loaded again, in their order.
-/

namespace AnnyRuntime

namespace Journal

/-- An entry that was loaded: what is read of it. -/
structure LoadedEntry where
  operationId : Json
  state : Json
  runtimeGeneration : Json
  deriving DecidableEq

/-- The fields of an entry. -/
def entryFields : List Json.Field :=
  [{ name := "entry_id" }, { name := "operation_id" }, { name := "execution_id" },
    { name := "session_id" }, { name := "tenant_id" }, { name := "account_id" },
    { name := "project_id" }, { name := "actor_id" }, { name := "workspace_id" },
    { name := "tool" }, { name := "state" }, { name := "started_at" },
    { name := "runtime_generation" }, { name := "finished_at", default := some .null },
    { name := "metadata", default := some (.obj []) }]

/-- An entry with the given values. -/
def LoadedEntry.ofValues : List Json → Option LoadedEntry
  | [_, operationId, _, _, _, _, _, _, _, _, state, _, runtimeGeneration, _, _] =>
    some ⟨operationId, state, runtimeGeneration⟩
  | _ => none

/-- `JournalEntry(**data)`. -/
def LoadedEntry.ofJson : Json → Option LoadedEntry
  | .obj ms => (Json.bindKwargs entryFields ms).bind ofValues
  | _ => none

/-- The entry that a line holds. -/
def parseEntry (line : List Char) : Option LoadedEntry :=
  (Json.loads line).bind LoadedEntry.ofJson

/-- `load`, unless the file is not text. -/
def load (file : Option ByteArray) : Option (List LoadedEntry) :=
  match file with
  | none => some []
  | some b => (Text.decode b).map (LineLog.entries parseEntry)

/-- The state is `COMPLETED` or `FAILED`. -/
def LoadedEntry.isFinished (e : LoadedEntry) : Bool :=
  e.state = .str "COMPLETED" || e.state = .str "FAILED"

/-- `get_interrupted`, unless a generation cannot be compared. -/
def getInterrupted (A : FloatArith) (generation : ℤ) :
    List LoadedEntry → Option (List LoadedEntry)
  | [] => some []
  | e :: es =>
    e.runtimeGeneration.number?.bind fun g =>
      (getInterrupted A generation es).map fun interrupted =>
        if g.lt A (.int generation) && !e.isFinished then e :: interrupted else interrupted

/-- The entry is of an older generation, and not finished. -/
def LoadedEntry.isInterrupted (A : FloatArith) (generation : ℤ) (e : LoadedEntry) : Bool :=
  (e.runtimeGeneration.number?.any fun g => g.lt A (.int generation)) && !e.isFinished

/-- The interrupted entries, when every generation is a number. -/
theorem getInterrupted_eq_some {A : FloatArith} {generation : ℤ}
    {entries interrupted : List LoadedEntry} :
    getInterrupted A generation entries = some interrupted ↔
      (∀ e ∈ entries, e.runtimeGeneration.number?.isSome = true) ∧
        interrupted = entries.filter (LoadedEntry.isInterrupted A generation) := by
  induction entries generalizing interrupted with
  | nil =>
    refine ⟨fun h => ⟨fun e he => absurd he List.not_mem_nil, (Option.some.inj h).symm⟩, ?_⟩
    rintro ⟨-, rfl⟩
    rfl
  | cons e es ih =>
    rw [getInterrupted, List.forall_mem_cons]
    cases hg : e.runtimeGeneration.number? with
    | none => simp
    | some g =>
      have hfilter : (e :: es).filter (LoadedEntry.isInterrupted A generation) =
          if g.lt A (.int generation) && !e.isFinished then
            e :: es.filter (LoadedEntry.isInterrupted A generation)
          else es.filter (LoadedEntry.isInterrupted A generation) := by
        rw [List.filter_cons, LoadedEntry.isInterrupted, hg, Option.any_some]
      rw [hfilter, Option.bind_some, Option.map_eq_some_iff]
      constructor
      · rintro ⟨rest, hrest, rfl⟩
        obtain ⟨hnumbers, rfl⟩ := ih.1 hrest
        exact ⟨⟨rfl, hnumbers⟩, rfl⟩
      · rintro ⟨⟨-, hnumbers⟩, rfl⟩
        exact ⟨_, ih.2 ⟨hnumbers, rfl⟩, rfl⟩

/-! ### What was recorded -/

/-- `asdict(entry)`. -/
def toJson (e : Api.JournalEntry) : Json :=
  .obj (Json.zipFields entryFields
    [.str e.entryId, .str e.operationId, .str e.executionId, .str e.sessionId, .str e.tenantId,
      .str e.accountId, .str e.projectId, .str e.actorId, .str e.workspaceId, .str e.tool,
      .str e.state, .str e.startedAt, .int e.runtimeGeneration, .ofOptString e.finishedAt,
      .obj e.metadata])

/-- What recording the entries of a journal writes. -/
def journalText (j : Api.OperationJournal) : List Char :=
  LineLog.written (j.map fun e => Json.dumps (toJson e))

/-- What is loaded of an entry. -/
def loaded (e : Api.JournalEntry) : LoadedEntry :=
  ⟨.str e.operationId, .str e.state, .int e.runtimeGeneration⟩

theorem parseEntry_dumps (e : Api.JournalEntry) : parseEntry (Json.dumps (toJson e)) =
    some (loaded e) := by
  rw [parseEntry, Json.loads_dumps, Option.bind_some, toJson, LoadedEntry.ofJson,
    Json.bindKwargs_zip (by decide) (by rfl)]
  rfl

/-- **What was recorded is loaded.** -/
theorem load_journalText (j : Api.OperationJournal) :
    load (some (Text.encode (journalText j))) = some (j.map loaded) := by
  have hsolid : ∀ t ∈ j.map (fun e => Json.dumps (toJson e)), Text.Solid t := by
    intro t ht
    obtain ⟨e, -, rfl⟩ := List.mem_map.1 ht
    exact Json.solid_dumps_obj _
  rw [load, Text.decode_encode, Option.map_some, journalText, ← List.nil_append (LineLog.written _),
    LineLog.entries_append (by simp [Text.AtLineStart]) hsolid, List.filterMap_map]
  have hparse : (j.filterMap (parseEntry ∘ fun e => Json.dumps (toJson e))) = j.map loaded := by
    rw [← List.filterMap_eq_map]
    exact List.filterMap_congr fun e _ => parseEntry_dumps e
  rw [hparse]
  rfl

end Journal

end AnnyRuntime
