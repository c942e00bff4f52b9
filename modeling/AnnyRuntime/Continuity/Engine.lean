import AnnyRuntime.Continuity.Models
import AnnyRuntime.Lib.Dict
import AnnyRuntime.Lib.LineLog
import Mathlib.Data.List.Sort

/-!
# The continuity engine

`ContinuityEngine` keeps two line logs, one of records and one of events, and a file with the
lines it could not read.  `load` replays the logs, `saveRecord` and `appendEvent` write one line
each, and the rest reads the state in memory.

The engine is its memory together with the files it works on.  A method that raises has no
result (`none`); the one that can is `load`, on a file that is not UTF-8.
-/

namespace AnnyRuntime

namespace Continuity

/-- How well the last `load` went. -/
inductive CorruptionSeverity where
  | clean
  | recovered
  | quarantined
  | blocked
  deriving DecidableEq

/-- The two logs. -/
inductive LogFile where
  | records
  | events
  deriving DecidableEq

/-- A line that could not be read. -/
structure QuarantineEntry where
  /-- The log it is in. -/
  file : LogFile
  /-- Its number. -/
  lineNo : ℕ
  /-- The stripped line. -/
  rawContent : List Char
  deriving DecidableEq

/-- The files of an engine. -/
structure Disk where
  /-- `continuity_records.jsonl`, when it exists. -/
  records : Option ByteArray := none
  /-- `event_records.jsonl`, when it exists. -/
  events : Option ByteArray := none
  /-- The lines of `quarantine.jsonl`. -/
  quarantine : List QuarantineEntry := []
  deriving DecidableEq

/-- An engine: its memory and its files. -/
structure ContinuityEngine where
  /-- The records by their id. -/
  records : Dict Json.Key ContinuityRecord := Dict.empty
  /-- The events in the order of the log. -/
  events : List EventRecord := []
  /-- The highest sequence number so far. -/
  eventSequence : ℤ := 0
  /-- What the last `load` could not read. -/
  quarantinedRecords : List QuarantineEntry := []
  /-- How the last `load` went. -/
  corruptionStatus : CorruptionSeverity := .clean
  /-- The files. -/
  disk : Disk
  deriving DecidableEq

/-- The record that a line holds. -/
def parseRecord (line : List Char) : Option ContinuityRecord :=
  (Json.loads line).bind ContinuityRecord.ofJson

/-- The event that a line holds. -/
def parseEvent (line : List Char) : Option EventRecord :=
  (Json.loads line).bind EventRecord.ofJson

/-- The line that is written for a record. -/
def recordLine (r : ContinuityRecord) : List Char := Json.dumps r.toJson

/-- The line that is written for an event. -/
def eventLine (e : EventRecord) : List Char := Json.dumps e.toJson

namespace ContinuityEngine

/-- Set a line aside, in memory and in the quarantine file. -/
def setAside (e : ContinuityEngine) (file : LogFile) (lineNo : ℕ) (line : List Char) :
    ContinuityEngine :=
  { e with
    quarantinedRecords := e.quarantinedRecords ++ [⟨file, lineNo, line⟩]
    corruptionStatus := .quarantined
    disk := { e.disk with quarantine := e.disk.quarantine ++ [⟨file, lineNo, line⟩] } }

/-- One line of the record log. -/
def loadRecordLine (e : ContinuityEngine) (l : ℕ × List Char) : ContinuityEngine :=
  match parseRecord l.2 with
  | some r => { e with records := e.records.set r.continuityId.norm r }
  | none => e.setAside .records l.1 l.2

/-- One line of the event log.  A sequence number that does not grow is replaced. -/
def loadEventLine (e : ContinuityEngine) (l : ℕ × List Char) : ContinuityEngine :=
  match parseEvent l.2 with
  | some ev =>
    if ev.sequence ≤ e.eventSequence then
      { e with
        corruptionStatus := .recovered
        events := e.events ++ [{ ev with sequence := e.eventSequence + 1 }]
        eventSequence := e.eventSequence + 1 }
    else
      { e with
        events := e.events ++ [ev]
        eventSequence := ev.sequence }
  | none => e.setAside .events l.1 l.2

/-- Read a log, when its file exists. -/
def loadFile (file : Option ByteArray)
    (line : ContinuityEngine → ℕ × List Char → ContinuityEngine) (e : ContinuityEngine) :
    Option ContinuityEngine :=
  match file with
  | none => some e
  | some b => (Text.decode b).map fun t => (LineLog.logLines t).foldl line e

/-- `load`: forget everything and replay the logs. -/
def load (e : ContinuityEngine) : Option ContinuityEngine := do
  let e ← loadFile e.disk.records loadRecordLine { disk := e.disk }
  loadFile e.disk.events loadEventLine e

/-- `__init__`: a new engine over the files. -/
def init (disk : Disk) : Option ContinuityEngine := load { disk := disk }

/-- Append a line to a file, which is created when there is none. -/
def appendLine (file : Option ByteArray) (line : List Char) : Option ByteArray :=
  some (file.getD ByteArray.empty ++ Text.encode (line ++ ['\n']))

/-- `save_record`. -/
def saveRecord (e : ContinuityEngine) (r : ContinuityRecord) : ContinuityEngine :=
  { e with
    records := e.records.set r.continuityId.norm r
    disk := { e.disk with records := appendLine e.disk.records (recordLine r) } }

/-- `append_event`: the engine numbers the event. -/
def appendEvent (e : ContinuityEngine) (ev : EventRecord) : ContinuityEngine :=
  let ev := { ev with sequence := e.eventSequence + 1 }
  { e with
    eventSequence := ev.sequence
    events := e.events ++ [ev]
    disk := { e.disk with events := appendLine e.disk.events (eventLine ev) } }

/-! ### Reading the state -/

/-- `get_record`. -/
def getRecord (e : ContinuityEngine) (continuityId : String) : Option ContinuityRecord :=
  e.records.get? (.str continuityId)

/-- `get_records_by_mission`. -/
def getRecordsByMission (e : ContinuityEngine) (missionId : Json) : List ContinuityRecord :=
  e.records.values.filter fun r => r.missionId = missionId

/-- `get_events_by_mission`. -/
def getEventsByMission (e : ContinuityEngine) (missionId : Json) : List EventRecord :=
  e.events.filter fun ev => ev.missionId = missionId

/-- `get_records_by_task`. -/
def getRecordsByTask (e : ContinuityEngine) (taskId : Json) : List ContinuityRecord :=
  e.records.values.filter fun r => r.taskId = taskId

/-- `get_events_by_task`. -/
def getEventsByTask (e : ContinuityEngine) (taskId : Json) : List EventRecord :=
  e.events.filter fun ev => ev.taskId = taskId

/-- The record belongs to the execution. -/
def relevantRecord (executionId : String) (r : ContinuityRecord) : Bool :=
  r.executionId = .str executionId || r.taskId = .str executionId ||
    r.continuityId = .str executionId

/-- The value of a key of an event's inputs, when they are a dictionary. -/
def inputOf (ev : EventRecord) (k : String) : Option Json :=
  match ev.inputs with
  | .obj ms => Json.lookup k ms
  | _ => none

/-- The event belongs to the execution. -/
def relevantEvent (executionId : String) (ev : EventRecord) : Bool :=
  ev.executionId = .str executionId || ev.taskId = .str executionId ||
    inputOf ev "execution_id" = some (.str executionId)

/-- The statuses of an event that decide the status of its execution. -/
def terminalStatuses : List Json :=
  [.str "COMPLETE", .str "SUCCESS", .str "FAILED", .str "VERIFIED", .str "SUCCEEDED",
    .str "TIMED_OUT"]

/-- The status of an execution, from its last event and its latest record. -/
def reconstructStatus (lastEvent : Option EventRecord) (latestRecord : Option ContinuityRecord) :
    Json :=
  match lastEvent, latestRecord with
  | some ev, some r => if ev.status ∈ terminalStatuses then ev.status else r.status
  | some ev, none => ev.status
  | none, some r => r.status
  | none, none => .str "UNKNOWN"

/-- What is known of an execution. -/
structure Reconstruction where
  /-- The execution, its task and its capability. -/
  (executionId taskId capabilityId : Json)
  /-- Its status. -/
  status : Json
  /-- How many events it has. -/
  eventsCount : ℕ
  /-- The type and the number of its last event. -/
  latestEventType : Json
  /-- The number of its last event. -/
  latestSequence : ℤ
  /-- Evidence, and the change it made. -/
  (evidenceRefs filesChanged commitBefore commitAfter : Json)
  /-- The binding to the repository fabric. -/
  (fabricNode fabricTenant : Json)
  /-- How it was routed, from the inputs of its last event. -/
  (routingClass executorType executorId modelId modelVersion workerId generation : Json)
  /-- How it failed, from the inputs of its last event. -/
  (failureReason errorMessage : Json)
  deriving DecidableEq

/-- The events of an execution, by their sequence numbers. -/
def sortedEvents (e : ContinuityEngine) (executionId : String) : List EventRecord :=
  (e.events.filter (relevantEvent executionId)).insertionSort fun a b => a.sequence ≤ b.sequence

/-- `reconstruct_execution`. -/
def reconstructExecution (e : ContinuityEngine) (executionId : String) : Option Reconstruction :=
  let relevantRecords := e.records.values.filter (relevantRecord executionId)
  let relevantEvents := e.events.filter (relevantEvent executionId)
  if relevantRecords = [] ∧ relevantEvents = [] then none
  else
    let latestRecord := relevantRecords.getLast?
    let events := e.sortedEvents executionId
    let lastEvent := events.getLast?
    let pick (ofRecord : ContinuityRecord → Json) (ofEvent : EventRecord → Json) (dflt : Json) :=
      match latestRecord, lastEvent with
      | some r, _ => ofRecord r
      | none, some ev => ofEvent ev
      | none, none => dflt
    let input (k : String) : Json := ((lastEvent.bind fun ev => inputOf ev k)).getD .null
    some
      { executionId := .str executionId
        taskId := pick (·.taskId) (·.taskId) (.str executionId)
        capabilityId := pick (·.stepId) (·.stepId) (.str "unknown")
        status := reconstructStatus lastEvent latestRecord
        eventsCount := events.length
        latestEventType := (lastEvent.map (·.eventType)).getD (.str "None")
        latestSequence := (lastEvent.map (·.sequence)).getD 0
        evidenceRefs := pick (·.evidenceRefs) (·.evidenceRefs) (.arr [])
        filesChanged := pick (·.filesChanged) (·.filesChanged) (.arr [])
        commitBefore := pick (·.commitBefore) (·.commitBefore) .null
        commitAfter := pick (·.commitAfter) (·.commitAfter) .null
        fabricNode := pick (·.fabricNode) (·.fabricNode) .null
        fabricTenant := pick (·.fabricTenant) (·.fabricTenant) .null
        routingClass := input "routing_class"
        executorType := input "executor_type"
        executorId := input "executor_id"
        modelId := input "model_id"
        modelVersion := input "model_version"
        workerId := input "worker_id"
        generation := input "generation"
        failureReason := input "failure_reason"
        errorMessage := input "error_message" }

end ContinuityEngine

end Continuity

end AnnyRuntime
