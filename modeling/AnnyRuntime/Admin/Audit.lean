import AnnyRuntime.Admin.Access
import AnnyRuntime.Json.Torn
import AnnyRuntime.Json.Dataclass
import AnnyRuntime.Lib.Call
import AnnyRuntime.Lib.TornLog

/-!
# The audit log of the panel

The handlers of the panel record what an administrator did, one line for each entry.  A record that
cannot be written whole is only logged, so the next one goes on behind what is there.  The reader of
the last entries stops at the first line that it cannot read.

* `readRecent_run` : what the last entries are after any records, whole and torn: those of the last
  lines that hold one whole record, up to the first line that does not; without torn records, the
  last ones that were recorded; and the page of the panel shows none of them, ever.
-/

namespace AnnyRuntime

namespace Admin

open TornLog

/-- `AdminAuditEntry`. -/
structure AdminAuditEntry where
  (adminSessionId action timestamp runtimeId principal result : String)
  details : Option String := none
  deriving DecidableEq

namespace AdminAuditEntry

/-- The fields. -/
def fields : List Json.Field :=
  [{ name := "admin_session_id" }, { name := "action" }, { name := "timestamp" },
    { name := "runtime_id" }, { name := "principal" }, { name := "result" },
    { name := "details", default := some .null }]

/-- The values of the fields. -/
def values (e : AdminAuditEntry) : List Json :=
  [.str e.adminSessionId, .str e.action, .str e.timestamp, .str e.runtimeId, .str e.principal,
    .str e.result, e.details.elim .null .str]

/-- `asdict(entry)`. -/
def toMembers (e : AdminAuditEntry) : List (String × Json) := Json.zipFields fields e.values

/-- The text of an entry. -/
def text (e : AdminAuditEntry) : List Char := Json.dumps (.obj e.toMembers)

/-- `AdminAuditEntry(**json.loads(line))`, or an exception.  Nothing checks the types of the
values. -/
def parse (line : List Char) : Option (List Json) :=
  match Json.loads line with
  | some (.obj ms) => Json.bindKwargs fields ms
  | _ => none

theorem parse_text (e : AdminAuditEntry) : parse e.text = some e.values := by
  rw [parse, text, Json.loads_dumps]
  exact Json.bindKwargs_zip (by decide) rfl

theorem startsWithLetter_toMembers (e : AdminAuditEntry) :
    Json.startsWithLetter e.toMembers = true := rfl

theorem isWs_of_not_isSpace {c : Char} (h : Text.isSpace c = false) : Json.isWs c = false := by
  by_contra hws
  simp only [Json.isWs, Bool.or_eq_true, decide_eq_true_eq, Bool.not_eq_false] at hws
  rcases hws with ((rfl | rfl) | rfl) | rfl <;> exact absurd h (by decide)

/-- Behind the beginning of another record, and when it is cut off, a record is not read. -/
theorem parse_torn {u p : List Char} {e : AdminAuditEntry} (hu : u = [] ∨ Starts u) (hp : p ≠ [])
    (hpre : p <+: e.text) (hne : u ≠ [] ∨ p ≠ e.text) : parse (u ++ p) = none := by
  rw [parse]
  split
  · rename_i ms hloads
    obtain ⟨hskip, hwhole, -⟩ :=
      Json.eq_of_loads_append hp hpre (startsWithLetter_toMembers e) hloads
    rcases hu with rfl | hu
    · exact absurd hwhole (hne.resolve_left fun h => h rfl)
    · obtain ⟨c, hc, hspace⟩ := hu
      obtain ⟨r, rfl⟩ := List.head?_eq_some_iff.1 hc
      rw [Json.skipWs_cons (isWs_of_not_isSpace hspace)] at hskip
      cases hskip
  · rfl

end AdminAuditEntry

/-- The lines of the audit log. -/
def auditFormat : Format AdminAuditEntry (List Json) where
  text := AdminAuditEntry.text
  parse := AdminAuditEntry.parse
  value := AdminAuditEntry.values
  solid _ := Json.solid_dumps_obj _
  parse_text := AdminAuditEntry.parse_text
  parse_torn := AdminAuditEntry.parse_torn

/-- `AdminAuditLog`: the runtime that it is for, and its file, when it exists. -/
structure AdminAuditLog where
  runtimeId : String
  file : Option (List Char) := none

namespace AdminAuditLog

/-- `record`: the entry, and what is written of it; `fault` is after how many characters the write
fails, which is only logged. -/
def record (log : AdminAuditLog) (sessionId action principal result : String)
    (details : Option String) (timestamp : String) (fault : Option ℕ) :
    AdminAuditEntry × AdminAuditLog :=
  let entry := ⟨sessionId, action, timestamp, log.runtimeId, principal, result, details⟩
  let line := entry.text ++ ['\n']
  let written := match fault with
    | none => line
    | some n => line.take n
  (entry, { log with file := some (log.file.getD [] ++ written) })

/-- `lines[-count:]`. -/
def lastLines {α : Type*} (count : ℤ) (lines : List α) : List α :=
  lines.drop (if 0 < count then lines.length - count.toNat else (-count).toNat)

/-- `read_recent`. -/
def readRecent (log : AdminAuditLog) (count : ℤ) : List (List Json) :=
  match log.file with
  | none => []
  | some cs => readStrict AdminAuditEntry.parse (lastLines count (Text.lines cs))

/-- The parameters of `read_recent`. -/
def readRecentParams : List (Call.Param ℤ) := [{ name := "count", default := some 50 }]

end AdminAuditLog

/-! ### The panel -/

/-- `_audit`: without a session, or without a log, nothing is recorded. -/
def audit (session : Option AdminSession) (log : Option AdminAuditLog) (action result : String)
    (details : Option String) (timestamp : String) (fault : Option ℕ) : Option AdminAuditLog :=
  match session, log with
  | some session, some log =>
    some (log.record session.adminSessionId action session.principal result details timestamp
      fault).2
  | _, log => log

/-- `handle_audit_events`: the events that are put on the page.  What the call of `read_recent`
raises is dropped. -/
def handleAuditEvents (log : Option AdminAuditLog) : List (List Json) :=
  match log with
  | none => []
  | some log =>
    match Call.bind AdminAuditLog.readRecentParams [] (Dict.ofList [("limit", 50)]) with
    | some [count] => log.readRecent count
    | _ => []

/-! ### Records -/

/-- What a handler of the panel records, when there is a session, and how its write ends. -/
structure AuditCall where
  session : Option AdminSession
  action : String
  result : String
  details : Option String := none
  timestamp : String
  fault : Option ℕ := none

/-- The log after a call of `_audit`. -/
def afterAudit (log : AdminAuditLog) (c : AuditCall) : AdminAuditLog :=
  (audit c.session (some log) c.action c.result c.details c.timestamp c.fault).getD log

/-- The entry of a call, when there is a session. -/
def AuditCall.entry? (runtimeId : String) (c : AuditCall) : Option AdminAuditEntry :=
  c.session.map fun session =>
    ⟨session.adminSessionId, c.action, c.timestamp, runtimeId, session.principal, c.result,
      c.details⟩

/-- What a call writes: a fault behind the line end is none. -/
def AuditCall.write? (runtimeId : String) (c : AuditCall) : Option (Write AdminAuditEntry) :=
  (c.entry? runtimeId).map fun entry =>
    match c.fault with
    | none => .whole entry
    | some n => if entry.text.length < n then .whole entry else .torn entry n

/-- The writes of some calls. -/
def writes (runtimeId : String) (cs : List AuditCall) : List (Write AdminAuditEntry) :=
  cs.filterMap (AuditCall.write? runtimeId)

/-- The characters of a log; a log that was never written has none. -/
def AdminAuditLog.chars (log : AdminAuditLog) : List Char := log.file.getD []

theorem append_write (cs : List Char) (entry : AdminAuditEntry) (fault : Option ℕ) :
    cs ++ (match fault with
      | none => entry.text ++ ['\n']
      | some n => (entry.text ++ ['\n']).take n) =
      append auditFormat cs (match fault with
        | none => .whole entry
        | some n => if entry.text.length < n then .whole entry else .torn entry n) := by
  cases fault with
  | none => rfl
  | some n =>
    by_cases h : entry.text.length < n
    · have hlength : (entry.text ++ ['\n']).length ≤ n := by
        rw [List.length_append]
        exact h
      simp only [if_pos h, List.take_of_length_le hlength]
      rfl
    · have htake : (entry.text ++ ['\n']).take n = entry.text.take n := by
        rw [List.take_append_of_le_length (by omega)]
      simp only [if_neg h, htake]
      rfl

/-- **One call.** -/
theorem chars_afterAudit (log : AdminAuditLog) (c : AuditCall) :
    (afterAudit log c).runtimeId = log.runtimeId ∧
      (afterAudit log c).chars =
        (c.write? log.runtimeId).elim log.chars (append auditFormat log.chars) := by
  cases hs : c.session with
  | none =>
    have hnone : c.write? log.runtimeId = none := by simp [AuditCall.write?, AuditCall.entry?, hs]
    have hsame : afterAudit log c = log := by simp [afterAudit, audit, hs]
    rw [hnone, hsame]
    exact ⟨rfl, rfl⟩
  | some session =>
    have hrecorded : afterAudit log c = (log.record session.adminSessionId c.action
        session.principal c.result c.details c.timestamp c.fault).2 := by
      simp [afterAudit, audit, hs]
    rw [hrecorded]
    refine ⟨rfl, ?_⟩
    rw [AuditCall.write?, AuditCall.entry?, hs, Option.map_some, Option.map_some, Option.elim_some,
      ← append_write]
    rfl

/-- **A run of calls.** -/
theorem chars_run (runtimeId : String) (cs : List AuditCall) :
    (cs.foldl afterAudit ⟨runtimeId, none⟩).runtimeId = runtimeId ∧
      (cs.foldl afterAudit ⟨runtimeId, none⟩).chars =
        textAfter auditFormat (writes runtimeId cs) := by
  induction cs using List.reverseRecOn with
  | nil => exact ⟨rfl, rfl⟩
  | append_singleton cs c ih =>
    obtain ⟨hid, hchars⟩ := ih
    rw [List.foldl_append, List.foldl_cons, List.foldl_nil]
    obtain ⟨hid', hchars'⟩ := chars_afterAudit (cs.foldl afterAudit ⟨runtimeId, none⟩) c
    refine ⟨hid'.trans hid, ?_⟩
    have hwrites : writes runtimeId (cs ++ [c]) =
        writes runtimeId cs ++ (c.write? runtimeId).toList := by
      rw [writes, List.filterMap_append, List.filterMap_cons, List.filterMap_nil]
      cases c.write? runtimeId <;> rfl
    rw [hchars', hid, hchars, hwrites, textAfter, textAfter, List.foldl_append]
    cases c.write? runtimeId <;> rfl

/-- The last entries are read from the characters. -/
theorem readRecent_eq (log : AdminAuditLog) (count : ℤ) :
    log.readRecent count =
      readStrict auditFormat.parse (AdminAuditLog.lastLines count (Text.lines log.chars)) := by
  rw [AdminAuditLog.readRecent, AdminAuditLog.chars]
  cases log.file with
  | none =>
    have hnil : AdminAuditLog.lastLines count (Text.lines []) = [] := List.drop_nil
    rw [Option.getD_none, hnil]
    rfl
  | some cs => rfl

theorem lastLines_map {α β : Type*} (f : α → β) (count : ℤ) (l : List α) :
    AdminAuditLog.lastLines count (l.map f) = (AdminAuditLog.lastLines count l).map f := by
  rw [AdminAuditLog.lastLines, AdminAuditLog.lastLines, List.length_map, List.map_drop]

theorem writes_of_faultless {runtimeId : String} {cs : List AuditCall}
    (h : ∀ c ∈ cs, c.fault = none) :
    writes runtimeId cs = (cs.filterMap (AuditCall.entry? runtimeId)).map .whole := by
  rw [writes, List.map_filterMap]
  refine List.filterMap_congr fun c hc => ?_
  rw [AuditCall.write?, h c hc]

/-- **The last entries of the audit log.**  After any calls of handlers, with or without sessions,
whose writes may fail anywhere: the last entries are those of the last lines that hold one whole
record, up to the first line that does not; if no write failed, they are the last ones that were
recorded; and the page of the panel shows no event. -/
theorem readRecent_run (runtimeId : String) (cs : List AuditCall) (count : ℤ) :
    (cs.foldl afterAudit ⟨runtimeId, none⟩).readRecent count =
      (upToGap (AdminAuditLog.lastLines count
        (rowsAfter auditFormat (writes runtimeId cs)).lines)).map AdminAuditEntry.values ∧
    ((∀ c ∈ cs, c.fault = none) →
      (cs.foldl afterAudit ⟨runtimeId, none⟩).readRecent count =
        (AdminAuditLog.lastLines count (cs.filterMap (AuditCall.entry? runtimeId))).map
          AdminAuditEntry.values) ∧
    handleAuditEvents (some (cs.foldl afterAudit ⟨runtimeId, none⟩)) = [] := by
  have hread : (cs.foldl afterAudit ⟨runtimeId, none⟩).readRecent count =
      (upToGap (AdminAuditLog.lastLines count
        (rowsAfter auditFormat (writes runtimeId cs)).lines)).map AdminAuditEntry.values := by
    rw [readRecent_eq, (chars_run runtimeId cs).2, AdminAuditLog.lastLines,
      length_lines_after, read_after]
    rfl
  refine ⟨hread, fun h => ?_, rfl⟩
  rw [hread, writes_of_faultless h, rowsAfter_whole, lastLines_map, upToGap_some]

end Admin

end AnnyRuntime
