import AnnyRuntime.Browser.Program
import AnnyRuntime.Json.Torn

/-!
# Commands over the socket

A method of the session manager sends one line to the broker and reads one answer
(`ManagerCall.requestLine`, `receive`); the broker reads the line, checks it against its table of
commands, performs the operation and answers with one line (`Server.handle`).

* `ManagerCall.handle_requestLine` : a request that fits is read, parsed and dispatched as it was
  meant, except `ISSUE_AUTH`, which is not in the table, and a query that is not an object.
* `roundTrip_iff` : **so a call comes back with what its operation answered exactly when it is none
  of these two and the whole answer is in what the manager receives first**; it receives once.
-/

namespace AnnyRuntime

namespace Browser

/-! ### The manager -/

/-- The methods of `BrowserSessionManager` that send a command. -/
inductive ManagerCall where
  | launch (url : Json)
  | hide
  | navigate (url : Json)
  | restart
  | isRunning
  | getStatus
  | terminate
  | navigateAction (action : Json)
  | observe
  | find (query : Json)
  | click (targetId : Json)
  | type (targetId text : Json)
  | fill (targetId text : Json)
  | clear (targetId : Json)
  | select (targetId optionIdentity : Json)
  | check (targetId : Json)
  | uncheck (targetId : Json)
  | issueAuthorization (targetId sessionId expiresIn : Json)
  | submit (targetId authId : Json)

/-- The answer `{"status": "error", "message": ...}`. -/
def errorObject (message : String) : Json :=
  .obj [("status", .str "error"), ("message", .str message)]

namespace ManagerCall

/-- The command that a method sends, and its fields. -/
def message : ManagerCall → String × List (String × Json)
  | launch url => ("START_BROWSER", [("url", url)])
  | hide => ("HIDE_BROWSER", [])
  | navigate url => ("NAVIGATE", [("url", url)])
  | restart => ("RESTART_BROWSER", [])
  | isRunning | getStatus => ("STATUS", [])
  | terminate => ("STOP_BROWSER", [])
  | navigateAction action => ("NAVIGATE_ACTION", [("action", action)])
  | observe => ("OBSERVE", [])
  | find query => ("FIND", [("query", query)])
  | click targetId => ("CLICK", [("target_id", targetId)])
  | type targetId text => ("TYPE", [("target_id", targetId), ("text", text)])
  | fill targetId text => ("FILL", [("target_id", targetId), ("text", text)])
  | clear targetId => ("CLEAR", [("target_id", targetId)])
  | select targetId optionIdentity =>
    ("SELECT", [("target_id", targetId), ("option_identity", optionIdentity)])
  | check targetId => ("CHECK", [("target_id", targetId)])
  | uncheck targetId => ("UNCHECK", [("target_id", targetId)])
  | issueAuthorization targetId sessionId expiresIn =>
    ("ISSUE_AUTH",
      [("target_id", targetId), ("session_id", sessionId), ("expires_in", expiresIn)])
  | submit targetId authId => ("SUBMIT", [("target_id", targetId), ("auth_id", authId)])

/-- The operation that the command names, with the arguments of the call. -/
def operation : ManagerCall → Option Operation
  | launch url => some (.startBrowser url)
  | hide => some .hideBrowser
  | navigate url => some (.navigate url)
  | restart => some .restartBrowser
  | isRunning | getStatus => some .getStatus
  | terminate => some .stopBrowser
  | navigateAction action => some (.navigateAction action)
  | observe => some .observe
  | find (.obj query) => some (.find query)
  | find _ => none
  | click targetId => some (.click targetId)
  | type targetId text => some (.type targetId text)
  | fill targetId text => some (.fill targetId text)
  | clear targetId => some (.clear targetId)
  | select targetId optionIdentity => some (.select targetId optionIdentity)
  | check targetId => some (.check targetId)
  | uncheck targetId => some (.uncheck targetId)
  | issueAuthorization targetId sessionId expiresIn =>
    some (.issueAuth targetId sessionId expiresIn)
  | submit targetId authId => some (.submit targetId authId)

/-- The object that `_send_ipc` writes. -/
def payload (c : ManagerCall) : List (String × Json) :=
  ("command", .str c.message.1) :: c.message.2

/-- The line that `_send_ipc` sends. -/
def requestLine (c : ManagerCall) : List UInt8 :=
  Text.bytes (Json.dumps (.obj c.payload) ++ ['\n'])

end ManagerCall

/-- `s.recv(4096)`, where bytes arrive in these segments. -/
def recv (segments : List (List UInt8)) : List UInt8 := (segments.headD []).take 4096

/-- What `_send_ipc` returns for what it received; `raised` is the text of the exception, if
reading the answer raises one. -/
def receive (raised : String) (data : List UInt8) : Json :=
  if data = [] then errorObject "Empty response from broker"
  else ((Text.ofBytes data).bind fun t => Json.loads (Text.strip t)).getD (errorObject raised)

/-! ### The broker -/

/-- `MAX_REQUEST_BYTES`. -/
def maxRequestBytes : ℕ := 4096

/-- A line, with its end. -/
def firstLine : List UInt8 → List UInt8
  | [] => []
  | x :: bs => if x = 10 then [10] else x :: firstLine bs

/-- `self.rfile.readline(limit)`. -/
def readline (limit : ℕ) (bs : List UInt8) : List UInt8 := (firstLine bs).take limit

/-- The white space of `bytes.strip`. -/
def isByteSpace (x : UInt8) : Bool := (9 ≤ x && x ≤ 13) || x = 32

/-- `bytes.strip`. -/
def stripBytes (bs : List UInt8) : List UInt8 :=
  ((bs.dropWhile isByteSpace).reverse.dropWhile isByteSpace).reverse

/-- `_REQUIRED_FIELDS`. -/
def requiredFields : List (String × List String) :=
  [("START_BROWSER", ["url"]), ("STOP_BROWSER", []), ("STATUS", []), ("HIDE_BROWSER", []),
    ("NAVIGATE", ["url"]), ("NAVIGATE_ACTION", ["action"]), ("OBSERVE", []),
    ("RESTART_BROWSER", []), ("FIND", ["query"]), ("CLICK", ["target_id"]),
    ("TYPE", ["target_id", "text"]), ("FILL", ["target_id", "text"]), ("CLEAR", ["target_id"]),
    ("SELECT", ["target_id", "option_identity"]), ("CHECK", ["target_id"]),
    ("UNCHECK", ["target_id"]), ("SUBMIT", ["target_id"])]

/-- `_FORBIDDEN_FIELDS`. -/
def forbiddenFields : List String :=
  ["binary", "executable", "shell", "profile", "profile_dir", "flags", "args", "uid", "gid", "env",
    "script", "objectId", "password"]

/-- The `repr` of a text without quotes, such as the names here. -/
def quoted (name : String) : String := "'" ++ name ++ "'"

/-- Why `_validate_schema` rejects a request. -/
inductive SchemaError where
  | notObject
  | noCommand
  | unknown (command : String)
  | missing (field command : String)
  /-- The fields, in the order that their set has. -/
  | forbidden (fields : List String)

/-- The text of a rejection. -/
def SchemaError.text : SchemaError → String
  | notObject => "Request must be a JSON object"
  | noCommand => "Missing or invalid 'command' field"
  | unknown command => "Unknown command: " ++ quoted command
  | missing field command =>
    "Missing required field " ++ quoted field ++ " for command " ++ quoted command
  | forbidden fields =>
    "Forbidden fields in request: frozenset(\x7b" ++ ", ".intercalate (fields.map quoted) ++
      "\x7d)"

/-- `_validate_schema` : why a request is rejected, if it is. -/
def validateSchema : Json → Option SchemaError
  | .obj request =>
    match Json.lookup "command" request with
    | some (.str command) =>
      if command = "" then some .noCommand
      else match requiredFields.lookup command with
        | none => some (.unknown command)
        | some fields =>
          match fields.find? fun field => (Json.lookup field request).isNone with
          | some field => some (.missing field command)
          | none =>
            let injected := forbiddenFields.filter fun field => (Json.lookup field request).isSome
            if injected = [] then none else some (.forbidden injected)
    | _ => some .noCommand
  | _ => some .notObject

/-- The operation that `handle` calls for a request, if it calls one. -/
def dispatch (request : List (String × Json)) (command : String) : Option Operation :=
  let field (name : String) : Json := (Json.lookup name request).getD .null
  match command with
  | "START_BROWSER" => some (.startBrowser (field "url"))
  | "STOP_BROWSER" => some .stopBrowser
  | "STATUS" => some .getStatus
  | "HIDE_BROWSER" => some .hideBrowser
  | "ISSUE_AUTH" => some (.issueAuth (field "target_id") (field "session_id")
      ((Json.lookup "expires_in" request).getD (.int 300)))
  | "NAVIGATE" => some (.navigate (field "url"))
  | "NAVIGATE_ACTION" => some (.navigateAction (field "action"))
  | "OBSERVE" => some .observe
  | "FIND" =>
    match field "query" with
    | .obj query => some (.find query)
    | _ => none
  | "CLICK" => some (.click (field "target_id"))
  | "TYPE" => some (.type (field "target_id") (field "text"))
  | "FILL" => some (.fill (field "target_id") (field "text"))
  | "CLEAR" => some (.clear (field "target_id"))
  | "SELECT" => some (.select (field "target_id") (field "option_identity"))
  | "CHECK" => some (.check (field "target_id"))
  | "UNCHECK" => some (.uncheck (field "target_id"))
  | "SUBMIT" => some (.submit (field "target_id") (field "auth_id"))
  | "RESTART_BROWSER" => some .restartBrowser
  | _ => none

/-- What performing an operation comes to. -/
structure Execution where
  /-- What it returns, unless it raises. -/
  response : Option (List (String × Json))
  /-- Something outside the broker has changed. -/
  tookEffect : Bool

/-- What the handler calls. -/
structure Server where
  perform : Operation → Execution
  /-- The text of a `JSONDecodeError`. -/
  decodeError : List UInt8 → String

/-- What the handler has done. -/
structure Exchange where
  operation : Option Operation
  response : Option Json

namespace Server

variable (server : Server)

/-- The answer to an operation. -/
def answer (op : Operation) : Json :=
  ((server.perform op).response.map Json.obj).getD (errorObject "Internal broker error")

/-- A request that the schema admits. -/
def handleRequest : Json → Exchange
  | .obj request =>
    match Json.lookup "command" request with
    | some (.str command) =>
      match dispatch request command with
      | some op => ⟨some op, some (server.answer op)⟩
      | none => ⟨none, some (errorObject
          (if command = "FIND" then "query must be an object" else "Unhandled command"))⟩
    | _ => ⟨none, some (errorObject "Internal broker error")⟩
  | _ => ⟨none, some (errorObject "Internal broker error")⟩

/-- `BrokerHandler.handle`, for the bytes that arrive. -/
def handle (arrived : List UInt8) : Exchange :=
  let raw := stripBytes (readline maxRequestBytes arrived)
  if raw = [] then ⟨none, none⟩
  else match Text.ofBytes raw with
    | none => ⟨none, some (errorObject "Internal broker error")⟩
    | some t =>
      match Json.loads t with
      | none => ⟨none, some (errorObject ("JSON parse error: " ++ server.decodeError raw))⟩
      | some request =>
        match validateSchema request with
        | some e => ⟨none, some (errorObject e.text)⟩
        | none => server.handleRequest request

end Server

/-- The line that `_send` writes. -/
def responseLine (response : Json) : List UInt8 := Text.bytes (Json.dumps response ++ ['\n'])

/-- The answer of a handler arrives in these segments. -/
def Arrives (h : Exchange) (segments : List (List UInt8)) : Prop :=
  segments.flatten = (h.response.map responseLine).getD [] ∧ ∀ x ∈ segments, x ≠ []

/-- The call is dispatched to its operation, and the manager gets what that answered, whatever the
text of an exception would be; in particular when the operation took effect. -/
structure RoundTrip (server : Server) (c : ManagerCall) (segments : List (List UInt8)) :
    Prop where
  dispatched : ∃ op, c.operation = some op ∧ (server.handle c.requestLine).operation = some op
  returned : ∀ op, c.operation = some op → ∀ response,
    (server.perform op).response = some response →
      ∀ raised, receive raised (recv segments) = .obj response
  effect : ∀ op, c.operation = some op → (server.perform op).tookEffect = true →
    ∃ response, (server.perform op).response = some response ∧
      ∀ raised, receive raised (recv segments) = .obj response

/-! ### The request -/

theorem newline_not_mem {t : List Char} (h : ∀ c ∈ t, Json.Printable c) : 10 ∉ Text.bytes t := by
  intro hmem
  obtain ⟨c, hc, heq⟩ := Text.exists_of_mem_bytes (Json.ascii_of_printable h) hmem
  have hc := (h c hc).1
  rw [heq] at hc
  exact absurd hc (by decide)

theorem bytes_newline : Text.bytes ['\n'] = [10] := by
  rw [Text.bytes_ascii Text.ascii_newline]
  rfl

theorem firstLine_append {bs : List UInt8} (h : 10 ∉ bs) : firstLine (bs ++ [10]) = bs ++ [10] := by
  induction bs with
  | nil => rfl
  | cons x bs ih =>
    rw [List.cons_append, firstLine, if_neg fun hx : x = 10 => h (hx ▸ List.mem_cons_self),
      ih fun hmem => h (List.mem_cons_of_mem _ hmem)]

/-- Stripping a line of which neither end is white space takes away its end. -/
theorem stripBytes_append {x y : UInt8} {bs : List UInt8} (hx : isByteSpace x = false)
    (hy : isByteSpace y = false) : stripBytes (x :: bs ++ [y] ++ [10]) = x :: bs ++ [y] := by
  have hnewline : isByteSpace 10 = true := rfl
  rw [stripBytes, List.cons_append, List.cons_append, List.dropWhile_cons_of_neg (by simp [hx]),
    ← List.cons_append, List.reverse_concat, List.dropWhile_cons_of_pos hnewline,
    ← List.cons_append, List.reverse_concat, List.dropWhile_cons_of_neg (by simp [hy]),
    ← List.reverse_concat, List.reverse_reverse]

/-- The bytes of an object are between its braces. -/
theorem exists_bytes_dumps (ms : List (String × Json)) :
    ∃ bs, Text.bytes (Json.dumps (.obj ms)) = 123 :: bs ++ [125] := by
  obtain ⟨t, ht⟩ : ∃ t, Json.dumpsMembers ms = t ++ ['\x7d'] :=
    List.getLast?_eq_some_iff.1 (Json.dumpsMembers_getLast ms)
  refine ⟨Text.bytes t, ?_⟩
  have hopen : Text.bytes ['\x7b'] = [123] := by
    rw [Text.bytes_ascii (Text.ascii_singleton (by decide))]
    rfl
  have hclose : Text.bytes ['\x7d'] = [125] := by
    rw [Text.bytes_ascii (Text.ascii_singleton (by decide))]
    rfl
  rw [Json.dumps, ht, ← List.singleton_append, Text.bytes_append, Text.bytes_append, hopen, hclose]
  rfl

theorem stripBytes_readline {ms : List (String × Json)} {limit : ℕ}
    (h : (Text.bytes (Json.dumps (.obj ms) ++ ['\n'])).length ≤ limit) :
    stripBytes (readline limit (Text.bytes (Json.dumps (.obj ms) ++ ['\n']))) =
      Text.bytes (Json.dumps (.obj ms)) := by
  have hline := firstLine_append (newline_not_mem (Json.printable_dumps (.obj ms)))
  obtain ⟨bs, hbs⟩ := exists_bytes_dumps ms
  rw [Text.bytes_append, bytes_newline] at h ⊢
  rw [readline, hline, List.take_of_length_le h, hbs, stripBytes_append rfl rfl]

/-- **A line that fits is read as the object that was written.** -/
theorem Server.handle_line (server : Server) {ms : List (String × Json)}
    (h : (Text.bytes (Json.dumps (.obj ms) ++ ['\n'])).length ≤ maxRequestBytes) :
    server.handle (Text.bytes (Json.dumps (.obj ms) ++ ['\n'])) =
      (validateSchema (.obj ms)).elim (server.handleRequest (.obj ms))
        fun e => ⟨none, some (errorObject e.text)⟩ := by
  have hne : Text.bytes (Json.dumps (.obj ms)) ≠ [] := by
    obtain ⟨bs, hbs⟩ := exists_bytes_dumps ms
    rw [hbs]
    simp
  simp only [handle, stripBytes_readline h, if_neg hne, Text.ofBytes_bytes, Json.loads_dumps]
  cases validateSchema (.obj ms) <;> rfl

namespace ManagerCall

/-- The broker has the command, and a query is an object. -/
def Known : ManagerCall → Prop
  | issueAuthorization .. => False
  | find query => ∃ ms, query = .obj ms
  | _ => True

/-- The schema admits every command but one. -/
theorem validateSchema_payload (c : ManagerCall) (h : c.Known) :
    validateSchema (.obj c.payload) = none := by
  cases c with
  | issueAuthorization => exact h.elim
  | _ => rfl

theorem dispatch_payload (c : ManagerCall) (h : c.Known) :
    dispatch c.payload c.message.1 = c.operation := by
  cases c with
  | issueAuthorization => exact h.elim
  | find query =>
    obtain ⟨ms, rfl⟩ := h
    rfl
  | _ => rfl

theorem exists_operation (c : ManagerCall) (h : c.Known) : ∃ op, c.operation = some op := by
  cases c with
  | find query =>
    obtain ⟨ms, rfl⟩ := h
    exact ⟨_, rfl⟩
  | _ => exact ⟨_, rfl⟩

theorem lookup_command (c : ManagerCall) :
    Json.lookup "command" c.payload = some (.str c.message.1) := by
  cases c <;> rfl

/-- **What the broker makes of a call that fits in a request.** -/
theorem handle_requestLine (c : ManagerCall) (server : Server)
    (hline : c.requestLine.length ≤ maxRequestBytes) {op : Operation} (h : c.Known)
    (hop : c.operation = some op) :
    server.handle c.requestLine = ⟨some op, some (server.answer op)⟩ := by
  rw [requestLine, server.handle_line hline, validateSchema_payload c h, Option.elim_none,
    Server.handleRequest, lookup_command]
  simp only [dispatch_payload c h, hop]

/-- A call that the broker does not know is not dispatched. -/
theorem handle_requestLine_unknown (c : ManagerCall) (server : Server)
    (hline : c.requestLine.length ≤ maxRequestBytes) {op : Operation} (h : ¬ c.Known)
    (hop : c.operation = some op) : (server.handle c.requestLine).operation = none := by
  rw [requestLine, server.handle_line hline]
  cases c with
  | issueAuthorization => rfl
  | find query =>
    cases query with
    | obj ms => exact absurd ⟨ms, rfl⟩ h
    | _ => cases hop
  | _ => exact absurd trivial h

end ManagerCall

/-! ### The answer -/

/-- The answer is whole in what is received first. -/
def Whole (segments : List (List UInt8)) (response : List (String × Json)) : Prop :=
  (Json.dumps (.obj response)).length ≤ (segments.headD []).length ∧
    (Json.dumps (.obj response)).length ≤ 4096

theorem strip_append_newline {t : List Char} (h : Text.Solid t) : Text.strip (t ++ ['\n']) = t := by
  obtain ⟨c, hc, hcs⟩ := h.head
  obtain ⟨d, hd, hds⟩ := h.last
  obtain ⟨r, rfl⟩ := List.head?_eq_some_iff.1 hc
  obtain ⟨i, hi⟩ := List.getLast?_eq_some_iff.1 hd
  have hnewline : Text.isSpace '\n' = true := rfl
  rw [Text.strip, List.cons_append, List.dropWhile_cons_of_neg (by simp [hcs]), ← List.cons_append,
    List.reverse_concat, List.dropWhile_cons_of_pos hnewline, hi, List.reverse_concat,
    List.dropWhile_cons_of_neg (by simp [hds]), ← List.reverse_concat, List.reverse_reverse]

section Receive

variable {segments : List (List UInt8)} {response : List (String × Json)}

/-- What is received is a beginning of the line. -/
theorem recv_eq (h : segments.flatten = responseLine (.obj response)) :
    recv segments = Text.bytes ((Json.dumps (.obj response) ++ ['\n']).take
      (min 4096 (segments.headD []).length)) := by
  have hascii := (Json.ascii_of_printable (Json.printable_dumps (.obj response))).append
    Text.ascii_newline
  have hhead : segments.headD [] =
      (responseLine (.obj response)).take (segments.headD []).length := by
    rw [← h]
    cases segments with
    | nil => rfl
    | cons x xs => simp
  rw [recv, hhead, List.take_take, responseLine, Text.take_bytes hascii, List.length_take]
  congr 2
  have hle : (segments.headD []).length ≤ (responseLine (.obj response)).length := by
    have := congrArg List.length hhead
    rw [List.length_take] at this
    omega
  rw [responseLine] at hle
  rw [Nat.min_eq_left hle]

theorem receive_whole (h : segments.flatten = responseLine (.obj response))
    (hwhole : Whole segments response) (raised : String) :
    receive raised (recv segments) = .obj response := by
  have hsolid := Json.solid_dumps_obj response
  have hn : (Json.dumps (.obj response)).length ≤ min 4096 (segments.headD []).length :=
    le_min hwhole.2 hwhole.1
  -- the whole text was received, with or without the line end
  have hstrip : Text.strip ((Json.dumps (.obj response) ++ ['\n']).take
      (min 4096 (segments.headD []).length)) = Json.dumps (.obj response) := by
    rw [List.take_append, List.take_of_length_le hn]
    obtain hzero | hpos := Nat.eq_zero_or_pos
      (min 4096 (segments.headD []).length - (Json.dumps (.obj response)).length)
    · rw [hzero, List.take_zero, List.append_nil, hsolid.strip_eq]
    · rw [List.take_of_length_le (l := ['\n']) hpos, strip_append_newline hsolid]
  have hne : recv segments ≠ [] := by
    intro hnil
    rw [recv_eq h] at hnil
    have := congrArg Text.ofBytes hnil
    rw [Text.ofBytes_bytes, show Text.ofBytes [] = some [] from Text.ofBytes_bytes []] at this
    rw [Option.some.inj this] at hstrip
    exact hsolid.ne_nil hstrip.symm
  rw [receive, if_neg hne, recv_eq h, Text.ofBytes_bytes, Option.bind_some, hstrip,
    Json.loads_dumps, Option.getD_some]

/-- An answer that is not whole is no value, so reading it raises an exception. -/
theorem receive_torn (h : segments.flatten = responseLine (.obj response))
    (hne : ∀ x ∈ segments, x ≠ []) (htorn : ¬ Whole segments response) (raised : String) :
    receive raised (recv segments) = errorObject raised := by
  have hn : min 4096 (segments.headD []).length < (Json.dumps (.obj response)).length := by
    unfold Whole at htorn
    omega
  rw [receive, recv_eq h, List.take_append_of_le_length hn.le]
  have hdata : Text.bytes ((Json.dumps (.obj response)).take
      (min 4096 (segments.headD []).length)) ≠ [] := by
    intro hnil
    have hlen := congrArg List.length hnil
    rw [Text.length_bytes (Json.ascii_of_printable fun c hc =>
      Json.printable_dumps (.obj response) c (List.mem_of_mem_take hc)), List.length_take] at hlen
    cases segments with
    | nil =>
      rw [List.flatten_nil, responseLine, Text.bytes_append, bytes_newline] at h
      exact absurd h (by simp)
    | cons x xs =>
      have hx : x.length ≠ 0 := fun hx =>
        hne x List.mem_cons_self (List.eq_nil_of_length_eq_zero hx)
      rw [List.headD_cons] at hlen hn
      simp only [List.length_nil] at hlen
      omega
  rw [if_neg hdata, Text.ofBytes_bytes, Option.bind_some]
  -- stripping cuts the torn text further
  obtain ⟨u, hu⟩ := (Json.solid_dumps_obj response).isPrefix_strip
    (List.take_prefix (min 4096 (segments.headD []).length) _)
  have hsplit : Text.strip ((Json.dumps (.obj response)).take
      (min 4096 (segments.headD []).length)) ++
      (u ++ (Json.dumps (.obj response)).drop (min 4096 (segments.headD []).length)) =
        Json.dumps (.obj response) := by
    rw [← List.append_assoc, hu, List.take_append_drop]
  rw [Json.loads_torn (fun hnil => ?_) hsplit, Option.getD_none]
  have hdrop := (List.append_eq_nil_iff.1 hnil).2
  rw [List.drop_eq_nil_iff] at hdrop
  omega

theorem receive_iff (h : segments.flatten = responseLine (.obj response))
    (hne : ∀ x ∈ segments, x ≠ []) :
    (∀ raised, receive raised (recv segments) = .obj response) ↔ Whole segments response := by
  refine ⟨fun hall => ?_, fun hwhole => receive_whole h hwhole⟩
  by_contra htorn
  -- the text of the exception would have to be any text
  have hempty := hall ""
  have hother := hall "e"
  rw [receive_torn h hne htorn] at hempty hother
  exact absurd (hempty.trans hother.symm) (by decide)

end Receive

/-! ### The round trip -/

/-- **A call makes the round trip exactly when the broker knows its command and its answer is whole
in what is received first**; an operation that raises must have had no effect. -/
theorem roundTrip_iff {server : Server} {c : ManagerCall} {segments : List (List UInt8)}
    (hline : c.requestLine.length ≤ maxRequestBytes)
    (harrives : Arrives (server.handle c.requestLine) segments) :
    RoundTrip server c segments ↔ c.Known ∧ ∀ op, c.operation = some op →
      (∀ response, (server.perform op).response = some response → Whole segments response) ∧
        ((server.perform op).response = none → (server.perform op).tookEffect = false) := by
  have hreceive : ∀ op response, c.Known → c.operation = some op →
      (server.perform op).response = some response →
        ((∀ raised, receive raised (recv segments) = .obj response) ↔
          Whole segments response) := by
    intro op response hknown hop hresponse
    have hflatten := harrives.1
    rw [c.handle_requestLine server hline hknown hop, Server.answer, hresponse] at hflatten
    exact receive_iff hflatten harrives.2
  constructor
  · intro h
    have hknown : c.Known := by
      by_contra hunknown
      obtain ⟨op, hop, hdispatched⟩ := h.dispatched
      rw [c.handle_requestLine_unknown server hline hunknown hop] at hdispatched
      cases hdispatched
    refine ⟨hknown, fun op hop => ⟨fun response hresponse => ?_, fun hraises => ?_⟩⟩
    · exact (hreceive op response hknown hop hresponse).1 (h.returned op hop response hresponse)
    · by_contra heffect
      obtain ⟨response, hresponse, -⟩ := h.effect op hop (Bool.eq_true_of_not_eq_false heffect)
      cases hraises.symm.trans hresponse
  · rintro ⟨hknown, h⟩
    obtain ⟨op, hop⟩ := c.exists_operation hknown
    refine ⟨⟨op, hop, ?_⟩, fun op hop response hresponse => ?_, fun op hop heffect => ?_⟩
    · rw [c.handle_requestLine server hline hknown hop]
    · exact (hreceive op response hknown hop hresponse).2 ((h op hop).1 response hresponse)
    · cases hresponse : (server.perform op).response with
      | none => exact absurd ((h op hop).2 hresponse) (by simp [heffect])
      | some response =>
        exact ⟨response, rfl,
          (hreceive op response hknown hop hresponse).2 ((h op hop).1 response hresponse)⟩

/-- A broker on which every operation succeeds. -/
def willingServer : Server where
  perform _ := ⟨some [("status", .str "ok")], true⟩
  decodeError _ := "Expecting value: line 1 column 1 (char 0)"

theorem length_requestLine (c : ManagerCall) :
    c.requestLine.length = (Json.dumps (.obj c.payload)).length + 1 := by
  rw [ManagerCall.requestLine, Text.length_bytes ((Json.ascii_of_printable
    (Json.printable_dumps _)).append Text.ascii_newline), List.length_append]
  rfl

/-- The window is hidden, and the answer arrives in one piece. -/
theorem roundTrip_hide :
    RoundTrip willingServer .hide [responseLine (.obj [("status", .str "ok")])] := by
  have hline : (ManagerCall.requestLine .hide).length ≤ maxRequestBytes := by
    rw [length_requestLine]
    decide
  have hlength : (responseLine (.obj [("status", .str "ok")])).length = 17 := by
    rw [responseLine, Text.length_bytes ((Json.ascii_of_printable
      (Json.printable_dumps _)).append Text.ascii_newline)]
    decide
  refine (roundTrip_iff hline ⟨?_, ?_⟩).2 ⟨trivial, fun op _ => ⟨fun response hresponse => ?_, ?_⟩⟩
  · rw [ManagerCall.handle_requestLine .hide willingServer hline trivial rfl]
    exact List.append_nil _
  · intro x hx
    obtain rfl := List.mem_singleton.1 hx
    exact List.ne_nil_of_length_pos (by rw [hlength]; decide)
  · cases hresponse
    refine ⟨?_, by decide⟩
    rw [List.headD_cons, hlength]
    decide
  · intro hraises
    cases hraises

/-- An authorization cannot be asked for, and an answer that arrives in two pieces is lost. -/
theorem not_roundTrip :
    ¬ RoundTrip willingServer (.issueAuthorization (.str "bt_1") (.str "s1") (.int 300))
        [responseLine (errorObject "Unknown command: 'ISSUE_AUTH'")] ∧
      ¬ RoundTrip willingServer .hide
        [(responseLine (.obj [("status", .str "ok")])).take 5,
          (responseLine (.obj [("status", .str "ok")])).drop 5] := by
  have hlength : (responseLine (.obj [("status", .str "ok")])).length = 17 := by
    rw [responseLine, Text.length_bytes ((Json.ascii_of_printable
      (Json.printable_dumps _)).append Text.ascii_newline)]
    decide
  constructor
  · intro h
    obtain ⟨op, hop, hdispatched⟩ := h.dispatched
    rw [ManagerCall.handle_requestLine_unknown _ willingServer
      (by rw [length_requestLine]; decide) id hop] at hdispatched
    cases hdispatched
  · intro h
    have hall := h.returned .hideBrowser rfl _ rfl
    rw [receive_iff (by simp) (fun x hx => ?_)] at hall
    · -- five bytes of seventeen
      have hfirst := hall.1
      rw [List.headD_cons, List.length_take, hlength] at hfirst
      exact absurd hfirst (by decide)
    · rw [List.mem_cons, List.mem_singleton] at hx
      obtain rfl | rfl := hx
      · exact List.ne_nil_of_length_pos (by rw [List.length_take, hlength]; decide)
      · exact List.ne_nil_of_length_pos (by rw [List.length_drop, hlength]; decide)

end Browser

end AnnyRuntime
