import AnnyRuntime.Browser.Broker
import AnnyRuntime.Json.Loads

/-!
# The commands of the broker, request by request

What a thread of the broker still has to do is a tree (`Program`): each node is one access to what
the threads share, or one request to the browser, and its subtrees are what comes after each answer.
`Operation.program` gives the program of every command; a script that is run on the page is given by
its name and the values that are put into it.

`Broker` and `Interleaving` take what the page answers to a command as part of the command.  Here
every answer comes in a step of its own, so that the session may change between two of them.
-/

namespace AnnyRuntime

namespace Browser

/-! ### What the browser answers -/

/-- An exception of `_cdp_request`. -/
inductive CdpError where
  /-- A `RuntimeError`. -/
  | runtime (message : String)
  /-- A send failed, and there was no connection to close. -/
  | noConnection
  deriving DecidableEq

/-- `str(e)`. -/
def CdpError.text : CdpError → String
  | runtime message => message
  | noConnection => "'NoneType' object has no attribute 'close'"

/-- An object of the page. -/
structure RemoteObject where
  objectId : Option String := none
  value : Option Json := none
  deriving DecidableEq

/-- A property of an object of the page. -/
structure Property where
  name : String
  value : RemoteObject
  deriving DecidableEq

/-- An entry of the navigation history. -/
structure HistoryEntry where
  id : ℤ
  url : Option String
  deriving DecidableEq

/-- What the commands read of the result of a request; a field is at its default where the result
does not have it. -/
structure CdpResult where
  exceptionDetails : Option String := none
  /-- `result`, where it is an object of the page. -/
  result : RemoteObject := {}
  /-- `result`, where it is the properties of one. -/
  properties : List Property := []
  object : Option RemoteObject := none
  /-- `node.backendNodeId`. -/
  backendNodeId : Option ℕ := none
  /-- The frames of `frameTree`, as `get_frames` lists them. -/
  frames : Option (List String) := none
  executionContextId : Option ℤ := none
  currentIndex : ℤ := 0
  entries : List HistoryEntry := []
  deriving DecidableEq

/-- `res.get("result", {}).get("value", {})`. -/
def CdpResult.value (res : CdpResult) : Json := res.result.value.getD (.obj [])

/-- The members of that value, which the scripts make an object. -/
def CdpResult.members (res : CdpResult) : List (String × Json) :=
  match res.value with
  | .obj ms => ms
  | _ => []

/-! ### Programs -/

/-- A field of the broker that a thread assigns. -/
inductive Write where
  | lastUrl (url : Option String)
  | browserState (state : BrowserState)
  | target (targetId : String) (record : Target)
  | issue (authId : String) (auth : IssuedAuthorization)
  | pending (p : Option PendingSubmissionAuthorization)

/-- The assignment. -/
def Write.apply (b : Broker) : Write → Broker
  | lastUrl url => { b with lastUrl := url }
  | browserState state => { b with browserState := state }
  | target targetId record => { b with targets := b.targets.set targetId record }
  | issue authId auth =>
    { b with issuedAuthorizations := b.issuedAuthorizations.set authId auth }
  | pending p => { b with pendingSubmission := p }

@[simp] theorem Write.apply_cdpWs (b : Broker) (w : Write) : (w.apply b).cdpWs = b.cdpWs := by
  cases w <;> rfl

@[simp] theorem Write.apply_sessionId (b : Broker) (w : Write) :
    (w.apply b).sessionId = b.sessionId := by
  cases w <;> rfl

/-- The parameters of a request. -/
abbrev Params := List (String × Json)

/-- What a thread has still to do. -/
inductive Program where
  | respond (response : Response)
  /-- `_cdp_request`. -/
  | request (method : String) (params : Params) (next : Except CdpError CdpResult → Program)
  /-- `_send_cdp_async`. -/
  | sendAsync (method : String) (params : Params) (next : Program)
  /-- A thread is started. -/
  | start (thread next : Program)
  /-- `self.process is None or self.process.poll() is not None`, negated. -/
  | running (next : Bool → Program)
  /-- A field is read. -/
  | read (next : Broker → Program)
  /-- The session is read, for a target that is entered. -/
  | stamp (next : Option String → Program)
  | write (w : Write) (next : Program)
  /-- `del self.issued_authorizations[auth_id]`; whether there was one. -/
  | consume (authId : String) (next : Bool → Program)
  /-- `uuid.uuid4()`. -/
  | draw (next : String → Program)
  /-- `time.time()`. -/
  | clock (next : ℤ → Program)
  | lifecycle (x : LifecycleStep) (next : Program)

namespace Program

/-- An exception that reaches the handler of the connection. -/
def raise : Program := .respond internalError

def fail (message : String) : Program := .respond (error message)

/-- A command that looks first whether the browser runs. -/
def whileRunning (next : Program) : Program :=
  .running fun up => if up then next else .respond notRunning

/-- The record of a target of the current session. -/
def withTarget (targetId : Json) (next : Target → Program) : Program :=
  match targetId with
  | .str id => .read fun b =>
    match b.targets.get? id with
    | none => fail "TARGET_STALE"
    | some record => .read fun b =>
      if record.sessionId ≠ b.sessionId then fail "TARGET_STALE" else next record
  -- a list or a dict cannot be looked up
  | .arr _ | .obj _ => raise
  | _ => fail "TARGET_STALE"

/-- A script, with the values that are put into it. -/
def script (name : String) (values : List Json) : Json := .arr (.str name :: values)

/-- `"error" in val`. -/
def unlessError (res : CdpResult) (next : Program) : Program :=
  match Json.lookup "error" res.members with
  | some e => .respond [("status", .str "error"), ("message", .ofJson e)]
  | none => next

/-- `DOM.resolveNode`, for the node of a target. -/
def resolveNode (record : Target) (failed : CdpError → Program) (next : String → Program) :
    Program :=
  .request "DOM.resolveNode" [("backendNodeId", .int record.backendNodeId)] fun
    | .error (.runtime _) => fail "TARGET_STALE"
    | .error e => failed e
    | .ok res =>
      match res.object.bind RemoteObject.objectId with
      | none => fail "TARGET_STALE"
      | some objId => next objId

/-- `Runtime.callFunctionOn`, and an exception that the script throws. -/
def callFunction (objId : String) (function : Json) (failed : CdpError → Program)
    (thrown : String → Program) (next : CdpResult → Program) : Program :=
  .request "Runtime.callFunctionOn"
    [("objectId", .str objId), ("functionDeclaration", function), ("returnByValue", .bool true)] fun
    | .error e => failed e
    | .ok res =>
      match res.exceptionDetails with
      | some details => thrown details
      | none => next res

/-- `observe` and `_observe_with_timeout`: the observation, or why there is none. -/
def observing (name : String) (next : Except String Json → Program) : Program :=
  .running fun up =>
    if up then
      .request "Runtime.evaluate"
        [("expression", script name []), ("returnByValue", .bool true)] fun
        | .error e => next (.error ("CDP observe failed: " ++ e.text))
        | .ok res =>
          match res.exceptionDetails with
          | some details => next (.error details)
          | none => next (.ok res.value)
    else next (.error "Browser is not running.")

/-- The observation that closes a response. -/
def observed : Except String Json → String × PyVal
  | .ok observation => ("observation", .ofJson observation)
  | .error message => ("observation_error", .str message)

/-- What an interaction answers when it succeeded. -/
def acted (kind : String) (targetId : Json) (more : List (String × PyVal)) : Program :=
  observing "observe" fun obs => .respond
    [("status", .str "ok"), ("result", .str "success"),
      ("action", .ofMembers ([("type", .str kind), ("target_id", .ofJson targetId)] ++ more)),
      observed obs]

/-! ### Finding targets -/

def findFailed (text : String) : Program := fail ("CDP find failed: " ++ text)

/-- The object of the node, of the properties of an element that was found. -/
def nodeObjId (properties : List Property) : Except String (Option String) :=
  match (properties.filter (·.name = "node")).mapM fun p => p.value.objectId with
  | none => .error "'objectId'"
  | some ids => .ok (ids.getLast?.filter (· ≠ ""))

/-- What is told of an element. -/
def metaOf (properties : List Property) : List (String × PyVal) :=
  let value (p : Property) (default : Json) : PyVal := .ofJson (p.value.value.getD default)
  let parsed (name : String) : Option (Option Json) :=
    ((properties.filter (·.name = name)).getLast?).map fun p =>
      match p.value.value with
      | some (.str t) => Json.loads t.toList
      | _ => none
  (properties.filterMap fun p =>
    if p.name ∈ ["role", "name", "text", "tag", "type", "group"] then
      some (p.name, value p (.str ""))
    else if p.name ∈ ["value_present", "disabled", "required", "valid", "checked", "multiple"] then
      some (p.name, value p (.bool false))
    else none) ++
  ((parsed "selected_options_json").map fun options =>
    ("selected_options", .ofJson (options.getD (.arr [])))).toList ++
  ((parsed "validity_flags_json").join.map fun flags => ("validity_flags", .ofJson flags)).toList

/-- The loop of `find` over the elements: each takes two requests, and its target is entered with
the session that is read after them. -/
def findElements : List Property → List PyVal → Program
  | [], found => .respond [("status", .str "ok"), ("targets", .list found)]
  | element :: elements, found =>
    if element.name ≠ "" && element.name.toList.all Char.isDigit then
      match element.value.objectId with
      | none => findFailed "'objectId'"
      | some itemId =>
        .request "Runtime.getProperties"
          [("objectId", .str itemId), ("ownProperties", .bool true)] fun
          | .error e => findFailed e.text
          | .ok item =>
            match nodeObjId item.properties with
            | .error text => findFailed text
            | .ok none => findElements elements found
            | .ok (some nodeId) =>
              .request "DOM.describeNode" [("objectId", .str nodeId)] fun
                | .error e => findFailed e.text
                | .ok described =>
                  match described.backendNodeId with
                  | none => findElements elements found
                  | some backendId => .draw fun uuid => .stamp fun session =>
                    .write (.target ("bt_" ++ uuid) ⟨backendId, nodeId, session⟩) <|
                      findElements elements (found ++ [.ofMembers
                        (("target_id", .str ("bt_" ++ uuid)) :: metaOf item.properties)])
    else findElements elements found

/-- A query whose parts can be lowered. -/
def lowers (query : List (String × Json)) : Bool :=
  ["text", "role", "tag", "type"].all fun key =>
    match Json.lookup key query with
    | none | some (.str _) => true
    | _ => false

/-- `find`. -/
def find (query : List (String × Json)) : Program :=
  whileRunning <|
    if lowers query then
      .request "DOM.enable" [] fun _ =>
        .request "Runtime.evaluate"
          [("expression", script "find" [.obj query]), ("returnByValue", .bool false)] fun
          | .error e => findFailed e.text
          | .ok res =>
            match res.exceptionDetails, res.result.objectId with
            | some details, _ => fail details
            | none, none | none, some "" => .respond [("status", .str "ok"), ("targets", .list [])]
            | none, some arrayId =>
              .request "Runtime.getProperties"
                [("objectId", .str arrayId), ("ownProperties", .bool true)] fun
                | .error e => findFailed e.text
                | .ok array => findElements array.properties []
    else raise

/-! ### Interactions -/

/-- `click`. -/
def click (targetId : Json) : Program :=
  let failed (e : CdpError) : Program := fail ("CDP click failed: " ++ e.text)
  whileRunning <| withTarget targetId fun record =>
    resolveNode record failed fun objId =>
      callFunction objId (script "click" []) failed fail fun res =>
        unlessError res <| acted "click" targetId []

/-- `_validate_text_target`. -/
def validateTextTarget (record : Target) (next : String → Program) : Program :=
  resolveNode record (fun _ => raise) fun objId =>
    callFunction objId (script "text" []) (fun _ => raise) fail fun res =>
      unlessError res <| next objId

/-- `type`, `fill` and `clear`; the last does not look for an error in what its script answers. -/
def editText (kind : String) (targetId : Json) (values : List Json) (looks : Bool) : Program :=
  whileRunning <| withTarget targetId fun record =>
    validateTextTarget record fun objId =>
      callFunction objId (script kind values) (fun _ => raise) fail fun res =>
        if looks then unlessError res <| acted kind targetId [] else acted kind targetId []

/-- `type`. -/
def type (targetId text : Json) : Program := editText "type" targetId [text] true

/-- `fill`. -/
def fill (targetId text : Json) : Program := editText "fill" targetId [text] true

/-- `clear`. -/
def clear (targetId : Json) : Program := editText "clear" targetId [] false

/-- `_validate_control_target` : the node, its tag and its type.  It uses the object that `find` was
given, and does not resolve the node. -/
def validateControlTarget (record : Target) (next : String → Json → Json → Program) : Program :=
  if record.nodeObjId = "" then fail "Target node object ID missing"
  else
    callFunction record.nodeObjId (script "control" []) (fun _ => raise)
      (fun _ => fail "TARGET_STALE") fun res =>
        unlessError res <|
          match Json.lookup "tag" res.members, Json.lookup "type" res.members with
          | some tag, some type => next record.nodeObjId tag type
          | _, _ => raise

/-- `select`. -/
def select (targetId optionIdentity : Json) : Program :=
  withTarget targetId fun record => validateControlTarget record fun objId tag _ =>
    if tag ≠ .str "select" then fail "TARGET_NOT_SELECT"
    else
      callFunction objId (script "select" [optionIdentity]) (fun _ => raise) fail fun res =>
        unlessError res <| acted "select" targetId [("option", .ofJson optionIdentity)]

/-- `check`. -/
def check (targetId : Json) : Program :=
  withTarget targetId fun record => validateControlTarget record fun objId tag type =>
    if tag ≠ .str "input" ∨ type ∉ [.str "checkbox", .str "radio"] then
      fail "TARGET_UNSUPPORTED_CONTROL"
    else
      callFunction objId (script "check" []) (fun _ => raise) fail fun _ =>
        acted "check" targetId []

/-- `uncheck`. -/
def uncheck (targetId : Json) : Program :=
  withTarget targetId fun record => validateControlTarget record fun objId tag type =>
    if tag ≠ .str "input" then fail "TARGET_UNSUPPORTED_CONTROL"
    else if type = .str "radio" then fail "TARGET_UNSUPPORTED_ACTION"
    else if type ≠ .str "checkbox" then fail "TARGET_UNSUPPORTED_CONTROL"
    else
      callFunction objId (script "uncheck" []) (fun _ => raise) fail fun _ =>
        acted "uncheck" targetId []

/-! ### Governed submissions -/

/-- The loop of `issue_auth` over the frames: the first one that has the mark, or none. -/
def findFrame (token : String) (next : String → Program) : List String → Program
  | [] => next ""
  | frame :: frames =>
    .request "Page.createIsolatedWorld"
      [("frameId", .str frame), ("worldName", .str "anny_auth")] fun
      | .error _ => findFrame token next frames
      | .ok world =>
        match world.executionContextId with
        | none => findFrame token next frames
        | some context =>
          .request "Runtime.evaluate"
            [("contextId", .int context), ("expression", script "mark" [])] fun
            | .error _ => findFrame token next frames
            | .ok res =>
              if res.result.value = some (.str token) then
                -- the frame is kept, whether or not the mark can be taken away
                .request "Runtime.evaluate"
                  [("contextId", .int context), ("expression", script "unmark" [])] fun
                  | .error _ =>
                    findFrame token (fun last => next (if last = "" then frame else last)) frames
                  | .ok _ => next frame
              else findFrame token next frames

/-- `issue_auth`, for a whole number of seconds.  A session that is missing on both sides counts as
a mismatch here. -/
def issueAuth (targetId sessionId expiresIn : Json) : Program :=
  whileRunning <| withTarget targetId fun record =>
    .read fun b =>
      match targetId, sessionId, b.sessionId with
      | .str target, .str session, some current =>
        if current ≠ session then fail "AUTHORIZATION_SESSION_MISMATCH"
        else
          resolveNode record (fun _ => raise) fun objId =>
            .draw fun token =>
              .request "Runtime.callFunctionOn"
                [("objectId", .str objId), ("functionDeclaration", script "frame" [.str token])] fun
                | .error _ => raise
                | .ok _ =>
                  .request "Page.getFrameTree" [] fun
                    | .error _ => raise
                    | .ok tree =>
                      match tree.frames with
                      | none => raise
                      | some frames => findFrame token (formOf objId target session) frames
      | _, _, _ => fail "AUTHORIZATION_SESSION_MISMATCH"
where
  /-- The form of the target, and the authorization for it. -/
  formOf (objId target session frameId : String) : Program :=
    if frameId = "" then fail "FRAME_IDENTITY_MISSING"
    else
      callFunction objId (script "form" []) (fun _ => raise) fail fun res =>
        unlessError res <| .draw fun authId => .clock fun now =>
          match expiresIn.asInt, Json.lookup "method" res.members,
              Json.lookup "action" res.members with
          | some expires, some (.str method), some (.str action) => .clock fun issued =>
            .write (.issue authId
              { targetId := target
                sessionId := session
                expiresAt := now + expires
                expectedMethod := method
                expectedUrl := action
                expectedFrameId := frameId
                issuedAt := issued }) <|
              .respond [("status", .str "ok"), ("auth_id", .str authId)]
          | _, _, _ => raise

/-- The polls of `submit` for the page after the submission, half a second apart. -/
def pollPage (deadline : ℤ) (next : Except String Json → Program) :
    ℕ → Except String Json → Program
  | 0, obs => next obs
  | n + 1, obs => .clock fun now =>
    if now < deadline then
      observing "observe_short" fun
        | .error _ => pollPage deadline next n obs
        | .ok page =>
          match page with
          | .obj ms =>
            match Json.lookup "url" ms with
            | some (.str url) =>
              if url ≠ "" ∧ url ≠ "about:blank" then next (.ok page)
              else pollPage deadline next n (.ok page)
            | _ => pollPage deadline next n (.ok page)
          | _ => raise
    else next obs

/-- What `submit` does once its authorization is accepted. -/
def submitForm (targetId : Json) (pending : PendingSubmissionAuthorization) : Program :=
  withTarget targetId fun record => resolveNode record (fun _ => raise) fun objId =>
    .write (.pending (some pending)) <|
      callFunction objId (script "submit" []) (fun _ => raise)
        (fun details => .write (.pending none) (fail details)) fun res =>
          match Json.lookup "error" res.members with
          | some e => .write (.pending none)
              (.respond [("status", .str "error"), ("message", .ofJson e)])
          | none => .clock fun now =>
            -- eight seconds, and half a second before each poll
            pollPage (now + 8) (fun obs => .respond
              [("status", .str "ok"),
                ("result", .str (match obs with
                  | .ok _ => "REQUEST_ACCEPTED"
                  | .error _ => "POST_ACTION_FAILED")),
                ("action", .ofMembers [("type", .str "submit"), ("target_id", .ofJson targetId),
                  ("authorization_used", .bool true)]),
                ("request", .ofMembers [("method", .str pending.expectedMethod),
                  ("destination", .str pending.expectedUrl)]),
                observed obs]) 16 (.error "Timed out waiting for post-submission page")

/-- A submission that is refused for its authorization. -/
def refuse (message : String) (targetId : Json) : Program :=
  .respond (error message ++
    [("action", .ofMembers [("type", .str "submit"), ("target_id", .ofJson targetId)])])

/-- `submit`. -/
def submit (targetId authId : Json) : Program :=
  whileRunning <|
    if authId.truthy = false then refuse "MISSING_AUTHORIZATION" targetId
    else match authId with
      | .arr _ | .obj _ => raise
      | .str id => .read fun b =>
        match b.issuedAuthorizations.get? id with
        | none => refuse "INVALID_AUTHORIZATION" targetId
        | some auth => .read fun b =>
          if some auth.sessionId ≠ b.sessionId then
            refuse "AUTHORIZATION_SESSION_MISMATCH" targetId
          else if .str auth.targetId ≠ targetId then
            refuse "AUTHORIZATION_TARGET_MISMATCH" targetId
          else .clock fun now =>
            if auth.expiresAt < now then refuse "AUTHORIZATION_EXPIRED" targetId
            else .consume id fun found =>
              if found then submitForm targetId (auth.pending id) else raise
      | _ => refuse "INVALID_AUTHORIZATION" targetId

/-! ### Navigation -/

/-- A text, if the value is one. -/
def textOf : Json → Option String
  | .str s => some s
  | _ => none

/-- `navigate`. -/
def navigate (url : Json) : Program :=
  match validateUrl (textOf url) with
  | some message => fail message
  | none => .running fun up =>
    if up then
      .write (.browserState .navigating) <| .write (.lastUrl (textOf url)) <|
        .request "Page.navigate" [("url", url)] fun
          | .error e => .write (.browserState .failed) (fail ("CDP navigate failed: " ++ e.text))
          | .ok _ => .write (.browserState .running) <| .read fun b =>
            .respond [("status", .str "ok"), ("browser_state", .str b.browserState.value),
              ("url", .ofJson url)]
    else fail "Browser is not running. Use START_BROWSER first."

/-- `navigate_action`. -/
def navigateAction (action : Json) : Program :=
  let failed (e : CdpError) : Program := fail ("CDP action failed: " ++ e.text)
  let done : Program := .respond [("status", .str "ok"), ("action", .ofJson action)]
  whileRunning <|
    if action = .str "back" ∨ action = .str "forward" then
      .request "Page.getNavigationHistory" [] fun
        | .error e => failed e
        | .ok history =>
          let index := if action = .str "back" then history.currentIndex - 1
            else history.currentIndex + 1
          match if 0 ≤ index then history.entries[index.toNat]? else none with
          | none => done
          | some entry =>
            .request "Page.navigateToHistoryEntry" [("entryId", .int entry.id)] fun
              | .error e => failed e
              | .ok _ => .write (.lastUrl entry.url) done
    else if action = .str "reload" then
      .request "Page.reload" [] fun
        | .error e => failed e
        | .ok _ => done
    else fail ("Unknown action " ++ action.pyStr)

/-- The operation `observe`. -/
def observe : Program :=
  observing "observe" fun
    | .ok observation => .respond [("status", .str "ok"), ("observation", .ofJson observation)]
    | .error message => fail message

/-! ### The window and its process -/

/-- What the tool that minimizes windows does. -/
inductive HideOutcome where
  | missing
  | timedOut
  | raised (text : String)
  | windows (wids : List String)

/-- `hide_browser`. -/
def hideBrowser (outcome : HideOutcome) : Program :=
  let answer (status : String) (more : List (String × PyVal)) : Program := .read fun b =>
    .respond ([("status", .str status), ("browser_state", .str b.browserState.value)] ++ more)
  .running fun up => .read fun b =>
    if up then
      match outcome with
      | .missing =>
        answer "unavailable" [("message", .str "xdotool not installed — hide not possible")]
      | .timedOut => answer "error" [("message", .str "xdotool timed out")]
      | .raised text => answer "error" [("message", .str ("hide_browser error: " ++ text))]
      | .windows [] =>
        answer "ok" [("message", .str "No windows found for PID (may already be hidden)")]
      | .windows wids => .write (.browserState .hidden) <| answer "ok"
        [("pid", b.process.elim .none fun n => .int n),
          ("windows_hidden", .list (wids.map .str))]
    else answer "ok" [("message", .str "Browser not running — nothing to hide")]

/-- `get_status`; `ended` says that the broker has a process which has ended. -/
def getStatus (ended : Bool) : Program :=
  .running fun up => .read fun b =>
    let answer : Program := .read fun b' => .respond
      [("status", .str "ok"), ("running", .bool up),
        ("pid", if up then b.process.elim .none fun n => .int n else .none),
        ("broker_state", .str "RUNNING"), ("browser_state", .str b'.browserState.value),
        ("profile", .str b.profileDir), ("binary", .str chromeBinary)]
    if !up && ended && (b.browserState = .running || b.browserState = .hidden) then
      .write (.browserState .failed) answer
    else answer

/-- Starting and stopping. -/
def ofSteps (steps : List LifecycleStep) : Program := steps.foldr .lifecycle raise

/-! ### Paused requests -/

/-- A thread that has nothing to answer ends. -/
def done : Program := .respond []

/-- `_handle_cdp_event`, for a request that is paused. -/
def handleCdpEvent (requestId : String) (r : PausedRequest) : Program :=
  let params : Params := [("requestId", .str requestId)]
  if r.Safe then .sendAsync "Fetch.continueRequest" params done
  else .read fun b =>
    match matching b.pendingSubmission r with
    | some _ => .write (.pending none) <|
      .start (.request "Fetch.continueRequest" params fun _ => done) done
    | none =>
      .sendAsync "Fetch.failRequest" (params ++ [("errorReason", .str "AccessDenied")]) done

end Program

/-! ### Operations -/

/-- The operations that the commands name, with their arguments. -/
inductive Operation where
  | startBrowser (url : Json)
  | stopBrowser
  | getStatus
  | hideBrowser
  | issueAuth (targetId sessionId expiresIn : Json)
  | navigate (url : Json)
  | navigateAction (action : Json)
  | observe
  | find (query : List (String × Json))
  | click (targetId : Json)
  | type (targetId text : Json)
  | fill (targetId text : Json)
  | clear (targetId : Json)
  | select (targetId optionIdentity : Json)
  | check (targetId : Json)
  | uncheck (targetId : Json)
  | submit (targetId authId : Json)
  | restartBrowser
  deriving DecidableEq

/-- What the host answers to an operation. -/
structure Host where
  /-- Whether the binary exists. -/
  installed : Bool
  /-- The process that is launched, or the text of the exception. -/
  process : Except String ℕ
  hide : Program.HideOutcome
  ended : Bool

/-- The program of an operation. -/
def Operation.program (host : Host) : Operation → Program
  | startBrowser url =>
    .ofSteps (Browser.startBrowser (Program.textOf url) host.installed host.process)
  | stopBrowser => .ofSteps (Browser.stopBrowser ++ [.stopped])
  | getStatus => .getStatus host.ended
  | hideBrowser => .hideBrowser host.hide
  | issueAuth targetId sessionId expiresIn => .issueAuth targetId sessionId expiresIn
  | navigate url => .navigate url
  | navigateAction action => .navigateAction action
  | observe => .observe
  | find query => .find query
  | click targetId => .click targetId
  | type targetId text => .type targetId text
  | fill targetId text => .fill targetId text
  | clear targetId => .clear targetId
  | select targetId optionIdentity => .select targetId optionIdentity
  | check targetId => .check targetId
  | uncheck targetId => .uncheck targetId
  | submit targetId authId => .submit targetId authId
  | restartBrowser => .ofSteps (Browser.restartBrowser host.installed host.process)

end Browser

end AnnyRuntime
