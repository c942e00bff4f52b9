import AnnyRuntime.Json.Encode
import AnnyRuntime.Lib.Dict

/-!
# The browser broker

The broker keeps one governed browser, the targets that were found on its pages and the
authorizations to submit a form on them.  Its commands come in over connections of their own, each
in a thread of its own and without a common lock, so a command is modelled by the points at which it
reads or writes what the threads share (`Thread.step`).  What the browser and its pages answer is
part of the command.

The listener thread of a connection to the browser handles the requests that are paused
(`matching`); its steps are those of `Browser.Submission`.
-/

namespace AnnyRuntime

namespace Browser

/-- `authorization.PendingSubmissionAuthorization` : the submission the interceptor lets pass. -/
structure PendingSubmissionAuthorization where
  authId : String
  sessionId : String
  targetId : String
  expectedMethod : String
  expectedUrl : String
  expectedFrameId : String
  issuedAt : ℤ
  expiresAt : ℤ
  deriving DecidableEq

/-- A value of `issued_authorizations`.  Times are in the units of the clock. -/
structure IssuedAuthorization where
  targetId : String
  sessionId : String
  expiresAt : ℤ
  expectedMethod : String
  expectedUrl : String
  expectedFrameId : String
  issuedAt : ℤ
  deriving DecidableEq

/-- The authorization that a submission is made from. -/
def PendingSubmissionAuthorization.auth (p : PendingSubmissionAuthorization) :
    IssuedAuthorization where
  targetId := p.targetId
  sessionId := p.sessionId
  expiresAt := p.expiresAt
  expectedMethod := p.expectedMethod
  expectedUrl := p.expectedUrl
  expectedFrameId := p.expectedFrameId
  issuedAt := p.issuedAt

/-- The submission that `submit` makes of an authorization. -/
def IssuedAuthorization.pending (a : IssuedAuthorization) (authId : String) :
    PendingSubmissionAuthorization where
  authId := authId
  sessionId := a.sessionId
  targetId := a.targetId
  expectedMethod := a.expectedMethod
  expectedUrl := a.expectedUrl
  expectedFrameId := a.expectedFrameId
  issuedAt := a.issuedAt
  expiresAt := a.expiresAt

@[simp] theorem IssuedAuthorization.pending_authId (a : IssuedAuthorization) (authId : String) :
    (a.pending authId).authId = authId := rfl

@[simp] theorem IssuedAuthorization.auth_pending (a : IssuedAuthorization) (authId : String) :
    (a.pending authId).auth = a := rfl

/-- A value of `targets`. -/
structure Target where
  backendNodeId : ℕ
  nodeObjId : String
  sessionId : Option String

/-- `BrowserState`, as far as the commands below assign it. -/
inductive BrowserState where
  | launching
  | running
  | navigating
  | hidden
  | closing
  | closed
  | failed
  deriving DecidableEq

/-- The text of a state. -/
def BrowserState.value : BrowserState → String
  | launching => "LAUNCHING"
  | running => "RUNNING"
  | navigating => "NAVIGATING"
  | hidden => "HIDDEN"
  | closing => "CLOSING"
  | closed => "CLOSED"
  | failed => "FAILED"

/-- `BrowserBroker` : what its threads share. -/
structure Broker where
  profileDir : String
  /-- The process of the browser, while it runs. -/
  process : Option ℕ
  browserState : BrowserState
  lastUrl : Option String
  /-- The connection to the browser. -/
  cdpWs : Option ℕ
  sessionId : Option String
  targets : Dict String Target
  pendingSubmission : Option PendingSubmissionAuthorization
  issuedAuthorizations : Dict String IssuedAuthorization

/-- The constructor. -/
def Broker.init (profileDir : String) : Broker where
  profileDir := profileDir
  process := none
  browserState := .closed
  lastUrl := none
  cdpWs := none
  sessionId := none
  targets := .empty
  pendingSubmission := none
  issuedAuthorizations := .empty

/-! ### Responses -/

/-- What a command answers. -/
abbrev Response := List (String × PyVal)

def error (message : String) : Response := [("status", .str "error"), ("message", .str message)]

/-- What the handler of a connection makes of an exception. -/
def internalError : Response := error "Internal broker error"

def notRunning : Response := error "Browser is not running."

/-- A submission that is refused before its authorization is consumed. -/
def submitError (message targetId : String) : Response :=
  error message ++
    [("action", .ofMembers [("type", .str "submit"), ("target_id", .str targetId)])]

/-- `CHROME_BINARY`. -/
def chromeBinary : String := "/usr/bin/google-chrome"

/-! ### Starting and stopping -/

/-- The characters that no URL may have, and how an error names them. -/
def forbidden : List (Char × String) :=
  [('\n', "'\\n'"), ('\r', "'\\r'"), (Char.ofNat 0, "'\\x00'"), (Char.ofNat 96, "'`'"), ('$', "'$'"),
    (';', "';'"), ('|', "'|'"), ('>', "'>'"), ('<', "'<'"), (' ', "' '")]

/-- `_validate_url` : the error, for a URL that is rejected. -/
def validateUrl (url : Option String) : Option String :=
  match url with
  | none | some "" => some "url must be a non-empty string"
  | some u =>
    if ["http://", "https://", "about:"].any fun scheme => scheme.toList.isPrefixOf u.toList then
      (forbidden.find? fun bad => u.toList.contains bad.1).map
        fun bad => "Forbidden character " ++ bad.2 ++ " in url"
    else
      some ("url scheme not allowed. Must start with one of " ++
        "('http://', 'https://', 'about:')")

/-- The steps of `start_browser`, `stop_browser` and `restart_browser`. -/
inductive LifecycleStep where
  /-- `restart_browser` has a URL. -/
  | restartable
  /-- Stop the process, when it runs. -/
  | terminate
  | close
  /-- What `start_browser` checks of its URL, if that is a text; whether the binary exists. -/
  | check (url : Option String) (installed : Bool)
  /-- The same of the last URL. -/
  | recheck (installed : Bool)
  | closeConnection
  | newSession
  | endSession
  | clearTargets
  | clearPending
  | clearIssued
  /-- Launch the process: its number, or the text of the exception. -/
  | launch (process : Except String ℕ)
  /-- `stop_browser` returns. -/
  | stopped

open LifecycleStep in
/-- `start_browser`, once its checks are done. -/
def launchBrowser (process : Except String ℕ) : List LifecycleStep :=
  [closeConnection, newSession, clearTargets, clearPending, clearIssued, launch process]

/-- `start_browser`. -/
def startBrowser (url : Option String) (installed : Bool) (process : Except String ℕ) :
    List LifecycleStep :=
  .check url installed :: launchBrowser process

open LifecycleStep in
/-- `stop_browser`, less what it returns. -/
def stopBrowser : List LifecycleStep :=
  [terminate, close, closeConnection, endSession, clearTargets, clearPending, clearIssued]

/-- `restart_browser`. -/
def restartBrowser (installed : Bool) (process : Except String ℕ) : List LifecycleStep :=
  .restartable :: stopBrowser ++ .recheck installed :: launchBrowser process

/-- What a step comes to: the thread goes on, or it responds. -/
abbrev Progress := Broker × Option Response

/-- The response of `start_browser` for a process. -/
def Broker.launched (b : Broker) (pid : ℕ) : Response :=
  [("pid", .int pid), ("browser_state", .str b.browserState.value),
    ("profile", .str b.profileDir), ("binary", .str chromeBinary)]

namespace LifecycleStep

/-- The checks of `start_browser`. -/
def checked (b : Broker) (url : Option String) (installed : Bool) : Progress :=
  match validateUrl url, b.process with
  | some message, _ => (b, some (error message))
  | none, some pid =>
    (b, some ([("status", .str "ok"), ("message", .str "Browser already running")] ++
      b.launched pid))
  | none, none =>
    if installed then ({ b with browserState := .launching, lastUrl := url }, none)
    else ({ b with browserState := .failed },
      some (error ("Chrome binary not found: " ++ chromeBinary)))

/-- A step; `uuid` is the session that it would begin. -/
def run (uuid : String) (b : Broker) : LifecycleStep → Progress
  | restartable =>
    match b.lastUrl with
    | none | some "" => (b, some (error "No URL to restart to. Use START_BROWSER first."))
    | some _ => (b, none)
  | terminate =>
    (if b.process.isSome then { b with process := none, browserState := .closing } else b, none)
  | close => ({ b with browserState := .closed }, none)
  | check url installed => checked b url installed
  | recheck installed => checked b b.lastUrl installed
  | closeConnection => ({ b with cdpWs := none }, none)
  | newSession => ({ b with sessionId := some uuid }, none)
  | endSession => ({ b with sessionId := none }, none)
  | clearTargets => ({ b with targets := .empty }, none)
  | clearPending => ({ b with pendingSubmission := none }, none)
  | clearIssued => ({ b with issuedAuthorizations := .empty }, none)
  | launch (.ok pid) =>
    let b := { b with process := some pid, browserState := .running }
    (b, some (("status", .str "ok") :: b.launched pid))
  | launch (.error e) =>
    ({ b with process := none, browserState := .failed }, some (error ("Popen failed: " ++ e)))
  | stopped => (b, some [("status", .str "ok"), ("browser_state", .str b.browserState.value)])

end LifecycleStep

/-! ### The other commands -/

/-- What a call into the page answers. -/
inductive CallAnswer (α : Type) where
  /-- The connection fails. -/
  | raised
  | exception (details : String)
  | error (message : String)
  | value (a : α)

/-- An element that the page finds for a query. -/
structure Node where
  backendNodeId : ℕ
  nodeObjId : String
  properties : List (String × PyVal)

/-- `find` : the elements that the page gives before the search ends, and how it ends: with the
error that it raises, if any. -/
structure FindCall where
  nodes : List Node
  failure : Option String

/-- What the page answers to `issue_auth`. -/
structure FormPage where
  /-- Whether the target still has a node. -/
  resolves : Bool
  /-- The frames, and whether they have the mark that was set on the frame of the form, unless a
  call fails. -/
  frames : Option (List (String × Bool))
  /-- The method and the URL of the form. -/
  form : CallAnswer (String × String)

structure IssueCall where
  targetId : String
  sessionId : String
  expiresIn : ℤ
  page : FormPage

/-- The authorization that a call enters. -/
def IssueCall.authorization (call : IssueCall) (now : ℤ) (frameId method action : String)
    (expiresAt : ℤ) : IssuedAuthorization where
  targetId := call.targetId
  sessionId := call.sessionId
  expiresAt := expiresAt
  expectedMethod := method
  expectedUrl := action
  expectedFrameId := frameId
  issuedAt := now

/-- How far `issue_auth` has come. -/
inductive IssuePoint where
  | running
  | target
  | targetSession (record : Target)
  | session
  | page
  | expiry (frameId method action : String)
  | enter (frameId method action : String) (expiresAt : ℤ)

/-- What the page answers to `submit`. -/
structure SubmitPage where
  resolves : Bool
  /-- The call that submits the form. -/
  press : CallAnswer Unit
  /-- The page that is observed afterwards, or why there is none. -/
  observed : Except String PyVal

structure SubmitCall where
  targetId : String
  authId : Option String
  page : SubmitPage

/-- How far `submit` has come. -/
inductive SubmitPoint where
  | running
  | lookup
  | session (authId : String) (auth : IssuedAuthorization)
  | expiry (authId : String) (auth : IssuedAuthorization)
  | consume (authId : String) (auth : IssuedAuthorization)
  | target (pending : PendingSubmissionAuthorization)
  | targetSession (pending : PendingSubmissionAuthorization) (record : Target)
  | resolve (pending : PendingSubmissionAuthorization)
  | arm (pending : PendingSubmissionAuthorization)
  | press (pending : PendingSubmissionAuthorization)

/-- The thread of a command. -/
inductive Thread where
  | lifecycle (todo : List LifecycleStep)
  | findRunning (call : FindCall)
  /-- The targets that were found so far. -/
  | find (call : FindCall) (found : List PyVal)
  /-- The session of a target was read, and the target is entered next. -/
  | findEnter (call : FindCall) (found : List PyVal) (node : Node) (session : Option String)
  | issueAuth (call : IssueCall) (point : IssuePoint)
  | submit (call : SubmitCall) (point : SubmitPoint)
  | responded (response : Response)

/-- What a frame search finds. -/
def FormPage.frameId (frames : List (String × Bool)) : String :=
  ((frames.find? Prod.snd).map Prod.fst).getD ""

/-- `issue_auth`, what it asks the page. -/
def FormPage.answer (page : FormPage) : IssuePoint ⊕ Response :=
  if !page.resolves then .inr (error "TARGET_STALE")
  else match page.frames with
    | none => .inr internalError
    | some frames =>
      if FormPage.frameId frames = "" then .inr (error "FRAME_IDENTITY_MISSING")
      else match page.form with
        | .raised => .inr internalError
        | .exception details => .inr (error details)
        | .error message => .inr (error message)
        | .value (method, action) => .inl (.expiry (FormPage.frameId frames) method action)

namespace Broker

variable (b : Broker)

/-- Respond without a change. -/
def respond (response : Response) : Broker × Thread := (b, .responded response)

/-- The step of `find` that comes next: to read the session for a node, or to respond. -/
def findNext (call : FindCall) (found : List PyVal) : Thread :=
  match call.nodes with
  | node :: nodes => .findEnter ⟨nodes, call.failure⟩ found node b.sessionId
  | [] => .responded (match call.failure with
    | some e => error ("CDP find failed: " ++ e)
    | none => [("status", .str "ok"), ("targets", .list found)])

/-- `find` enters a target. -/
def enterTarget (uuid : String) (node : Node) (session : Option String) : Broker :=
  { b with
    targets := b.targets.set ("bt_" ++ uuid) ⟨node.backendNodeId, node.nodeObjId, session⟩ }

/-- `issue_auth`. -/
def issueAuth (now : ℤ) (uuid : String) (call : IssueCall) : IssuePoint → Broker × Thread
  | .running =>
    if b.process.isNone then b.respond notRunning else (b, .issueAuth call .target)
  | .target =>
    match b.targets.get? call.targetId with
    | none => b.respond (error "TARGET_STALE")
    | some record => (b, .issueAuth call (.targetSession record))
  | .targetSession record =>
    if record.sessionId ≠ b.sessionId then b.respond (error "TARGET_STALE")
    else (b, .issueAuth call .session)
  | .session =>
    if b.sessionId ≠ some call.sessionId then b.respond (error "AUTHORIZATION_SESSION_MISMATCH")
    else (b, .issueAuth call .page)
  | .page =>
    match call.page.answer with
    | .inl point => (b, .issueAuth call point)
    | .inr response => b.respond response
  | .expiry frameId method action =>
    (b, .issueAuth call (.enter frameId method action (now + call.expiresIn)))
  | .enter frameId method action expiresAt =>
    ({ b with
        issuedAuthorizations := b.issuedAuthorizations.set uuid
          (call.authorization now frameId method action expiresAt) },
      .responded [("status", .str "ok"), ("auth_id", .str uuid)])

/-- What `submit` responds when the form was submitted. -/
def submitted (call : SubmitCall) (pending : PendingSubmissionAuthorization) : Response :=
  [("status", .str "ok"),
    ("result", .str (match call.page.observed with
      | .ok _ => "REQUEST_ACCEPTED"
      | .error _ => "POST_ACTION_FAILED")),
    ("action", .ofMembers [("type", .str "submit"), ("target_id", .str call.targetId),
      ("authorization_used", .bool true)]),
    ("request", .ofMembers [("method", .str pending.expectedMethod),
      ("destination", .str pending.expectedUrl)]),
    match call.page.observed with
    | .ok observation => ("observation", observation)
    | .error message => ("observation_error", .str message)]

/-- `submit`.  The authorization is looked up, checked, consumed and armed one after the other; a
call that fails leaves it armed, and so does one that sends no request. -/
def submit (now : ℤ) (call : SubmitCall) : SubmitPoint → Broker × Thread
  | .running =>
    if b.process.isNone then b.respond notRunning else (b, .submit call .lookup)
  | .lookup =>
    match call.authId with
    | none | some "" => b.respond (submitError "MISSING_AUTHORIZATION" call.targetId)
    | some authId =>
      match b.issuedAuthorizations.get? authId with
      | none => b.respond (submitError "INVALID_AUTHORIZATION" call.targetId)
      | some auth => (b, .submit call (.session authId auth))
  | .session authId auth =>
    if some auth.sessionId ≠ b.sessionId then
      b.respond (submitError "AUTHORIZATION_SESSION_MISMATCH" call.targetId)
    else if auth.targetId ≠ call.targetId then
      b.respond (submitError "AUTHORIZATION_TARGET_MISMATCH" call.targetId)
    else (b, .submit call (.expiry authId auth))
  | .expiry authId auth =>
    if auth.expiresAt < now then b.respond (submitError "AUTHORIZATION_EXPIRED" call.targetId)
    else (b, .submit call (.consume authId auth))
  | .consume authId auth =>
    -- deleting what another thread has consumed raises
    match b.issuedAuthorizations.get? authId with
    | none => b.respond internalError
    | some _ =>
      ({ b with issuedAuthorizations := b.issuedAuthorizations.erase authId },
        .submit call (.target (auth.pending authId)))
  | .target pending =>
    match b.targets.get? call.targetId with
    | none => b.respond (error "TARGET_STALE")
    | some record => (b, .submit call (.targetSession pending record))
  | .targetSession pending record =>
    if record.sessionId ≠ b.sessionId then b.respond (error "TARGET_STALE")
    else (b, .submit call (.resolve pending))
  | .resolve pending =>
    if call.page.resolves then (b, .submit call (.arm pending))
    else b.respond (error "TARGET_STALE")
  | .arm pending => ({ b with pendingSubmission := some pending }, .submit call (.press pending))
  | .press pending =>
    match call.page.press with
    | .raised => b.respond internalError
    | .exception details => respond { b with pendingSubmission := none } (error details)
    | .error message => respond { b with pendingSubmission := none } (error message)
    | .value () => b.respond (submitted call pending)

end Broker

/-- The next step of a thread, when it has one. -/
def Thread.step (now : ℤ) (uuid : String) (b : Broker) : Thread → Option (Broker × Thread)
  | .lifecycle [] => none
  | .lifecycle (x :: todo) =>
    match x.run uuid b with
    | (b, none) => some (b, .lifecycle todo)
    | (b, some response) => some (b.respond response)
  | .findRunning call =>
    some (if b.process.isNone then b.respond notRunning else (b, .find call []))
  | .find call found => some (b, b.findNext call found)
  | .findEnter call found node session =>
    some (b.enterTarget uuid node session,
      .find call (found ++ [.ofMembers (("target_id", .str ("bt_" ++ uuid)) :: node.properties)]))
  | .issueAuth call point => some (b.issueAuth now uuid call point)
  | .submit call point => some (b.submit now call point)
  | .responded _ => none

/-! ### The interceptor -/

/-- A request that the browser paused. -/
structure PausedRequest where
  method : String
  url : String
  frameId : String
  deriving DecidableEq

/-- `url.split('#')[0]`. -/
def stripFragment (url : String) : List Char := url.toList.takeWhile (· ≠ '#')

/-- `req_method` : HTTP methods are ASCII. -/
def PausedRequest.reqMethod (r : PausedRequest) : String :=
  String.ofList (r.method.toList.map Char.toUpper)

/-- Reads are let through. -/
def PausedRequest.Safe (r : PausedRequest) : Prop := r.reqMethod ∈ ["GET", "HEAD", "OPTIONS"]

instance (r : PausedRequest) : Decidable r.Safe := inferInstanceAs (Decidable (_ ∈ _))

/-- The request is the one that was authorized. -/
def PendingSubmissionAuthorization.Matches (p : PendingSubmissionAuthorization)
    (r : PausedRequest) : Prop :=
  p.expectedMethod = r.reqMethod ∧ stripFragment r.url = stripFragment p.expectedUrl ∧
    p.expectedFrameId = r.frameId

instance (p : PendingSubmissionAuthorization) (r : PausedRequest) : Decidable (p.Matches r) :=
  inferInstanceAs (Decidable (_ ∧ _ ∧ _))

/-- The authorization that the interceptor consumes for a request, of the one that it has read. -/
def matching (pending : Option PendingSubmissionAuthorization) (r : PausedRequest) :
    Option PendingSubmissionAuthorization :=
  match pending with
  | some p => if p.Matches r then some p else none
  | none => none

theorem matching_eq_some {pending : Option PendingSubmissionAuthorization} {r : PausedRequest}
    {p : PendingSubmissionAuthorization} (h : matching pending r = some p) :
    pending = some p ∧ p.Matches r := by
  unfold matching at h
  split at h
  · split_ifs at h with hm
    cases h
    exact ⟨rfl, hm⟩
  · cases h

end Browser

end AnnyRuntime
