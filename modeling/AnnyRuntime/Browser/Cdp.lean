import AnnyRuntime.Browser.Program
import AnnyRuntime.Lib.Transition

/-!
# The connections to the browser

The threads of the broker with everything that a request to the browser takes: the connection is
looked up or made under one lock, the message is numbered and sent under it again, the listener of a
connection puts a reply into a table under another lock, and the thread takes it out or gives up
(`Call`).  Starting and stopping reset the connection without a lock.

`CdpRun.next` says what one step does and `CdpRun.Step` what that comes to.  The browser answers on
a connection what was sent on it, as the protocol says, at any time or never; a reply may come when
nobody waits for it any more.
-/

namespace AnnyRuntime

namespace Browser

/-- How far a thread is in `_cdp_request`. -/
inductive Call where
  /-- It calls `_get_ws`. -/
  | getWs
  /-- It holds the lock, and there is no connection. -/
  | connecting
  /-- It holds the lock, and has made a connection. -/
  | connected (c : ℕ)
  /-- It holds the lock, and `_get_ws` returns the connection that there is. -/
  | returning
  /-- It sends on this connection. -/
  | send (c : ℕ)
  /-- It holds the lock, and sending raised an exception. -/
  | failing (c : ℕ) (message : String)
  /-- It waits for the reply to this message. -/
  | waiting (c id : ℕ)
  deriving DecidableEq

/-- The connection that a call was given. -/
def Call.connection : Call → Option ℕ
  | send c | failing c _ | waiting c _ => some c
  | _ => none

/-- A thread, and what is recorded of it. -/
structure CdpThread where
  program : Program
  /-- The request that it is in. -/
  call : Option Call := none
  /-- The session of the browser that gave its last reply. -/
  replied : Option String := none
  /-- The identifier that it drew, until it is used for a target. -/
  token : Option String := none
  /-- The requests that it began. -/
  requests : ℕ := 0
  /-- Its other steps. -/
  steps : ℕ := 0
  /-- Its command names a target of an earlier session. -/
  earlier : Bool := false
  /-- Its command is a submission. -/
  submits : Bool := false

/-- The thread goes on with the answer to its request. -/
def CdpThread.answered (th : CdpThread) (a : Except CdpError CdpResult) : CdpThread :=
  match th.program with
  | .request _ _ next => { th with program := next a, call := none }
  | _ => { th with call := none }

/-- The method of the request that a thread is in. -/
def CdpThread.method (th : CdpThread) : String :=
  match th.program with
  | .request method _ _ => method
  | _ => ""

/-- A connection to a browser. -/
structure Connection where
  /-- The session in which the browser at its other end was launched. -/
  session : Option String
  closed : Bool

/-- A message that was sent. -/
structure Sent where
  connection : ℕ
  id : ℕ
  method : String

/-- A reply that arrived. -/
structure Reply where
  serial : ℕ
  connection : ℕ
  id : ℕ
  outcome : Except String CdpResult

/-- What `_cdp_request` makes of a reply. -/
def Reply.answer (r : Reply) : Except CdpError CdpResult :=
  match r.outcome with
  | .ok res => .ok res
  | .error text => .error (.runtime ("CDP Error: " ++ text))

/-- The node that an answer describes. -/
def describedBy (method : String) (a : Except CdpError CdpResult) : Option ℕ :=
  match a with
  | .ok res => if method = "DOM.describeNode" then res.backendNodeId else none
  | .error _ => none

/-- A call that returned with a reply. -/
structure Return where
  connection : ℕ
  id : ℕ
  reply : Reply

/-- A request of a page. -/
structure PageRequest where
  /-- The session of its browser. -/
  session : Option String
  /-- The session that is the current one. -/
  current : Option String
  request : PausedRequest
  /-- Whether it is paused, for the broker to decide. -/
  paused : Bool

/-- The broker, its threads and its connections. -/
structure CdpRun where
  broker : Broker
  now : ℤ
  /-- `_msg_id`. -/
  msgId : ℕ
  /-- The thread that holds `_cdp_lock`. -/
  lock : Option ℕ
  /-- `_cdp_responses`. -/
  responses : Dict ℕ Reply
  threads : Dict ℕ CdpThread
  connections : Dict ℕ Connection
  /-- The sessions in which a browser was launched. -/
  launched : List (Option String)
  drawn : List String
  sent : List Sent
  received : List Reply
  returned : List Return
  pages : List PageRequest
  /-- The nodes that a browser described, and the session of that browser. -/
  observed : List (ℕ × Option String)
  /-- The targets that were entered, and the session of the browser that described them. -/
  found : Dict String (Option String)

/-- What a thread begins with, and the target that its command names. -/
structure Task where
  program : Program
  target : Option String := none
  submits : Bool := false

/-- What the environment decides of the step of a thread. -/
structure Input where
  /-- The identifier that is drawn. -/
  uuid : String := ""
  /-- The connection that is made, and the session of the browser at its other end. -/
  connection : Option (ℕ × Option String) := none
  /-- The exception that sending raises. -/
  failure : Option String := none
  timedOut : Bool := false
  /-- The thread that is started. -/
  thread : ℕ := 0

/-- What can happen. -/
inductive CdpEvent where
  /-- A command comes in. -/
  | command (k : ℕ) (task : Task)
  | run (k : ℕ) (input : Input)
  /-- The reply to a message arrives on a connection. -/
  | receive (c id : ℕ) (outcome : Except String CdpResult)
  /-- A page sends a request; `k` is the thread that handles it if it is paused. -/
  | page (session : Option String) (r : PausedRequest) (requestId : String) (k : ℕ)
  /-- The browser ends by itself. -/
  | exit
  | clock (now : ℤ)

/-- A step of a thread that is not a request. -/
def Program.step (uuid : String) (now : ℤ) (b : Broker) : Program → Option (Broker × Program)
  | running next => some (b, next b.process.isSome)
  | read next => some (b, next b)
  | stamp next => some (b, next b.sessionId)
  | write w next => some (w.apply b, next)
  | consume authId next =>
    some ({ b with issuedAuthorizations := b.issuedAuthorizations.erase authId },
      next (b.issuedAuthorizations.get? authId).isSome)
  | draw next => some (b, next uuid)
  | clock next => some (b, next now)
  | lifecycle x next =>
    match x.run uuid b with
    | (b, none) => some (b, next)
    | (b, some response) => some (b, .respond response)
  | respond _ | request .. | sendAsync .. | start .. => none

/-- The target that a step enters. -/
def Program.enters : Program → Option String
  | write (.target targetId _) _ => some targetId
  | _ => none

/-- The identifier that a thread has for a target after a step. -/
def Program.tokenAfter (uuid : String) (token : Option String) : Program → Option String
  | draw _ => some uuid
  | write (.target ..) _ => none
  | _ => token

/-- The step closes the connection. -/
def Program.closes : Program → Bool
  | lifecycle .closeConnection _ => true
  | _ => false

/-- The step launches a browser. -/
def Program.launches : Program → Bool
  | lifecycle (.launch (.ok _)) _ => true
  | _ => false

/-- A connection is closed. -/
def closeIn (connections : Dict ℕ Connection) (c : Option ℕ) : Dict ℕ Connection :=
  match c.bind fun c => (connections.get? c).map (c, ·) with
  | some (c, conn) => connections.set c { conn with closed := true }
  | none => connections

namespace CdpRun

/-- A new broker. -/
def init (profileDir : String) (now : ℤ) : CdpRun where
  broker := .init profileDir
  now := now
  msgId := 0
  lock := none
  responses := .empty
  threads := .empty
  connections := .empty
  launched := []
  drawn := []
  sent := []
  received := []
  returned := []
  pages := []
  observed := []
  found := .empty

variable (s : CdpRun)

/-- The session of the browser at the other end of a connection. -/
def sessionOf (c : ℕ) : Option String := (s.connections.get? c).bind Connection.session

/-- A connection is open. -/
def isOpen (c : ℕ) : Bool := (s.connections.get? c).any fun conn => !conn.closed

/-- A thread changes, and maybe who holds the lock. -/
def moved (k : ℕ) (th : CdpThread) (lock : Option ℕ) : CdpRun :=
  { s with lock := lock, threads := s.threads.set k th }

/-- A request ends with an exception. -/
def raised (k : ℕ) (th : CdpThread) (lock : Option ℕ) (e : CdpError) : CdpRun :=
  s.moved k (th.answered (.error e)) lock

/-- A message is numbered, and sent on a connection unless that fails. -/
def numbered (c : ℕ) (method : String) (fails : Bool) : CdpRun :=
  { s with
    msgId := s.msgId + 1
    sent := if fails then s.sent else s.sent ++ [⟨c, s.msgId + 1, method⟩] }

/-- A thread takes the reply to its message out of the table. -/
def replied (k : ℕ) (th : CdpThread) (c id : ℕ) (r : Reply) : CdpRun :=
  { s with
    responses := s.responses.erase id
    returned := s.returned ++ [⟨c, id, r⟩]
    observed := s.observed ++
      ((describedBy th.method r.answer).map (·, s.sessionOf r.connection)).toList
    threads := s.threads.set k
      { th.answered r.answer with replied := s.sessionOf r.connection } }

/-- The connection there is was closed and forgotten, since a send failed. -/
def gaveUp (k : ℕ) (th : CdpThread) (message : String) (c : ℕ) : CdpRun :=
  { s.raised k th none (.runtime ("CDP communication failed: " ++ message)) with
    broker := { s.broker with cdpWs := none }
    connections := closeIn s.connections (some c) }

/-- The step of a thread within a request. -/
def callStep (k : ℕ) (th : CdpThread) (input : Input) : Call → Option CdpRun
  | .getWs =>
    if s.lock ≠ none then none
    else some (s.moved k
      { th with call := some (if s.broker.cdpWs = none then .connecting else .returning) } (some k))
  | .connecting =>
    match input.connection with
    | none => some (s.raised k th none (.runtime "CDP WebSocket is unavailable."))
    | some (c, session) =>
      if s.connections.get? c = none ∧ session ∈ s.launched then
        some { s with
          connections := s.connections.set c ⟨session, false⟩
          threads := s.threads.set k { th with call := some (.connected c) } }
      else none
  | .connected c =>
    some { s with
      broker := { s.broker with cdpWs := some c }
      threads := s.threads.set k { th with call := some .returning } }
  | .returning =>
    -- starting or stopping may have reset it in between
    match s.broker.cdpWs with
    | none => some (s.raised k th none (.runtime "CDP WebSocket is unavailable."))
    | some c => some (s.moved k { th with call := some (.send c) } none)
  | .send c =>
    if s.lock ≠ none then none
    else match input.failure with
      | none =>
        if s.isOpen c then
          some ((s.numbered c th.method false).moved k
            { th with call := some (.waiting c (s.msgId + 1)) } none)
        else none
      | some message => some ((s.numbered c th.method true).moved k
          { th with call := some (.failing c message) } (some k))
  | .failing _ message =>
    -- the connection that is closed is the current one, not the one that was sent on
    match s.broker.cdpWs with
    | none => some (s.raised k th none .noConnection)
    | some c => some (s.gaveUp k th message c)
  | .waiting c id =>
    match s.responses.get? id with
    | some r => some (s.replied k th c id r)
    | none =>
      if s.broker.cdpWs = none then
        some (s.raised k th s.lock (.runtime "CDP WebSocket closed while waiting for response."))
      else if input.timedOut then
        some (s.raised k th s.lock (.runtime "CDP request timed out."))
      else none

/-- A step of a thread that is not a request. -/
def ran (k : ℕ) (th : CdpThread) (uuid : String) (b : Broker) (p : Program) : CdpRun :=
  { s with
    broker := b
    threads := s.threads.set k
      { th with
        program := p
        token := th.program.tokenAfter uuid th.token
        steps := th.steps + 1 }
    drawn := uuid :: s.drawn
    connections := if th.program.closes then closeIn s.connections s.broker.cdpWs else s.connections
    launched := if th.program.launches then s.broker.sessionId :: s.launched else s.launched
    found := match th.program.enters with
      | some targetId => s.found.set targetId th.replied
      | none => s.found }

/-- `_send_cdp_async`. -/
def sentAsync (k : ℕ) (th : CdpThread) (method : String) (next : Program) (fails : Bool) : CdpRun :=
  match s.broker.cdpWs with
  | none => s.moved k { th with program := next } none
  | some c => (s.numbered c method (fails || !s.isOpen c)).moved k { th with program := next } none

/-- The step of a thread. -/
def runThread (k : ℕ) (th : CdpThread) (input : Input) : Option CdpRun :=
  match th.call with
  | some call => s.callStep k th input call
  | none =>
    match th.program with
    | .request .. =>
      some (s.moved k { th with call := some .getWs, requests := th.requests + 1 } s.lock)
    | .sendAsync method _ next =>
      if s.lock ≠ none then none
      else some (s.sentAsync k th method next (input.failure.isSome))
    | .start p next =>
      if s.threads.get? input.thread = none then
        some { s with
          threads := (s.threads.set k { th with program := next }).set input.thread
            { program := p } }
      else none
    | p =>
      if input.uuid ∈ s.drawn then none
      else (p.step input.uuid s.now s.broker).map fun bp => s.ran k th input.uuid bp.1 bp.2

/-- The target was found in a session that is over. -/
def isEarlier (target : Option String) : Bool :=
  match target.bind s.found.get? with
  | some (some session) => s.broker.sessionId ≠ some session
  | _ => false

/-- The thread of a command. -/
def commanded (task : Task) : CdpThread where
  program := task.program
  earlier := s.isEarlier task.target
  submits := task.submits

/-- A reply arrives. -/
def arrived (c id : ℕ) (outcome : Except String CdpResult) : CdpRun :=
  { s with
    responses := s.responses.set id ⟨s.received.length, c, id, outcome⟩
    received := s.received ++ [⟨s.received.length, c, id, outcome⟩] }

/-- The browser accepted a method on a connection. -/
def accepted (c : ℕ) (method : String) : Bool :=
  s.sent.any fun m => m.connection = c && m.method = method &&
    s.received.any fun r => r.connection = c && r.id = m.id && r.outcome.toBool

/-- The browser of a session pauses the requests of its pages. -/
def intercepts (session : Option String) : Bool :=
  s.connections.entries.any fun e =>
    e.2.session = session && !e.2.closed && s.accepted e.1 "Fetch.enable"

/-- What an event does, when it can happen. -/
def next : CdpEvent → Option CdpRun
  | .command k task =>
    if s.threads.get? k = none then
      some (s.moved k (s.commanded task) s.lock)
    else none
  | .run k input => (s.threads.get? k).bind fun th => s.runThread k th input
  | .receive c id outcome =>
    if (s.sent.any fun m => m.connection = c && m.id = id) &&
        !(s.received.any fun r => r.connection = c && r.id = id) then
      some (s.arrived c id outcome)
    else none
  | .page session r requestId k =>
    if session ∈ s.launched ∧ s.threads.get? k = none then
      let paused := s.intercepts session
      some { s with
        pages := s.pages ++ [⟨session, s.broker.sessionId, r, paused⟩]
        threads := if paused then s.threads.set k { program := .handleCdpEvent requestId r }
          else s.threads }
    else none
  | .exit => some { s with broker := { s.broker with process := none } }
  | .clock now => some { s with now := now }

end CdpRun

/-- The task of an operation. -/
def Operation.task (host : Host) (op : Operation) : Task where
  program := op.program host
  target := match op with
    | click targetId | type targetId _ | fill targetId _ | clear targetId | select targetId _
    | check targetId | uncheck targetId | issueAuth targetId _ _ | submit targetId _ =>
      Program.textOf targetId
    | _ => none
  submits := match op with
    | submit .. => true
    | _ => false

/-- The runs of a broker whose threads do anything. -/
def cdp : System CdpRun CdpEvent :=
  .ofFn (fun s => ∃ profileDir now, s = .init profileDir now) CdpRun.next

/-- A command is one of the broker's. -/
def IsCommand : CdpRun → CdpEvent → Prop
  | _, .command _ task => ∃ host op, task = Operation.task host op
  | _, _ => True

/-- The runs of the broker. -/
def commands : System CdpRun CdpEvent := cdp.restrict IsCommand

/-! ### What a step does -/

namespace CdpThread

variable (th : CdpThread) (a : Except CdpError CdpResult)

@[simp] theorem call_answered : (th.answered a).call = none := by
  unfold answered
  split <;> rfl

@[simp] theorem requests_answered : (th.answered a).requests = th.requests := by
  unfold answered
  split <;> rfl

@[simp] theorem earlier_answered : (th.answered a).earlier = th.earlier := by
  unfold answered
  split <;> rfl

@[simp] theorem token_answered : (th.answered a).token = th.token := by
  unfold answered
  split <;> rfl

@[simp] theorem replied_answered : (th.answered a).replied = th.replied := by
  unfold answered
  split <;> rfl

end CdpThread

/-- What an event does. -/
inductive CdpRun.Step (s : CdpRun) : CdpEvent → CdpRun → Prop
  | command {k : ℕ} {task : Task} (hk : s.threads.get? k = none) :
    Step s (.command k task)
      (s.moved k (s.commanded task) s.lock)
  | begins {k : ℕ} {input : Input} {th : CdpThread} {method : String} {params : Params}
    {next : Except CdpError CdpResult → Program} (hk : s.threads.get? k = some th)
    (hcall : th.call = none) (hp : th.program = .request method params next) :
    Step s (.run k input)
      (s.moved k { th with call := some .getWs, requests := th.requests + 1 } s.lock)
  | ran {k : ℕ} {input : Input} {th : CdpThread} {b : Broker} {p : Program}
    (hk : s.threads.get? k = some th) (hcall : th.call = none) (hu : input.uuid ∉ s.drawn)
    (hstep : th.program.step input.uuid s.now s.broker = some (b, p)) :
    Step s (.run k input) (s.ran k th input.uuid b p)
  | started {k : ℕ} {input : Input} {th : CdpThread} {p next : Program}
    (hk : s.threads.get? k = some th) (hcall : th.call = none)
    (hp : th.program = .start p next) (hj : s.threads.get? input.thread = none) :
    Step s (.run k input)
      { s with
        threads := (s.threads.set k { th with program := next }).set input.thread
          { program := p } }
  | sentAsync {k : ℕ} {input : Input} {th : CdpThread} {method : String} {params : Params}
    {next : Program} (fails : Bool) (hk : s.threads.get? k = some th) (hcall : th.call = none)
    (hp : th.program = .sendAsync method params next) :
    Step s (.run k input) (s.sentAsync k th method next fails)
  | moved {k : ℕ} {input : Input} {th : CdpThread} {call call' : Call} (lock : Option ℕ)
    (hk : s.threads.get? k = some th) (hcall : th.call = some call)
    (hwaits : ∀ c id, call' ≠ .waiting c id) :
    Step s (.run k input) (s.moved k { th with call := some call' } lock)
  | connected {k : ℕ} {input : Input} {th : CdpThread} {c : ℕ} {session : Option String}
    (hk : s.threads.get? k = some th) (hcall : th.call = some .connecting)
    (hc : s.connections.get? c = none) :
    Step s (.run k input)
      { s with
        connections := s.connections.set c ⟨session, false⟩
        threads := s.threads.set k { th with call := some (.connected c) } }
  | assigned {k : ℕ} {input : Input} {th : CdpThread} {c : ℕ}
    (hk : s.threads.get? k = some th) (hcall : th.call = some (.connected c)) :
    Step s (.run k input)
      { s with
        broker := { s.broker with cdpWs := some c }
        threads := s.threads.set k { th with call := some .returning } }
  | sent {k : ℕ} {input : Input} {th : CdpThread} {c : ℕ} (hk : s.threads.get? k = some th)
    (hcall : th.call = some (.send c)) :
    Step s (.run k input)
      ((s.numbered c th.method false).moved k
        { th with call := some (.waiting c (s.msgId + 1)) } none)
  | failed {k : ℕ} {input : Input} {th : CdpThread} {c : ℕ} {message : String}
    (hk : s.threads.get? k = some th) (hcall : th.call = some (.send c)) :
    Step s (.run k input)
      ((s.numbered c th.method true).moved k { th with call := some (.failing c message) } (some k))
  | raised {k : ℕ} {input : Input} {th : CdpThread} {call : Call} (lock : Option ℕ)
    (e : CdpError) (hk : s.threads.get? k = some th) (hcall : th.call = some call) :
    Step s (.run k input) (s.raised k th lock e)
  | gaveUp {k : ℕ} {input : Input} {th : CdpThread} {c c' : ℕ} {message : String}
    (hk : s.threads.get? k = some th) (hcall : th.call = some (.failing c message))
    (hws : s.broker.cdpWs = some c') : Step s (.run k input) (s.gaveUp k th message c')
  | replied {k : ℕ} {input : Input} {th : CdpThread} {c id : ℕ} {r : Reply}
    (hk : s.threads.get? k = some th) (hcall : th.call = some (.waiting c id))
    (hr : s.responses.get? id = some r) : Step s (.run k input) (s.replied k th c id r)
  | arrived {c id : ℕ} (outcome : Except String CdpResult)
    (hsent : ∃ m ∈ s.sent, m.connection = c ∧ m.id = id) :
    Step s (.receive c id outcome) (s.arrived c id outcome)
  | page {session : Option String} {r : PausedRequest} {requestId : String} {k : ℕ}
    (hk : s.threads.get? k = none) :
    Step s (.page session r requestId k)
      { s with
        pages := s.pages ++ [⟨session, s.broker.sessionId, r, s.intercepts session⟩]
        threads := if s.intercepts session then
          s.threads.set k { program := .handleCdpEvent requestId r } else s.threads }
  | exit : Step s .exit { s with broker := { s.broker with process := none } }
  | clock (now : ℤ) : Step s (.clock now) { s with now := now }

namespace CdpRun

variable {s t : CdpRun}

/-- The step of a thread within a request. -/
theorem callStep_step {k : ℕ} {th : CdpThread} {input : Input} {call : Call}
    (hk : s.threads.get? k = some th) (hcall : th.call = some call)
    (h : s.callStep k th input call = some t) : s.Step (.run k input) t := by
  cases call with
  | getWs =>
    simp only [callStep, Option.ite_none_left_eq_some, Option.some.injEq] at h
    obtain ⟨-, rfl⟩ := h
    exact .moved (some k) hk hcall (by split_ifs <;> exact fun _ _ h => Call.noConfusion h)
  | connecting =>
    simp only [callStep] at h
    split at h
    · cases h
      exact .raised none _ hk hcall
    · simp only [Option.ite_none_right_eq_some, Option.some.injEq] at h
      obtain ⟨⟨hc, -⟩, rfl⟩ := h
      exact .connected hk hcall hc
  | connected c =>
    cases h
    exact .assigned hk hcall
  | returning =>
    simp only [callStep] at h
    split at h
    · -- the connection was reset in between
      cases h
      exact .raised none _ hk hcall
    · cases h
      exact .moved none hk hcall (fun _ _ h => Call.noConfusion h)
  | send c =>
    simp only [callStep, Option.ite_none_left_eq_some] at h
    obtain ⟨-, h⟩ := h
    split at h
    · simp only [Option.ite_none_right_eq_some, Option.some.injEq] at h
      obtain ⟨-, rfl⟩ := h
      exact .sent hk hcall
    · cases h
      exact .failed hk hcall
  | failing c message =>
    simp only [callStep] at h
    split at h
    · cases h
      exact .raised none _ hk hcall
    · rename_i c' hws
      cases h
      exact .gaveUp hk hcall hws
  | waiting c id =>
    simp only [callStep] at h
    split at h
    · rename_i r hr
      cases h
      exact .replied hk hcall hr
    · split_ifs at h
      · cases h
        exact .raised s.lock _ hk hcall
      · cases h
        exact .raised s.lock _ hk hcall

/-- The step of a thread. -/
theorem runThread_step {k : ℕ} {th : CdpThread} {input : Input}
    (hk : s.threads.get? k = some th) (h : s.runThread k th input = some t) :
    s.Step (.run k input) t := by
  unfold runThread at h
  split at h
  · rename_i call hcall
    exact callStep_step hk hcall h
  · rename_i hcall
    split at h
    · rename_i hp
      cases h
      exact .begins hk hcall hp
    · rename_i hp
      simp only [Option.ite_none_left_eq_some, Option.some.injEq] at h
      obtain ⟨-, rfl⟩ := h
      exact .sentAsync _ hk hcall hp
    · rename_i hp
      simp only [Option.ite_none_right_eq_some, Option.some.injEq] at h
      obtain ⟨hj, rfl⟩ := h
      exact .started hk hcall hp hj
    · simp only [Option.ite_none_left_eq_some, Option.map_eq_some_iff] at h
      obtain ⟨hu, ⟨b, p⟩, hstep, rfl⟩ := h
      exact .ran hk hcall hu hstep

/-- **What an event does.** -/
theorem next_step {e : CdpEvent} (h : s.next e = some t) : s.Step e t := by
  cases e with
  | command k task =>
    simp only [next, Option.ite_none_right_eq_some, Option.some.injEq] at h
    obtain ⟨hk, rfl⟩ := h
    exact .command hk
  | run k input =>
    obtain ⟨th, hk, h⟩ := Option.bind_eq_some_iff.1 h
    exact runThread_step hk h
  | receive c id outcome =>
    simp only [next, Option.ite_none_right_eq_some, Option.some.injEq, Bool.and_eq_true,
      List.any_eq_true, decide_eq_true_eq] at h
    obtain ⟨⟨hsent, -⟩, rfl⟩ := h
    exact .arrived outcome hsent
  | page session r requestId k =>
    simp only [next, Option.ite_none_right_eq_some, Option.some.injEq] at h
    obtain ⟨⟨-, hk⟩, rfl⟩ := h
    exact .page hk
  | exit =>
    cases h
    exact .exit
  | clock now =>
    cases h
    exact .clock now

theorem reachable_commands {events : List CdpEvent} (hok : ∀ s, ∀ e ∈ events, IsCommand s e)
    (h : System.runFn next (.init "colab" 0) events = some t) : commands.Reachable t :=
  System.reachable_restrict_runFn (.init ⟨"colab", 0, rfl⟩) hok h

/-! ### Parts of runs -/

/-- A command comes in. -/
def ask (k : ℕ) (op : Operation) : CdpEvent :=
  .command k (op.task ⟨true, .ok 4242, .missing, false⟩)

/-- A thread takes steps, with these identifiers. -/
def steps (k : ℕ) (uuids : List String) : List CdpEvent :=
  uuids.map fun uuid => .run k { uuid := uuid }

/-- The browser is started, with a session. -/
def startRun (k : ℕ) (session : String) : List CdpEvent :=
  ask k (.startBrowser (.str "https://example.org/")) ::
    steps k (["a", "b", "", "c", "d", "e", "f"].map (session ++ ·))

/-- The browser is restarted, with a session. -/
def restartRun (k : ℕ) (session : String) : List CdpEvent :=
  ask k .restartBrowser :: steps k
    (["a", "b", "c", "d", "e", "f", "g", "h", "i", "j", "", "k", "l", "m", "n"].map (session ++ ·))

/-- A request begins and makes a connection. -/
def connectRun (k c : ℕ) (session : String) : List CdpEvent :=
  [.run k {}, .run k {}, .run k { connection := some (c, some session) }, .run k {}, .run k {}]

/-- A request begins on the connection there is. -/
def acquireRun (k : ℕ) : List CdpEvent := [.run k {}, .run k {}, .run k {}]

/-- A request is sent and answered. -/
def answerRun (k c id : ℕ) (res : CdpResult) : List CdpEvent :=
  [.run k {}, .receive c id (.ok res), .run k {}]

section Commands

variable (s : CdpRun) (k : ℕ)

theorem isCommand_ask (op : Operation) : IsCommand s (ask k op) := ⟨_, op, rfl⟩

theorem isCommand_steps (uuids : List String) : ∀ e ∈ steps k uuids, IsCommand s e := by
  intro e he
  obtain ⟨uuid, -, rfl⟩ := List.mem_map.1 he
  trivial

theorem isCommand_startRun (session : String) : ∀ e ∈ startRun k session, IsCommand s e :=
  List.forall_mem_cons.2 ⟨isCommand_ask s k _, isCommand_steps s k _⟩

theorem isCommand_restartRun (session : String) : ∀ e ∈ restartRun k session, IsCommand s e :=
  List.forall_mem_cons.2 ⟨isCommand_ask s k _, isCommand_steps s k _⟩

theorem isCommand_connectRun (c : ℕ) (session : String) :
    ∀ e ∈ connectRun k c session, IsCommand s e := by
  simp [connectRun, IsCommand]

theorem isCommand_acquireRun : ∀ e ∈ acquireRun k, IsCommand s e := by
  simp [acquireRun, IsCommand]

theorem isCommand_answerRun (c id : ℕ) (res : CdpResult) :
    ∀ e ∈ answerRun k c id res, IsCommand s e := by
  simp [answerRun, IsCommand]

end Commands

end CdpRun

end Browser

end AnnyRuntime
