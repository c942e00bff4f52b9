import AnnyRuntime.Browser.Broker
import AnnyRuntime.Lib.Transition

/-!
# The threads of the broker

Commands run in threads of their own, the listeners of the connections to the browser handle the
requests that it pauses, and the answer to a request that was matched is sent by one more thread
(`BrowserRun.next`).  `Thread.Effect` says what the step of a command can do to what they share.

* `Sound.holds` : **in every run, an authorization that is looked up, carried, armed or held for a
  request was issued**, in the session that it names once that was checked.
-/

namespace AnnyRuntime

namespace Browser

/-! ### What the step of a thread does -/

/-- The authorization that a thread has looked up. -/
def Thread.looked : Thread → Option (String × IssuedAuthorization)
  | .submit _ (.session authId auth) => some (authId, auth)
  | _ => none

/-- The authorization that a thread has looked up in its session. -/
def Thread.checked : Thread → Option (String × IssuedAuthorization)
  | .submit _ (.expiry authId auth) | .submit _ (.consume authId auth) => some (authId, auth)
  | _ => none

/-- The authorization that a thread has consumed, but not armed yet. -/
def Thread.carried : Thread → Option PendingSubmissionAuthorization
  | .submit _ (.target p) | .submit _ (.targetSession p _) | .submit _ (.resolve p)
  | .submit _ (.arm p) => some p
  | _ => none

/-- The session for which a thread is going to enter an authorization. -/
def Thread.bound : Thread → Option String
  | .issueAuth call .page | .issueAuth call (.expiry ..) | .issueAuth call (.enter ..) =>
    some call.sessionId
  | _ => none

/-- What is left of starting and stopping. -/
def Thread.todo : Thread → Option (List LifecycleStep)
  | .lifecycle todo => some todo
  | _ => none

/-- Nothing that submissions depend on has changed. -/
structure Broker.SameShared (b b' : Broker) : Prop where
  cdpWs : b'.cdpWs = b.cdpWs
  sessionId : b'.sessionId = b.sessionId
  pending : b'.pendingSubmission = b.pendingSubmission
  issued : b'.issuedAuthorizations = b.issuedAuthorizations

/-- What the step of a thread can do. -/
inductive Thread.Effect (now : ℤ) (uuid : String) (b : Broker) : Thread → Broker → Thread → Prop
  | lifecycle (x : LifecycleStep) (todo : List LifecycleStep) :
    Effect now uuid b (.lifecycle (x :: todo)) (x.run uuid b).1
      (match (x.run uuid b).2 with
      | none => .lifecycle todo
      | some response => .responded response)
  | quiet {th : Thread} {b' : Broker} {th' : Thread} (shared : b.SameShared b')
    (looked : th'.looked = none) (checked : th'.checked = none ∨ th'.checked = th.checked)
    (carried : th'.carried = none ∨ th'.carried = th.carried)
    (bound : th'.bound = none ∨ th'.bound = th.bound) (todo : th.todo = none ∧ th'.todo = none) :
    Effect now uuid b th b' th'
  | lookup (call : SubmitCall) {authId : String} {auth : IssuedAuthorization}
    (h : b.issuedAuthorizations.get? authId = some auth) :
    Effect now uuid b (.submit call .lookup) b (.submit call (.session authId auth))
  | check (call : SubmitCall) {authId : String} {auth : IssuedAuthorization}
    (h : b.sessionId = some auth.sessionId) :
    Effect now uuid b (.submit call (.session authId auth)) b
      (.submit call (.expiry authId auth))
  | bind (call : IssueCall) (h : b.sessionId = some call.sessionId) :
    Effect now uuid b (.issueAuth call .session) b (.issueAuth call .page)
  | enter (call : IssueCall) (frameId method action : String) (expiresAt : ℤ)
    (response : Response) :
    Effect now uuid b (.issueAuth call (.enter frameId method action expiresAt))
      { b with
        issuedAuthorizations := b.issuedAuthorizations.set uuid
          (call.authorization now frameId method action expiresAt) } (.responded response)
  | consume (call : SubmitCall) {authId : String} {auth auth' : IssuedAuthorization}
    (h : b.issuedAuthorizations.get? authId = some auth') :
    Effect now uuid b (.submit call (.consume authId auth))
      { b with issuedAuthorizations := b.issuedAuthorizations.erase authId }
      (.submit call (.target (auth.pending authId)))
  | arm (call : SubmitCall) (p : PendingSubmissionAuthorization) :
    Effect now uuid b (.submit call (.arm p)) { b with pendingSubmission := some p }
      (.submit call (.press p))
  | release (call : SubmitCall) (p : PendingSubmissionAuthorization) (response : Response) :
    Effect now uuid b (.submit call (.press p)) { b with pendingSubmission := none }
      (.responded response)

namespace Thread

variable {now : ℤ} {uuid : String} {b b' : Broker} {th th' : Thread}

theorem Effect.respond (hth : th.todo = none) (r : Response) :
    Effect now uuid b th (b.respond r).1 (b.respond r).2 :=
  .quiet ⟨rfl, rfl, rfl, rfl⟩ rfl (.inl rfl) (.inl rfl) (.inl rfl) ⟨hth, rfl⟩

theorem effect_issueAuth (now : ℤ) (uuid : String) (b : Broker) (call : IssueCall)
    (point : IssuePoint) :
    Effect now uuid b (.issueAuth call point) (b.issueAuth now uuid call point).1
      (b.issueAuth now uuid call point).2 := by
  cases point with
  | session =>
    simp only [Broker.issueAuth]
    split_ifs with h
    · exact .respond rfl _
    · exact .bind call (not_not.1 h)
  | page =>
    simp only [Broker.issueAuth]
    -- the page can only answer with an error or go on to the expiry
    have hanswer : ∀ point', call.page.answer = .inl point' →
        ∃ f m a, point' = .expiry f m a := by
      intro point' h
      simp only [FormPage.answer] at h
      grind
    split
    · rename_i point' h
      obtain ⟨f, m, a, rfl⟩ := hanswer _ h
      exact .quiet ⟨rfl, rfl, rfl, rfl⟩ rfl (.inl rfl) (.inl rfl) (.inr rfl) ⟨rfl, rfl⟩
    · exact .respond rfl _
  | enter f m a e => exact .enter call f m a e _
  | expiry f m a =>
    exact .quiet ⟨rfl, rfl, rfl, rfl⟩ rfl (.inl rfl) (.inl rfl) (.inr rfl) ⟨rfl, rfl⟩
  | running | target | targetSession record =>
    simp only [Broker.issueAuth]
    split <;> exact .quiet ⟨rfl, rfl, rfl, rfl⟩ rfl (.inl rfl) (.inl rfl) (.inl rfl) ⟨rfl, rfl⟩

theorem effect_submit (now : ℤ) (uuid : String) (b : Broker) (call : SubmitCall)
    (point : SubmitPoint) :
    Effect now uuid b (.submit call point) (b.submit now call point).1
      (b.submit now call point).2 := by
  cases point with
  | running =>
    simp only [Broker.submit]
    split <;> exact .quiet ⟨rfl, rfl, rfl, rfl⟩ rfl (.inl rfl) (.inl rfl) (.inl rfl) ⟨rfl, rfl⟩
  | lookup =>
    simp only [Broker.submit]
    split
    · exact .respond rfl _
    · exact .respond rfl _
    · split
      · exact .respond rfl _
      · rename_i h
        exact .lookup call h
  | session authId auth =>
    simp only [Broker.submit]
    split_ifs with hs ht
    · exact .respond rfl _
    · exact .respond rfl _
    · exact .check call (not_not.1 hs).symm
  | expiry authId auth =>
    simp only [Broker.submit]
    split
    · exact .respond rfl _
    · exact .quiet ⟨rfl, rfl, rfl, rfl⟩ rfl (.inr rfl) (.inl rfl) (.inl rfl) ⟨rfl, rfl⟩
  | consume authId auth =>
    simp only [Broker.submit]
    split
    · exact .respond rfl _
    · rename_i h
      exact .consume call h
  -- nothing is looked up again from here on: what `p` says was checked above
  | arm p => exact .arm call p
  | press p =>
    simp only [Broker.submit]
    split
    · exact .respond rfl _
    · exact .release call p _
    · exact .release call p _
    · exact .respond rfl _
  | target p | targetSession p record | resolve p =>
    simp only [Broker.submit]
    split
    all_goals first
      | exact .respond rfl _
      | exact .quiet ⟨rfl, rfl, rfl, rfl⟩ rfl (.inl rfl) (.inr rfl) (.inl rfl) ⟨rfl, rfl⟩

theorem todo_findNext (call : FindCall) (found : List PyVal) :
    (b.findNext call found).looked = none ∧ (b.findNext call found).checked = none ∧
      (b.findNext call found).carried = none ∧ (b.findNext call found).bound = none ∧
      (b.findNext call found).todo = none := by
  unfold Broker.findNext
  split <;> exact ⟨rfl, rfl, rfl, rfl, rfl⟩

/-- **What the step of a thread does.** -/
theorem step_effect (h : th.step now uuid b = some (b', th')) : Effect now uuid b th b' th' := by
  cases th with
  | lifecycle todo =>
    cases todo with
    | nil => cases h
    | cons x todo =>
      have heffect : Effect now uuid b (.lifecycle (x :: todo)) _ _ := .lifecycle x todo
      simp only [step] at h
      split at h <;> rename_i heq <;> cases h <;> simpa only [heq] using heffect
  | findRunning call =>
    simp only [step, Option.some.injEq] at h
    split_ifs at h <;> cases h <;>
      exact .quiet ⟨rfl, rfl, rfl, rfl⟩ rfl (.inl rfl) (.inl rfl) (.inl rfl) ⟨rfl, rfl⟩
  | find call found =>
    cases h
    -- a FIND holds no authorization, whatever it does next
    obtain ⟨h₁, h₂, h₃, h₄, h₅⟩ := todo_findNext (b := b) call found
    exact .quiet ⟨rfl, rfl, rfl, rfl⟩ h₁ (.inl h₂) (.inl h₃) (.inl h₄) ⟨rfl, h₅⟩
  | findEnter call found node session =>
    cases h
    exact .quiet ⟨rfl, rfl, rfl, rfl⟩ rfl (.inl rfl) (.inl rfl) (.inl rfl) ⟨rfl, rfl⟩
  | issueAuth call point =>
    have heffect := effect_issueAuth now uuid b call point
    rwa [Option.some.inj h] at heffect
  | submit call point =>
    have heffect := effect_submit now uuid b call point
    rwa [Option.some.inj h] at heffect
  | responded r => cases h

end Thread

/-! ### What a step takes from where -/

namespace LifecycleStep

variable (uuid : String) (b : Broker) (x : LifecycleStep)

/-- A check changes nothing that submissions depend on. -/
theorem sameShared_checked (url : Option String) (installed : Bool) :
    b.SameShared (checked b url installed).1 := by
  unfold checked
  split
  · exact ⟨rfl, rfl, rfl, rfl⟩
  · exact ⟨rfl, rfl, rfl, rfl⟩
  · split <;> exact ⟨rfl, rfl, rfl, rfl⟩

/-- What the steps of starting and stopping may do to what submissions depend on. -/
theorem run_shared : b.SameShared (x.run uuid b).1 ∨
    (x = closeConnection ∨ x = newSession ∨ x = endSession ∨ x = clearTargets ∨ x = clearPending ∨
      x = clearIssued) ∧ (x.run uuid b).2 = none := by
  cases x with
  | closeConnection | newSession | endSession | clearTargets | clearPending | clearIssued =>
    exact .inr ⟨by simp, rfl⟩
  | check url installed => exact .inl (sameShared_checked b url installed)
  | recheck installed => exact .inl (sameShared_checked b _ installed)
  | terminate =>
    refine .inl ?_
    simp only [run]
    split <;> exact ⟨rfl, rfl, rfl, rfl⟩
  | restartable =>
    refine .inl ?_
    simp only [run]
    split <;> exact ⟨rfl, rfl, rfl, rfl⟩
  | launch process => cases process <;> exact .inl ⟨rfl, rfl, rfl, rfl⟩
  | close | stopped => exact .inl ⟨rfl, rfl, rfl, rfl⟩

theorem run_cdpWs : (x.run uuid b).1.cdpWs = b.cdpWs ∨ (x.run uuid b).1.cdpWs = none := by
  obtain h | ⟨rfl | rfl | rfl | rfl | rfl | rfl, -⟩ := run_shared uuid b x
  · exact .inl h.cdpWs
  · exact .inr rfl
  all_goals exact .inl rfl

end LifecycleStep

/-! ### Runs -/

/-- A command. -/
inductive Command where
  | start (url : Option String) (installed : Bool) (process : Except String ℕ)
  | stop
  | restart (installed : Bool) (process : Except String ℕ)
  | find (call : FindCall)
  | issueAuth (call : IssueCall)
  | submit (call : SubmitCall)

/-- The thread of a command. -/
def Command.thread : Command → Thread
  | start url installed process => .lifecycle (startBrowser url installed process)
  | stop => .lifecycle (stopBrowser ++ [.stopped])
  | restart installed process => .lifecycle (restartBrowser installed process)
  | find call => .findRunning call
  | issueAuth call => .issueAuth call .running
  | submit call => .submit call .running

/-- The listener of a connection. -/
structure Listener where
  /-- The session of the browser at its other end. -/
  session : Option String
  /-- The request that it handles, and the authorization that it read for it. -/
  handling : Option (PausedRequest × Option PendingSubmissionAuthorization)

/-- The thread that lets a matched request pass. -/
structure Continuation where
  connection : ℕ
  session : Option String
  request : PausedRequest
  pending : PendingSubmissionAuthorization

/-- An authorization that was issued, and the session in which it was. -/
structure Issue where
  authId : String
  auth : IssuedAuthorization
  session : Option String
  deriving DecidableEq

/-- What became of a request that was paused. -/
inductive Outcome where
  /-- It is a read, and passed. -/
  | passed
  /-- It was continued with this authorization. -/
  | continued (authId : String)
  | failed
  /-- No answer reached its browser. -/
  | dropped
  deriving DecidableEq

/-- A request that was answered. -/
structure Handled where
  request : PausedRequest
  /-- The session of the browser that paused it. -/
  session : Option String
  time : ℤ
  outcome : Outcome
  deriving DecidableEq

/-- The authorization that a request was continued with. -/
def Handled.authId (h : Handled) : Option String :=
  match h.outcome with
  | .continued authId => some authId
  | _ => none

/-- The broker with its threads. -/
structure BrowserRun where
  broker : Broker
  now : ℤ
  threads : Dict ℕ Thread
  listeners : Dict ℕ Listener
  continuing : Dict ℕ Continuation
  /-- The identifiers that were drawn. -/
  drawn : List String
  issuedLog : List Issue
  handled : List Handled

/-- What can happen. -/
inductive Event where
  /-- A command comes in. -/
  | command (k : ℕ) (c : Command)
  /-- A thread takes a step; `uuid` is the identifier that it draws, if it does. -/
  | run (k : ℕ) (uuid : String)
  /-- A call of some thread makes a connection to the browser. -/
  | connect (c : ℕ)
  /-- The connection is given up, since sending failed. -/
  | disconnect
  /-- A listener gets a request that was paused, and reads the authorization that is armed. -/
  | pause (c : ℕ) (r : PausedRequest)
  /-- It compares the two, and starts a thread or sends the refusal. -/
  | decide (c j : ℕ) (sent : Bool)
  /-- The thread for a matched request sends its answer. -/
  | resume (j : ℕ) (sent : Bool)
  /-- The browser ends by itself. -/
  | exit
  /-- Another command assigns the last URL and the state. -/
  | activity (url : Option String) (state : BrowserState)
  | clock (now : ℤ)

/-- What a step enters. -/
def Thread.issue (now : ℤ) (uuid : String) (b : Broker) : Thread → Option Issue
  | .issueAuth call (.enter frameId method action expiresAt) =>
    some ⟨uuid, call.authorization now frameId method action expiresAt, b.sessionId⟩
  | _ => none

namespace Thread.Effect

variable {now : ℤ} {uuid : String} {b b' : Broker} {th th' : Thread}

theorem sessionId (h : Effect now uuid b th b' th') :
    b'.sessionId = b.sessionId ∨ b'.sessionId = some uuid ∨ b'.sessionId = none := by
  cases h with
  | lifecycle x todo =>
    obtain h | ⟨rfl | rfl | rfl | rfl | rfl | rfl, -⟩ := x.run_shared uuid b
    · exact .inl h.sessionId
    · exact .inl rfl
    · exact .inr (.inl rfl)
    · exact .inr (.inr rfl)
    all_goals exact .inl rfl
  | quiet shared => exact .inl shared.sessionId
  | _ => exact .inl rfl

theorem pending (h : Effect now uuid b th b' th') {p : PendingSubmissionAuthorization}
    (hp : b'.pendingSubmission = some p) :
    b.pendingSubmission = some p ∨ ∃ call, th = .submit call (.arm p) := by
  cases h with
  | lifecycle x todo =>
    obtain h | ⟨rfl | rfl | rfl | rfl | rfl | rfl, -⟩ := x.run_shared uuid b
    · exact .inl (h.pending ▸ hp)
    case inr.inr.inr.inr.inr.inl => cases hp
    all_goals exact .inl hp
  | quiet shared => exact .inl (shared.pending ▸ hp)
  | arm call p' =>
    cases hp
    exact .inr ⟨call, rfl⟩
  | release => cases hp
  | _ => exact .inl hp

theorem issued (h : Effect now uuid b th b' th') {authId : String} {auth : IssuedAuthorization}
    (ha : b'.issuedAuthorizations.get? authId = some auth) :
    b.issuedAuthorizations.get? authId = some auth ∨
      authId = uuid ∧ th.issue now uuid b = some ⟨uuid, auth, b.sessionId⟩ ∧
        th.bound = some auth.sessionId ∧ b'.sessionId = b.sessionId := by
  cases h with
  | lifecycle x todo =>
    obtain h | ⟨rfl | rfl | rfl | rfl | rfl | rfl, -⟩ := x.run_shared uuid b
    · exact .inl (h.issued ▸ ha)
    case inr.inr.inr.inr.inr.inr => cases ha
    all_goals exact .inl ha
  | quiet shared => exact .inl (shared.issued ▸ ha)
  | enter call f m a e r =>
    obtain ⟨rfl, rfl⟩ | ⟨-, ha⟩ := Dict.of_get?_set ha
    · exact .inr ⟨rfl, rfl, rfl, rfl⟩
    · exact .inl ha
  | consume call hget =>
    exact .inl (Dict.of_get?_erase ha).2
  | _ => exact .inl ha

theorem looked (h : Effect now uuid b th b' th') {authId : String} {auth : IssuedAuthorization}
    (ha : th'.looked = some (authId, auth)) :
    b.issuedAuthorizations.get? authId = some auth := by
  cases h with
  | lifecycle x todo => split at ha <;> cases ha
  | quiet _ hlooked => cases hlooked.symm.trans ha
  | lookup call hget =>
    cases ha
    exact hget
  | _ => cases ha

theorem checked (h : Effect now uuid b th b' th') {authId : String} {auth : IssuedAuthorization}
    (ha : th'.checked = some (authId, auth)) :
    th.checked = some (authId, auth) ∨
      th.looked = some (authId, auth) ∧ b.sessionId = some auth.sessionId := by
  cases h with
  | lifecycle x todo => split at ha <;> cases ha
  | quiet _ _ hchecked =>
    obtain hnone | hsame := hchecked
    · cases hnone.symm.trans ha
    · exact .inl (hsame ▸ ha)
  | check call hsession =>
    cases ha
    exact .inr ⟨rfl, hsession⟩
  | _ => cases ha

theorem carried (h : Effect now uuid b th b' th') {p : PendingSubmissionAuthorization}
    (hp : th'.carried = some p) :
    th.carried = some p ∨
      ∃ auth, th.checked = some (p.authId, auth) ∧ p = auth.pending p.authId ∧
        (b.issuedAuthorizations.get? p.authId).isSome ∧
        b'.issuedAuthorizations = b.issuedAuthorizations.erase p.authId := by
  cases h with
  | lifecycle x todo => split at hp <;> cases hp
  | quiet _ _ _ hcarried =>
    obtain hnone | hsame := hcarried
    · cases hnone.symm.trans hp
    · exact .inl (hsame ▸ hp)
  | consume call hget =>
    cases hp
    exact .inr ⟨_, rfl, rfl, Option.isSome_iff_exists.2 ⟨_, hget⟩, rfl⟩
  | _ => cases hp

theorem bound (h : Effect now uuid b th b' th') {x : String} (hx : th'.bound = some x) :
    th.bound = some x ∨ b.sessionId = some x := by
  cases h with
  | lifecycle x todo => split at hx <;> cases hx
  | quiet _ _ _ _ hbound =>
    obtain hnone | hsame := hbound
    · cases hnone.symm.trans hx
    · exact .inl (hsame ▸ hx)
  | bind call hsession =>
    cases hx
    exact .inr hsession
  | _ => cases hx

end Thread.Effect

namespace BrowserRun

/-- A new broker. -/
def init (profileDir : String) (now : ℤ) : BrowserRun where
  broker := .init profileDir
  now := now
  threads := .empty
  listeners := .empty
  continuing := .empty
  drawn := []
  issuedLog := []
  handled := []

variable (s : BrowserRun)

/-- A listener gets a request. -/
def pause (c : ℕ) (r : PausedRequest) (session : Option String) : BrowserRun :=
  if r.Safe then { s with handled := s.handled ++ [⟨r, session, s.now, .passed⟩] }
  else { s with listeners := s.listeners.set c ⟨session, some (r, s.broker.pendingSubmission)⟩ }

/-- A listener consumes the authorization for its request. -/
def consume (c j : ℕ) (session : Option String) (r : PausedRequest)
    (p : PendingSubmissionAuthorization) : BrowserRun :=
  { s with
    broker := { s.broker with pendingSubmission := none }
    listeners := s.listeners.set c ⟨session, none⟩
    continuing := s.continuing.set j ⟨c, session, r, p⟩ }

/-- A listener refuses its request: the refusal goes to the connection that there is now. -/
def refuse (c : ℕ) (session : Option String) (r : PausedRequest) (sent : Bool) : BrowserRun :=
  { s with
    listeners := s.listeners.set c ⟨session, none⟩
    handled := s.handled ++
      [⟨r, session, s.now, if s.broker.cdpWs = some c ∧ sent then .failed else .dropped⟩] }

/-- The answer to a matched request is sent. -/
def resume (j : ℕ) (w : Continuation) (sent : Bool) : BrowserRun :=
  { s with
    continuing := s.continuing.erase j
    handled := s.handled ++
      [⟨w.request, w.session, s.now,
        if s.broker.cdpWs = some w.connection ∧ sent then .continued w.pending.authId
        else .dropped⟩] }

/-- A thread has taken a step. -/
def ran (k : ℕ) (uuid : String) (th : Thread) (b : Broker) (th' : Thread) : BrowserRun :=
  { s with
    broker := b
    threads := s.threads.set k th'
    drawn := uuid :: s.drawn
    issuedLog := s.issuedLog ++ (th.issue s.now uuid s.broker).toList }

/-- What an event does, when it can happen. -/
def next : Event → Option BrowserRun
  | .command k c =>
    if s.threads.get? k = none then some { s with threads := s.threads.set k c.thread } else none
  | .run k uuid =>
    if uuid ∈ s.drawn then none
    else match s.threads.get? k with
      | none => none
      | some th =>
        match th.step s.now uuid s.broker with
        | none => none
        | some (b, th') => some (s.ran k uuid th b th')
  | .connect c =>
    if s.broker.cdpWs = none ∧ s.listeners.get? c = none then
      some { s with
        broker := { s.broker with cdpWs := some c }
        listeners := s.listeners.set c ⟨s.broker.sessionId, none⟩ }
    else none
  | .disconnect => some { s with broker := { s.broker with cdpWs := none } }
  | .pause c r =>
    match s.listeners.get? c with
    | some ⟨session, none⟩ => some (s.pause c r session)
    | _ => none
  | .decide c j sent =>
    match s.listeners.get? c with
    | some ⟨session, some (r, pending)⟩ =>
      match matching pending r with
      | some p => if s.continuing.get? j = none then some (s.consume c j session r p) else none
      | none => some (s.refuse c session r sent)
    | _ => none
  | .resume j sent => (s.continuing.get? j).map fun w => s.resume j w sent
  | .exit => some { s with broker := { s.broker with process := none } }
  | .activity url state =>
    some { s with broker := { s.broker with lastUrl := url, browserState := state } }
  | .clock now => some { s with now := now }

end BrowserRun

/-- The runs of the broker. -/
def browser : System BrowserRun Event :=
  .ofFn (fun s => ∃ profileDir now, s = .init profileDir now) BrowserRun.next

/-- What an event does. -/
inductive BrowserRun.Step (s : BrowserRun) : Event → BrowserRun → Prop
  | command {k : ℕ} (c : Command) (hk : s.threads.get? k = none) :
    Step s (.command k c) { s with threads := s.threads.set k c.thread }
  | run {k : ℕ} {uuid : String} {th : Thread} {b : Broker} {th' : Thread} (hu : uuid ∉ s.drawn)
    (hk : s.threads.get? k = some th) (heffect : th.Effect s.now uuid s.broker b th') :
    Step s (.run k uuid) (s.ran k uuid th b th')
  | connect {c : ℕ} (hws : s.broker.cdpWs = none) (hc : s.listeners.get? c = none) :
    Step s (.connect c)
      { s with
        broker := { s.broker with cdpWs := some c }
        listeners := s.listeners.set c ⟨s.broker.sessionId, none⟩ }
  | pause {c : ℕ} (r : PausedRequest) {session : Option String}
    (hc : s.listeners.get? c = some ⟨session, none⟩) : Step s (.pause c r) (s.pause c r session)
  | consume {c j : ℕ} (sent : Bool) {session : Option String} {r : PausedRequest}
    {pending : Option PendingSubmissionAuthorization} {p : PendingSubmissionAuthorization}
    (hc : s.listeners.get? c = some ⟨session, some (r, pending)⟩)
    (hp : matching pending r = some p) (hj : s.continuing.get? j = none) :
    Step s (.decide c j sent) (s.consume c j session r p)
  | refuse {c j : ℕ} (sent : Bool) {session : Option String} {r : PausedRequest}
    {pending : Option PendingSubmissionAuthorization}
    (hc : s.listeners.get? c = some ⟨session, some (r, pending)⟩)
    (hp : matching pending r = none) : Step s (.decide c j sent) (s.refuse c session r sent)
  | resume {j : ℕ} (sent : Bool) {w : Continuation} (hj : s.continuing.get? j = some w) :
    Step s (.resume j sent) (s.resume j w sent)
  /-- What submissions do not depend on may change, and the connection may be lost. -/
  | other (e : Event) {b : Broker} (now : ℤ)
    (hws : b.cdpWs = s.broker.cdpWs ∨ b.cdpWs = none) (hsession : b.sessionId = s.broker.sessionId)
    (hpending : b.pendingSubmission = s.broker.pendingSubmission)
    (hissued : b.issuedAuthorizations = s.broker.issuedAuthorizations) :
    Step s e { s with broker := b, now := now }

/-- **What an event does.** -/
theorem BrowserRun.next_step {s t : BrowserRun} {e : Event} (h : s.next e = some t) :
    s.Step e t := by
  cases e with
  | command k c =>
    simp only [next, Option.ite_none_right_eq_some, Option.some.injEq] at h
    obtain ⟨hk, rfl⟩ := h
    exact .command c hk
  | run k uuid =>
    simp only [next, Option.ite_none_left_eq_some] at h
    obtain ⟨hu, h⟩ := h
    split at h
    · cases h
    · rename_i th hk
      split at h
      · cases h
      · rename_i b th' hstep
        cases h
        exact .run hu hk (Thread.step_effect hstep)
  | connect c =>
    simp only [next, Option.ite_none_right_eq_some, Option.some.injEq] at h
    obtain ⟨⟨hws, hc⟩, rfl⟩ := h
    exact .connect hws hc
  | pause c r =>
    simp only [next] at h
    split at h
    · rename_i session hc
      cases h
      exact .pause r hc
    · cases h
  | decide c j sent =>
    simp only [next] at h
    split at h
    · rename_i session r pending hc
      split at h
      · rename_i p hp
        simp only [Option.ite_none_right_eq_some, Option.some.injEq] at h
        obtain ⟨hj, rfl⟩ := h
        exact .consume sent hc hp hj
      · rename_i hp
        cases h
        exact .refuse sent hc hp
    · cases h
  | resume j sent =>
    obtain ⟨w, hj, rfl⟩ := Option.map_eq_some_iff.1 h
    exact .resume sent hj
  -- the events that no authorization can be gained or lost by
  | disconnect =>
    cases h
    exact .other _ s.now (.inr rfl) rfl rfl rfl
  | exit | activity url state | clock now =>
    cases h
    exact .other _ _ (.inl rfl) rfl rfl rfl

/-! ### Where authorizations come from -/

namespace BrowserRun

/-- A session is over. -/
def Over (s : BrowserRun) (x : String) : Prop := x ∈ s.drawn ∧ s.broker.sessionId ≠ some x

/-- The authorization was issued, in its session. -/
def Issued (s : BrowserRun) (p : PendingSubmissionAuthorization) : Prop :=
  ∃ i ∈ s.issuedLog, i.authId = p.authId ∧ i.auth = p.auth ∧ i.session = some p.sessionId

/-- The authorization was issued, in its session unless that is over. -/
def Entered (s : BrowserRun) (authId : String) (auth : IssuedAuthorization) : Prop :=
  ∃ i ∈ s.issuedLog, i.authId = authId ∧ i.auth = auth ∧
    (i.session = some auth.sessionId ∨ s.Over auth.sessionId)

/-- Every authorization that anybody has was issued. -/
structure Sound (s : BrowserRun) : Prop where
  session : ∀ x, s.broker.sessionId = some x → x ∈ s.drawn
  bound : ∀ k th, s.threads.get? k = some th → ∀ x, th.bound = some x → x ∈ s.drawn
  entered : ∀ authId auth, s.broker.issuedAuthorizations.get? authId = some auth →
    s.Entered authId auth
  looked : ∀ k th, s.threads.get? k = some th → ∀ authId auth,
    th.looked = some (authId, auth) → s.Entered authId auth
  checked : ∀ k th, s.threads.get? k = some th → ∀ authId auth,
    th.checked = some (authId, auth) → s.Issued (auth.pending authId)
  carried : ∀ k th, s.threads.get? k = some th → ∀ p, th.carried = some p → s.Issued p
  armed : ∀ p, s.broker.pendingSubmission = some p → s.Issued p
  handling : ∀ c l, s.listeners.get? c = some l → ∀ r p, l.handling = some (r, some p) →
    s.Issued p
  continuing : ∀ j w, s.continuing.get? j = some w →
    s.Issued w.pending ∧ w.pending.Matches w.request

variable {s t : BrowserRun}

theorem Issued.mono {p : PendingSubmissionAuthorization} (h : s.Issued p)
    (hlog : ∀ i ∈ s.issuedLog, i ∈ t.issuedLog) : t.Issued p := by
  obtain ⟨i, hi, hid, hauth, hsession⟩ := h
  exact ⟨i, hlog i hi, hid, hauth, hsession⟩

theorem Entered.mono {authId : String} {auth : IssuedAuthorization} (h : s.Entered authId auth)
    (hlog : ∀ i ∈ s.issuedLog, i ∈ t.issuedLog) (hover : ∀ x, s.Over x → t.Over x) :
    t.Entered authId auth := by
  obtain ⟨i, hi, hid, hauth, hsession⟩ := h
  exact ⟨i, hlog i hi, hid, hauth, hsession.imp_right (hover _)⟩

/-- An authorization whose session is the current one was issued in it. -/
theorem Entered.issued {authId : String} {auth : IssuedAuthorization} (h : s.Entered authId auth)
    (hs : s.broker.sessionId = some auth.sessionId) : s.Issued (auth.pending authId) := by
  obtain ⟨i, hi, hid, hauth, hsession | hover⟩ := h
  · exact ⟨i, hi, hid, hauth, hsession⟩
  · exact absurd hs hover.2

/-- A session that is over stays so, since identifiers are new. -/
theorem Over.ran {x : String} (h : s.Over x) {k : ℕ} {uuid : String} {th th' : Thread}
    {b : Broker} (hu : uuid ∉ s.drawn) (heffect : th.Effect s.now uuid s.broker b th') :
    (s.ran k uuid th b th').Over x := by
  refine ⟨List.mem_cons_of_mem _ h.1, fun hx => ?_⟩
  change b.sessionId = some x at hx
  obtain hsame | hnew | hnone := heffect.sessionId
  · exact h.2 (hsame ▸ hx)
  · cases hnew.symm.trans hx
    exact hu h.1
  · cases hnone.symm.trans hx

/-- The step of a thread. -/
theorem Sound.ran (hs : Sound s) {k : ℕ} {uuid : String} {th th' : Thread} {b : Broker}
    (hu : uuid ∉ s.drawn) (hk : s.threads.get? k = some th)
    (heffect : th.Effect s.now uuid s.broker b th') : Sound (s.ran k uuid th b th') := by
  have hlog : ∀ i ∈ s.issuedLog, i ∈ (s.ran k uuid th b th').issuedLog :=
    fun i hi => List.mem_append_left _ hi
  have hover : ∀ x, s.Over x → (s.ran k uuid th b th').Over x := fun x h => h.ran hu heffect
  refine
    { session := fun x hx => ?_
      bound := fun k' v hv x hx => ?_
      entered := fun authId auth ha => ?_
      looked := fun k' v hv authId auth ha => ?_
      checked := fun k' v hv authId auth ha => ?_
      carried := fun k' v hv p hp => ?_
      armed := fun p hp => ?_
      handling := fun c l hc r p hl => (hs.handling c l hc r p hl).mono hlog
      continuing := fun j w hj => ⟨(hs.continuing j w hj).1.mono hlog, (hs.continuing j w hj).2⟩ }
  · change b.sessionId = some x at hx
    obtain hsame | hnew | hnone := heffect.sessionId
    · exact List.mem_cons_of_mem _ (hs.session x (hsame ▸ hx))
    · cases hnew.symm.trans hx
      exact List.mem_cons_self
    · cases hnone.symm.trans hx
  · obtain ⟨rfl, rfl⟩ | ⟨-, hv⟩ := Dict.of_get?_set hv
    · obtain hx | hx := heffect.bound hx
      · exact List.mem_cons_of_mem _ (hs.bound _ _ hk _ hx)
      · exact List.mem_cons_of_mem _ (hs.session _ hx)
    · exact List.mem_cons_of_mem _ (hs.bound _ _ hv _ hx)
  · obtain ha | ⟨rfl, hissue, hbound, hsession⟩ := heffect.issued ha
    · exact (hs.entered _ _ ha).mono hlog hover
    · refine ⟨_, List.mem_append_right _ (Option.mem_toList.2 hissue), rfl, rfl, ?_⟩
      -- the session was checked when the call came in, and may be over by now
      by_cases h : s.broker.sessionId = some auth.sessionId
      · exact .inl h
      · exact .inr ⟨List.mem_cons_of_mem _ (hs.bound _ _ hk _ hbound), fun h' => h (hsession ▸ h')⟩
  · obtain ⟨rfl, rfl⟩ | ⟨-, hv⟩ := Dict.of_get?_set hv
    · exact (hs.entered _ _ (heffect.looked ha)).mono hlog hover
    · exact (hs.looked _ _ hv _ _ ha).mono hlog hover
  · obtain ⟨rfl, rfl⟩ | ⟨-, hv⟩ := Dict.of_get?_set hv
    · obtain ha | ⟨ha, hsession⟩ := heffect.checked ha
      · exact (hs.checked _ _ hk _ _ ha).mono hlog
      · exact ((hs.looked _ _ hk _ _ ha).issued hsession).mono hlog
    · exact (hs.checked _ _ hv _ _ ha).mono hlog
  · obtain ⟨rfl, rfl⟩ | ⟨-, hv⟩ := Dict.of_get?_set hv
    · obtain hp | ⟨auth, hp, hauth, -⟩ := heffect.carried hp
      · exact (hs.carried _ _ hk _ hp).mono hlog
      · rw [hauth]
        exact (hs.checked _ _ hk _ _ hp).mono hlog
    · exact (hs.carried _ _ hv _ hp).mono hlog
  · obtain hp | ⟨call, rfl⟩ := heffect.pending hp
    · exact (hs.armed _ hp).mono hlog
    · exact (hs.carried _ _ hk _ rfl).mono hlog

/-- A new thread has nothing yet. -/
theorem thread_command (c : Command) : c.thread.looked = none ∧ c.thread.checked = none ∧
    c.thread.carried = none ∧ c.thread.bound = none := by
  cases c <;> exact ⟨rfl, rfl, rfl, rfl⟩

theorem Sound.init (profileDir : String) (now : ℤ) : Sound (BrowserRun.init profileDir now) where
  session _ h := by cases h
  bound _ _ h := by cases h
  entered _ _ h := by cases h
  looked _ _ h := by cases h
  checked _ _ h := by cases h
  carried _ _ h := by cases h
  armed _ h := by cases h
  handling _ _ h := by cases h
  continuing _ _ h := by cases h

theorem Sound.step (hs : Sound s) {e : Event} (h : s.Step e t) : Sound t := by
  cases h with
  | command c hk =>
    obtain ⟨hlooked, hchecked, hcarried, hbound⟩ := thread_command c
    exact { hs with
      bound := Dict.forall_get?_set hs.bound fun x hx => by cases hbound.symm.trans hx
      looked := Dict.forall_get?_set hs.looked fun _ _ ha => by cases hlooked.symm.trans ha
      checked := Dict.forall_get?_set hs.checked fun _ _ ha => by cases hchecked.symm.trans ha
      carried := Dict.forall_get?_set hs.carried fun _ hp => by cases hcarried.symm.trans hp }
  | run hu hk heffect => exact hs.ran hu hk heffect
  | connect hws hc =>
    exact { hs with
      handling := Dict.forall_get?_set hs.handling fun _ _ h => by cases h }
  | pause r hc =>
    unfold pause
    split_ifs with hsafe
    · exact { hs with }
    · refine { hs with handling := Dict.forall_get?_set hs.handling fun r' p h => ?_ }
      obtain ⟨-, hp⟩ := Prod.ext_iff.1 (Option.some.inj h)
      exact hs.armed p hp
  | consume sent hc hp hj =>
    -- the listener compares with the record that it has read, not with the armed one
    obtain ⟨rfl, hmatch⟩ := matching_eq_some hp
    exact { hs with
      armed := fun _ h => by cases h
      handling := Dict.forall_get?_set hs.handling fun _ _ h => by cases h
      continuing := Dict.forall_get?_set hs.continuing ⟨hs.handling _ _ hc _ _ rfl, hmatch⟩ }
  | refuse sent hc hp =>
    exact { hs with
      handling := Dict.forall_get?_set hs.handling fun _ _ h => by cases h }
  | resume sent hj =>
    exact { hs with
      continuing := fun j w h => hs.continuing j w (Dict.of_get?_erase h).2 }
  | other e now hws hsession hpending hissued =>
    -- the session does not change, so those that are over stay over
    have hover : ∀ x, s.Over x → Over { s with broker := _, now := now } x :=
      fun x hx => ⟨hx.1, fun h => hx.2 (hsession ▸ h)⟩
    exact { hs with
      session := fun x hx => hs.session x (hsession ▸ hx)
      entered := fun _ _ ha => (hs.entered _ _ (hissued ▸ ha)).mono (fun _ hi => hi) hover
      looked := fun _ _ hk _ _ ha => (hs.looked _ _ hk _ _ ha).mono (fun _ hi => hi) hover
      armed := fun p hp => hs.armed p (hpending ▸ hp) }

/-- **Every authorization that anybody has was issued.** -/
theorem Sound.holds (h : browser.Reachable s) : Sound s :=
  System.Invariant.holds (I := Sound)
    { init := fun _ h => by
        obtain ⟨profileDir, now, rfl⟩ := h
        exact .init profileDir now
      step := fun _ _ _ hs h => hs.step (next_step h) } h

end BrowserRun

end Browser

end AnnyRuntime
