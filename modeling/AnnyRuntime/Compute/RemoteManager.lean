import AnnyRuntime.Compute.Models
import AnnyRuntime.Json.Basic
import AnnyRuntime.Lib.Guard
import AnnyRuntime.Lib.Transition
import Mathlib.Logic.Function.Basic

/-!
# The remote compute manager

The manager connects in a thread of its own, and its fields are shared by the callers and by the
workers of all attempts.  A thread is modelled by the points between its blocks: a block that holds
the lock is one step, and so is every read or write outside.  What a transport does is an answer.

The manager names states that the enumeration need not have (`Enumeration`): then it raises an
`AttributeError`.

* `honours_iff` : the class `RemoteSessionState` has no `WAITING_USER`, `RUNTIME_CONNECTING` and
  `LOST`, so a run keeps what is promised exactly when nobody connects in it: every `connect`
  raises.
* `resurrected` : with these names declared, the worker of an abandoned attempt makes the manager
  `READY` again after a `disconnect`.
-/

namespace AnnyRuntime

namespace Compute

/-- The names that the manager writes after `RemoteSessionState`. -/
inductive StateName where
  | disconnected
  | connecting
  | waitingUser
  | runtimeConnecting
  | auditing
  | ready
  | failed
  | lost
  | terminating
  | terminated
  deriving DecidableEq

/-- The member of the class that a name is, if it is one. -/
def StateName.member? : StateName → Option RemoteSessionState
  | .disconnected => some .disconnected
  | .connecting => some .connecting
  | .auditing => some .auditing
  | .ready => some .ready
  | .failed => some .failed
  | .terminating => some .terminating
  | .terminated => some .terminated
  | .waitingUser | .runtimeConnecting | .lost => none

/-- Which of the names an enumeration declares. -/
abbrev Enumeration := StateName → Bool

/-- The class `RemoteSessionState`. -/
def remoteSessionState : Enumeration := fun n => n.member?.isSome

/-- What is raised. -/
inductive Raised where
  | attributeError
  | other (message : String)
  deriving DecidableEq

/-- The text of an exception. -/
def Raised.text : Raised → String
  | .attributeError => "AttributeError"
  | .other message => message

/-- The attributes are all looked up. -/
def Enumeration.look (e : Enumeration) (names : List StateName) : Except Raised Unit :=
  Guard.ensure (names.all e = true) .attributeError

/-- An entry of `_attempts`. -/
structure Attempt where
  attemptId : String
  failure : Option (String × String) := none
  deriving DecidableEq

/-- `RemoteComputeManager`.  A transport is known by the attempt that made it, and the registry by
what it lists. -/
structure RemoteComputeManager where
  state : StateName := .disconnected
  session : Option RemoteComputeSession := none
  transport : Option String := none
  resourceProfile : Option Json := none
  capabilityRegistry : List String := []
  cancelRequested : Bool := false
  error : Option String := none
  attemptId : Option String := none
  attempts : List Attempt := []
  deriving DecidableEq

namespace RemoteComputeManager

variable (e : Enumeration) (m : RemoteComputeManager)

/-- The block of `connect`, with a new attempt id: whether a worker is started. -/
def connect (uuid : String) : Except Raised (Bool × RemoteComputeManager) := do
  e.look [.disconnected, .failed, .lost, .terminated]
  if m.state ∉ [.disconnected, .failed, .lost, .terminated] then .ok (false, m)
  else
    e.look [.connecting]
    .ok (true, { m with
      state := .connecting
      error := none
      cancelRequested := false
      attemptId := some uuid
      attempts := m.attempts ++ [⟨uuid, none⟩] })

/-- The first block of `disconnect`: whether there is something to disconnect. -/
def disconnectFirst : Except Raised (Bool × RemoteComputeManager) := do
  e.look [.disconnected]
  if m.state = .disconnected then .ok (false, m)
  else
    e.look [.terminating]
    .ok (true, { m with state := .terminating })

/-- The last block of `disconnect`. -/
def disconnectLast : Except Raised RemoteComputeManager := do
  e.look [.disconnected]
  .ok { m with
    state := .disconnected
    session := none
    transport := none
    resourceProfile := none
    capabilityRegistry := []
    error := none }

/-- `cancel`. -/
def cancel : Except Raised (Bool × RemoteComputeManager) := do
  e.look [.connecting, .waitingUser, .runtimeConnecting, .auditing]
  if m.state ∉ [.connecting, .waitingUser, .runtimeConnecting, .auditing] then .ok (false, m)
  else .ok (true, { m with cancelRequested := true })

/-- A block that assigns a state. -/
def enter (n : StateName) : Except Raised RemoteComputeManager := do
  e.look [n]
  .ok { m with state := n }

/-- `_record_attempt_failure`. -/
def recordAttemptFailure (attemptId : Option String) (stage reason : String) : List Attempt :=
  match m.attempts.findIdx? fun a => some a.attemptId = attemptId with
  | none => m.attempts
  | some i => m.attempts.modify i fun a => { a with failure := some (stage, reason) }

/-- The block in which an attempt fails. -/
def failed (attemptId : Option String) (stage message reason : String) :
    Except Raised RemoteComputeManager := do
  e.look [.failed]
  .ok { m with
    state := .failed
    error := some message
    attempts := m.recordAttemptFailure attemptId stage reason }

/-- The last block of the worker. -/
def becomeReady : Except Raised RemoteComputeManager := do
  e.look [.ready]
  .ok { m with state := .ready, error := none }

/-- What a worker may only change while its attempt is the current one. -/
def shown : StateName × Option RemoteComputeSession × Option String × List String :=
  (m.state, m.session, m.transport, m.capabilityRegistry)

/-- The manager is disconnected and holds nothing. -/
structure Blank : Prop where
  state : m.state = .disconnected
  session : m.session = none
  transport : m.transport = none
  resourceProfile : m.resourceProfile = none
  capabilityRegistry : m.capabilityRegistry = []

end RemoteComputeManager

/-! ### Threads -/

/-- Where a `disconnect` is. -/
inductive Disconnect where
  | first
  | terminate
  | last
  deriving DecidableEq

/-- Where a worker is.  It has read the id of an attempt after its first point. -/
inductive Worker where
  | readAttempt
  | checkFirst
  | cancelFirst
  | connecting
  | createTransport
  | transportFailed (message : String)
  | checkSecond
  | cancelSecond
  | waitingUser
  | provision
  | provisionRaised (message : String)
  | provisionFailed (message : String)
  | attach (session : RemoteComputeSession)
  | checkThird
  | disconnect (d : Disconnect)
  | discover
  | storeProfile (profile : Json)
  | clearRegistry (profile : Json)
  | populate (profile : Json)
  | becomeReady
  | crashed (message : String)
  deriving DecidableEq

/-- Where a thread is. -/
inductive Thread where
  | connect
  /-- `connect` is about to start the worker of an attempt. -/
  | start (uuid : String)
  | disconnect (d : Disconnect)
  | reconnect (d : Disconnect)
  | cancel
  /-- The worker of an attempt, and the attempt it has read. -/
  | worker (own : String) (attemptId : Option String) (w : Worker)
  deriving DecidableEq

/-- A call of the manager. -/
inductive Call where
  | connect
  | disconnect
  | reconnect
  | cancel
  deriving DecidableEq

/-- Where a call starts. -/
def Call.thread : Call → Thread
  | .connect => .connect
  | .disconnect => .disconnect .first
  | .reconnect => .reconnect .first
  | .cancel => .cancel

/-- What a step takes from the outside. -/
inductive Answer where
  | nothing
  /-- A new attempt id. -/
  | uuid (u : String)
  /-- The number of a new thread. -/
  | spawned (tid : ℕ)
  /-- What is called raises. -/
  | raised (message : String)
  | session (s : RemoteComputeSession)
  | profile (p : Json)
  | registered (names : List String)
  deriving DecidableEq

/-- What a step of a worker makes of the manager, and where the worker is then, unless it ends. -/
abbrev Moved := RemoteComputeManager × Option Worker

/-- A block of a worker: what it raises is handled by `_connect_worker`. -/
def block (m : RemoteComputeManager) (next : Option Worker)
    (r : Except Raised RemoteComputeManager) : Moved :=
  match r with
  | .ok m => (m, next)
  | .error x => (m, some (.crashed x.text))

/-- A step of `disconnect`: the manager, and where it is then, unless it returns. -/
def disconnectStep (e : Enumeration) (m : RemoteComputeManager) :
    Disconnect → Except Raised (RemoteComputeManager × Option Disconnect)
  | .first => do
    let (active, m) ← m.disconnectFirst e
    .ok (m, if active then some .terminate else none)
  -- exceptions of the transport are caught
  | .terminate => .ok (m, some .last)
  | .last => do
    let m ← m.disconnectLast e
    .ok (m, none)

/-- The message of a session that could not be provisioned. -/
def provisioningError (s : RemoteComputeSession) : String :=
  (s.metadata.lookup "error").getD "Unknown provisioning error"

/-- A step of a worker that has read an attempt, when the answer fits. -/
def workerStep (e : Enumeration) (m : RemoteComputeManager) (attemptId : Option String) :
    Worker → Answer → Option Moved
  | .readAttempt, _ => none
  | .checkFirst, .nothing =>
    some (m, some (if m.cancelRequested then .cancelFirst else .connecting))
  | .cancelFirst, .nothing => some (block m none (m.enter e .disconnected))
  | .connecting, .nothing => some (block m (some .createTransport) (m.enter e .connecting))
  | .createTransport, .nothing => some (m, some .checkSecond)
  | .createTransport, .raised message => some (m, some (.transportFailed message))
  | .transportFailed message, .nothing =>
    some (block m none (m.failed e attemptId "TRANSPORT_INIT"
      ("Transport creation failed: " ++ message) message))
  | .checkSecond, .nothing =>
    some (m, some (if m.cancelRequested then .cancelSecond else .waitingUser))
  | .cancelSecond, .nothing => some (block m none (m.enter e .disconnected))
  | .waitingUser, .nothing => some (block m (some .provision) (m.enter e .waitingUser))
  | .provision, .raised message => some (m, some (.provisionRaised message))
  | .provision, .session s =>
    some (m, some (if s.state = .failed then .provisionFailed (provisioningError s)
      else .attach s))
  | .provisionRaised message, .nothing =>
    some (block m none (m.failed e attemptId "PROVISION" ("Provisioning failed: " ++ message)
      message))
  | .provisionFailed message, .nothing =>
    some (block m none (m.failed e attemptId "PROVISION" message message))
  | .attach s, .nothing =>
    let m := { m with session := some s, transport := some (attemptId.getD "None") }
    some (block m (some .checkThird) (m.enter e .auditing))
  | .checkThird, .nothing =>
    some (m, some (if m.cancelRequested then .disconnect .first else .discover))
  | .disconnect d, .nothing =>
    match disconnectStep e m d with
    | .ok (m, d) => some (m, d.map Worker.disconnect)
    | .error x => some (m, some (.crashed x.text))
  | .discover, .profile p => some (m, some (.storeProfile p))
  | .discover, .raised message => some (m, some (.crashed message))
  | .storeProfile p, .nothing => some ({ m with resourceProfile := some p }, some (.clearRegistry p))
  | .clearRegistry p, .nothing => some ({ m with capabilityRegistry := [] }, some (.populate p))
  | .populate _, .registered names =>
    some ({ m with capabilityRegistry := names }, some .becomeReady)
  | .populate _, .raised message => some (m, some (.crashed message))
  | .becomeReady, .nothing => some (block m none (m.becomeReady e))
  | .crashed message, .nothing =>
    -- what the handler itself raises ends the thread
    match m.failed e attemptId "WORKER" message message with
    | .ok m => some (m, none)
    | .error _ => some (m, none)
  | _, _ => none

/-! ### Runs -/

/-- The manager and the threads.  How the calls of `connect` ended, and whether a `disconnect` has
returned since the last of them was made, is noted. -/
structure State where
  manager : RemoteComputeManager := {}
  threads : ℕ → Option Thread := fun _ => none
  connects : List (Except Raised Bool) := []
  disconnected : Bool := false

/-- What happens. -/
inductive Action where
  /-- A thread calls the manager. -/
  | call (tid : ℕ) (c : Call)
  /-- A thread takes its next step. -/
  | step (tid : ℕ) (answer : Answer)
  deriving DecidableEq

namespace State

variable (e : Enumeration) (s : State)

/-- A thread is at another point, or ends. -/
def move (tid : ℕ) (th : Option Thread) : State :=
  { s with threads := Function.update s.threads tid th }

/-- A step of a thread. -/
def stepThread (tid : ℕ) : Thread → Answer → Option State
  | .connect, .uuid u =>
    match s.manager.connect e u with
    | .ok (true, m) => some { s.move tid (some (.start u)) with manager := m }
    | .ok (false, m) =>
      some { s.move tid none with manager := m, connects := s.connects ++ [.ok false] }
    | .error x => some { s.move tid none with connects := s.connects ++ [.error x] }
  | .start u, .spawned new =>
    if s.threads new = none then
      some { (s.move tid none).move new (some (.worker u none .readAttempt)) with
        connects := s.connects ++ [.ok true] }
    else none
  | .disconnect d, .nothing =>
    match disconnectStep e s.manager d with
    | .ok (m, some d) => some { s.move tid (some (.disconnect d)) with manager := m }
    | .ok (m, none) => some { s.move tid none with manager := m, disconnected := true }
    | .error _ => some (s.move tid none)
  | .reconnect d, .nothing =>
    match disconnectStep e s.manager d with
    | .ok (m, some d) => some { s.move tid (some (.reconnect d)) with manager := m }
    -- the next `connect` is the one that follows
    | .ok (m, none) => some { s.move tid (some .connect) with manager := m, disconnected := false }
    | .error _ => some (s.move tid none)
  | .cancel, .nothing =>
    match s.manager.cancel e with
    | .ok (_, m) => some { s.move tid none with manager := m }
    | .error _ => some (s.move tid none)
  | .worker own _ .readAttempt, .nothing =>
    some (s.move tid (some (.worker own s.manager.attemptId .checkFirst)))
  | .worker own attemptId w, answer =>
    (workerStep e s.manager attemptId w answer).map fun r =>
      { s.move tid (r.2.map (Thread.worker own attemptId)) with manager := r.1 }
  | _, _ => none

/-- The state after an action, when it can happen. -/
def next (s : State) : Action → Option State
  | .call tid c =>
    if s.threads tid = none then
      some { s.move tid (some c.thread) with
        disconnected := s.disconnected && decide (c ≠ .connect) }
    else none
  | .step tid answer => (s.threads tid).bind fun th => s.stepThread e tid th answer

end State

/-- What is promised of a step: a `connect` that ends returns a boolean, a worker changes what is
shown only while its own attempt is the current one, and a manager whose `disconnect` has returned
is disconnected and holds nothing until the next `connect`. -/
structure Kept (s : State) (a : Action) (t : State) : Prop where
  boolean : t.connects = s.connects ∨ ∃ b, t.connects = s.connects ++ [.ok b]
  current : ∀ tid answer own attemptId w, a = .step tid answer →
    s.threads tid = some (.worker own attemptId w) → t.manager.shown ≠ s.manager.shown →
      s.manager.attemptId = some own
  disconnected : t.disconnected = true → t.manager.Blank

/-- A run keeps what is promised. -/
def Respects (e : Enumeration) (as : List Action) : Prop :=
  ∀ before a rest s t, as = before ++ a :: rest →
    System.runFn (State.next e) {} before = some s → s.next e a = some t → Kept s a t

/-- The block of a `connect` is executed. -/
def Connects (s : State) (a : Action) : Prop :=
  ∃ tid u, a = .step tid (.uuid u) ∧ s.threads tid = some .connect

/-! ### The class as it is -/

/-- `connect` names a state that the class does not have, whatever the state is. -/
theorem connect_raises (m : RemoteComputeManager) (u : String) :
    m.connect remoteSessionState u = .error .attributeError := rfl

theorem cancel_raises (m : RemoteComputeManager) :
    m.cancel remoteSessionState = .error .attributeError := rfl

theorem disconnectStep_first {m : RemoteComputeManager} (h : m.state = .disconnected) :
    disconnectStep remoteSessionState m .first = .ok (m, none) := by
  have hfirst : m.disconnectFirst remoteSessionState = .ok (false, m) := by
    change (if m.state = .disconnected then _ else _) = _
    rw [if_pos h]
  rw [disconnectStep, hfirst]
  rfl

/-- The point at which a call is made. -/
def Thread.Waiting (th : Thread) : Prop := ∃ c : Call, th = c.thread

/-- Nobody has connected: the manager is disconnected, and every thread is at the start of a
call. -/
structure Idle (s : State) : Prop where
  blank : s.manager.Blank
  waiting : ∀ tid th, s.threads tid = some th → th.Waiting

theorem idle_start : Idle {} where
  blank := ⟨rfl, rfl, rfl, rfl, rfl⟩
  waiting _ _ h := nomatch h

theorem Idle.move {s : State} (h : Idle s) (tid : ℕ) {th : Option Thread}
    (hth : ∀ th' ∈ th, th'.Waiting) (connects : List (Except Raised Bool)) (b : Bool) :
    Idle { s.move tid th with connects := connects, disconnected := b } where
  blank := h.blank
  waiting tid' th' h' := by
    change Function.update s.threads tid th tid' = some th' at h'
    by_cases htid : tid' = tid
    · rw [htid, Function.update_self] at h'
      exact hth th' h'
    · rw [Function.update_of_ne htid] at h'
      exact h.waiting tid' th' h'

/-- **One step**: it leaves the manager as it is, and a `connect` raises. -/
theorem Idle.next {s t : State} {a : Action} (h : Idle s)
    (hnext : s.next remoteSessionState a = some t) :
    Idle t ∧ t.manager = s.manager ∧
      (Connects s a ∧ t.connects = s.connects ++ [.error .attributeError] ∨
        ¬ Connects s a ∧ t.connects = s.connects) := by
  cases a with
  | call tid c =>
    rw [State.next] at hnext
    split_ifs at hnext with hnone
    obtain rfl := Option.some.inj hnext
    refine ⟨h.move tid ?_ _ _, rfl, .inr ⟨?_, rfl⟩⟩
    · rintro th hth
      obtain rfl := Option.some.inj hth
      exact ⟨c, rfl⟩
    · rintro ⟨_, _, hcall, -⟩
      cases hcall
  | step tid answer =>
    rw [State.next, Option.bind_eq_some_iff] at hnext
    obtain ⟨th, hth, hstep⟩ := hnext
    have hfree : ∀ th' ∈ (none : Option Thread), th'.Waiting := nofun
    obtain ⟨c, rfl⟩ := h.waiting tid th hth
    have hother : c ≠ .connect → ¬ Connects s (.step tid answer) := by
      rintro hc ⟨tid', u, hstep', hconnect⟩
      obtain ⟨rfl, -⟩ := Action.step.inj hstep'
      rw [hth] at hconnect
      cases c with
      | connect => exact hc rfl
      | _ => cases hconnect
    cases c with
    | connect =>
      cases answer with
      | uuid u =>
        rw [Call.thread, State.stepThread, connect_raises] at hstep
        obtain rfl := Option.some.inj hstep
        exact ⟨h.move tid hfree _ _, rfl, .inl ⟨⟨tid, u, rfl, hth⟩, rfl⟩⟩
      | _ => cases hstep
    | disconnect =>
      cases answer with
      | nothing =>
        rw [Call.thread, State.stepThread, disconnectStep_first h.blank.state] at hstep
        obtain rfl := Option.some.inj hstep
        exact ⟨h.move tid hfree _ _, rfl, .inr ⟨hother (by decide), rfl⟩⟩
      | _ => cases hstep
    | reconnect =>
      cases answer with
      | nothing =>
        rw [Call.thread, State.stepThread, disconnectStep_first h.blank.state] at hstep
        obtain rfl := Option.some.inj hstep
        refine ⟨h.move tid ?_ _ _, rfl, .inr ⟨hother (by decide), rfl⟩⟩
        rintro th' hth'
        obtain rfl := Option.some.inj hth'
        exact ⟨.connect, rfl⟩
      | _ => cases hstep
    | cancel =>
      cases answer with
      | nothing =>
        rw [Call.thread, State.stepThread, cancel_raises] at hstep
        obtain rfl := Option.some.inj hstep
        exact ⟨h.move tid hfree _ _, rfl, .inr ⟨hother (by decide), rfl⟩⟩
      | _ => cases hstep

/-- Every run stays idle. -/
theorem Idle.run {s t : State} {as : List Action} (h : Idle s)
    (hrun : System.runFn (State.next remoteSessionState) s as = some t) : Idle t := by
  induction as generalizing s with
  | nil => exact Option.some.inj hrun ▸ h
  | cons a as ih =>
    obtain ⟨u, hu, ht⟩ := Option.bind_eq_some_iff.1 hrun
    exact ih (h.next hu).1 ht

/-- A step keeps what is promised exactly when it is not a `connect`. -/
theorem Idle.kept_iff {s t : State} {a : Action} (h : Idle s)
    (hnext : s.next remoteSessionState a = some t) : Kept s a t ↔ ¬ Connects s a := by
  obtain ⟨hidle, hmanager, hconnects⟩ := h.next hnext
  constructor
  · intro hkept hconnect
    have hraised : t.connects = s.connects ++ [.error .attributeError] := by
      rcases hconnects with h | h
      · exact h.2
      · exact absurd hconnect h.1
    rcases hkept.boolean with hsame | ⟨b, hb⟩
    · rw [hraised] at hsame
      exact absurd hsame (by simp)
    · rw [hraised] at hb
      exact absurd hb (by simp)
  · intro hconnect
    have hsame : t.connects = s.connects := by
      rcases hconnects with h | h
      · exact absurd h.1 hconnect
      · exact h.2
    exact
      { boolean := .inl hsame
        current := fun _ _ _ _ _ _ _ hchanged => absurd (by rw [hmanager]) hchanged
        disconnected := fun _ => hidle.blank }

/-- **A run keeps what is promised exactly when no `connect` is executed in it.** -/
theorem honours_iff (as : List Action) :
    Respects remoteSessionState as ↔ ∀ before a rest s, as = before ++ a :: rest →
      System.runFn (State.next remoteSessionState) {} before = some s → ¬ Connects s a := by
  constructor
  · rintro h before a rest s has hrun ⟨tid, u, rfl, hth⟩
    have hidle : Idle s := idle_start.run hrun
    have hnext : s.next remoteSessionState (.step tid (.uuid u)) =
        some { s.move tid none with connects := s.connects ++ [.error .attributeError] } := by
      rw [State.next, hth, Option.bind_some, State.stepThread, connect_raises]
    exact (hidle.kept_iff hnext).1 (h before _ rest s _ has hrun hnext) ⟨tid, u, rfl, hth⟩
  · intro h before a rest s t has hrun hnext
    exact ((idle_start.run hrun).kept_iff hnext).2 (h before a rest s has hrun)

/-- The first `connect` of a manager raises. -/
theorem first_connect_raises : ¬ ∀ as, Respects remoteSessionState as := by
  intro h
  have hkept := h [.call 0 .connect, .step 0 (.uuid "a1")] [.call 0 .connect] _ [] _ _ rfl rfl rfl
  obtain hsame | ⟨b, hb⟩ := hkept.boolean
  · cases hsame
  · cases hb

/-! ### With the names declared -/

/-- The worker of an attempt goes on after `disconnect` has returned. -/
def abandoned : List Action :=
  [.call 0 .connect, .step 0 (.uuid "a1"), .step 0 (.spawned 1)] ++
    [.nothing, .nothing, .nothing, .nothing, .nothing, .nothing,
      .session ⟨"anny-a1", .ready, none, []⟩, .nothing, .nothing].map (Action.step 1) ++
    [.call 0 .disconnect, .step 0 .nothing, .step 0 .nothing, .step 0 .nothing] ++
    [.profile (.obj []), .nothing, .nothing, .registered [], .nothing].map (Action.step 1)

/-- **Declaring the names is not enough**: an abandoned worker makes the manager `READY` again. -/
theorem resurrected : ∃ s, System.runFn (State.next fun _ => true) {} abandoned = some s ∧
    s.disconnected = true ∧ s.manager.state = .ready := by
  have h : (System.runFn (State.next fun _ => true) {} abandoned).map
      (fun s => (s.disconnected, s.manager.state)) = some (true, .ready) := by decide
  obtain ⟨s, hs, heq⟩ := Option.map_eq_some_iff.1 h
  exact ⟨s, hs, congrArg Prod.fst heq, congrArg Prod.snd heq⟩

end Compute

end AnnyRuntime
