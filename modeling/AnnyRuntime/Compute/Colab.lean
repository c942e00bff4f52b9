import AnnyRuntime.Compute.Models
import AnnyRuntime.Lib.Transition
import Mathlib.Data.Int.Basic
import Mathlib.Logic.Function.Basic

/-!
# The Colab provider

The provider hands every operation on a session to one of two transports.  All sessions of the
browser transport share one slot for a bridge, under a lock, and a session is an object whose state
several operations assign, in the lock and outside of it.

A thread is modelled by the points between its steps: a block that holds the lock is one step, and
so is every other assignment to a session.  What the bridge and the command line tool do is an
answer.

* `bound_iff` : a run keeps every session bound to what was provisioned for it exactly when each of
  its steps is `Orderly`.  The slot holds the bridge of the last session that was opened, whichever
  session uses it; `health` and `execute` look at the state of a session before they wait for the
  lock, and act on it afterwards; and a session that could not be opened in the browser goes to the
  other transport.
-/

namespace AnnyRuntime

namespace Compute

namespace Colab

/-- The transports of the provider. -/
inductive Transport where
  | cli
  | browser
  deriving DecidableEq

/-- A session object.  The transport that provisioned it, the bridge that was opened for it, and
whether it is over or its `terminate` has returned is noted. -/
structure Session where
  data : RemoteComputeSession
  provisionedBy : Transport
  bridge : Option ℕ
  ended : Bool
  deriving DecidableEq

namespace Session

variable (x : Session)

/-- `_get_transport` of a session. -/
def transport : Transport :=
  if (x.data.metadata.lookup "transport").getD "cli" = "browser" then .browser else .cli

/-- The lease is over. -/
def expired (clock : ℤ) : Bool := x.data.expiresAt.any fun e => e < clock

/-- A state is assigned. -/
def assign (s : RemoteSessionState) : Session :=
  { x with data := { x.data with state := s }, ended := x.ended || s.isOver }

@[simp] theorem assign_state (s : RemoteSessionState) : (x.assign s).data.state = s := rfl

@[simp] theorem assign_transport (s : RemoteSessionState) :
    (x.assign s).transport = x.transport := rfl

theorem ended_assign (s : RemoteSessionState) (h : x.ended = true) : (x.assign s).ended = true :=
  Bool.or_eq_true_iff.2 (.inl h)

end Session

/-- The context of a `provision`: `transport_type`, the name, the length of the lease, and whether
it has a key for a credential. -/
structure Context where
  transportType : Option String
  sessionName : String
  leaseDuration : ℤ
  credentials : Bool
  deriving DecidableEq

/-- `_get_transport` of a context. -/
def Context.transport (c : Context) : Transport :=
  if c.transportType.getD "cli" = "browser" then .browser else .cli

/-- The operations that look at the lease first.  A job has a text to run, or none. -/
inductive Op where
  | health
  | execute (code : Option String)
  deriving DecidableEq

/-- The operation goes on in a state. -/
def Op.proceeds (s : RemoteSessionState) : Op → Bool
  | .health => !s.isOver
  | .execute _ => s = .ready

/-- A call of the provider. -/
inductive Call where
  | provision (context : Context)
  | apply (op : Op) (session : ℕ)
  | terminate (session : ℕ)
  deriving DecidableEq

/-- Where a thread is. -/
inductive Thread where
  | provision (context : Context)
  /-- Before the lock, with the time that was read. -/
  | opening (context : Context) (now : ℤ)
  | creating (context : Context)
  /-- A new session is returned. -/
  | deliver (x : Session)
  | checkLease (op : Op) (transport : Transport) (session : ℕ)
  | expire (op : Op) (transport : Transport) (session : ℕ)
  | checkState (op : Op) (transport : Transport) (session : ℕ)
  /-- Before the lock. -/
  | locking (op : Op) (session : ℕ)
  /-- Before the command line tool is run. -/
  | running (op : Op) (session : ℕ)
  | terminate (transport : Transport) (session : ℕ)
  /-- Before the lock of `terminate`. -/
  | stopping (session : ℕ)
  /-- Before the `finally` of `terminate`. -/
  | forcing (session : ℕ)
  | returning (session : ℕ)
  deriving DecidableEq

/-- What a step takes from the outside. -/
inductive Answer where
  | nothing
  /-- The bridge is started and its browser attached, or one of both fails. -/
  | attached (failure : Option String)
  /-- The names that `list_tools` gives, unless it raises. -/
  | tools (names : Option (List String))
  /-- The command line tool, or what is done with it, raises. -/
  | raised
  /-- `colab new` confirms the session. -/
  | created
  /-- What `colab status` says: the session is gone, or the upper-case word for its status. -/
  | status (gone : Bool) (word : String)
  deriving DecidableEq

/-- What a step does that can be seen. -/
inductive Effect where
  /-- An operation on a session uses a transport. -/
  | used (session : ℕ) (transport : Transport)
  /-- A job of a session runs over a bridge, or over the command line tool. -/
  | ran (session : ℕ) (bridge : Option ℕ)
  /-- `terminate` of a session stops a bridge. -/
  | stopped (session : ℕ) (bridge : ℕ)
  deriving DecidableEq

/-- The provider, its threads, and the effects of the last step. -/
structure State where
  clock : ℤ := 0
  /-- `_bridge`. -/
  slot : Option ℕ := none
  nextBridge : ℕ := 0
  nextSession : ℕ := 0
  sessions : ℕ → Option Session := fun _ => none
  threads : ℕ → Option Thread := fun _ => none
  effects : List Effect := []

/-- What happens; the clock goes on by a number of ticks. -/
inductive Action where
  | tick (d : ℕ)
  | call (tid : ℕ) (c : Call)
  | step (tid : ℕ) (answer : Answer)
  deriving DecidableEq

/-- The tools that take code. -/
def execTools : List String := ["python", "run_python", "execute_python", "execute_cell"]

/-- `execute` comes to call a tool. -/
def callsTool (code : Option String) (names : Option (List String)) : Bool :=
  code.any (fun c => c ≠ "") && names.any fun ns => execTools.any fun c => c ∈ ns

/-- The state that a status means. -/
def stateOfStatus (gone : Bool) (word : String) : Option RemoteSessionState :=
  if gone then some .terminated
  else if word = "IDLE" ∨ word = "BUSY" ∨ word = "RUNNING" then some .connected
  else if word = "TERMINATED" then some .terminated
  else if word = "FAILED" then some .failed
  else none

/-- The session that a browser `provision` returns. -/
def openedSession (c : Context) (now : ℤ) (bridge : ℕ) : Session where
  data := ⟨c.sessionName, .ready, some (now + c.leaseDuration),
    [("transport", "browser"), ("browser_state", "ATTACHED")]⟩
  provisionedBy := .browser
  bridge := some bridge
  ended := false

/-- The session that a browser `provision` returns when it fails. -/
def failedSession (c : Context) (now : ℤ) (message : String) : Session where
  data := ⟨c.sessionName, .failed, some (now + c.leaseDuration), [("error", message)]⟩
  provisionedBy := .browser
  bridge := none
  ended := true

/-- The session that a command line `provision` returns. -/
def createdSession (c : Context) (now : ℤ) : Session where
  data := ⟨c.sessionName, .connected, some (now + c.leaseDuration), []⟩
  provisionedBy := .cli
  bridge := none
  ended := false

namespace State

variable (s : State)

/-- A thread is at another point, or ends. -/
def move (tid : ℕ) (th : Option Thread) : State :=
  { s with threads := Function.update s.threads tid th, effects := [] }

/-- A session is changed. -/
def change (j : ℕ) (f : Session → Session) : State :=
  { s with sessions := Function.update s.sessions j ((s.sessions j).map f) }

/-- A state is assigned to a session. -/
def assign (j : ℕ) (st : RemoteSessionState) : State := s.change j fun x => x.assign st

/-- The `terminate` of a session has returned. -/
def ended (j : ℕ) : State := s.change j fun x => { x with ended := true }

@[simp] theorem sessions_change_self (j : ℕ) (f : Session → Session) :
    (s.change j f).sessions j = (s.sessions j).map f := Function.update_self ..

theorem sessions_change_of_ne {j j' : ℕ} (hj : j' ≠ j) (f : Session → Session) :
    (s.change j f).sessions j' = s.sessions j' := Function.update_of_ne hj ..

/-- The point at which a call starts, for a session that there is. -/
def entry : Call → Option (Thread × List Effect)
  | .provision c => some (.provision c, [])
  | .apply op j => (s.sessions j).map fun x => (.checkLease op x.transport j, [.used j x.transport])
  | .terminate j => (s.sessions j).map fun x => (.terminate x.transport j, [.used j x.transport])

/-- A step of a thread. -/
def stepThread (tid : ℕ) : Thread → Answer → Option State
  | .provision c, .nothing =>
    if c.credentials then some (s.move tid none)
    else some (s.move tid (some (match c.transport with
      | .browser => .opening c s.clock
      | .cli => .creating c)))
  | .opening c now, .attached none =>
    some { s.move tid (some (.deliver (openedSession c now s.nextBridge))) with
      slot := some s.nextBridge
      nextBridge := s.nextBridge + 1 }
  | .opening c now, .attached (some message) =>
    some { s.move tid (some (.deliver (failedSession c now message))) with
      slot := none
      nextBridge := s.nextBridge + 1 }
  | .creating _, .raised => some (s.move tid none)
  | .creating c, .created => some (s.move tid (some (.deliver (createdSession c s.clock))))
  | .deliver x, .nothing =>
    some { s.move tid none with
      sessions := Function.update s.sessions s.nextSession (some x)
      nextSession := s.nextSession + 1 }
  | .checkLease op tr j, .nothing =>
    (s.sessions j).map fun x =>
      s.move tid (some (if x.expired s.clock then .expire op tr j else .checkState op tr j))
  | .expire op tr j, .nothing =>
    some ((s.assign j .expired).move tid (some (.checkState op tr j)))
  | .checkState op tr j, .nothing =>
    (s.sessions j).map fun x =>
      s.move tid (if op.proceeds x.data.state then
        some (match tr with
          | .browser => .locking op j
          | .cli => .running op j)
      else none)
  | .locking .health j, .tools names =>
    some ((s.assign j (if s.slot.isSome && names.isSome then .ready else .terminated)).move tid none)
  | .locking (.execute code) j, .tools names =>
    some { s.move tid none with
      effects := if s.slot.isSome && callsTool code names then [.ran j s.slot] else [] }
  | .running _ _, .raised => some (s.move tid none)
  | .running .health j, .status gone word =>
    some (((stateOfStatus gone word).elim s (s.assign j)).move tid none)
  | .running (.execute code) j, .nothing =>
    some { s.move tid none with effects := if code.any (fun c => c ≠ "") then [.ran j none] else [] }
  | .terminate .browser j, .nothing =>
    some ((s.assign j .terminated).move tid (some (.stopping j)))
  -- whatever the tool does, the `finally` follows
  | .terminate .cli j, _ => some (s.move tid (some (.forcing j)))
  | .stopping j, .nothing =>
    some { s.move tid (some (.returning j)) with
      slot := none
      effects := s.slot.elim [] fun b => [.stopped j b] }
  | .forcing j, .nothing => some ((s.assign j .terminated).move tid (some (.returning j)))
  | .returning j, .nothing => some ((s.ended j).move tid none)
  | _, _ => none

/-- The state after an action, when it can happen. -/
def next : Action → Option State
  | .tick d => some { s with clock := s.clock + d, effects := [] }
  | .call tid c =>
    if s.threads tid = none then
      (s.entry c).map fun r => { s.move tid (some r.1) with effects := r.2 }
    else none
  | .step tid answer => (s.threads tid).bind fun th => s.stepThread tid th answer

end State

/-! ### What is promised -/

/-- The session of a call. -/
def Call.session? : Call → Option ℕ
  | .provision _ => none
  | .apply _ j => some j
  | .terminate j => some j

/-- An effect that is bound to what was provisioned for the session. -/
def Fits (s : State) : Effect → Prop
  | .used j tr => ∃ x, s.sessions j = some x ∧ tr = x.provisionedBy
  | .ran j b => ∃ x, s.sessions j = some x ∧ b.isSome = true ∧ b = x.bridge ∧
      x.data.state = .ready ∧ x.expired s.clock = false
  | .stopped j b => ∃ x, s.sessions j = some x ∧ x.bridge = some b

/-- No session that was over, or whose `terminate` has returned, is in use. -/
def Sound (s : State) : Prop :=
  ∀ j x, s.sessions j = some x → x.ended = true → x.data.state.alive = false

/-- What is promised of a step. -/
structure Kept (s t : State) : Prop where
  effects : ∀ ef ∈ t.effects, Fits s ef
  sound : Sound t

/-- A run keeps what is promised. -/
def Bound (as : List Action) : Prop :=
  ∀ before a rest s t, as = before ++ a :: rest →
    System.runFn State.next {} before = some s → s.next a = some t → Kept s t

/-- The condition on a step of a thread: what it acts on is still what the session was provisioned
with, or what the operation saw when it looked at the session. -/
def OrderlyStep (s : State) : Thread → Answer → Prop
  | .locking .health j, .tools names =>
    s.slot.isSome = true → names.isSome = true → ∀ x ∈ s.sessions j, x.ended = false
  | .locking (.execute code) j, .tools names =>
    s.slot.isSome = true → callsTool code names = true →
      ∀ x ∈ s.sessions j, s.slot = x.bridge ∧ x.data.state = .ready ∧ x.expired s.clock = false
  | .running .health j, .status gone word =>
    stateOfStatus gone word = some .connected → ∀ x ∈ s.sessions j, x.ended = false
  | .stopping j, .nothing => ∀ b ∈ s.slot, ∀ x ∈ s.sessions j, x.bridge = some b
  | _, _ => True

/-- The condition on what happens: calls are made for sessions that were opened, and every step
meets the condition on it. -/
def Orderly (s : State) : Action → Prop
  | .tick _ => True
  | .call _ c => ∀ j ∈ c.session?, ∀ x ∈ s.sessions j,
      x.provisionedBy = .browser → x.bridge.isSome = true
  | .step tid answer => ∀ th ∈ s.threads tid, OrderlyStep s th answer

/-! ### What every run keeps -/

/-- A session object that some `provision` made. -/
structure Session.Wired (x : Session) : Prop where
  browser : x.transport = .browser → x.provisionedBy = .browser ∧ x.bridge.isSome = true
  cli : x.transport = .cli → x.bridge = none ∧ x.data.state ≠ .ready
  noted : x.data.state.isOver = true → x.ended = true

/-- The transport that a session goes to. -/
def State.transportOf (s : State) (j : ℕ) : Option Transport := (s.sessions j).map Session.transport

/-- A session is over, or was. -/
def State.hasEnded (s : State) (j : ℕ) : Prop := ∃ x, s.sessions j = some x ∧ x.ended = true

/-- A thread works on a session that there is, with the transport of that session; the command line
tool never comes to run a job; and a session whose `terminate` is about to return is over. -/
def Thread.Wired (transportOf : ℕ → Option Transport) (hasEnded : ℕ → Prop) : Thread → Prop
  | .provision _ | .opening _ _ | .creating _ => True
  | .deliver x => x.Wired ∧ (x.ended = true → x.data.state.alive = false)
  | .checkLease _ tr j | .expire _ tr j | .checkState _ tr j | .terminate tr j =>
    transportOf j = some tr
  | .locking _ j => transportOf j = some .browser
  | .stopping j => transportOf j = some .browser ∧ hasEnded j
  | .running op j => transportOf j = some .cli ∧ op = .health
  | .forcing j => transportOf j = some .cli
  | .returning j => hasEnded j

/-- What every run keeps. -/
structure Wired (s : State) : Prop where
  sessions : ∀ j x, s.sessions j = some x → x.Wired
  fresh : ∀ j, s.nextSession ≤ j → s.sessions j = none
  threads : ∀ tid th, s.threads tid = some th → th.Wired s.transportOf s.hasEnded

theorem wired_start : Wired {} where
  sessions _ _ h := nomatch h
  fresh _ _ := rfl
  threads _ _ h := nomatch h

theorem sound_start : Sound {} := fun _ _ h => nomatch h

theorem wired_openedSession (c : Context) (now : ℤ) (b : ℕ) : (openedSession c now b).Wired where
  browser _ := ⟨rfl, rfl⟩
  cli h := nomatch h
  noted h := nomatch h

theorem wired_failedSession (c : Context) (now : ℤ) (message : String) :
    (failedSession c now message).Wired where
  browser h := nomatch h
  cli _ := ⟨rfl, nofun⟩
  noted _ := rfl

theorem wired_createdSession (c : Context) (now : ℤ) : (createdSession c now).Wired where
  browser h := nomatch h
  cli _ := ⟨rfl, nofun⟩
  noted h := nomatch h

theorem Session.Wired.assign {x : Session} (h : x.Wired) {st : RemoteSessionState}
    (hst : x.transport = .cli → st ≠ .ready) : (x.assign st).Wired where
  browser := h.browser
  cli htr := ⟨(h.cli htr).1, hst htr⟩
  noted hover := by
    rw [Session.assign]
    exact Bool.or_eq_true_iff.2 (.inr hover)

theorem Thread.Wired.mono {f g : ℕ → Option Transport} {p q : ℕ → Prop}
    (hfg : ∀ j tr, f j = some tr → g j = some tr) (hpq : ∀ j, p j → q j) {th : Thread}
    (h : th.Wired f p) : th.Wired g q := by
  cases th with
  | provision c => trivial
  | opening c now => trivial
  | creating c => trivial
  | deliver x => exact h
  | running op j => exact ⟨hfg _ _ h.1, h.2⟩
  | stopping j => exact ⟨hfg _ _ h.1, hpq j h.2⟩
  | returning j => exact hpq j h
  | _ => exact hfg _ _ h

variable {s t : State}

theorem transportOf_of_sessions (h : t.sessions = s.sessions) : t.transportOf = s.transportOf := by
  funext j
  rw [State.transportOf, State.transportOf, h]

theorem hasEnded_of_sessions (h : t.sessions = s.sessions) : t.hasEnded = s.hasEnded := by
  funext j
  rw [State.hasEnded, State.hasEnded, h]

/-- A step that moves a thread and leaves the sessions as they are. -/
theorem Wired.move (h : Wired s) {tid : ℕ} (th : Option Thread)
    (hsessions : t.sessions = s.sessions) (hnext : t.nextSession = s.nextSession)
    (hthreads : t.threads = Function.update s.threads tid th)
    (hth : ∀ th' ∈ th, th'.Wired s.transportOf s.hasEnded) : Wired t where
  sessions := by
    rw [hsessions]
    exact h.sessions
  fresh := by
    rw [hsessions, hnext]
    exact h.fresh
  threads tid' th' h' := by
    rw [transportOf_of_sessions hsessions, hasEnded_of_sessions hsessions]
    rw [hthreads] at h'
    by_cases htid : tid' = tid
    · rw [htid, Function.update_self] at h'
      exact hth th' h'
    · rw [Function.update_of_ne htid] at h'
      exact h.threads tid' th' h'

/-- A step that changes one session and not its transport. -/
theorem transportOf_change {f : Session → Session} (hf : ∀ x, (f x).transport = x.transport)
    (j : ℕ) : (s.change j f).transportOf = s.transportOf := by
  funext j'
  rw [State.transportOf, State.transportOf]
  by_cases hj : j' = j
  · rw [hj, State.sessions_change_self, Option.map_map]
    exact congrArg (fun g => (s.sessions j).map g) (funext hf)
  · rw [State.sessions_change_of_ne s hj]

/-- A change of a session that does not take back that it was over. -/
theorem hasEnded_change {f : Session → Session} (hended : ∀ x, x.ended = true → (f x).ended = true)
    {j j' : ℕ} (h : s.hasEnded j') : (s.change j f).hasEnded j' := by
  obtain ⟨x, hx, hx'⟩ := h
  by_cases hj : j' = j
  · refine ⟨f x, ?_, hended x hx'⟩
    rw [hj] at hx
    rw [hj, State.sessions_change_self, hx, Option.map_some]
  · refine ⟨x, ?_, hx'⟩
    rw [State.sessions_change_of_ne s hj, hx]

theorem Wired.change (h : Wired s) {j : ℕ} {f : Session → Session}
    (hf : ∀ x, (f x).transport = x.transport) (hended : ∀ x, x.ended = true → (f x).ended = true)
    (hwired : ∀ x, s.sessions j = some x → (f x).Wired) : Wired (s.change j f) where
  sessions j' x hx := by
    by_cases hj : j' = j
    · rw [hj, State.sessions_change_self] at hx
      obtain ⟨y, hy, rfl⟩ := Option.map_eq_some_iff.1 hx
      exact hwired y hy
    · rw [State.sessions_change_of_ne s hj] at hx
      exact h.sessions j' x hx
  fresh j' hj' := by
    by_cases hj : j' = j
    · rw [hj, State.sessions_change_self, h.fresh j (hj ▸ hj'), Option.map_none]
    · rw [State.sessions_change_of_ne s hj]
      exact h.fresh j' hj'
  threads tid th hth := by
    refine (h.threads tid th hth).mono (fun j' tr htr => ?_) fun j' => hasEnded_change hended
    rw [transportOf_change hf]
    exact htr

theorem transportOf_assign (j : ℕ) (st : RemoteSessionState) :
    (s.assign j st).transportOf = s.transportOf :=
  transportOf_change (fun x => x.assign_transport st) j

theorem Wired.assign (h : Wired s) {j : ℕ} {st : RemoteSessionState}
    (hst : s.transportOf j = some .cli → st ≠ .ready) : Wired (s.assign j st) := by
  refine h.change (fun x => x.assign_transport st) (fun x => x.ended_assign st) fun x hx =>
    (h.sessions j x hx).assign fun htr => hst ?_
  rw [State.transportOf, hx, Option.map_some, htr]

theorem Wired.ended (h : Wired s) (j : ℕ) : Wired (s.ended j) :=
  h.change (fun _ => rfl) (fun _ _ => rfl) fun x hx =>
    ⟨(h.sessions j x hx).browser, (h.sessions j x hx).cli, fun _ => rfl⟩

/-- A new session is returned. -/
theorem Wired.deliver (h : Wired s) {tid : ℕ} {x : Session} (hx : x.Wired) :
    Wired { s.move tid none with
      sessions := Function.update s.sessions s.nextSession (some x)
      nextSession := s.nextSession + 1 } where
  sessions j y hy := by
    change Function.update s.sessions s.nextSession (some x) j = some y at hy
    by_cases hj : j = s.nextSession
    · rw [hj, Function.update_self] at hy
      exact Option.some.inj hy ▸ hx
    · rw [Function.update_of_ne hj] at hy
      exact h.sessions j y hy
  fresh j hj := by
    change s.nextSession + 1 ≤ j at hj
    change Function.update s.sessions s.nextSession (some x) j = none
    rw [Function.update_of_ne (by omega)]
    exact h.fresh j (by omega)
  threads tid' th hth := by
    change Function.update s.threads tid none tid' = some th at hth
    have hold : s.threads tid' = some th := by
      by_cases htid : tid' = tid
      · rw [htid, Function.update_self] at hth
        cases hth
      · rwa [Function.update_of_ne htid] at hth
    -- the new session is another one than those that the threads work on
    have hkept : ∀ {j y}, s.sessions j = some y →
        Function.update s.sessions s.nextSession (some x) j = some y := by
      intro j y hy
      have hne : j ≠ s.nextSession := by
        rintro rfl
        rw [h.fresh _ (le_refl _)] at hy
        cases hy
      rw [Function.update_of_ne hne, hy]
    refine (h.threads tid' th hold).mono (fun j tr hj => ?_) fun j hj => ?_
    · obtain ⟨y, hy, rfl⟩ := Option.map_eq_some_iff.1 hj
      exact Option.map_eq_some_iff.2 ⟨y, hkept hy, rfl⟩
    · obtain ⟨y, hy, hended⟩ := hj
      exact ⟨y, hkept hy, hended⟩

/-- A transport of a session that a call uses is the one of the session. -/
theorem entry_eq_some {c : Call} {th : Thread} {effects : List Effect}
    (h : s.entry c = some (th, effects)) :
    (∃ context, c = .provision context ∧ th = .provision context ∧ effects = []) ∨
      ∃ j x, c.session? = some j ∧ s.sessions j = some x ∧ th.Wired s.transportOf s.hasEnded ∧
        effects = [.used j x.transport] := by
  cases c with
  | provision context =>
    obtain ⟨rfl, rfl⟩ := Prod.mk.inj (Option.some.inj h)
    exact .inl ⟨context, rfl, rfl, rfl⟩
  | apply op j =>
    obtain ⟨x, hx, heq⟩ := Option.map_eq_some_iff.1 h
    obtain ⟨rfl, rfl⟩ := Prod.mk.inj heq
    refine .inr ⟨j, x, rfl, hx, ?_, rfl⟩
    change (s.sessions j).map Session.transport = some x.transport
    rw [hx]
    rfl
  | terminate j =>
    obtain ⟨x, hx, heq⟩ := Option.map_eq_some_iff.1 h
    obtain ⟨rfl, rfl⟩ := Prod.mk.inj heq
    refine .inr ⟨j, x, rfl, hx, ?_, rfl⟩
    change (s.sessions j).map Session.transport = some x.transport
    rw [hx]
    rfl

/-- A session whose transport is known. -/
theorem exists_session {j : ℕ} {tr : Transport} (h : s.transportOf j = some tr) :
    ∃ x, s.sessions j = some x ∧ x.transport = tr :=
  Option.map_eq_some_iff.1 h

/-- The call is orderly exactly when it uses the transport that provisioned the session. -/
theorem Session.Wired.provisioned_iff {x : Session} (h : x.Wired) :
    x.transport = x.provisionedBy ↔ (x.provisionedBy = .browser → x.bridge.isSome = true) := by
  cases htr : x.transport with
  | browser =>
    obtain ⟨hby, hbridge⟩ := h.browser htr
    exact ⟨fun _ _ => hbridge, fun _ => hby.symm⟩
  | cli =>
    obtain ⟨hbridge, -⟩ := h.cli htr
    rw [hbridge]
    cases x.provisionedBy with
    | cli => exact ⟨fun _ h => (nomatch h), fun _ => rfl⟩
    | browser => exact ⟨fun h => (nomatch h), fun h => (nomatch h rfl)⟩

theorem Sound.of_sessions (h : Sound s) (hsessions : t.sessions = s.sessions) : Sound t := by
  rw [Sound, hsessions]
  exact h

/-- Assigning a state is sound unless it brings back a session that was over. -/
theorem Sound.assign_iff (h : Sound s) {j : ℕ} {st : RemoteSessionState} :
    Sound (s.assign j st) ↔ (st.alive = true → ∀ x ∈ s.sessions j, x.ended = false) := by
  constructor
  · intro hsound halive x hx
    have hx' : (s.assign j st).sessions j = some (x.assign st) := by
      rw [State.assign, State.sessions_change_self, hx, Option.map_some]
    have hended := mt (hsound j _ hx') (by rw [Session.assign_state, halive]; decide)
    rw [Bool.not_eq_true] at hended
    exact (Bool.or_eq_false_iff.1 hended).1
  · intro hassign j' x hx hended
    by_cases hj : j' = j
    · rw [hj, State.assign, State.sessions_change_self] at hx
      obtain ⟨y, hy, rfl⟩ := Option.map_eq_some_iff.1 hx
      rw [Session.assign_state]
      by_contra halive
      rw [Bool.not_eq_false] at halive
      have hy' := hassign halive y hy
      have hover := RemoteSessionState.isOver_of_alive halive
      rw [Session.assign, hy', hover] at hended
      cases hended
    · rw [State.assign, State.sessions_change_of_ne s hj] at hx
      exact h j' x hx hended

theorem Sound.assign (h : Sound s) (j : ℕ) {st : RemoteSessionState} (hst : st.alive = false) :
    Sound (s.assign j st) :=
  h.assign_iff.2 fun halive => absurd halive (by rw [hst]; decide)

/-! ### One step -/

/-- A step without effects that leaves the sessions as they are. -/
theorem Sound.kept_of_quiet (h : Sound s) (hsessions : t.sessions = s.sessions)
    (heffects : t.effects = []) : Kept s t where
  effects ef hef := by
    rw [heffects] at hef
    cases hef
  sound := h.of_sessions hsessions

/-- A step with one effect that leaves the sessions as they are. -/
theorem Sound.kept_iff_fits (h : Sound s) (ef : Effect) (hsessions : t.sessions = s.sessions)
    (heffects : t.effects = [ef]) : Kept s t ↔ Fits s ef := by
  constructor
  · intro hkept
    exact hkept.effects ef (heffects ▸ List.mem_singleton_self ef)
  · refine fun hfits => ⟨fun ef' hef' => ?_, h.of_sessions hsessions⟩
    rw [heffects] at hef'
    obtain rfl := List.mem_singleton.1 hef'
    exact hfits

/-- A step that assigns a state. -/
theorem Sound.kept_assign_iff (h : Sound s) (tid : ℕ) (th : Option Thread) {j : ℕ}
    {st : RemoteSessionState} :
    Kept s ((s.assign j st).move tid th) ↔
      (st.alive = true → ∀ x ∈ s.sessions j, x.ended = false) := by
  rw [← h.assign_iff]
  exact ⟨fun hkept => hkept.sound.of_sessions rfl, fun hsound => ⟨nofun, hsound.of_sessions rfl⟩⟩

theorem Sound.kept_assign (h : Sound s) (tid : ℕ) (th : Option Thread) (j : ℕ)
    {st : RemoteSessionState} (hst : st.alive = false) :
    Kept s ((s.assign j st).move tid th) :=
  (h.kept_assign_iff tid th).2 fun halive => absurd halive (by rw [hst]; decide)

/-- Wired states after a thread has moved. -/
theorem Wired.moved (h : Wired s) (tid : ℕ) {th : Option Thread}
    (hth : ∀ th' ∈ th, th'.Wired s.transportOf s.hasEnded) : Wired (s.move tid th) :=
  h.move th rfl rfl rfl hth

theorem Wired.assigned (h : Wired s) (tid : ℕ) {th : Option Thread} {j : ℕ}
    {st : RemoteSessionState} (hst : s.transportOf j = some .cli → st ≠ .ready)
    (hth : ∀ th' ∈ th, th'.Wired s.transportOf (s.assign j st).hasEnded) :
    Wired ((s.assign j st).move tid th) :=
  (h.assign hst).moved tid (by rw [transportOf_assign]; exact hth)

theorem alive_stateOfStatus {gone : Bool} {word : String} {st : RemoteSessionState}
    (h : stateOfStatus gone word = some st) : st ≠ .ready ∧ (st.alive = true ↔ st = .connected) := by
  unfold stateOfStatus at h
  split_ifs at h <;> · obtain rfl := Option.some.inj h; decide

variable {tid : ℕ} {th : Thread} {answer : Answer}

/-- An operation looks at the state of its session. -/
theorem Wired.checkState (h : Wired s) (hsound : Sound s) {op : Op} {tr : Transport} {j : ℕ}
    (hj : s.transportOf j = some tr)
    (hstep : s.stepThread tid (.checkState op tr j) .nothing = some t) : Wired t ∧ Kept s t := by
  obtain ⟨x, hx, rfl⟩ := Option.map_eq_some_iff.1 hstep
  refine ⟨h.moved tid fun th' hth' => ?_, hsound.kept_of_quiet rfl rfl⟩
  split_ifs at hth' with hproceeds
  · obtain rfl := Option.some.inj hth'
    cases tr with
    | browser => exact hj
    | cli =>
      refine ⟨hj, ?_⟩
      -- a session of this transport is never ready, so no `execute` goes on
      obtain ⟨x', hx', htr⟩ := exists_session hj
      obtain rfl := Option.some.inj (hx.symm.trans hx')
      cases op with
      | health => rfl
      | execute code =>
        exact absurd (of_decide_eq_true hproceeds) ((h.sessions j x hx).cli htr).2
  · cases hth'

/-- An operation of the browser transport takes the lock. -/
theorem Wired.locking (h : Wired s) (hsound : Sound s) {op : Op} {j : ℕ}
    {names : Option (List String)} (hj : s.transportOf j = some .browser)
    (hstep : s.stepThread tid (.locking op j) (.tools names) = some t) :
    Wired t ∧ (Kept s t ↔ OrderlyStep s (.locking op j) (.tools names)) := by
  obtain ⟨x, hx, htr⟩ := exists_session hj
  cases op with
  | health =>
    obtain rfl := Option.some.inj hstep
    refine ⟨h.assigned tid (fun hcli => ?_) nofun, ?_⟩
    · rw [hj] at hcli
      cases hcli
    · rw [hsound.kept_assign_iff]
      cases hslot : s.slot.isSome with
      | false => simp [OrderlyStep, hslot, RemoteSessionState.alive]
      | true =>
        cases hnames : names.isSome with
        | false => simp [OrderlyStep, hnames, RemoteSessionState.alive]
        | true => simp [OrderlyStep, hslot, hnames, RemoteSessionState.alive]
  | execute code =>
    obtain rfl := Option.some.inj hstep
    refine ⟨h.move none rfl rfl rfl nofun, ?_⟩
    by_cases hruns : (s.slot.isSome && callsTool code names) = true
    · refine Iff.trans (hsound.kept_iff_fits (.ran j s.slot) rfl (if_pos hruns)) ?_
      obtain ⟨hslot, hcalls⟩ := Bool.and_eq_true_iff.1 hruns
      constructor
      · rintro ⟨x', hx', -, hbridge, hready, hlease⟩ - - y hy
        obtain rfl := Option.some.inj (hx'.symm.trans hy)
        exact ⟨hbridge, hready, hlease⟩
      · intro horderly
        obtain ⟨hbridge, hready, hlease⟩ := horderly hslot hcalls x hx
        exact ⟨x, hx, hslot, hbridge, hready, hlease⟩
    · refine iff_of_true (hsound.kept_of_quiet rfl (if_neg hruns)) fun hslot hcalls => ?_
      exact absurd (Bool.and_eq_true_iff.2 ⟨hslot, hcalls⟩) hruns

/-- The command line tool answers a `health`. -/
theorem Wired.running (h : Wired s) (hsound : Sound s) {gone : Bool} {word : String} {j : ℕ}
    (hstep : s.stepThread tid (.running .health j) (.status gone word) = some t) :
    Wired t ∧ (Kept s t ↔ OrderlyStep s (.running .health j) (.status gone word)) := by
  obtain rfl := Option.some.inj hstep
  cases hst : stateOfStatus gone word with
  | none =>
    refine ⟨h.moved tid nofun, iff_of_true (hsound.kept_of_quiet rfl rfl) ?_⟩
    rw [OrderlyStep, hst]
    exact nofun
  | some st =>
    obtain ⟨hready, halive⟩ := alive_stateOfStatus hst
    refine ⟨h.assigned tid (fun _ => hready) nofun, ?_⟩
    rw [Option.elim_some, hsound.kept_assign_iff, halive, OrderlyStep, hst, Option.some.injEq]

/-- `terminate` of the browser transport takes the lock. -/
theorem Wired.stopping (h : Wired s) (hsound : Sound s) {j : ℕ}
    (hj : s.transportOf j = some .browser) (hended : s.hasEnded j)
    (hstep : s.stepThread tid (.stopping j) .nothing = some t) :
    Wired t ∧ (Kept s t ↔ OrderlyStep s (.stopping j) .nothing) := by
  obtain rfl := Option.some.inj hstep
  obtain ⟨x, hx, htr⟩ := exists_session hj
  refine ⟨h.move (some (.returning j)) rfl rfl rfl fun th' hth' => ?_, ?_⟩
  · obtain rfl := Option.some.inj hth'
    exact hended
  · cases hslot : s.slot with
    | none =>
      refine iff_of_true (hsound.kept_of_quiet rfl rfl) fun b hb => ?_
      rw [hslot] at hb
      cases hb
    | some b =>
      refine Iff.trans (hsound.kept_iff_fits (.stopped j b) rfl rfl) ?_
      rw [OrderlyStep, hslot]
      constructor
      · rintro ⟨x', hx', hbridge⟩ b' hb' y hy
        obtain rfl := Option.some.inj (hx'.symm.trans hy)
        obtain rfl := Option.some.inj hb'
        exact hbridge
      · exact fun horderly => ⟨x, hx, horderly b rfl x hx⟩

/-- A new session object is not in use if it is over. -/
theorem Sound.deliver (h : Sound s) {x : Session} (hx : x.ended = true → x.data.state.alive = false)
    (hsessions : t.sessions = Function.update s.sessions s.nextSession (some x)) : Sound t := by
  intro j y hy hended
  rw [hsessions] at hy
  by_cases hj : j = s.nextSession
  · rw [hj, Function.update_self] at hy
    obtain rfl := Option.some.inj hy
    exact hx hended
  · rw [Function.update_of_ne hj] at hy
    exact h j y hy hended

theorem Sound.ended (h : Sound s) {j : ℕ}
    (hj : ∀ x ∈ s.sessions j, x.data.state.alive = false) : Sound (s.ended j) := by
  intro j' x hx hended
  by_cases hj' : j' = j
  · rw [hj', State.ended, State.sessions_change_self] at hx
    obtain ⟨y, hy, rfl⟩ := Option.map_eq_some_iff.1 hx
    exact hj y hy
  · rw [State.ended, State.sessions_change_of_ne s hj'] at hx
    exact h j' x hx hended

theorem hasEnded_assign {j : ℕ} {tr : Transport} (hj : s.transportOf j = some tr)
    {st : RemoteSessionState} (hst : st.isOver = true) : (s.assign j st).hasEnded j := by
  obtain ⟨x, hx, -⟩ := exists_session hj
  refine ⟨x.assign st, ?_, Bool.or_eq_true_iff.2 (.inr hst)⟩
  rw [State.assign, State.sessions_change_self, hx, Option.map_some]

/-- A thread goes on, and the sessions stay as they are. -/
theorem Wired.goesOn (h : Wired s) (hsound : Sound s) (hsessions : t.sessions = s.sessions)
    (hnext : t.nextSession = s.nextSession)
    (hthreads : t.threads = Function.update s.threads tid (some th)) (heffects : t.effects = [])
    (hth : th.Wired s.transportOf s.hasEnded) : Wired t ∧ Kept s t := by
  refine ⟨h.move (some th) hsessions hnext hthreads fun th' hth' => ?_,
    hsound.kept_of_quiet hsessions heffects⟩
  obtain rfl := Option.some.inj hth'
  exact hth

/-- A thread returns, and the sessions stay as they are. -/
theorem Wired.returns (h : Wired s) (hsound : Sound s) (tid : ℕ) :
    Wired (s.move tid none) ∧ Kept s (s.move tid none) :=
  ⟨h.moved tid nofun, hsound.kept_of_quiet rfl rfl⟩

/-- A thread assigns a state that is not in use, and goes on. -/
theorem Wired.retires (h : Wired s) (hsound : Sound s) {j : ℕ} {st : RemoteSessionState}
    (hst : st.alive = false) (hth : th.Wired s.transportOf (s.assign j st).hasEnded) :
    Wired ((s.assign j st).move tid (some th)) ∧ Kept s ((s.assign j st).move tid (some th)) := by
  refine ⟨h.assigned tid (fun _ hready => ?_) fun th' hth' => ?_, hsound.kept_assign tid _ j hst⟩
  · rw [hready] at hst
    exact nomatch hst
  · obtain rfl := Option.some.inj hth'
    exact hth

/-- `provision` looks at the credential. -/
theorem Wired.provision (h : Wired s) (hsound : Sound s) {c : Context}
    (hstep : s.stepThread tid (.provision c) .nothing = some t) : Wired t ∧ Kept s t := by
  rw [State.stepThread] at hstep
  split_ifs at hstep with hcred
  · obtain rfl := Option.some.inj hstep
    exact h.returns hsound tid
  · obtain rfl := Option.some.inj hstep
    refine h.goesOn hsound rfl rfl rfl rfl ?_
    cases c.transport with
    | browser => trivial
    | cli => trivial

/-- `provision` of the browser transport opens a bridge. -/
theorem Wired.opening (h : Wired s) (hsound : Sound s) {c : Context} {now : ℤ}
    {failure : Option String}
    (hstep : s.stepThread tid (.opening c now) (.attached failure) = some t) :
    Wired t ∧ Kept s t := by
  cases failure with
  | none =>
    obtain rfl := Option.some.inj hstep
    exact h.goesOn hsound rfl rfl rfl rfl ⟨wired_openedSession c now _, nofun⟩
  | some message =>
    obtain rfl := Option.some.inj hstep
    exact h.goesOn hsound rfl rfl rfl rfl ⟨wired_failedSession c now _, fun _ => rfl⟩

/-- The lease of a session is looked at. -/
theorem Wired.checkLease (h : Wired s) (hsound : Sound s) {op : Op} {tr : Transport} {j : ℕ}
    (hj : s.transportOf j = some tr)
    (hstep : s.stepThread tid (.checkLease op tr j) .nothing = some t) : Wired t ∧ Kept s t := by
  obtain ⟨x, hx, rfl⟩ := Option.map_eq_some_iff.1 hstep
  refine h.goesOn hsound rfl rfl rfl rfl ?_
  split_ifs
  · exact hj
  · exact hj

/-- A session is over, and its object goes away. -/
theorem Wired.returning (h : Wired s) (hsound : Sound s) {j : ℕ} (hended : s.hasEnded j)
    (hstep : s.stepThread tid (.returning j) .nothing = some t) : Wired t ∧ Kept s t := by
  obtain rfl := Option.some.inj hstep
  refine ⟨(h.ended j).moved tid nofun, ⟨nofun, ?_⟩⟩
  refine Sound.of_sessions (hsound.ended fun x hx => ?_) rfl
  obtain ⟨y, hy, hended⟩ := hended
  obtain rfl := Option.some.inj (hy.symm.trans hx)
  exact hsound j y hy hended

/-- **One step of a thread.** -/
theorem Wired.stepThread (h : Wired s) (hsound : Sound s)
    (hth : th.Wired s.transportOf s.hasEnded) (hstep : s.stepThread tid th answer = some t) :
    Wired t ∧ (Kept s t ↔ OrderlyStep s th answer) := by
  -- a step that keeps everything, of a kind that cannot be disorderly
  have keeps {p : Prop} (hp : p) (hkept : Wired t ∧ Kept s t) : Wired t ∧ (Kept s t ↔ p) :=
    ⟨hkept.1, iff_of_true hkept.2 hp⟩
  cases th with
  | provision c =>
    cases answer with
    | nothing => exact keeps trivial (h.provision hsound hstep)
    | _ => cases hstep
  | opening c now =>
    cases answer with
    | attached failure => exact keeps trivial (h.opening hsound hstep)
    | _ => cases hstep
  | creating c =>
    cases answer with
    | raised =>
      obtain rfl := Option.some.inj hstep
      exact keeps trivial (h.returns hsound tid)
    | created =>
      obtain rfl := Option.some.inj hstep
      exact keeps trivial
        (h.goesOn hsound rfl rfl rfl rfl ⟨wired_createdSession c s.clock, nofun⟩)
    | _ => cases hstep
  | deliver x =>
    cases answer with
    | nothing =>
      obtain rfl := Option.some.inj hstep
      exact keeps trivial ⟨h.deliver hth.1, nofun, hsound.deliver hth.2 rfl⟩
    | _ => cases hstep
  | checkLease op tr j =>
    cases answer with
    | nothing => exact keeps trivial (h.checkLease hsound hth hstep)
    | _ => cases hstep
  | expire op tr j =>
    cases answer with
    | nothing =>
      obtain rfl := Option.some.inj hstep
      exact keeps trivial (h.retires hsound rfl hth)
    | _ => cases hstep
  | checkState op tr j =>
    cases answer with
    | nothing => exact keeps trivial (h.checkState hsound hth hstep)
    | _ => cases hstep
  | locking op j =>
    cases answer with
    | tools names => exact h.locking hsound hth hstep
    | _ => cases op <;> cases hstep
  | running op j =>
    obtain ⟨hj, rfl⟩ := hth
    cases answer with
    | raised =>
      obtain rfl := Option.some.inj hstep
      exact keeps trivial (h.returns hsound tid)
    | status gone word => exact h.running hsound hstep
    | _ => cases hstep
  | terminate tr j =>
    cases tr with
    | browser =>
      cases answer with
      | nothing =>
        obtain rfl := Option.some.inj hstep
        exact keeps trivial (h.retires hsound rfl ⟨hth, hasEnded_assign hth rfl⟩)
      | _ => cases hstep
    | cli =>
      obtain rfl := Option.some.inj hstep
      exact keeps trivial (h.goesOn hsound rfl rfl rfl rfl hth)
  | stopping j =>
    cases answer with
    | nothing => exact h.stopping hsound hth.1 hth.2 hstep
    | _ => cases hstep
  | forcing j =>
    cases answer with
    | nothing =>
      obtain rfl := Option.some.inj hstep
      exact keeps trivial (h.retires hsound rfl (hasEnded_assign hth rfl))
    | _ => cases hstep
  | returning j =>
    cases answer with
    | nothing => exact keeps trivial (h.returning hsound hth hstep)
    | _ => cases hstep

/-- **One step.** -/
theorem Wired.next {a : Action} (h : Wired s) (hsound : Sound s) (hnext : s.next a = some t) :
    Wired t ∧ (Kept s t ↔ Orderly s a) := by
  cases a with
  | tick d =>
    obtain rfl := Option.some.inj hnext
    exact ⟨⟨h.sessions, h.fresh, h.threads⟩, iff_of_true (hsound.kept_of_quiet rfl rfl) trivial⟩
  | call tid c =>
    rw [State.next] at hnext
    split_ifs at hnext with hnone
    obtain ⟨⟨th, effects⟩, hentry, rfl⟩ := Option.map_eq_some_iff.1 hnext
    obtain ⟨context, rfl, rfl, rfl⟩ | ⟨j, x, hj, hx, hth, rfl⟩ := entry_eq_some hentry
    · refine ⟨h.move _ rfl rfl rfl fun th' hth' => ?_,
        iff_of_true (hsound.kept_of_quiet rfl rfl) nofun⟩
      obtain rfl := Option.some.inj hth'
      trivial
    · refine ⟨h.move _ rfl rfl rfl fun th' hth' => ?_, ?_⟩
      · obtain rfl := Option.some.inj hth'
        exact hth
      · refine Iff.trans (hsound.kept_iff_fits (.used j x.transport) rfl rfl) ?_
        rw [Orderly, hj]
        constructor
        · rintro ⟨y, hy, htr⟩ j' hj' x' hx'
          obtain rfl := Option.some.inj hj'
          obtain rfl := Option.some.inj (hx.symm.trans hy)
          obtain rfl := Option.some.inj (hx.symm.trans hx')
          exact (h.sessions j x hx).provisioned_iff.1 htr
        · exact fun horderly =>
            ⟨x, hx, (h.sessions j x hx).provisioned_iff.2 (horderly j rfl x hx)⟩
  | step tid answer =>
    obtain ⟨th, hth, hstep⟩ := Option.bind_eq_some_iff.1 hnext
    obtain ⟨hwired, hkept⟩ := h.stepThread hsound (h.threads tid th hth) hstep
    refine ⟨hwired, hkept.trans ?_⟩
    rw [Orderly, hth]
    constructor
    · intro horderly th' hth'
      obtain rfl := Option.some.inj hth'
      exact horderly
    · exact fun horderly => horderly th rfl

/-! ### Runs -/

/-- What holds of the states of a run whose steps keep what is promised. -/
theorem wired_sound_of_kept {as : List Action}
    (hkept : ∀ before a rest s t, as = before ++ a :: rest →
      System.runFn State.next {} before = some s → s.next a = some t → Wired s → Sound s →
        Kept s t)
    {before rest : List Action} {s : State} (has : as = before ++ rest)
    (hrun : System.runFn State.next {} before = some s) : Wired s ∧ Sound s := by
  refine System.runFn_keeps (I := fun s => Wired s ∧ Sound s) ⟨wired_start, sound_start⟩ ?_ has hrun
  rintro before a rest s t has hrun hnext ⟨hwired, hsound⟩
  exact ⟨(hwired.next hsound hnext).1, (hkept before a rest s t has hrun hnext hwired hsound).sound⟩

/-- **When sessions stay bound.**  A run keeps what is promised exactly when every step of it is
orderly. -/
theorem bound_iff (as : List Action) :
    Bound as ↔ ∀ before a rest s t, as = before ++ a :: rest →
      System.runFn State.next {} before = some s → s.next a = some t → Orderly s a := by
  constructor
  · intro h before a rest s t has hrun hnext
    obtain ⟨hwired, hsound⟩ := wired_sound_of_kept
      (fun before a rest s t has hrun hnext _ _ => h before a rest s t has hrun hnext) has hrun
    exact (hwired.next hsound hnext).2.1 (h before a rest s t has hrun hnext)
  · intro h before a rest s t has hrun hnext
    obtain ⟨hwired, hsound⟩ := wired_sound_of_kept
      (fun before a rest s t has hrun hnext hwired hsound =>
        (hwired.next hsound hnext).2.2 (h before a rest s t has hrun hnext)) has hrun
    exact (hwired.next hsound hnext).2.2 (h before a rest s t has hrun hnext)

/-- Two sessions are opened in the browser, and a job of the first one is executed. -/
def twoSessions : List Action :=
  [.call 0 (.provision ⟨some "browser", "first", 3600, false⟩), .step 0 .nothing,
    .step 0 (.attached none), .step 0 .nothing,
    .call 0 (.provision ⟨some "browser", "second", 3600, false⟩), .step 0 .nothing,
    .step 0 (.attached none), .step 0 .nothing,
    .call 0 (.apply (.execute (some "print(1)")) 0), .step 0 .nothing, .step 0 .nothing]

/-- The tools that the bridge offers. -/
def offered : Answer := .tools (some ["python"])

/-- The job of the first session runs over the bridge of the second one. -/
theorem runs_over_other : ¬ ∀ as, Bound as := by
  intro h
  have hkept := h (twoSessions ++ [.step 0 offered]) twoSessions _ [] _ _ rfl rfl rfl
  obtain ⟨x, hx, -, hbridge, -⟩ := hkept.effects (.ran 0 (some 1)) (List.mem_singleton_self _)
  obtain rfl := Option.some.inj hx
  cases hbridge

end Colab

end Compute

end AnnyRuntime
