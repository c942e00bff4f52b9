import AnnyRuntime.Lib.Transition
import AnnyRuntime.Security.Pipeline

/-!
# Sessions and the contexts issued for them

The session manager keeps leases and issues an execution context for a session that is active,
unexpired and of the enrolled tenant.  The pipeline then judges that context by its own clock, its
own generation and its own identity.

* `accepted_iff_not_live` : a context that is issued is never accepted, whatever the generation is.
  The times of a lease are aware and the pipeline's clock is naive, so that the generation that the
  issued context has always is the one for which the pipeline raises a `TypeError`; and a session
  that was closed or revoked, or whose expiry is past, gets no context in any further run.
-/

namespace AnnyRuntime

namespace Session

/-- `SessionStatus`. -/
inductive SessionStatus where
  | pending
  | active
  | expired
  | revoked
  | closed
  deriving DecidableEq

/-- `SessionLease`. -/
structure SessionLease where
  sessionId : String
  principal : String
  tenantId : String
  accountId : String
  projectId : String
  annyInstanceId : String
  runtimeId : String
  scope : String
  providerMetadata : Json
  createdAt : DateTime
  expiresAt : DateTime
  status : SessionStatus := .pending
  deriving DecidableEq

namespace SessionLease

variable (l : SessionLease)

/-- `is_valid`, unless it raises. -/
def isValid (t : ℤ) : Option Bool :=
  if l.status = .active then (DateTime.now t).lt? l.expiresAt else some false

/-- `extend`, unless the new time is out of range. -/
def extend (seconds : ℤ) : Option SessionLease :=
  if l.status ≠ .active then some l
  else (l.expiresAt.plus? (DateTime.seconds seconds)).map fun e => { l with expiresAt := e }

/-- `close`. -/
def close : SessionLease := { l with status := .closed }

/-- `revoke`. -/
def revoke : SessionLease := { l with status := .revoked }

/-- `expire`. -/
def expire : SessionLease := { l with status := .expired }

end SessionLease

/-- `EnrollmentState`. -/
inductive EnrollmentState where
  | unenrolled
  | enrolling
  | registered
  | paired
  | ready
  deriving DecidableEq

/-- What is read of the enrollment manager. -/
structure Enrollment where
  state : EnrollmentState
  tenantId : Option String
  deriving DecidableEq

/-- The session manager, the clock and the enrollment. -/
structure State where
  clock : ℤ
  enrollment : Enrollment
  sessions : Dict String SessionLease

/-- `validate_session`, unless it compares an aware time with a naive one. -/
def validateSession (s : State) (sessionId : String) (currentTime : DateTime) : Option Bool :=
  match s.sessions.get? sessionId with
  | none => some false
  | some lease =>
    if lease.status ≠ .active then some false
    else
      (currentTime.lt? lease.expiresAt).map fun early =>
        early && decide (some lease.tenantId = s.enrollment.tenantId)

/-- `get_context_for_session`: a context, with the new identifiers, when the session validates. -/
def getContextForSession (s : State) (sessionId : String) (currentTime : DateTime)
    (operationId executionId : String) : Option (Option Pipeline.ExecutionContext) :=
  (validateSession s sessionId currentTime).map fun valid =>
    if !valid then none
    else
      (s.sessions.get? sessionId).map fun lease =>
        { tenantId := lease.tenantId
          accountId := lease.accountId
          projectId := lease.projectId
          annyInstanceId := lease.annyInstanceId
          runtimeId := lease.runtimeId
          sessionId := lease.sessionId
          actorId := lease.principal
          operationId := operationId
          executionId := executionId
          generation := 1
          issuedAt := currentTime
          expiresAt := lease.expiresAt
          workspaceId := none
          capabilities := [] }

/-- What happens to the manager. -/
inductive Action where
  /-- The clock goes on. -/
  | tick (t : ℤ)
  /-- The enrollment changes. -/
  | enroll (e : Enrollment)
  /-- `attach`, where the new identifier is `sessionId`. -/
  | attach (sessionId principal tenantId accountId projectId annyInstanceId scope : String)
      (providerMetadata : Json)
  | heartbeat (sessionId : String) (extendSeconds : ℤ)
  | detach (sessionId : String)
  /-- The holder of the lease revokes it. -/
  | revoke (sessionId : String)
  | cleanupExpired

/-- The lease that `attach` makes, unless its expiry is out of range. -/
def newLease (runtimeId : String) (t : ℤ) (sessionId principal tenantId accountId projectId
    annyInstanceId scope : String) (providerMetadata : Json) : Option SessionLease :=
  ((DateTime.now t).plus? (DateTime.seconds 3600)).map fun expiresAt =>
    { sessionId := sessionId
      principal := principal
      tenantId := tenantId
      accountId := accountId
      projectId := projectId
      annyInstanceId := annyInstanceId
      runtimeId := runtimeId
      scope := scope
      providerMetadata := providerMetadata
      createdAt := .now t
      expiresAt := expiresAt
      status := .active }

/-- `heartbeat` for a lease: an error leaves it as it is. -/
def SessionLease.heartbeat (l : SessionLease) (t extendSeconds : ℤ) : SessionLease :=
  if l.isValid t = some true then (l.extend extendSeconds).getD l else l

/-- `cleanup_expired` for a lease. -/
def SessionLease.cleanup (l : SessionLease) (t : ℤ) : SessionLease :=
  if l.status = .active ∧ (DateTime.now t).lt? l.expiresAt = some false then l.expire else l

/-- Change a lease, when there is one. -/
def State.modify (s : State) (sessionId : String) (f : SessionLease → SessionLease) : State :=
  match s.sessions.get? sessionId with
  | none => s
  | some lease => { s with sessions := s.sessions.set sessionId (f lease) }

/-- One step.  The clock does not go back, and an identifier is not generated twice; a call that
raises changes nothing. -/
def next (runtimeId : String) (s : State) : Action → Option State
  | .tick t => if s.clock ≤ t then some { s with clock := t } else none
  | .enroll e => some { s with enrollment := e }
  | .attach sessionId principal tenantId accountId projectId annyInstanceId scope metadata =>
    if s.sessions.contains sessionId then none
    else if s.enrollment.state ≠ .ready ∨ s.enrollment.tenantId ≠ some tenantId then some s
    else
      match newLease runtimeId s.clock sessionId principal tenantId accountId projectId
        annyInstanceId scope metadata with
      | none => some s
      | some lease => some { s with sessions := s.sessions.set sessionId lease }
  | .heartbeat sessionId seconds => some (s.modify sessionId (·.heartbeat s.clock seconds))
  | .detach sessionId => some (s.modify sessionId .close)
  | .revoke sessionId => some (s.modify sessionId .revoke)
  | .cleanupExpired => some { s with sessions := s.sessions.map (·.cleanup s.clock) }

/-- A manager without sessions. -/
def start (clock : ℤ) (enrollment : Enrollment) : State := ⟨clock, enrollment, .empty⟩

/-- The manager of a runtime. -/
def manager (runtimeId : String) : System State Action :=
  .ofFn (fun s => s.sessions = .empty) (next runtimeId)

/-! ### What the steps keep -/

/-- The times of the leases are aware. -/
def Aware (s : State) : Prop := ∀ x lease, s.sessions.get? x = some lease → lease.expiresAt.Aware

/-- The lease was closed or revoked, or its expiry is past. -/
def SessionLease.Over (l : SessionLease) (t : ℤ) : Prop :=
  l.status = .closed ∨ l.status = .revoked ∨ l.expiresAt.instant ≤ t

/-- The session was closed or revoked, or its expiry is past. -/
def Ended (s : State) (x : String) : Prop :=
  ∃ lease, s.sessions.get? x = some lease ∧ lease.Over s.clock

section Lease

variable {l : SessionLease} {t : ℤ}

theorem isValid_iff (h : l.expiresAt.Aware) :
    l.isValid t = some true ↔ l.status = .active ∧ t < l.expiresAt.instant := by
  rw [SessionLease.isValid]
  split_ifs with ha
  · rw [DateTime.lt?_of_aware (DateTime.aware_now t) h, Option.some_inj, decide_eq_true_eq,
      DateTime.instant_now]
    exact ⟨fun hlt => ⟨ha, hlt⟩, And.right⟩
  · exact ⟨nofun, fun h => absurd h.1 ha⟩

theorem expiresAt_aware_extend {n : ℤ} (h : l.expiresAt.Aware) :
    ((l.extend n).getD l).expiresAt.Aware := by
  rw [SessionLease.extend]
  split_ifs with ha
  · exact h
  · cases hp : l.expiresAt.plus? (DateTime.seconds n) with
    | none => exact h
    | some e => exact DateTime.plus?_eq_some hp ▸ h

theorem expiresAt_aware_heartbeat {n : ℤ} (h : l.expiresAt.Aware) :
    (l.heartbeat t n).expiresAt.Aware := by
  rw [SessionLease.heartbeat]
  split_ifs
  · exact expiresAt_aware_extend h
  · exact h

theorem expiresAt_cleanup : (l.cleanup t).expiresAt = l.expiresAt := by
  rw [SessionLease.cleanup]
  split_ifs <;> rfl

/-- A lease that is over is not extended. -/
theorem heartbeat_of_over {n : ℤ} (h : l.expiresAt.Aware) (hover : l.Over t) :
    l.heartbeat t n = l := by
  refine if_neg fun hv => ?_
  obtain ⟨ha, hlt⟩ := (isValid_iff h).1 hv
  obtain hc | hr | hle := hover
  · exact absurd (ha.symm.trans hc) nofun
  · exact absurd (ha.symm.trans hr) nofun
  · omega

theorem over_close : l.close.Over t := .inl rfl

theorem over_revoke : l.revoke.Over t := .inr (.inl rfl)

theorem over_cleanup (h : l.Over t) : (l.cleanup t).Over t := by
  obtain hc | hr | hle := h
  · rw [SessionLease.cleanup, if_neg (by simp [hc])]
    exact .inl hc
  · rw [SessionLease.cleanup, if_neg (by simp [hr])]
    exact .inr (.inl hr)
  · exact .inr (.inr (by rw [expiresAt_cleanup]; exact hle))

end Lease

variable {runtimeId : String} {s s' : State} {a : Action} {x : String}

/-- What a change of one lease does to the lease of a session. -/
theorem get?_modify {y : String} {f : SessionLease → SessionLease} :
    (s.modify y f).sessions.get? x =
      if x = y then (s.sessions.get? x).map f else s.sessions.get? x := by
  rw [State.modify]
  split_ifs with h
  · subst h
    cases hx : s.sessions.get? x with
    | none => exact hx
    | some lease => exact Dict.get?_set_self ..
  · cases hy : s.sessions.get? y with
    | none => rfl
    | some lease => exact Dict.get?_set_ne h _

@[simp] theorem clock_modify {y : String} {f : SessionLease → SessionLease} :
    (s.modify y f).clock = s.clock := by
  rw [State.modify]
  split <;> rfl

/-- What a call does to a lease that is there. -/
inductive SessionLease.Step (l : SessionLease) (t : ℤ) : SessionLease → Prop
  | stay : l.Step t l
  | heartbeat (n : ℤ) : l.Step t (l.heartbeat t n)
  | close : l.Step t l.close
  | revoke : l.Step t l.revoke
  | cleanup : l.Step t (l.cleanup t)

theorem get?_modify_step {y : String} {f : SessionLease → SessionLease} {lease : SessionLease}
    (hf : lease.Step s.clock (f lease)) (hx : s.sessions.get? x = some lease) :
    ∃ lease', (s.modify y f).sessions.get? x = some lease' ∧ lease.Step s.clock lease' := by
  rw [get?_modify, hx]
  split_ifs
  · exact ⟨_, rfl, hf⟩
  · exact ⟨_, rfl, .stay⟩

/-- **One step, for a lease that is there.** -/
theorem step_lease {lease : SessionLease} (hx : s.sessions.get? x = some lease)
    (h : next runtimeId s a = some s') :
    s.clock ≤ s'.clock ∧
      ∃ lease', s'.sessions.get? x = some lease' ∧ lease.Step s.clock lease' := by
  cases a with
  | tick t =>
    rw [next] at h
    split_ifs at h with ht
    cases h
    exact ⟨ht, lease, hx, .stay⟩
  | enroll e =>
    cases h
    exact ⟨le_rfl, lease, hx, .stay⟩
  | attach y p tenant account project anny scope metadata =>
    rw [next] at h
    split_ifs at h with hy he
    · cases h
      exact ⟨le_rfl, lease, hx, .stay⟩
    · split at h <;> cases h
      · exact ⟨le_rfl, lease, hx, .stay⟩
      · refine ⟨le_rfl, lease, (Dict.get?_set_ne ?_ _).trans hx, .stay⟩
        rintro rfl
        exact hy (by rw [Dict.contains, hx]; rfl)
  | heartbeat y n =>
    cases h
    exact ⟨clock_modify.ge, get?_modify_step (.heartbeat n) hx⟩
  | detach y =>
    cases h
    exact ⟨clock_modify.ge, get?_modify_step .close hx⟩
  | revoke y =>
    cases h
    exact ⟨clock_modify.ge, get?_modify_step .revoke hx⟩
  | cleanupExpired =>
    cases h
    exact ⟨le_rfl, _, (Dict.get?_map _ _ _).trans (congrArg _ hx), .cleanup⟩

/-- **One step, for a session that is not there**: its lease is a new one. -/
theorem step_new {lease : SessionLease} (hx : s.sessions.get? x = none)
    (h : next runtimeId s a = some s') (hx' : s'.sessions.get? x = some lease) :
    lease.expiresAt.Aware := by
  have hmodify : ∀ y f, (s.modify y f).sessions.get? x = none := fun y f => by
    rw [get?_modify, hx]
    split_ifs <;> rfl
  cases a with
  | tick t =>
    rw [next] at h
    split_ifs at h
    cases h
    cases hx.symm.trans hx'
  | enroll e =>
    cases h
    cases hx.symm.trans hx'
  | attach y p tenant account project anny scope metadata =>
    rw [next] at h
    split_ifs at h
    · cases h
      cases hx.symm.trans hx'
    · split at h <;> cases h
      · cases hx.symm.trans hx'
      · rename_i l hl
        obtain ⟨e, he, rfl⟩ := Option.map_eq_some_iff.1 hl
        obtain heq | hold := Dict.of_get?_set hx'
        · obtain ⟨-, rfl⟩ := heq
          exact DateTime.plus?_eq_some he ▸ DateTime.aware_now s.clock
        · cases hx.symm.trans hold.2
  | heartbeat y n =>
    cases h
    cases (hmodify _ _).symm.trans hx'
  | detach y =>
    cases h
    cases (hmodify _ _).symm.trans hx'
  | revoke y =>
    cases h
    cases (hmodify _ _).symm.trans hx'
  | cleanupExpired =>
    cases h
    rw [Dict.get?_map, hx] at hx'
    cases hx'

theorem SessionLease.Step.aware {l l' : SessionLease} {t : ℤ} (h : l.Step t l')
    (haware : l.expiresAt.Aware) : l'.expiresAt.Aware := by
  cases h with
  | stay => exact haware
  | heartbeat n => exact expiresAt_aware_heartbeat haware
  | close => exact haware
  | revoke => exact haware
  | cleanup => rwa [expiresAt_cleanup]

theorem SessionLease.Step.over {l l' : SessionLease} {t : ℤ} (h : l.Step t l')
    (haware : l.expiresAt.Aware) (hover : l.Over t) : l'.Over t := by
  cases h with
  | stay => exact hover
  | heartbeat n => rwa [heartbeat_of_over haware hover]
  | close => exact over_close
  | revoke => exact over_revoke
  | cleanup => exact over_cleanup hover

/-- In every run the times of the leases are aware. -/
theorem manager_aware (runtimeId : String) : (manager runtimeId).Invariant Aware where
  init s hs x lease hx := by
    rw [show s.sessions = .empty from hs] at hx
    cases hx
  step s a s' haware h x lease' hx' := by
    cases hx : s.sessions.get? x with
    | none => exact step_new hx h hx'
    | some lease =>
      obtain ⟨-, l, hl, hstep⟩ := step_lease hx h
      cases hl.symm.trans hx'
      exact hstep.aware (haware x lease hx)

/-- **A session that has ended stays so.** -/
theorem ended_step (haware : Aware s) (h : next runtimeId s a = some s') (hended : Ended s x) :
    Ended s' x := by
  obtain ⟨lease, hx, hover⟩ := hended
  obtain ⟨hclock, lease', hx', hstep⟩ := step_lease hx h
  refine ⟨lease', hx', ?_⟩
  obtain hc | hr | hle := hstep.over (haware x lease hx) hover
  · exact .inl hc
  · exact .inr (.inl hr)
  · exact .inr (.inr (hle.trans hclock))

theorem ended_runFn {as : List Action} (hs : (manager runtimeId).Reachable s)
    (h : System.runFn (next runtimeId) s as = some s') (hended : Ended s x) : Ended s' x := by
  induction as generalizing s with
  | nil => exact Option.some.inj h ▸ hended
  | cons a as ih =>
    obtain ⟨u, hu, ht⟩ := Option.bind_eq_some_iff.1 h
    exact ih (.step hs hu) ht (ended_step ((manager_aware runtimeId).holds hs) hu hended)

/-! ### Which contexts are issued, and which are accepted -/

/-- The session has an active, unexpired lease of the enrolled tenant. -/
def Live (s : State) (x : String) (t : ℤ) : Prop :=
  ∃ lease, s.sessions.get? x = some lease ∧ lease.status = .active ∧
    t < lease.expiresAt.instant ∧ some lease.tenantId = s.enrollment.tenantId

/-- If the session validates at a time, a context is issued for it, and the pipeline's checks of the
context let it pass at that time. -/
def Accepted (runtime : Pipeline.RuntimeIdentity) (s : State) (x : String) (t : ℤ)
    (operationId executionId : String) : Prop :=
  validateSession s x (.now t) = some true →
    ∃ c, getContextForSession s x (.now t) operationId executionId = some (some c) ∧
      Pipeline.checkContext runtime c (.utcnow t) = .ok ()

/-- **When a session validates.** -/
theorem validateSession_iff {t : ℤ} (haware : Aware s) :
    validateSession s x (.now t) = some true ↔ Live s x t := by
  rw [validateSession, Live]
  cases hx : s.sessions.get? x with
  | none => exact ⟨nofun, fun ⟨_, h, _⟩ => nomatch h⟩
  | some lease =>
    simp only [Option.some_inj, exists_eq_left']
    split_ifs with ha
    · exact ⟨nofun, fun h => absurd h.1 ha⟩
    · rw [DateTime.lt?_of_aware (DateTime.aware_now t) (haware x lease hx), Option.map_some,
        Option.some_inj, Bool.and_eq_true, decide_eq_true_eq, decide_eq_true_eq,
        DateTime.instant_now]
      exact (and_iff_right (not_not.1 ha)).symm

/-- A session that does not validate gets no context. -/
theorem getContextForSession_eq_none {t : ℤ} {operationId executionId : String}
    (haware : Aware s) (h : ¬ Live s x t) :
    getContextForSession s x (.now t) operationId executionId = some none := by
  have hv : ∃ b, validateSession s x (.now t) = some b := by
    rw [validateSession]
    cases hx : s.sessions.get? x with
    | none => exact ⟨_, rfl⟩
    | some lease =>
      dsimp only
      split_ifs
      · exact ⟨_, rfl⟩
      · exact ⟨_, by rw [DateTime.lt?_of_aware (DateTime.aware_now t) (haware x lease hx)]; rfl⟩
  obtain ⟨b, hb⟩ := hv
  cases b with
  | true => exact absurd ((validateSession_iff haware).1 hb) h
  | false => rw [getContextForSession, hb]; rfl

/-- What an issued context says about its generation and its times. -/
theorem issued {t : ℤ} {operationId executionId : String} {c : Pipeline.ExecutionContext}
    (haware : Aware s)
    (h : getContextForSession s x (.now t) operationId executionId = some (some c)) :
    c.generation = 1 ∧ c.expiresAt.Aware := by
  obtain ⟨b, -, hb⟩ := Option.map_eq_some_iff.1 h
  cases b with
  | false => exact nomatch hb
  | true =>
    obtain ⟨lease, hx, rfl⟩ := Option.map_eq_some_iff.1 hb
    exact ⟨rfl, haware x lease hx⟩

/-- **Of the generations the first one is the worst**: for it the pipeline compares the aware times
of an issued context with its own naive clock, and that is a `TypeError`; for another one the
context is stale. -/
theorem isValid_issued {c : Pipeline.ExecutionContext} (hg : c.generation = 1)
    (haware : c.expiresAt.Aware) (t generation : ℤ) :
    c.isValid (.utcnow t) generation = if generation = 1 then none else some false := by
  rw [Pipeline.ExecutionContext.isValid, hg]
  by_cases h : generation = 1
  · have hlt : c.expiresAt.lt? (.utcnow t) = none :=
      DateTime.lt?_eq_none_iff.2 fun h => DateTime.not_aware_utcnow t (h.1 haware)
    rw [if_neg (not_not.2 h.symm), if_pos h, hlt]
    rfl
  · rw [if_pos (Ne.symm h), if_neg h]

/-- **Which sessions the pipeline agrees about.**  In every state that a run of the manager reaches,
whatever the runtime's tenant, generation and identity are, the context of a session is accepted
exactly when the session does not validate and no context is issued.  And a session that was closed
or revoked, or whose expiry is past, gets no context after any further run. -/
theorem accepted_iff_not_live {runtimeId : String} {s : State}
    (hs : (manager runtimeId).Reachable s) (runtime : Pipeline.RuntimeIdentity) :
    (∀ x t operationId executionId,
      Accepted runtime s x t operationId executionId ↔ ¬ Live s x t) ∧
    ∀ x, Ended s x → ∀ as s', System.runFn (next runtimeId) s as = some s' →
      ∀ operationId executionId,
        getContextForSession s' x (.now s'.clock) operationId executionId = some none := by
  have haware : Aware s := (manager_aware runtimeId).holds hs
  constructor
  · intro x t operationId executionId
    constructor
    · intro haccepted hlive
      obtain ⟨c, hc, hadmit⟩ := haccepted ((validateSession_iff haware).2 hlive)
      obtain ⟨hg, hexpires⟩ := issued haware hc
      have hvalid := (Pipeline.checkContext_eq_ok_iff.1 hadmit).2.2.2.1
      rw [isValid_issued hg hexpires] at hvalid
      split_ifs at hvalid with h
      cases hvalid
    · intro hlive hvalid
      exact absurd ((validateSession_iff haware).1 hvalid) hlive
  · intro x hended as s' hrun operationId executionId
    have haware' := (manager_aware runtimeId).holds (System.reachable_runFn hs hrun)
    refine getContextForSession_eq_none haware' fun hlive => ?_
    obtain ⟨lease, hx, hover⟩ := ended_runFn hs hrun hended
    obtain ⟨lease', hx', hactive, hlt, -⟩ := hlive
    obtain rfl : lease = lease' := Option.some.inj (hx.symm.trans hx')
    obtain hc | hr | hle := hover
    · exact absurd (hactive.symm.trans hc) nofun
    · exact absurd (hactive.symm.trans hr) nofun
    · omega

/-- A manager with one session, at the start of the clock. -/
def opened : State where
  clock := 0
  enrollment := ⟨.ready, some "TEN"⟩
  sessions := Dict.empty.set "SES"
    { sessionId := "SES", principal := "alice", tenantId := "TEN", accountId := "ACC"
      projectId := "PRO", annyInstanceId := "ANNY", runtimeId := "RT", scope := "all"
      providerMetadata := .obj [], createdAt := .now 0, expiresAt := .now 3600000000
      status := .active }

theorem opened_reachable : (manager "RT").Reachable opened :=
  .step (s := start 0 ⟨.ready, some "TEN"⟩)
    (a := .attach "SES" "alice" "TEN" "ACC" "PRO" "ANNY" "all" (.obj [])) (.init rfl) (by
      have hplus : (DateTime.now 0).plus? (DateTime.seconds 3600) = some (.now 3600000000) := by
        decide
      change next _ _ _ = _
      rw [next, if_neg (by decide), if_neg (by decide), newLease]
      simp only [start, hplus, Option.map_some]
      rfl)

theorem opened_accepted_iff :
    Accepted ⟨some "TEN", 1, "RT"⟩ opened "SES" 0 "OP" "EXEC" ↔ ¬ Live opened "SES" 0 :=
  (accepted_iff_not_live opened_reachable ⟨some "TEN", 1, "RT"⟩).1 "SES" 0 "OP" "EXEC"

/-- **The session validates, and its context is refused.**  In a runtime of the first generation the
pipeline raises a `TypeError`, and in one of the second generation the context is stale. -/
theorem opened_refused :
    (manager "RT").Reachable opened ∧ validateSession opened "SES" (.now 0) = some true ∧
      (getContextForSession opened "SES" (.now 0) "OP" "EXEC").map (Option.map fun c =>
        (Pipeline.checkContext ⟨some "TEN", 1, "RT"⟩ c (.utcnow 0),
          Pipeline.checkContext ⟨some "TEN", 2, "RT"⟩ c (.utcnow 0))) =
        some (some (.error .typeError,
          .error (.securityViolation "Session expired or generation stale"))) :=
  ⟨opened_reachable, rfl, rfl⟩

end Session

end AnnyRuntime
