import AnnyRuntime.Lib.DateTime
import AnnyRuntime.Lib.Dict
import AnnyRuntime.Lib.Transition

/-!
# Access to the admin panel

The session manager keeps the sessions of the admin panel, and the middleware decides which requests
proceed: by the session of the request's cookie, by whether the runtime is set up yet, by the path,
and by the host that the request names.  On its way it destroys expired sessions and creates new
ones.

* `proceeds_with_session` : what a request that proceeds holds, and that the identifier of an
  onboarding session gives access to the onboarding routes only, in whatever order requests, changes
  of the set-up, logouts and clean-ups come.
-/

namespace AnnyRuntime

namespace Admin

/-- The scope of a session. -/
inductive Scope where
  | admin
  | onboardingOnly
  deriving DecidableEq

/-- `AdminSession`.  Its times are kept as they are, where the source keeps their texts. -/
structure AdminSession where
  adminSessionId : String
  issuedAt : DateTime
  expiresAt : DateTime
  runtimeId : String
  scope : Scope
  principal : String
  csrfToken : String
  deriving DecidableEq

/-- What a session manager is made with. -/
structure AdminSessionManager where
  runtimeId : String
  ttlSeconds : ℤ

/-- What is generated at random for a new session. -/
structure Fresh where
  adminSessionId : String
  csrfToken : String

/-- The clock, the sessions, and a record of the identifiers that were issued. -/
structure State where
  clock : ℤ
  sessions : Dict String AdminSession
  issued : List (String × Scope)

/-- A new session, unless its expiry is out of range. -/
def newSession (m : AdminSessionManager) (ttl : ℤ) (scope : Scope) (principal : String)
    (fresh : Fresh) (t : ℤ) : Option AdminSession :=
  ((DateTime.now t).plus? (DateTime.seconds ttl)).map fun expiresAt =>
    { adminSessionId := fresh.adminSessionId
      issuedAt := .now t
      expiresAt := expiresAt
      runtimeId := m.runtimeId
      scope := scope
      principal := principal
      csrfToken := fresh.csrfToken }

/-- Enter a session in the table. -/
def State.enter (s : State) (session : AdminSession) : State :=
  { s with
    sessions := s.sessions.set session.adminSessionId session
    issued := s.issued ++ [(session.adminSessionId, session.scope)] }

/-- `create_session`: the session, unless it raises.  Writing its file can fail when it is in the
table already. -/
def createSession (m : AdminSessionManager) (principal : String) (fresh : Fresh) (persisted : Bool)
    (s : State) : Option AdminSession × State :=
  match newSession m m.ttlSeconds .admin principal fresh s.clock with
  | none => (none, s)
  | some session => (if persisted then some session else none, s.enter session)

/-- `create_first_run_session`, which is not written to a file. -/
def createFirstRunSession (m : AdminSessionManager) (fresh : Fresh) (s : State) :
    Option AdminSession × State :=
  match newSession m 1800 .onboardingOnly "local-first-run" fresh s.clock with
  | none => (none, s)
  | some session => (some session, s.enter session)

/-- `destroy`.  Removing the file can fail when the session is out of the table already. -/
def destroy (sessionId : String) (unlinked : Bool) (s : State) : Option Unit × State :=
  (if unlinked then some () else none, { s with sessions := s.sessions.erase sessionId })

/-- `validate`: the session, when there is an unexpired one, unless it raises. -/
def validate (sessionId : String) (unlinked : Bool) (s : State) :
    Option (Option AdminSession) × State :=
  match s.sessions.get? sessionId with
  | none => (some none, s)
  | some session =>
    match (DateTime.now s.clock).lt? session.expiresAt with
    | none => (none, s)
    | some true => (some (some session), s)
    | some false =>
      ((destroy sessionId unlinked s).1.map fun _ => none, (destroy sessionId unlinked s).2)

/-- `cleanup_expired`. -/
def cleanupExpired (s : State) : State :=
  { s with
    sessions := (s.sessions.entries.filter fun e =>
      (DateTime.now s.clock).lt? e.2.expiresAt = some false).foldl (fun d e => d.erase e.1)
        s.sessions }

/-! ### The middleware -/

/-- `ONBOARDING_ROUTES`. -/
def onboardingRoutes : List String :=
  ["/", "/github/token", "/github/device/init", "/github/device/poll", "/api/status",
    "/api/bootstrap/verify", "/health/live", "/health/ready"]

/-- The paths that need no session. -/
def isPublic (path : String) : Bool :=
  ["/health/live", "/health/ready"].contains path ||
    "/api/v1/bridge/".toList.isPrefixOf path.toList

/-- The host that a request names, without its port. -/
def hostNoPort (host : String) : String :=
  if "[".toList.isPrefixOf host.toList then
    String.ofList (host.toList.takeWhile (· ≠ ']') ++ [']'])
  else String.ofList (host.toList.takeWhile (· ≠ ':'))

/-- The request names the local host. -/
def isLocal (host : String) : Bool :=
  ["127.0.0.1", "localhost", "::1", "[::1]"].contains (hostNoPort host)

/-- What the middleware takes from the standard library. -/
structure Library where
  /-- The path of `urlparse(url)`, unless it raises. -/
  urlparse : String → Option String
  /-- The value of `admin_session_id` in a `SimpleCookie`, when it has one, unless it raises. -/
  adminSessionId : String → Option (Option String)

/-- A request, with what is random or from outside when it is processed. -/
structure Request where
  path : String
  headers : String → Option String
  /-- `github_manager and not github_manager.has_token()`, unless it raises. -/
  firstRun : Option Bool
  fresh : Fresh
  persisted : Bool
  unlinked : Bool

/-- What the middleware writes into the context of a request. -/
structure Context where
  secureCookie : Bool
  adminSession : Option AdminSession := none
  newSessionId : Option String := none
  redirectTo : Option String := none
  deriving DecidableEq

/-- The identifier in the request's cookie. -/
def cookieSessionId (lib : Library) (r : Request) : Option (Option String) :=
  match r.headers "Cookie" with
  | none => some none
  | some cookie => lib.adminSessionId cookie

/-- The session of the request's cookie. -/
def authenticate (r : Request) (sessionId : Option String) (s : State) :
    Option (Option AdminSession) × State :=
  match sessionId with
  | none => (some none, s)
  | some sessionId => if sessionId = "" then (some none, s) else validate sessionId r.unlinked s

/-- A context that uses a new session. -/
def Context.use (ctx : Context) (session : AdminSession) : Context :=
  { ctx with adminSession := some session, newSessionId := some session.adminSessionId }

/-- A context that is sent to the dashboard. -/
def Context.redirected (ctx : Context) : Context := { ctx with redirectTo := some "/" }

/-- The first run without a session: an onboarding session for an onboarding route, and no way on
for another path. -/
def onboard (m : AdminSessionManager) (r : Request) (path : String) (firstRun : Bool)
    (ctx : Context) (s : State) : Option (Bool × Context) × State :=
  if firstRun && ctx.adminSession.isNone then
    if path ∈ onboardingRoutes then
      match createFirstRunSession m r.fresh s with
      | (none, s) => (none, s)
      | (some session, s) => (some (true, ctx.use session), s)
    else (some (false, ctx.redirected), s)
  else (some (true, ctx), s)

/-- After the first run a local request without a session gets one. -/
def signIn (m : AdminSessionManager) (r : Request) (host : String) (firstRun : Bool)
    (ctx : Context) (s : State) : Option Context × State :=
  if !firstRun && ctx.adminSession.isNone && isLocal host then
    match createSession m "local-admin" r.fresh r.persisted s with
    | (none, s) => (none, s)
    | (some session, s) => (some (ctx.use session), s)
  else (some ctx, s)

/-- The request has an onboarding session and asks for another path. -/
def outOfScope (path : String) (ctx : Context) : Bool :=
  ctx.adminSession.any (·.scope = .onboardingOnly) && decide (path ∉ onboardingRoutes)

/-- The checks of a request, after its cookie. -/
def checks (m : AdminSessionManager) (r : Request) (path host : String) (firstRun : Bool)
    (ctx : Context) (s : State) : Option (Bool × Context) × State :=
  match onboard m r path firstRun ctx s with
  | (some (true, ctx), s) =>
    if outOfScope path ctx then (some (false, ctx.redirected), s)
    else
      match signIn m r host firstRun ctx s with
      | (none, s) => (none, s)
      | (some ctx, s) =>
        if ctx.adminSession.isNone && !isPublic path then (some (false, ctx.redirected), s)
        else (some (true, ctx), s)
  | stopped => stopped

/-- `process_request`: whether the request proceeds, and its context, unless it raises. -/
def processRequest (lib : Library) (m : AdminSessionManager) (r : Request) (s : State) :
    Option (Bool × Context) × State :=
  match lib.urlparse r.path, cookieSessionId lib r with
  | some path, some sessionId =>
    match authenticate r sessionId s with
    | (none, s) => (none, s)
    | (some session, s) =>
      match r.firstRun with
      | none => (none, s)
      | some firstRun =>
        let host := (r.headers "Host").getD ""
        checks m r path host firstRun ⟨!isLocal host, session, none, none⟩ s
  | _, _ => (none, s)

/-- What happens to the panel. -/
inductive Action where
  /-- The clock goes on. -/
  | tick (t : ℤ)
  | request (r : Request)
  /-- A handler creates a session, when the set-up is complete. -/
  | create (principal : String) (fresh : Fresh) (persisted : Bool)
  /-- A handler destroys a session: at a logout, or the onboarding session after the set-up. -/
  | destroy (sessionId : String) (unlinked : Bool)
  | cleanup

/-- The identifier was not generated before. -/
def Fresh.IsNew (fresh : Fresh) (s : State) : Prop := fresh.adminSessionId ∉ s.issued.map Prod.fst

instance (fresh : Fresh) (s : State) : Decidable (fresh.IsNew s) :=
  inferInstanceAs (Decidable (¬ _))

/-- One step.  The clock does not go back, and no identifier is generated twice. -/
def next (lib : Library) (m : AdminSessionManager) (s : State) : Action → Option State
  | .tick t => if s.clock ≤ t then some { s with clock := t } else none
  | .request r => if r.fresh.IsNew s then some (processRequest lib m r s).2 else none
  | .create principal fresh persisted =>
    if fresh.IsNew s then some (createSession m principal fresh persisted s).2 else none
  | .destroy sessionId unlinked => some (destroy sessionId unlinked s).2
  | .cleanup => some (cleanupExpired s)

/-- The panel of a runtime. -/
def panel (lib : Library) (m : AdminSessionManager) : System State Action :=
  .ofFn (fun s => s.sessions = .empty ∧ s.issued = []) (next lib m)

/-! ### The outcomes of the checks -/

@[simp] theorem adminSession_use (ctx : Context) (session : AdminSession) :
    (ctx.use session).adminSession = some session := rfl

section Checks

variable {lib : Library} {m : AdminSessionManager} {r : Request} {path host : String}
  {ctx : Context} {s : State}

/-- With a session. -/
theorem checks_of_some {firstRun : Bool} {session : AdminSession}
    (h : ctx.adminSession = some session) :
    checks m r path host firstRun ctx s =
      if session.scope = .onboardingOnly ∧ path ∉ onboardingRoutes then
        (some (false, ctx.redirected), s)
      else (some (true, ctx), s) := by
  have hscope : outOfScope path ctx = true ↔
      session.scope = .onboardingOnly ∧ path ∉ onboardingRoutes := by
    rw [outOfScope, h]
    simp
  simp only [checks, onboard, signIn, h, Option.isNone_some, Bool.and_false, Bool.false_and,
    Bool.false_eq_true, if_false]
  by_cases hs : outOfScope path ctx = true
  · rw [if_pos hs, if_pos (hscope.1 hs)]
  · rw [if_neg hs, if_neg (mt hscope.2 hs)]

/-- Without a session, in the first run. -/
theorem checks_firstRun (h : ctx.adminSession = none) :
    checks m r path host true ctx s =
      if path ∈ onboardingRoutes then
        match newSession m 1800 .onboardingOnly "local-first-run" r.fresh s.clock with
        | none => (none, s)
        | some session => (some (true, ctx.use session), s.enter session)
      else (some (false, ctx.redirected), s) := by
  simp only [checks, onboard, h, Option.isNone_none, Bool.and_true, if_true]
  by_cases hp : path ∈ onboardingRoutes
  · simp only [if_pos hp, createFirstRunSession]
    cases newSession m 1800 .onboardingOnly "local-first-run" r.fresh s.clock with
    | none => rfl
    | some session =>
      have hscope : outOfScope path (ctx.use session) = false := by simp [outOfScope, hp]
      simp [hscope, signIn]
  · simp only [if_neg hp]

/-- Without a session, after the first run. -/
theorem checks_later (h : ctx.adminSession = none) :
    checks m r path host false ctx s =
      if isLocal host then
        match newSession m m.ttlSeconds .admin "local-admin" r.fresh s.clock with
        | none => (none, s)
        | some session =>
          (if r.persisted then some (true, ctx.use session) else none, s.enter session)
      else if isPublic path then (some (true, ctx), s)
      else (some (false, ctx.redirected), s) := by
  have hscope : outOfScope path ctx = false := by simp [outOfScope, h]
  simp only [checks, onboard, Bool.false_and, Bool.false_eq_true, if_false, hscope, signIn, h,
    Bool.not_false, Option.isNone_none, Bool.true_and]
  by_cases hl : isLocal host = true
  · simp only [if_pos hl, createSession]
    cases newSession m m.ttlSeconds .admin "local-admin" r.fresh s.clock with
    | none => rfl
    | some session =>
      by_cases hp : r.persisted = true
      · simp [hp]
      · simp [hp]
  · simp only [if_neg hl, h, Option.isNone_none, Bool.true_and]
    by_cases hp : isPublic path = true
    · simp [hp]
    · simp [hp]

end Checks

/-! ### The states of the panel -/

/-- What a new session is. -/
theorem newSession_eq_some {m : AdminSessionManager} {ttl t : ℤ} {scope : Scope}
    {principal : String} {fresh : Fresh} {session : AdminSession}
    (h : newSession m ttl scope principal fresh t = some session) :
    session.adminSessionId = fresh.adminSessionId ∧ session.scope = scope ∧
      session.expiresAt.Aware ∧ session.expiresAt.instant = t + DateTime.seconds ttl := by
  obtain ⟨e, he, rfl⟩ := Option.map_eq_some_iff.1 h
  obtain rfl := DateTime.plus?_eq_some he
  exact ⟨rfl, rfl, rfl, Int.sub_zero _⟩

/-- The sessions in the table are issued ones, and an identifier is issued once. -/
structure Inv (s : State) : Prop where
  entry : ∀ x session, s.sessions.get? x = some session →
    session.adminSessionId = x ∧ (x, session.scope) ∈ s.issued ∧ session.expiresAt.Aware
  once : ∀ x a b, (x, a) ∈ s.issued → (x, b) ∈ s.issued → a = b

/-- Some sessions leave the table, and nothing is issued. -/
structure Shrinks (s u : State) : Prop where
  issued : u.issued = s.issued
  table : ∀ x session, u.sessions.get? x = some session → s.sessions.get? x = some session

theorem Shrinks.refl (s : State) : Shrinks s s := ⟨rfl, fun _ _ h => h⟩

theorem Shrinks.inv {s u : State} (h : Shrinks s u) (hs : Inv s) : Inv u where
  entry x session hx := h.issued ▸ hs.entry x session (h.table x session hx)
  once := h.issued ▸ hs.once

theorem Inv.enter {s : State} {session : AdminSession} (hs : Inv s)
    (hnew : session.adminSessionId ∉ s.issued.map Prod.fst) (haware : session.expiresAt.Aware) :
    Inv (s.enter session) where
  entry x session' hx := by
    obtain ⟨rfl, rfl⟩ | ⟨hne, hx⟩ := Dict.of_get?_set hx
    · exact ⟨rfl, List.mem_append_right _ (List.mem_singleton_self _), haware⟩
    · obtain ⟨hid, hissued, haware'⟩ := hs.entry x session' hx
      exact ⟨hid, List.mem_append_left _ hissued, haware'⟩
  once x a b ha hb := by
    have hold : ∀ {c}, (session.adminSessionId, c) ∉ s.issued := fun h =>
      hnew (List.mem_map_of_mem h)
    rcases List.mem_append.1 ha with ha | ha <;> rcases List.mem_append.1 hb with hb | hb
    · exact hs.once x a b ha hb
    · obtain ⟨rfl, rfl⟩ := Prod.mk.inj (List.mem_singleton.1 hb)
      exact absurd ha hold
    · obtain ⟨rfl, rfl⟩ := Prod.mk.inj (List.mem_singleton.1 ha)
      exact absurd hb hold
    · exact (Prod.mk.inj (List.mem_singleton.1 ha)).2.trans
        (Prod.mk.inj (List.mem_singleton.1 hb)).2.symm

theorem shrinks_destroy (x : String) (unlinked : Bool) (s : State) :
    Shrinks s (destroy x unlinked s).2 :=
  ⟨rfl, fun _ _ h => (Dict.of_get?_erase h).2⟩

theorem shrinks_validate (x : String) (unlinked : Bool) (s : State) :
    Shrinks s (validate x unlinked s).2 := by
  rw [validate]
  split
  · exact .refl s
  · split
    · exact .refl s
    · exact .refl s
    · exact shrinks_destroy x unlinked s

theorem shrinks_authenticate (r : Request) (sessionId : Option String) (s : State) :
    Shrinks s (authenticate r sessionId s).2 := by
  unfold authenticate
  split
  · exact .refl s
  · split_ifs
    · exact .refl s
    · exact shrinks_validate _ _ s

theorem shrinks_cleanupExpired (s : State) : Shrinks s (cleanupExpired s) := by
  refine ⟨rfl, ?_⟩
  have herase : ∀ (es : List (String × AdminSession)) (d : Dict String AdminSession) x session,
      (es.foldl (fun d e => d.erase e.1) d).get? x = some session → d.get? x = some session := by
    intro es
    induction es with
    | nil => exact fun d x session h => h
    | cons e es ih => exact fun d x session h => (Dict.of_get?_erase (ih _ x session h)).2
  exact fun x session h => herase _ _ x session h

/-- A new session is entered, or not. -/
def Enters (fresh : Fresh) (s u : State) : Prop :=
  u = s ∨ ∃ session, session.adminSessionId = fresh.adminSessionId ∧ session.expiresAt.Aware ∧
    u = s.enter session

theorem Enters.inv {fresh : Fresh} {s u : State} (h : Enters fresh s u) (hs : Inv s)
    (hnew : fresh.IsNew s) : Inv u := by
  obtain rfl | ⟨session, hid, haware, rfl⟩ := h
  · exact hs
  · exact hs.enter (hid ▸ hnew) haware

theorem enters_createSession (m : AdminSessionManager) (principal : String) (fresh : Fresh)
    (persisted : Bool) (s : State) :
    Enters fresh s (createSession m principal fresh persisted s).2 := by
  rw [createSession]
  cases h : newSession m m.ttlSeconds .admin principal fresh s.clock with
  | none => exact .inl rfl
  | some session =>
    exact .inr ⟨session, (newSession_eq_some h).1, (newSession_eq_some h).2.2.1, rfl⟩

theorem enters_checks (m : AdminSessionManager) (r : Request) (path host : String)
    (firstRun : Bool) (ctx : Context) (s : State) :
    Enters r.fresh s (checks m r path host firstRun ctx s).2 := by
  cases hsession : ctx.adminSession with
  | some session =>
    rw [checks_of_some hsession]
    split_ifs <;> exact .inl rfl
  | none =>
    cases firstRun with
    | true =>
      rw [checks_firstRun hsession]
      split_ifs
      · cases h : newSession m 1800 .onboardingOnly "local-first-run" r.fresh s.clock with
        | none => exact .inl rfl
        | some new => exact .inr ⟨new, (newSession_eq_some h).1, (newSession_eq_some h).2.2.1, rfl⟩
      · exact .inl rfl
    | false =>
      rw [checks_later hsession]
      by_cases hl : isLocal host = true
      · rw [if_pos hl]
        cases h : newSession m m.ttlSeconds .admin "local-admin" r.fresh s.clock with
        | none => exact .inl rfl
        | some new => exact .inr ⟨new, (newSession_eq_some h).1, (newSession_eq_some h).2.2.1, rfl⟩
      · rw [if_neg hl]
        split_ifs <;> exact .inl rfl

/-- **One request** takes sessions out of the table, and enters at most one. -/
theorem processRequest_state (lib : Library) (m : AdminSessionManager) (r : Request) (s : State) :
    ∃ u, Shrinks s u ∧ Enters r.fresh u (processRequest lib m r s).2 := by
  rw [processRequest]
  split
  · rename_i path sessionId _ _
    have hshrinks := shrinks_authenticate r sessionId s
    split
    · rename_i u hu
      exact ⟨u, by rw [hu] at hshrinks; exact hshrinks, .inl rfl⟩
    · rename_i session u hu
      refine ⟨u, by rw [hu] at hshrinks; exact hshrinks, ?_⟩
      split
      · exact .inl rfl
      · exact enters_checks ..
  · exact ⟨s, .refl s, .inl rfl⟩

theorem inv_step {lib : Library} {m : AdminSessionManager} {s s' : State} {a : Action}
    (hs : Inv s) (h : next lib m s a = some s') : Inv s' := by
  cases a with
  | tick t =>
    rw [next] at h
    split_ifs at h
    cases h
    exact ⟨hs.entry, hs.once⟩
  | request r =>
    rw [next] at h
    split_ifs at h with hnew
    cases h
    obtain ⟨u, hshrinks, henters⟩ := processRequest_state lib m r s
    refine henters.inv (hshrinks.inv hs) ?_
    rwa [Fresh.IsNew, hshrinks.issued]
  | create principal fresh persisted =>
    rw [next] at h
    split_ifs at h with hnew
    cases h
    exact (enters_createSession m principal fresh persisted s).inv hs hnew
  | destroy x unlinked =>
    cases h
    exact (shrinks_destroy x unlinked s).inv hs
  | cleanup =>
    cases h
    exact (shrinks_cleanupExpired s).inv hs

theorem panel_inv (lib : Library) (m : AdminSessionManager) : (panel lib m).Invariant Inv where
  init s hs := by
    refine ⟨fun x session hx => ?_, fun x a b ha => ?_⟩
    · rw [hs.1] at hx
      cases hx
    · rw [hs.2] at ha
      cases ha
  step _ _ _ hs h := inv_step hs h

/-! ### What a request that proceeds holds -/

/-- The session has not expired at a time. -/
def AdminSession.Unexpired (session : AdminSession) (t : ℤ) : Prop := t < session.expiresAt.instant

/-- The request without its cookie. -/
def Request.withoutCookie (r : Request) : Request :=
  { r with headers := fun name => if name = "Cookie" then none else r.headers name }

section Proceeds

variable {lib : Library} {m : AdminSessionManager} {r : Request} {s u : State}

/-- The session of a cookie is the one in the table, and it has not expired. -/
theorem authenticate_eq_some {sessionId : Option String} {session : AdminSession}
    (h : authenticate r sessionId s = (some (some session), u)) :
    ∃ x, sessionId = some x ∧ s.sessions.get? x = some session ∧ session.Unexpired s.clock := by
  unfold authenticate at h
  split at h
  · cases h
  · rename_i x
    split_ifs at h
    · cases h
    · rw [validate] at h
      cases hx : s.sessions.get? x with
      | none =>
        rw [hx] at h
        cases h
      | some found =>
        rw [hx] at h
        dsimp only at h
        split at h
        · cases h
        · rename_i hlt
          cases h
          have hlt := (DateTime.lt?_eq_some_iff.1 hlt).2
          rw [decide_eq_true_eq, DateTime.instant_now] at hlt
          exact ⟨x, rfl, hx, hlt⟩
        · obtain ⟨_, -, hnone⟩ := Option.map_eq_some_iff.1 (congrArg Prod.fst h)
          cases hnone

@[simp] theorem clock_authenticate (sessionId : Option String) :
    (authenticate r sessionId s).2.clock = s.clock := by
  unfold authenticate
  split
  · rfl
  · split_ifs
    · rfl
    · rw [validate]
      split
      · rfl
      · split <;> rfl

/-- The checks of a first run, without a session: onboarding goes on in a new one. -/
theorem checks_firstRun_of_some {path host : String} {ctx ctx' : Context}
    (hnone : ctx.adminSession = none)
    (h : (checks m r path host true ctx s).1 = some (true, ctx')) :
    path ∈ onboardingRoutes ∧ ∃ new, ctx' = ctx.use new ∧
      newSession m 1800 .onboardingOnly "local-first-run" r.fresh s.clock = some new := by
  rw [checks_firstRun hnone] at h
  split_ifs at h with hp
  · cases hnew : newSession m 1800 .onboardingOnly "local-first-run" r.fresh s.clock with
    | none =>
      rw [hnew] at h
      cases h
    | some new =>
      rw [hnew] at h
      cases h
      exact ⟨hp, new, rfl, rfl⟩
  · cases h

/-- The checks of a later run, without a session: a local request goes on in a new one, and another
one only to what is public. -/
theorem checks_later_of_some {path host : String} {ctx ctx' : Context}
    (hnone : ctx.adminSession = none)
    (h : (checks m r path host false ctx s).1 = some (true, ctx')) :
    ctx'.adminSession = none ∧ isPublic path ∨
      ∃ new, ctx' = ctx.use new ∧
        newSession m m.ttlSeconds .admin "local-admin" r.fresh s.clock = some new := by
  rw [checks_later hnone] at h
  by_cases hl : isLocal host = true
  · rw [if_pos hl] at h
    cases hnew : newSession m m.ttlSeconds .admin "local-admin" r.fresh s.clock with
    | none =>
      rw [hnew] at h
      cases h
    | some new =>
      rw [hnew] at h
      dsimp only at h
      split_ifs at h
      cases h
      exact .inr ⟨new, rfl, rfl⟩
  · rw [if_neg hl] at h
    split_ifs at h with hp
    · cases h
      exact .inl ⟨hnone, hp⟩
    · cases h

/-- Without a session, the checks look at the clock only. -/
theorem checks_of_clock {path host : String} {firstRun : Bool} {ctx : Context}
    (hnone : ctx.adminSession = none) {v : State} (hv : v.clock = s.clock) :
    (checks m r path host firstRun ctx v).1 = (checks m r path host firstRun ctx s).1 := by
  cases firstRun with
  | true =>
    rw [checks_firstRun hnone, checks_firstRun hnone, hv]
    split_ifs
    · cases newSession m 1800 .onboardingOnly "local-first-run" r.fresh s.clock <;> rfl
    · rfl
  | false =>
    rw [checks_later hnone, checks_later hnone, hv]
    by_cases hl : isLocal host = true
    · simp only [if_pos hl]
      cases newSession m m.ttlSeconds .admin "local-admin" r.fresh s.clock <;> rfl
    · simp only [if_neg hl]
      split_ifs <;> rfl

/-- **The outcome of the checks without a session** depends on the clock only, and what the context
holds then is nothing or a new session. -/
theorem checks_of_none {path host : String} {firstRun : Bool} {ctx ctx' : Context}
    (hnone : ctx.adminSession = none)
    (h : (checks m r path host firstRun ctx s).1 = some (true, ctx')) :
    (∀ v : State, v.clock = s.clock →
        (checks m r path host firstRun ctx v).1 = some (true, ctx')) ∧
      (ctx'.adminSession = none ∧ isPublic path ∨
        ∃ ttl scope principal new, ctx' = ctx.use new ∧
          newSession m ttl scope principal r.fresh s.clock = some new ∧
          (scope = .admin ∧ ttl = m.ttlSeconds ∨
            scope = .onboardingOnly ∧ ttl = 1800 ∧ path ∈ onboardingRoutes)) := by
  refine ⟨fun v hv => (checks_of_clock hnone hv).trans h, ?_⟩
  cases firstRun with
  | true =>
    obtain ⟨hp, new, hctx, hnew⟩ := checks_firstRun_of_some hnone h
    exact .inr ⟨_, _, _, new, hctx, hnew, .inr ⟨rfl, rfl, hp⟩⟩
  | false =>
    refine (checks_later_of_some hnone h).imp_right ?_
    rintro ⟨new, hctx, hnew⟩
    exact ⟨_, _, _, new, hctx, hnew, .inl ⟨rfl, rfl⟩⟩

/-- **What `process_request` does when a request proceeds.** -/
theorem processRequest_eq_some {ctx : Context}
    (h : (processRequest lib m r s).1 = some (true, ctx)) :
    ∃ path sessionId session firstRun, lib.urlparse r.path = some path ∧
      cookieSessionId lib r = some sessionId ∧ r.firstRun = some firstRun ∧
      (authenticate r sessionId s).1 = some session ∧
      (checks m r path ((r.headers "Host").getD "") firstRun
        ⟨!isLocal ((r.headers "Host").getD ""), session, none, none⟩
        (authenticate r sessionId s).2).1 = some (true, ctx) := by
  rw [processRequest] at h
  split at h
  · rename_i path sessionId hpath hcookie
    split at h
    · cases h
    · rename_i session v hv
      split at h
      · cases h
      · rename_i firstRun hfirst
        exact ⟨path, sessionId, session, firstRun, hpath, hcookie, hfirst, by rw [hv],
          by rw [hv]; exact h⟩
  · cases h

/-- The session in the context of a request that proceeds. -/
theorem session_of_proceeds {ctx : Context}
    (h : (processRequest lib m r s).1 = some (true, ctx)) :
    ∃ path, lib.urlparse r.path = some path ∧
      (isPublic path ∨ ∃ session, ctx.adminSession = some session ∧
        (session.scope = .admin ∨ session.scope = .onboardingOnly ∧ path ∈ onboardingRoutes) ∧
        (session.Unexpired s.clock ∨
          m.ttlSeconds ≤ 0 ∧ session.scope = .admin ∧
            ctx.newSessionId = some session.adminSessionId)) := by
  obtain ⟨path, sessionId, found, firstRun, hpath, -, -, hauth, hchecks⟩ :=
    processRequest_eq_some h
  refine ⟨path, hpath, ?_⟩
  cases found with
  | some session =>
    rw [checks_of_some rfl] at hchecks
    split_ifs at hchecks with hscope
    · cases hchecks
    · cases hchecks
      obtain ⟨x, -, -, hunexpired⟩ := authenticate_eq_some (Prod.ext hauth rfl)
      refine .inr ⟨session, rfl, ?_, .inl hunexpired⟩
      cases hs : session.scope with
      | admin => exact .inl rfl
      | onboardingOnly => exact .inr ⟨rfl, not_not.1 fun hp => hscope ⟨hs, hp⟩⟩
  | none =>
    obtain ⟨-, ⟨-, hpublic⟩ | ⟨ttl, scope, principal, new, rfl, hnew, hkind⟩⟩ :=
      checks_of_none rfl hchecks
    · exact .inl hpublic
    · obtain ⟨-, hscope, -, hexpires⟩ := newSession_eq_some hnew
      rw [clock_authenticate] at hexpires
      refine .inr ⟨new, rfl, ?_, ?_⟩
      · exact hkind.imp (fun h => hscope.trans h.1) fun h => ⟨hscope.trans h.1, h.2.2⟩
      · rw [AdminSession.Unexpired, hexpires, DateTime.seconds]
        obtain ⟨hadmin, rfl⟩ | ⟨-, rfl, -⟩ := hkind
        · by_cases ht : m.ttlSeconds ≤ 0
          · exact .inr ⟨ht, hscope.trans hadmin, rfl⟩
          · exact .inl (by omega)
        · exact .inl (by omega)

/-- Without a cookie there is no session, and nothing leaves the table. -/
theorem processRequest_withoutCookie {path : String} {firstRun : Bool}
    (hpath : lib.urlparse r.path = some path) (hfirst : r.firstRun = some firstRun) :
    processRequest lib m r.withoutCookie s =
      checks m r.withoutCookie path ((r.headers "Host").getD "") firstRun
        ⟨!isLocal ((r.headers "Host").getD ""), none, none, none⟩ s := by
  have hhost : r.withoutCookie.headers "Host" = r.headers "Host" := by simp [Request.withoutCookie]
  have hcookie : cookieSessionId lib r.withoutCookie = some none := by
    simp [cookieSessionId, Request.withoutCookie]
  rw [processRequest, hcookie, show r.withoutCookie.path = r.path from rfl, hpath]
  simp only [authenticate, show r.withoutCookie.firstRun = r.firstRun from rfl, hfirst, hhost]

/-- **The identifier of an onboarding session** gives no access to another path: the request holds
another session then, and it proceeds in the same way without its cookie. -/
theorem onboarding_gives_nothing {ctx : Context} {x : String} (hs : Inv s)
    (hnew : r.fresh.IsNew s) (h : (processRequest lib m r s).1 = some (true, ctx))
    (hcookie : cookieSessionId lib r = some (some x)) (hx : (x, .onboardingOnly) ∈ s.issued)
    {path : String} (hpath : lib.urlparse r.path = some path) (hp : path ∉ onboardingRoutes) :
    (∀ session, ctx.adminSession = some session → session.adminSessionId ≠ x) ∧
      (processRequest lib m r.withoutCookie s).1 = some (true, ctx) := by
  obtain ⟨path', sessionId, found, firstRun, hpath', hcookie', hfirst, hauth, hchecks⟩ :=
    processRequest_eq_some h
  obtain rfl : path = path' := Option.some.inj (hpath.symm.trans hpath')
  obtain rfl : some x = sessionId := Option.some.inj (hcookie.symm.trans hcookie')
  cases found with
  | some session =>
    obtain ⟨y, hy, htable, -⟩ := authenticate_eq_some (Prod.ext hauth rfl)
    obtain rfl : x = y := Option.some.inj hy
    have hscope : session.scope = .onboardingOnly :=
      hs.once x _ _ (hs.entry x session htable).2.1 hx
    rw [checks_of_some rfl, if_pos ⟨hscope, hp⟩] at hchecks
    cases hchecks
  | none =>
    obtain ⟨hsame, hkind⟩ := checks_of_none rfl hchecks
    constructor
    · intro session hsession
      obtain ⟨hnone, -⟩ | ⟨ttl, scope, principal, new, rfl, hnewSession, -⟩ := hkind
      · cases hnone.symm.trans hsession
      · obtain rfl : new = session := Option.some.inj hsession
        rw [(newSession_eq_some hnewSession).1]
        exact fun hid => hnew (hid ▸ List.mem_map_of_mem hx)
    · rw [processRequest_withoutCookie hpath hfirst]
      exact hsame s (clock_authenticate (some x)).symm

/-- **What a request that proceeds holds.**  In every state that the panel reaches, a request
proceeds only if its path is public or it holds an admin session, or an onboarding session for an
onboarding route; the session has not expired, unless sessions are made to live no time at all and
it was created for this request.  And if the request's cookie has the identifier of an onboarding
session, of whatever age, and the path is not an onboarding route, then the request holds another
session and proceeds in the same way without its cookie. -/
theorem proceeds_with_session {s' : State} (hs : (panel lib m).Reachable s)
    (hr : (panel lib m).step s (.request r) s') {ctx : Context}
    (h : (processRequest lib m r s).1 = some (true, ctx)) :
    ∃ path, lib.urlparse r.path = some path ∧
      (isPublic path ∨ ∃ session, ctx.adminSession = some session ∧
        (session.scope = .admin ∨ session.scope = .onboardingOnly ∧ path ∈ onboardingRoutes) ∧
        (session.Unexpired s.clock ∨
          m.ttlSeconds ≤ 0 ∧ session.scope = .admin ∧
            ctx.newSessionId = some session.adminSessionId)) ∧
      ∀ x, cookieSessionId lib r = some (some x) → (x, .onboardingOnly) ∈ s.issued →
        path ∉ onboardingRoutes →
        (∀ session, ctx.adminSession = some session → session.adminSessionId ≠ x) ∧
          (processRequest lib m r.withoutCookie s).1 = some (true, ctx) := by
  have hinv : Inv s := (panel_inv lib m).holds hs
  have hnew : r.fresh.IsNew s := by
    by_contra hnot
    rw [show (panel lib m).step s (.request r) s' ↔ next lib m s (.request r) = some s' from
      Iff.rfl, next, if_neg hnot] at hr
    cases hr
  obtain ⟨path, hpath, hholds⟩ := session_of_proceeds h
  exact ⟨path, hpath, hholds, fun x hcookie hx hp =>
    onboarding_gives_nothing hinv hnew h hcookie hx hpath hp⟩

end Proceeds

/-- URLs that are paths, and one cookie. -/
def plain : Library where
  urlparse := some
  adminSessionId cookie := some (if cookie = "admin_session_id=ab" then some "ab" else none)

/-- A panel without sessions, at the start of the clock. -/
def idle : State := ⟨0, .empty, []⟩

/-- A local request without a cookie, after the first run. -/
def localRequest : Request where
  path := "/sessions"
  headers name := if name = "Host" then some "localhost" else none
  firstRun := some false
  fresh := ⟨"cd", "ef"⟩
  persisted := true
  unlinked := true

theorem proceeds_with_session_local :
    ∃ ctx path, (processRequest plain ⟨"RT", 1800⟩ localRequest idle).1 = some (true, ctx) ∧
      plain.urlparse localRequest.path = some path ∧
      (isPublic path ∨ ∃ session, ctx.adminSession = some session ∧
        (session.scope = .admin ∨ session.scope = .onboardingOnly ∧ path ∈ onboardingRoutes) ∧
        (session.Unexpired idle.clock ∨ (1800 : ℤ) ≤ 0 ∧ session.scope = .admin ∧
          ctx.newSessionId = some session.adminSessionId)) := by
  have hstep : next plain ⟨"RT", 1800⟩ idle (.request localRequest) =
      some (processRequest plain ⟨"RT", 1800⟩ localRequest idle).2 := by
    rw [next, if_pos (by decide)]
  obtain ⟨ctx, hctx⟩ : ∃ ctx,
      (processRequest plain ⟨"RT", 1800⟩ localRequest idle).1 = some (true, ctx) := ⟨_, rfl⟩
  obtain ⟨path, hpath, hholds, -⟩ := proceeds_with_session (.init ⟨rfl, rfl⟩) hstep hctx
  exact ⟨ctx, path, hctx, hpath, hholds⟩

/-- **A session that lives no time at all** has expired when its request proceeds. -/
theorem expired_session_proceeds :
    (panel plain ⟨"RT", 0⟩).Reachable idle ∧ isPublic localRequest.path = false ∧
      ((processRequest plain ⟨"RT", 0⟩ localRequest idle).1.map fun p =>
        (p.1, p.2.adminSession.map fun session => decide (0 < session.expiresAt.instant))) =
        some (true, some false) :=
  ⟨.init ⟨rfl, rfl⟩, rfl, rfl⟩

end Admin

end AnnyRuntime
