import AnnyRuntime.Admin.Access

/-!
# The token of a `POST`

A `POST` goes through the same checks as every request, and then its form has to name the token of
the session that the request holds, unless its path is public or starts the verification of the
bootstrap.

* `post_needs_token` : in every state that the panel reaches, a `POST` to another path proceeds only
  with the token of the session in its cookie, which no other session has; a request that does not
  know a session cannot get through with the one that is made for it.
-/

namespace AnnyRuntime

namespace Admin

/-- The text has ASCII characters only. -/
def isAscii (text : String) : Bool := text.toList.all fun c => c.toNat < 128

/-- `validate_csrf_token`, unless the comparison raises: it takes ASCII texts only. -/
def validateCsrfToken (sessionToken requestToken : String) : Option Bool :=
  if sessionToken = "" ∨ requestToken = "" then some false
  else if isAscii sessionToken && isAscii requestToken then
    some (decide (sessionToken = requestToken))
  else none

/-- The paths to which a `POST` needs no token. -/
def needsNoToken (path : String) : Bool := isPublic path || path = "/api/bootstrap/verify"

/-- `process_post_body`, for the token that the form names, which is empty when it names none. -/
def processPostBody (path token : String) (ctx : Context) : Option (Bool × Context) :=
  if needsNoToken path then some (true, ctx)
  else match ctx.adminSession with
    | none => some (false, ctx)
    | some session =>
      (validateCsrfToken session.csrfToken token).map fun valid =>
        if valid then (true, ctx) else (false, ctx.redirected)

/-- The checks of a `POST`. -/
def processPost (lib : Library) (m : AdminSessionManager) (r : Request) (token : String)
    (s : State) : Option (Bool × Context) × State :=
  match processRequest lib m r s with
  | (some (true, ctx), s) =>
    ((lib.urlparse r.path).bind fun path => processPostBody path token ctx, s)
  | stopped => stopped

/-! ### Tokens -/

/-- No session in the table has the new token. -/
def Fresh.TokenIsNew (fresh : Fresh) (s : State) : Prop :=
  ∀ x session, s.sessions.get? x = some session → session.csrfToken ≠ fresh.csrfToken

/-- What is generated in a step is new. -/
def NewTokens (s : State) : Action → Prop
  | .request r => r.fresh.TokenIsNew s
  | .create _ fresh _ => fresh.TokenIsNew s
  | _ => True

/-- No two sessions in the table have the same token. -/
def TokensDiffer (s : State) : Prop :=
  ∀ x y a b, s.sessions.get? x = some a → s.sessions.get? y = some b →
    a.csrfToken = b.csrfToken → x = y

/-- A session with the new token is entered, or none. -/
def EntersToken (fresh : Fresh) (s u : State) : Prop :=
  u = s ∨ ∃ session, session.csrfToken = fresh.csrfToken ∧ u = s.enter session

section Tokens

variable {lib : Library} {m : AdminSessionManager} {r : Request} {s u : State} {fresh : Fresh}

theorem csrfToken_newSession {ttl t : ℤ} {scope : Scope} {principal : String}
    {session : AdminSession} (h : newSession m ttl scope principal fresh t = some session) :
    session.csrfToken = fresh.csrfToken := by
  obtain ⟨e, -, rfl⟩ := Option.map_eq_some_iff.1 h
  rfl

theorem entersToken_createSession (principal : String) (persisted : Bool) :
    EntersToken fresh s (createSession m principal fresh persisted s).2 := by
  rw [createSession]
  cases h : newSession m m.ttlSeconds .admin principal fresh s.clock with
  | none => exact .inl rfl
  | some session => exact .inr ⟨session, csrfToken_newSession h, rfl⟩

theorem entersToken_checks (path host : String) (firstRun : Bool) (ctx : Context) :
    EntersToken r.fresh s (checks m r path host firstRun ctx s).2 := by
  cases hsession : ctx.adminSession with
  | some session =>
    rw [checks_of_some hsession]
    split <;> exact .inl rfl
  | none =>
    cases firstRun with
    | true =>
      rw [checks_firstRun hsession]
      split
      · cases h : newSession m 1800 .onboardingOnly "local-first-run" r.fresh s.clock with
        | none => exact .inl rfl
        | some new => exact .inr ⟨new, csrfToken_newSession h, rfl⟩
      · exact .inl rfl
    | false =>
      rw [checks_later hsession]
      split
      · cases h : newSession m m.ttlSeconds .admin "local-admin" r.fresh s.clock with
        | none => exact .inl rfl
        | some new => exact .inr ⟨new, csrfToken_newSession h, rfl⟩
      · split <;> exact .inl rfl

theorem entersToken_processRequest (lib : Library) (m : AdminSessionManager) (r : Request)
    (s : State) : ∃ u, Shrinks s u ∧ EntersToken r.fresh u (processRequest lib m r s).2 := by
  rw [processRequest]
  split
  · rename_i path sessionId _ _
    have hshrinks := shrinks_authenticate r sessionId s
    split
    · rename_i u hu
      rw [hu] at hshrinks
      exact ⟨u, hshrinks, .inl rfl⟩
    · rename_i session u hu
      rw [hu] at hshrinks
      refine ⟨u, hshrinks, ?_⟩
      split
      · exact .inl rfl
      · exact entersToken_checks ..
  · exact ⟨s, .refl s, .inl rfl⟩

theorem TokensDiffer.shrinks (hs : TokensDiffer s) (h : Shrinks s u) : TokensDiffer u :=
  fun x y a b ha hb => hs x y a b (h.table x a ha) (h.table y b hb)

theorem TokensDiffer.enters (hs : TokensDiffer s) (h : EntersToken fresh s u)
    (hnew : fresh.TokenIsNew s) : TokensDiffer u := by
  obtain rfl | ⟨session, htoken, rfl⟩ := h
  · exact hs
  · intro x y a b ha hb hab
    obtain ⟨rfl, rfl⟩ | ⟨-, hax⟩ := Dict.of_get?_set ha
    · obtain ⟨rfl, rfl⟩ | ⟨-, hby⟩ := Dict.of_get?_set hb
      · rfl
      · exact absurd (hab.symm.trans htoken) (hnew y b hby)
    · obtain ⟨rfl, rfl⟩ | ⟨-, hby⟩ := Dict.of_get?_set hb
      · exact absurd (hab.trans htoken) (hnew x a hax)
      · exact hs x y a b hax hby hab

theorem tokensDiffer_invariant (lib : Library) (m : AdminSessionManager) :
    ((panel lib m).restrict NewTokens).Invariant TokensDiffer where
  init s hs := by
    intro x y a b ha
    rw [hs.1] at ha
    cases ha
  step s a t hs hstep := by
    obtain ⟨hnew, hnext⟩ : NewTokens s a ∧ next lib m s a = some t := hstep
    cases a with
    | tick time =>
      rw [next] at hnext
      split at hnext
      · cases hnext
        exact hs
      · cases hnext
    | request r =>
      rw [next] at hnext
      split at hnext
      · cases hnext
        obtain ⟨u, hshrinks, henters⟩ := entersToken_processRequest lib m r s
        refine (hs.shrinks hshrinks).enters henters fun x session hx => ?_
        exact hnew x session (hshrinks.table x session hx)
      · cases hnext
    | create principal fresh persisted =>
      rw [next] at hnext
      split at hnext
      · cases hnext
        exact hs.enters (entersToken_createSession principal persisted) hnew
      · cases hnext
    | destroy x unlinked =>
      cases hnext
      exact hs.shrinks (shrinks_destroy x unlinked s)
    | cleanup =>
      cases hnext
      exact hs.shrinks (shrinks_cleanupExpired s)

end Tokens

/-! ### What a `POST` needs -/

theorem validateCsrfToken_eq_true {sessionToken requestToken : String}
    (h : validateCsrfToken sessionToken requestToken = some true) :
    sessionToken = requestToken := by
  unfold validateCsrfToken at h
  split at h
  · cases h
  · split at h
    · exact of_decide_eq_true (Option.some.inj h)
    · cases h

/-- The form of a `POST` that proceeds names the token of its session. -/
theorem processPostBody_eq_some {path token : String} {ctx ctx' : Context}
    (hneeds : needsNoToken path = false) (h : processPostBody path token ctx = some (true, ctx')) :
    ctx' = ctx ∧ ∃ session, ctx.adminSession = some session ∧ session.csrfToken = token := by
  rw [processPostBody, hneeds, if_neg Bool.false_ne_true] at h
  cases hsession : ctx.adminSession with
  | none =>
    rw [hsession] at h
    cases h
  | some session =>
    rw [hsession] at h
    obtain ⟨valid, hvalid, hctx⟩ := Option.map_eq_some_iff.1 h
    cases valid with
    | false => cases hctx
    | true =>
      cases hctx
      exact ⟨rfl, session, rfl, validateCsrfToken_eq_true hvalid⟩

theorem processPost_eq_some {lib : Library} {m : AdminSessionManager} {r : Request} {s : State}
    {path token : String} {ctx : Context} (hpath : lib.urlparse r.path = some path)
    (hneeds : needsNoToken path = false) (h : (processPost lib m r token s).1 = some (true, ctx)) :
    (processRequest lib m r s).1 = some (true, ctx) ∧
      ∃ session, ctx.adminSession = some session ∧ session.csrfToken = token := by
  rw [processPost] at h
  cases hrequest : processRequest lib m r s with
  | mk answer u =>
    rw [hrequest] at h
    cases answer with
    | none => cases h
    | some answer =>
      obtain ⟨proceeds, ctx₀⟩ := answer
      cases proceeds with
      | false => cases h
      | true =>
        have hbody : ((lib.urlparse r.path).bind fun path => processPostBody path token ctx₀) =
            some (true, ctx) := h
        rw [hpath] at hbody
        obtain ⟨rfl, hsession⟩ := processPostBody_eq_some hneeds hbody
        exact ⟨rfl, hsession⟩

/-- **What a `POST` needs.**  In every state that the panel reaches with new tokens, a `POST` to a
path that needs a token proceeds only if its cookie names a session in the table, which has not
expired and whose scope admits the path, and its form names the token of this session, which no
other session has; unless the form names the very token that is generated for this request. -/
theorem post_needs_token {lib : Library} {m : AdminSessionManager} {r : Request} {s : State}
    {path token : String} {ctx : Context}
    (hs : ((panel lib m).restrict NewTokens).Reachable s)
    (hpath : lib.urlparse r.path = some path) (hneeds : needsNoToken path = false)
    (hguess : token ≠ r.fresh.csrfToken)
    (h : (processPost lib m r token s).1 = some (true, ctx)) :
    ∃ x session, cookieSessionId lib r = some (some x) ∧ s.sessions.get? x = some session ∧
      ctx.adminSession = some session ∧ session.csrfToken = token ∧ session.Unexpired s.clock ∧
      (session.scope = .onboardingOnly → path ∈ onboardingRoutes) ∧
      ∀ y other, s.sessions.get? y = some other → other.csrfToken = token → y = x := by
  obtain ⟨hrequest, session, hsession, htoken⟩ := processPost_eq_some hpath hneeds h
  obtain ⟨path', sessionId, found, firstRun, hpath', hcookie, -, hauth, hchecks⟩ :=
    processRequest_eq_some hrequest
  obtain rfl : path = path' := Option.some.inj (hpath.symm.trans hpath')
  cases found with
  | some known =>
    obtain ⟨x, rfl, htable, hunexpired⟩ := authenticate_eq_some (Prod.ext hauth rfl)
    rw [checks_of_some rfl] at hchecks
    split at hchecks
    · cases hchecks
    · rename_i hscope
      cases hchecks
      obtain rfl : known = session := Option.some.inj hsession
      refine ⟨x, known, hcookie, htable, rfl, htoken, hunexpired, ?_, ?_⟩
      · intro honboarding
        exact not_not.1 fun hp => hscope ⟨honboarding, hp⟩
      · intro y other hother hsame
        exact (tokensDiffer_invariant lib m).holds hs y x other known hother htable
          (hsame.trans htoken.symm)
  | none =>
    -- a session that is made for the request has the new token
    obtain ⟨-, ⟨hnone, -⟩ | ⟨ttl, scope, principal, new, rfl, hnew, -⟩⟩ :=
      checks_of_none rfl hchecks
    · rw [hnone] at hsession
      cases hsession
    · obtain rfl : new = session := Option.some.inj hsession
      exact absurd (htoken.symm.trans (csrfToken_newSession hnew)) hguess

/-- A visitor with a session. -/
def visited : State :=
  (processRequest plain ⟨"RT", 1800⟩ { localRequest with fresh := ⟨"ab", "01"⟩ } idle).2

/-- A `POST` of this visitor. -/
def logout : Request :=
  { localRequest with
    path := "/logout"
    headers := fun name =>
      if name = "Host" then some "localhost"
      else if name = "Cookie" then some "admin_session_id=ab" else none }

theorem reachable_visited :
    ((panel plain ⟨"RT", 1800⟩).restrict NewTokens).Reachable visited := by
  have hnew : NewTokens idle (.request { localRequest with fresh := ⟨"ab", "01"⟩ }) := by
    intro x session hx
    cases hx
  have hstep : next plain ⟨"RT", 1800⟩ idle
      (.request { localRequest with fresh := ⟨"ab", "01"⟩ }) = some visited := by
    rw [next, if_pos (by decide)]
    rfl
  exact .step (.init ⟨rfl, rfl⟩) ⟨hnew, hstep⟩

/-- The visitor logs out, with the token of the session. -/
theorem post_needs_token_logout :
    ∃ ctx x session,
      (processPost plain ⟨"RT", 1800⟩ logout "01" visited).1 = some (true, ctx) ∧
        cookieSessionId plain logout = some (some x) ∧ visited.sessions.get? x = some session ∧
        session.csrfToken = "01" := by
  have hsome :
      ((processPost plain ⟨"RT", 1800⟩ logout "01" visited).1.any fun p => p.1) = true := by
    decide
  obtain ⟨⟨proceeds, ctx⟩, hctx, hproceeds⟩ := Option.any_eq_true _ _ |>.1 hsome
  obtain rfl : proceeds = true := hproceeds
  have hpath : plain.urlparse logout.path = some "/logout" := rfl
  obtain ⟨x, session, hcookie, htable, -, htoken, -⟩ :=
    post_needs_token reachable_visited hpath (by decide) (by decide) hctx
  exact ⟨ctx, x, session, hctx, hcookie, htable, htoken⟩

end Admin

end AnnyRuntime
