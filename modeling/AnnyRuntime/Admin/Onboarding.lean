import AnnyRuntime.Admin.Access
import AnnyRuntime.Admin.GitHub

/-!
# The first administrator

A panel without a GitHub token gives its visitors onboarding sessions.  What ends this is a token
file: whether there is one is looked up for every request, and the handlers of a submission or of a
poll that succeeds exchange the onboarding session for an admin session.  Calls to GitHub come one
after the other, and requests come between any two changes of the files that a call makes.

* `administered_after_confirmation` : as long as no poll of the device flow stores a token, there is
  no admin session, and no request gets beyond the onboarding routes, before GitHub has confirmed a
  token with the required scopes; whatever crashes, and whatever is submitted, polled and
  disconnected in between.
* `administered_unconfirmed` : a poll stores its token first, and a request that comes then gets an
  admin session, although GitHub does not accept the token.
-/

namespace AnnyRuntime

/-! ### The token file -/

namespace GitHub

/-- `has_token`, at this moment: the file is there, whatever it holds. -/
def Moment.hasToken (mo : Moment) : Bool := mo.disk.token != .absent

/-- GitHub has confirmed a token that has the required scopes. -/
def Moment.confirmed (mo : Moment) : Bool :=
  mo.validated.any fun v => missingScopes v.2 = []

/-- `disconnect`. -/
def disconnect (w : WriteOutcome) (s : State) : State :=
  let s := s.become { s.now.disk with token := .absent }
  let s := s.become { s.now.disk with state := .absent }
  saveState w { s with memory := {} }

/-- `_load_state`. -/
def loadState (d : Disk) : GitHubCredentialState :=
  match d.state with
  | .stored st => st
  | _ => {}

/-- The state changes, and the scopes that are confirmed stay the same. -/
structure Keeps (s u : State) : Prop where
  now : u.now.validated = s.now.validated
  moments : ∀ mo ∈ u.moments, mo ∈ s.moments ∨ mo.validated = s.now.validated

section Moments

variable {s u v : State} {w : WriteOutcome}

theorem Keeps.refl (s : State) : Keeps s s := ⟨rfl, fun _ h => .inl h⟩

theorem Keeps.trans (h : Keeps s u) (h' : Keeps u v) : Keeps s v where
  now := h'.now.trans h.now
  moments mo hmo := (h'.moments mo hmo).elim (h.moments mo) fun he => .inr (he.trans h.now)

theorem keeps_become (s : State) (d : Disk) : Keeps s (s.become d) where
  now := rfl
  moments mo hmo := (List.mem_append.1 hmo).imp_right fun he => by
    rw [List.mem_singleton.1 he]

theorem keeps_tokens (slots : List (Secret String)) (s : State) : Keeps s (s.tokens slots) := by
  induction slots generalizing s with
  | nil => exact .refl s
  | cons slot slots ih => exact (keeps_become s _).trans (ih (s.become _))

theorem keeps_states (slots : List (Secret GitHubCredentialState)) (s : State) :
    Keeps s (s.states slots) := by
  induction slots generalizing s with
  | nil => exact .refl s
  | cons slot slots ih => exact (keeps_become s _).trans (ih (s.become _))

/-- The state file is written, and the token file stays as it is. -/
theorem token_states (slots : List (Secret GitHubCredentialState)) (s : State) :
    (s.states slots).now.disk.token = s.now.disk.token ∧
      ∀ mo ∈ (s.states slots).moments, mo ∈ s.moments ∨
        mo.disk.token = s.now.disk.token := by
  induction slots generalizing s with
  | nil => exact ⟨rfl, fun _ h => .inl h⟩
  | cons slot slots ih =>
    obtain ⟨hnow, hmoments⟩ := ih (s.become { s.now.disk with state := slot })
    refine ⟨hnow, fun mo hmo => ?_⟩
    obtain hold | hsame := hmoments mo hmo
    · refine (List.mem_append.1 hold).imp_right fun he => ?_
      rw [List.mem_singleton.1 he]
    · exact .inr hsame

/-- What a call goes through, and its end, in a state that has gone through nothing. -/
def State.trace (u : State) : List Moment := u.now :: u.moments

/-- **A disconnection** leaves no token. -/
theorem hasToken_disconnect (hs : s.moments = []) :
    ∀ mo ∈ (disconnect w s).trace, mo.hasToken = false := by
  have hmoments : ∀ mo ∈ (disconnect w s).moments, mo.disk.token = .absent := by
    intro mo hmo
    obtain hold | hsame := (token_states (w.passes ({} : GitHubCredentialState)) _).2 mo hmo
    · change mo ∈ (s.moments ++ [_]) ++ [_] at hold
      rw [hs, List.nil_append, List.mem_append, List.mem_singleton, List.mem_singleton] at hold
      obtain rfl | rfl := hold
      · rfl
      · rfl
    · exact hsame
  intro mo hmo
  have htoken : mo.disk.token = .absent := by
    obtain rfl | hmo := List.mem_cons.1 hmo
    · exact (token_states (w.passes ({} : GitHubCredentialState)) _).1
    · exact hmoments mo hmo
  rw [Moment.hasToken, htoken]
  rfl

theorem confirmed_of_confirm {token : String} {scopes : List String}
    (h : missingScopes scopes = []) {mo : Moment}
    (hmo : mo.validated = (s.confirm token scopes).now.validated) : mo.confirmed = true := by
  rw [Moment.confirmed, hmo, List.any_eq_true]
  exact ⟨(token, scopes), List.mem_append_right _ List.mem_cons_self, decide_eq_true h⟩

theorem missingScopes_eq_nil_iff (scopes : List String) :
    missingScopes scopes = [] ↔ ["repo", "read:org"].filter (!scopes.contains ·) = [] := by
  rw [missingScopes, List.filter_eq_nil_iff, List.filter_eq_nil_iff]
  simp only [List.mem_cons, List.not_mem_nil, or_false, forall_eq_or_imp, forall_eq]
  exact and_comm

/-- What keeps the confirmed scopes after a confirmation has gone through nothing else. -/
theorem Keeps.confirmed {token : String} {scopes : List String}
    (h : Keeps (s.confirm token scopes) u) (hs : s.moments = [])
    (hscopes : missingScopes scopes = []) : ∀ mo ∈ u.trace, mo.confirmed = true := by
  intro mo hmo
  obtain rfl | hmo := List.mem_cons.1 hmo
  · exact confirmed_of_confirm hscopes h.now
  · obtain hold | hsame := h.moments mo hmo
    · change mo ∈ s.moments at hold
      rw [hs] at hold
      cases hold
    · exact confirmed_of_confirm hscopes hsame

/-- **A submission** touches no file, or GitHub has confirmed the required scopes first. -/
theorem submission_cases (e : SubmitEnv) (token : String) (hs : s.moments = []) :
    ((storeAndValidateToken e token s).1.success = false ∧
        Quiet s (storeAndValidateToken e token s).2) ∨
      ∀ mo ∈ (storeAndValidateToken e token s).2.trace, mo.confirmed = true := by
  unfold storeAndValidateToken
  dsimp only
  rcases e.answer with f | ⟨user, header⟩
  · cases f <;> exact .inl ⟨rfl, .refl s⟩
  · cases user with
    | obj ms =>
      dsimp only
      by_cases hmissing : ["repo", "read:org"].filter (!(scopesOf header).contains ·) = []
      · rw [if_neg (not_not.2 hmissing)]
        have hscopes := (missingScopes_eq_nil_iff (scopesOf header)).2 hmissing
        have htokens := keeps_tokens (e.tokenWrite.passes token)
          (s.confirm token (scopesOf header))
        refine .inr ?_
        by_cases hwrite : e.tokenWrite ≠ .done
        · rw [if_pos hwrite]
          exact htokens.confirmed hs hscopes
        · -- the state file is written last
          rw [if_neg hwrite]
          refine Keeps.confirmed (htokens.trans ?_) hs hscopes
          have hmemory (st : GitHubCredentialState) (v : State) : Keeps v { v with memory := st } :=
            ⟨rfl, fun _ h => .inl h⟩
          exact (hmemory _ _).trans (keeps_states _ _)
      · rw [if_pos hmissing]
        exact .inl ⟨rfl, quiet_confirm s token (scopesOf header)⟩
    | _ => exact .inl ⟨rfl, quiet_confirm s token (scopesOf header)⟩

end Moments

end GitHub

namespace Admin

/-! ### The panel and the credential -/

/-- A call of the GitHub manager. -/
inductive SetupCall where
  | github (c : GitHub.Call)
  | disconnect (w : GitHub.WriteOutcome)

/-- Whether a call ends in success, and the credential then. -/
def SetupCall.run (c : SetupCall) (s : GitHub.State) : Bool × GitHub.State :=
  match c with
  | .github c => c.run s
  | .disconnect w => (false, GitHub.disconnect w s)

/-- A call that is under way. -/
structure UnderWay where
  /-- The changes of the files that are left. -/
  left : List GitHub.Moment
  succeeds : Bool
  final : GitHub.State

/-- The panel, the credential, and what the files have gone through. -/
structure Setup where
  panel : State
  github : GitHub.State
  call : Option UnderWay := none
  past : List GitHub.Moment

namespace Setup

variable (s : Setup)

/-- There has been a token file. -/
def tokenSeen : Bool := s.past.any GitHub.Moment.hasToken

/-- GitHub has confirmed a token with the required scopes. -/
def confirmed : Bool := s.past.any GitHub.Moment.confirmed

/-- A request may have looked for the token file at any moment since it came.  Handlers create
sessions at the end of a call only. -/
def admits : Action → Bool
  | .create _ _ _ => false
  | .request r => r.firstRun != some false || s.tokenSeen
  | _ => true

/-- The files change. -/
def pass (mo : GitHub.Moment) : Setup :=
  { s with github := { s.github with now := mo }, past := mo :: s.past }

/-- The end of a call. -/
def ended (final : GitHub.State) : Setup :=
  { s with github := final, call := none, past := final.now :: s.past }

/-- An onboarding session is exchanged for an admin session, unless destroying it raises. -/
def exchange (m : AdminSessionManager) (session : AdminSession) (unlinked : Bool) (fresh : Fresh)
    (persisted : Bool) : Setup :=
  match destroy session.adminSessionId unlinked s.panel with
  | (none, p) => { s with panel := p }
  | (some (), p) => { s with panel := (createSession m "admin" fresh persisted p).2 }

/-- What the handler of a call does that succeeds, for the session of its request. -/
def completed (m : AdminSessionManager) (session : Option AdminSession) (unlinked : Bool)
    (fresh : Fresh) (persisted : Bool) : Option Setup :=
  match session with
  | none => some s
  | some session =>
    if session.scope = .onboardingOnly then
      if fresh.IsNew s.panel then some (s.exchange m session unlinked fresh persisted) else none
    else some s

/-- The process dies and starts again: the sessions are gone, and the credential is loaded. -/
def restarted : Setup where
  panel := { s.panel with sessions := .empty }
  github :=
    { now := s.github.now
      memory := GitHub.loadState s.github.now.disk
      flow := none
      moments := [] }
  past := s.past

end Setup

/-- What happens. -/
inductive SetupAction where
  | panel (a : Action)
  | begin (c : SetupCall)
  /-- The call under way changes a file. -/
  | write
  /-- The call under way ends, and its handler goes on. -/
  | finish (session : Option AdminSession) (unlinked : Bool) (fresh : Fresh) (persisted : Bool)
  | restart

/-- One step. -/
def Setup.next (lib : Library) (m : AdminSessionManager) (s : Setup) : SetupAction → Option Setup
  | .panel a =>
    if s.admits a then (Admin.next lib m s.panel a).map fun p => { s with panel := p } else none
  | .begin c =>
    if s.call.isNone then
      some { s with
        call := some ⟨(c.run s.github.start).2.moments, (c.run s.github.start).1,
          (c.run s.github.start).2⟩ }
    else none
  | .write =>
    match s.call with
    | some ⟨mo :: left, succeeds, final⟩ =>
      some { s.pass mo with call := some ⟨left, succeeds, final⟩ }
    | _ => none
  | .finish session unlinked fresh persisted =>
    match s.call with
    | some ⟨[], succeeds, final⟩ =>
      if succeeds then (s.ended final).completed m session unlinked fresh persisted
      else some (s.ended final)
    | _ => none
  | .restart => some s.restarted

/-- A runtime that has no token yet. -/
def setup (lib : Library) (m : AdminSessionManager) : System Setup SetupAction :=
  .ofFn (fun s => s.panel.sessions = .empty ∧ s.panel.issued = [] ∧ s.call = none ∧
    s.github.now.disk.token = .absent ∧ s.past = [s.github.now]) (Setup.next lib m)

/-- No poll stores a token before GitHub has confirmed one. -/
def NoPollStores (s : Setup) : SetupAction → Prop
  | .begin (.github (.poll e)) => s.confirmed = true ∨ (GitHub.Call.poll e).stores s.github = none
  | _ => True

/-! ### Who gets an admin session -/

section Issued

variable {lib : Library} {m : AdminSessionManager} {r : Request} {s t : State} {x : String}

/-- A session is issued, or none. -/
theorem issued_checks {path host : String} {firstRun : Bool} {ctx : Context}
    (hx : (x, .admin) ∈ (checks m r path host firstRun ctx s).2.issued) :
    (x, .admin) ∈ s.issued ∨ firstRun = false := by
  cases firstRun with
  | false => exact .inr rfl
  | true =>
    refine .inl ?_
    cases hsession : ctx.adminSession with
    | some session =>
      rw [checks_of_some hsession] at hx
      split at hx <;> exact hx
    | none =>
      rw [checks_firstRun hsession] at hx
      split at hx
      · cases hnew : newSession m 1800 .onboardingOnly "local-first-run" r.fresh s.clock with
        | none =>
          rw [hnew] at hx
          exact hx
        | some new =>
          rw [hnew] at hx
          obtain hold | heq := List.mem_append.1 hx
          · exact hold
          · have hscope := (Prod.mk.inj (List.mem_singleton.1 heq)).2
            rw [(newSession_eq_some hnew).2.1] at hscope
            cases hscope
      · exact hx

theorem issued_processRequest (hx : (x, .admin) ∈ (processRequest lib m r s).2.issued) :
    (x, .admin) ∈ s.issued ∨ r.firstRun = some false := by
  rw [processRequest] at hx
  split at hx
  · rename_i path sessionId _ _
    have hshrinks := shrinks_authenticate r sessionId s
    split at hx
    · rename_i u hu
      rw [hu] at hshrinks
      exact .inl (hshrinks.issued ▸ hx)
    · rename_i session u hu
      rw [hu] at hshrinks
      split at hx
      · exact .inl (hshrinks.issued ▸ hx)
      · rename_i firstRun hfirst
        obtain hold | rfl := issued_checks hx
        · exact .inl (hshrinks.issued ▸ hold)
        · exact .inr hfirst
  · exact .inl hx

/-- A step of the panel that issues an admin session is a request that has seen a token file, or a
handler creates it. -/
theorem issued_next {a : Action} (h : next lib m s a = some t) (hx : (x, .admin) ∈ t.issued) :
    (x, .admin) ∈ s.issued ∨ (∃ r, a = .request r ∧ r.firstRun = some false) ∨
      ∃ principal fresh persisted, a = .create principal fresh persisted := by
  cases a with
  | tick time =>
    rw [next] at h
    split at h
    · cases h
      exact .inl hx
    · cases h
  | request r =>
    rw [next] at h
    split at h
    · cases h
      exact (issued_processRequest hx).imp_right fun hfirst => .inl ⟨r, rfl, hfirst⟩
    · cases h
  | create principal fresh persisted => exact .inr (.inr ⟨principal, fresh, persisted, rfl⟩)
  | destroy y unlinked =>
    cases h
    exact .inl hx
  | cleanup =>
    cases h
    exact .inl ((shrinks_cleanupExpired s).issued ▸ hx)

end Issued

/-! ### The gate -/

/-- What holds before GitHub has confirmed a token. -/
structure Gated (s : Setup) : Prop where
  panel : Inv s.panel
  current : s.github.now ∈ s.past
  /-- A token file is there only after a confirmation. -/
  seen : s.tokenSeen = true → s.confirmed = true
  issued : ∀ x, (x, .admin) ∈ s.panel.issued → s.confirmed = true
  call : ∀ c, s.call = some c → s.confirmed = true ∨
    (∀ mo ∈ c.final.now :: c.left, mo.hasToken = true → mo.confirmed = true) ∧
      (c.succeeds = true → c.final.now.confirmed = true)

section Gate

variable {lib : Library} {m : AdminSessionManager} {s t : Setup}

theorem confirmed_pass {mo : GitHub.Moment} (h : s.confirmed = true) :
    (s.pass mo).confirmed = true := by
  rw [Setup.confirmed, Setup.pass, List.any_cons]
  exact Bool.or_eq_true_iff.2 (.inr h)

theorem hasToken_of_past (h : Gated s) {mo : GitHub.Moment} (hmo : mo = s.github.now)
    (htoken : mo.hasToken = true) : s.confirmed = true :=
  h.seen (List.any_eq_true.2 ⟨mo, hmo ▸ h.current, htoken⟩)

/-- **A call** has a token file only after a confirmation, and ends in success only then. -/
theorem gated_run (h : Gated s) {c : SetupCall} (hc : NoPollStores s (.begin c)) :
    s.confirmed = true ∨
      (∀ mo ∈ (c.run s.github.start).2.trace, mo.hasToken = true → mo.confirmed = true) ∧
        ((c.run s.github.start).1 = true → (c.run s.github.start).2.now.confirmed = true) := by
  have hquiet {u : GitHub.State} (hq : GitHub.Quiet s.github.start u) :
      s.confirmed = true ∨ ∀ mo ∈ u.trace, mo.hasToken = true → mo.confirmed = true := by
    by_cases htoken : s.github.now.hasToken = true
    · exact .inl (hasToken_of_past h rfl htoken)
    · refine .inr fun mo hmo hhas => ?_
      obtain rfl | hmo := List.mem_cons.1 hmo
      · rw [GitHub.Moment.hasToken, hq.disk] at hhas
        exact absurd hhas htoken
      · rw [hq.moments] at hmo
        cases hmo
  cases c with
  | disconnect w =>
    refine .inr ⟨fun mo hmo hhas => ?_, fun hs => by cases hs⟩
    rw [GitHub.hasToken_disconnect rfl mo hmo] at hhas
    cases hhas
  | github c =>
    cases c with
    | poll e =>
      obtain hconfirmed | hnone := hc
      · exact .inl hconfirmed
      · obtain ⟨hfails, hq⟩ := GitHub.run_of_stores_none
          ((GitHub.stores_start (.poll e) s.github).trans hnone)
        refine (hquiet hq).imp_right fun hall => ⟨hall, fun hs => ?_⟩
        exact absurd (hfails.symm.trans hs) Bool.false_ne_true
    | submit e token =>
      obtain ⟨hfails, hq⟩ | hall := GitHub.submission_cases e token (s := s.github.start) rfl
      · refine (hquiet hq).imp_right fun hall => ⟨hall, fun hs => ?_⟩
        exact absurd (hfails.symm.trans hs) Bool.false_ne_true
      · exact .inr ⟨fun mo hmo _ => hall mo hmo, fun _ => hall _ List.mem_cons_self⟩

/-- A moment of the call under way. -/
theorem confirmed_of_token {c : UnderWay} {mo : GitHub.Moment} (h : Gated s)
    (hcall : s.call = some c) (hmo : mo ∈ c.final.now :: c.left)
    (htoken : (s.pass mo).tokenSeen = true) : (s.pass mo).confirmed = true := by
  obtain hhas | hold := Bool.or_eq_true_iff.1 htoken
  · obtain hconfirmed | ⟨hall, -⟩ := h.call c hcall
    · exact confirmed_pass hconfirmed
    · exact Bool.or_eq_true_iff.2 (.inl (hall mo hmo hhas))
  · exact confirmed_pass (h.seen hold)

/-- A change of the files. -/
theorem Gated.write (h : Gated s) {mo : GitHub.Moment} {left : List GitHub.Moment}
    {succeeds : Bool} {final : GitHub.State} (hcall : s.call = some ⟨mo :: left, succeeds, final⟩) :
    Gated { s.pass mo with call := some ⟨left, succeeds, final⟩ } where
  panel := h.panel
  current := List.mem_cons_self
  seen htoken := confirmed_of_token h hcall (List.mem_cons_of_mem _ List.mem_cons_self) htoken
  issued x hx := confirmed_pass (h.issued x hx)
  call c hc := by
    obtain rfl := Option.some.inj hc
    refine (h.call _ hcall).imp (fun hconfirmed => confirmed_pass hconfirmed) ?_
    refine And.imp_left fun hall mo' hmo' => hall mo' ?_
    obtain rfl | hmo' := List.mem_cons.1 hmo'
    · exact List.mem_cons_self
    · exact List.mem_cons_of_mem _ (List.mem_cons_of_mem _ hmo')

/-- The end of a call. -/
theorem Gated.ended (h : Gated s) {succeeds : Bool} {final : GitHub.State}
    (hcall : s.call = some ⟨[], succeeds, final⟩) :
    Gated (s.ended final) ∧ (succeeds = true → (s.ended final).confirmed = true) := by
  have hpast : s.confirmed = true → (s.ended final).confirmed = true :=
    fun hs => Bool.or_eq_true_iff.2 (.inr hs)
  refine ⟨⟨h.panel, List.mem_cons_self, fun htoken => ?_, fun x hx => hpast (h.issued x hx),
    fun c hc => by cases hc⟩, fun hs => ?_⟩
  · exact confirmed_of_token h hcall List.mem_cons_self htoken
  · obtain hconfirmed | ⟨-, hsuccess⟩ := h.call _ hcall
    · exact hpast hconfirmed
    · exact Bool.or_eq_true_iff.2 (.inl (hsuccess hs))

/-- After a confirmation the panel may go on as it likes. -/
theorem Gated.of_confirmed (h : Gated s) (hs : s.confirmed = true) {p : State} (hp : Inv p) :
    Gated { s with panel := p } :=
  ⟨hp, h.current, h.seen, fun _ _ => hs, h.call⟩

/-- An exchange of a session. -/
theorem Gated.completed (h : Gated s) (hs : s.confirmed = true) {session : Option AdminSession}
    {unlinked persisted : Bool} {fresh : Fresh}
    (ht : s.completed m session unlinked fresh persisted = some t) : Gated t := by
  cases session with
  | none =>
    cases ht
    exact h
  | some session =>
    rw [Setup.completed] at ht
    split at ht
    · split at ht
      · rename_i hnew
        cases ht
        have hdestroy : Inv (destroy session.adminSessionId unlinked s.panel).2 :=
          (shrinks_destroy session.adminSessionId unlinked s.panel).inv h.panel
        rw [Setup.exchange]
        cases unlinked with
        | false => exact h.of_confirmed hs hdestroy
        | true =>
          exact h.of_confirmed hs ((enters_createSession m "admin" fresh persisted _).inv hdestroy
            hnew)
      · cases ht
    · cases ht
      exact h

theorem Gated.next (h : Gated s) {a : SetupAction} (ha : NoPollStores s a)
    (ht : s.next lib m a = some t) : Gated t := by
  cases a with
  | panel a =>
    rw [Setup.next] at ht
    split at ht
    · rename_i hadmits
      obtain ⟨p, hp, rfl⟩ := Option.map_eq_some_iff.1 ht
      refine ⟨inv_step h.panel hp, h.current, h.seen, fun x hx => ?_, h.call⟩
      obtain hold | ⟨r, rfl, hfirst⟩ | ⟨principal, fresh, persisted, rfl⟩ := issued_next hp hx
      · exact h.issued x hold
      · -- the request has seen a token file
        rw [Setup.admits, hfirst, bne_self_eq_false, Bool.false_or] at hadmits
        exact h.seen hadmits
      · cases hadmits
    · cases ht
  | begin c =>
    rw [Setup.next] at ht
    split at ht
    · cases ht
      refine ⟨h.panel, h.current, h.seen, h.issued, fun c' hc' => ?_⟩
      obtain rfl := Option.some.inj hc'
      exact gated_run h ha
    · cases ht
  | write =>
    rw [Setup.next] at ht
    split at ht
    · rename_i mo left succeeds final hcall
      cases ht
      exact h.write hcall
    · cases ht
  | finish session unlinked fresh persisted =>
    rw [Setup.next] at ht
    split at ht
    · rename_i succeeds final hcall
      obtain ⟨hended, hconfirmed⟩ := h.ended hcall
      split at ht
      · rename_i hsucceeds
        exact hended.completed (hconfirmed hsucceeds) ht
      · cases ht
        exact hended
    · cases ht
  | restart =>
    cases ht
    refine ⟨⟨fun x session hx => ?_, h.panel.once⟩, h.current, h.seen, h.issued,
      fun c hc => by cases hc⟩
    cases hx

theorem gated_invariant (lib : Library) (m : AdminSessionManager) :
    ((setup lib m).restrict NoPollStores).Invariant Gated where
  init s hs := by
    obtain ⟨hsessions, hissued, hcall, htoken, hpast⟩ := hs
    refine ⟨⟨fun x session hx => ?_, fun x a b ha => ?_⟩, ?_, fun hseen => ?_, fun x hx => ?_,
      fun c hc => ?_⟩
    · rw [hsessions] at hx
      cases hx
    · rw [hissued] at ha
      cases ha
    · rw [hpast]
      exact List.mem_cons_self
    · rw [Setup.tokenSeen, hpast, List.any_cons, GitHub.Moment.hasToken, htoken] at hseen
      cases hseen
    · rw [hissued] at hx
      cases hx
    · rw [hcall] at hc
      cases hc
  step _ _ _ hs h := hs.next h.1 h.2

end Gate

/-- **The first administrator.**  In every run of a runtime that has no token at first, in which no
poll stores a token before GitHub has confirmed one: if there is an admin session, then GitHub has
confirmed a token with the required scopes, and so it has if a request proceeds to a path that is
neither public nor an onboarding route. -/
theorem administered_after_confirmation {lib : Library} {m : AdminSessionManager} {s : Setup}
    (h : ((setup lib m).restrict NoPollStores).Reachable s) :
    (∀ x session, s.panel.sessions.get? x = some session → session.scope = .admin →
        ∃ mo ∈ s.past, ∃ token scopes, (token, scopes) ∈ mo.validated ∧
          GitHub.missingScopes scopes = []) ∧
      ∀ r ctx path, s.admits (.request r) = true →
        (processRequest lib m r s.panel).1 = some (true, ctx) → lib.urlparse r.path = some path →
        isPublic path = false → path ∉ onboardingRoutes →
        ∃ mo ∈ s.past, ∃ token scopes, (token, scopes) ∈ mo.validated ∧
          GitHub.missingScopes scopes = [] := by
  have hgated := (gated_invariant lib m).holds h
  have hexists (hs : s.confirmed = true) : ∃ mo ∈ s.past, ∃ token scopes,
      (token, scopes) ∈ mo.validated ∧ GitHub.missingScopes scopes = [] := by
    obtain ⟨mo, hmo, hconfirmed⟩ := List.any_eq_true.1 hs
    obtain ⟨⟨token, scopes⟩, hmem, hmissing⟩ := List.any_eq_true.1 hconfirmed
    exact ⟨mo, hmo, token, scopes, hmem, of_decide_eq_true hmissing⟩
  have htable (x : String) (session : AdminSession)
      (hx : s.panel.sessions.get? x = some session) (hscope : session.scope = .admin) :
      s.confirmed = true := by
    have hissued := (hgated.panel.entry x session hx).2.1
    rw [hscope] at hissued
    exact hgated.issued x hissued
  refine ⟨fun x session hx hscope => hexists (htable x session hx hscope),
    fun r ctx path hadmits hproceeds hpath hpublic hroute => hexists ?_⟩
  obtain ⟨path', sessionId, found, firstRun, hpath', -, hfirst, hauth, hchecks⟩ :=
    processRequest_eq_some hproceeds
  obtain rfl : path = path' := Option.some.inj (hpath.symm.trans hpath')
  cases found with
  | some session =>
    obtain ⟨x, -, hx, -⟩ := authenticate_eq_some (Prod.ext hauth rfl)
    rw [checks_of_some rfl] at hchecks
    split at hchecks
    · cases hchecks
    · rename_i hscope
      refine htable x session hx ?_
      cases hs : session.scope with
      | admin => rfl
      | onboardingOnly => exact absurd ⟨hs, hroute⟩ hscope
  | none =>
    cases firstRun with
    | true => exact absurd (checks_firstRun_of_some rfl hchecks).1 hroute
    | false =>
      rw [Setup.admits, hfirst, bne_self_eq_false, Bool.false_or] at hadmits
      exact hgated.seen hadmits

/-- A runtime without a token. -/
def blank : Setup where
  panel := idle
  github :=
    { now := ⟨⟨.absent, .absent⟩, []⟩
      memory := {}
      flow := none
      moments := [] }
  past := [⟨⟨.absent, .absent⟩, []⟩]

/-- A visitor submits a token that GitHub accepts. -/
def submission : SetupCall :=
  .github (.submit
    { answer := .ok (.obj [("login", .str "alice")], "repo, read:org")
      tokenWrite := .done
      writeError := ""
      saveWrite := .done
      time := "2024-01-01T00:00:00+00:00" } "token")

/-- What the visitor does: the token is on its way to its file. -/
def submitting : List SetupAction := [.begin submission, .write, .write]

/-- The panel while the token is stored. -/
def submitted : Setup := (System.runFn (Setup.next plain ⟨"RT", 1800⟩) blank submitting).getD blank

theorem reachable_submitted :
    ((setup plain ⟨"RT", 1800⟩).restrict NoPollStores).Reachable submitted := by
  have hrun : System.runFn (Setup.next plain ⟨"RT", 1800⟩) blank submitting = some submitted := rfl
  refine System.reachable_restrict_runFn (.init ⟨rfl, rfl, rfl, rfl, rfl⟩) (fun s a ha => ?_) hrun
  obtain rfl | ha := List.mem_cons.1 ha
  · trivial
  · obtain rfl | ha := List.mem_cons.1 ha
    · trivial
    · obtain rfl := List.mem_singleton.1 ha
      trivial

/-- Another visitor proceeds then, and GitHub has confirmed the token. -/
theorem administered_after_confirmation_submitted :
    ((processRequest plain ⟨"RT", 1800⟩ localRequest submitted.panel).1.map Prod.fst) =
        some true ∧
      ∃ mo ∈ submitted.past, ∃ token scopes, (token, scopes) ∈ mo.validated ∧
        GitHub.missingScopes scopes = [] := by
  obtain ⟨ctx, hctx⟩ : ∃ ctx,
      (processRequest plain ⟨"RT", 1800⟩ localRequest submitted.panel).1 = some (true, ctx) :=
    ⟨_, rfl⟩
  refine ⟨by rw [hctx]; rfl, ?_⟩
  exact (administered_after_confirmation reachable_submitted).2 localRequest ctx "/sessions"
    (by decide) hctx rfl (by decide) (by decide)

/-- A poll whose token GitHub does not accept, and a visitor who comes when it is stored. -/
def visitedPoll : List SetupAction :=
  [.begin (.github (.poll GitHub.fewScopes)), .write, .write, .panel (.request localRequest),
    .write, .write, .write, .finish none true ⟨"", ""⟩ true]

/-- **The poll fails**, its token is gone, and the visitor has an admin session. -/
theorem administered_unconfirmed : ∃ s, (setup plain ⟨"RT", 1800⟩).Reachable s ∧
    (∃ session, s.panel.sessions.get? "cd" = some session ∧ session.scope = .admin) ∧
      s.confirmed = false ∧ s.github.now.disk.token = .absent := by
  have hrun : ∃ s, System.runFn (Setup.next plain ⟨"RT", 1800⟩)
      { blank with github := { blank.github with flow := GitHub.connected.flow } } visitedPoll =
        some s ∧ (s.panel.sessions.get? "cd").map AdminSession.scope = some .admin ∧
          s.confirmed = false ∧ s.github.now.disk.token = .absent :=
    ⟨_, rfl, rfl, by decide, rfl⟩
  obtain ⟨s, hs, hscope, hconfirmed, htoken⟩ := hrun
  obtain ⟨session, hsession, hadmin⟩ := Option.map_eq_some_iff.1 hscope
  exact ⟨s, System.reachable_runFn (.init ⟨rfl, rfl, rfl, rfl, rfl⟩) hs,
    ⟨session, hsession, hadmin⟩, hconfirmed, htoken⟩

end Admin

end AnnyRuntime
