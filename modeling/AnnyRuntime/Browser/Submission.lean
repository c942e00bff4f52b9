import AnnyRuntime.Browser.Interleaving

/-!
# Governed submissions

A request that is not a read should only be continued with an authorization of its own, that was
issued for it in its session and has not expired, and be failed otherwise (`Governed`).

* `governed_of_orderly` : **this holds as long as** an authorization is armed in the session in
  which it was checked, no connection is made while the browser is being started or stopped and the
  armed authorization is not cleared yet, a listener consumes what is still armed, and the answers
  reach the connection of their request, in time.
* `not_governed_late` : an authorization that was armed before it expired lets a request pass after
  that, since the interceptor does not look at the time.
-/

namespace AnnyRuntime

namespace Browser

/-- The authorization was issued for the request in its session, and has not expired. -/
def Handled.Authorized (h : Handled) (log : List Issue) (authId : String) : Prop :=
  ∃ i ∈ log, i.authId = authId ∧ i.auth.expectedMethod = h.request.reqMethod ∧
    stripFragment i.auth.expectedUrl = stripFragment h.request.url ∧
    i.auth.expectedFrameId = h.request.frameId ∧
    (∃ session, i.session = some session ∧ h.session = some session) ∧
    h.time ≤ i.auth.expiresAt

namespace BrowserRun

/-- The authorizations that requests were continued with. -/
def used (s : BrowserRun) : List String := s.handled.filterMap Handled.authId

/-- Every request that is not a read was failed, or continued with an authorization of its own. -/
structure Governed (s : BrowserRun) : Prop where
  handled : ∀ h ∈ s.handled, ¬ h.request.Safe → h.outcome = .failed ∨
    ∃ authId, h.outcome = .continued authId ∧ h.Authorized s.issuedLog authId
  distinct : s.used.Nodup

end BrowserRun

/-- The connection is closed, and what was armed before is not cleared yet. -/
def exposed : List LifecycleStep → Bool
  | .newSession :: _ | .endSession :: _ | .clearTargets :: _ | .clearPending :: _ => true
  | _ => false

/-- The session has changed, and what was armed before is not cleared yet. -/
def Stale : List LifecycleStep → Prop
  | .clearTargets :: _ | .clearPending :: _ => True
  | _ => False

/-- The authorization that a thread arms next. -/
def Thread.arming : Thread → Option PendingSubmissionAuthorization
  | .submit _ (.arm p) => some p
  | _ => none

namespace BrowserRun

/-- What `governed_of_orderly` asks of the events. -/
def Orderly (s : BrowserRun) : Event → Prop
  | .run k _ => ∀ th ∈ s.threads.get? k, ∀ p ∈ th.arming, s.broker.sessionId = some p.sessionId
  | .connect _ => ∀ th ∈ s.threads.values, ∀ todo ∈ th.todo, ¬ exposed todo
  | .decide c _ sent => ∀ l ∈ s.listeners.get? c, ∀ x ∈ l.handling,
      (∀ p ∈ matching x.2 x.1, s.broker.pendingSubmission = some p) ∧
        (matching x.2 x.1 = none → s.broker.cdpWs = some c ∧ sent = true)
  | .resume j sent => ∀ w ∈ s.continuing.get? j,
      s.now ≤ w.pending.expiresAt ∧ s.broker.cdpWs = some w.connection ∧ sent = true
  | _ => True

instance (s : BrowserRun) : (e : Event) → Decidable (s.Orderly e)
  | .run .. => inferInstanceAs (Decidable (∀ _ ∈ _, ∀ _ ∈ _, _))
  | .connect _ => inferInstanceAs (Decidable (∀ _ ∈ _, ∀ _ ∈ _, _))
  | .decide .. => inferInstanceAs (Decidable (∀ _ ∈ _, ∀ _ ∈ _, _))
  | .resume .. => inferInstanceAs (Decidable (∀ _ ∈ _, _))
  | .command .. | .disconnect | .pause .. | .exit | .activity .. | .clock _ =>
    inferInstanceAs (Decidable True)

end BrowserRun

/-! ### Starting and stopping -/

theorem Stale.exposed {todo : List LifecycleStep} (h : Stale todo) : exposed todo := by
  unfold Stale at h
  split at h
  · rfl
  · rfl
  · cases h

/-- The steps of starting and stopping: the connection is closed before the session changes, and
what is armed is cleared right after. -/
def WellOrdered : List LifecycleStep → Prop
  | [] => True
  | x :: todo => (exposed todo → x = .closeConnection ∨ exposed (x :: todo)) ∧
      (x = .newSession ∨ x = .endSession ∨ x = .clearTargets → Stale todo) ∧ WellOrdered todo

theorem wellOrdered_launchBrowser (process : Except String ℕ) :
    WellOrdered (launchBrowser process) := by
  simp [launchBrowser, WellOrdered, exposed, Stale]

/-- The steps of a command. -/
theorem Command.wellOrdered (c : Command) {todo : List LifecycleStep}
    (h : c.thread.todo = some todo) : WellOrdered todo ∧ ¬ exposed todo := by
  cases c with
  | start url installed process =>
    cases h
    have := wellOrdered_launchBrowser process
    simp_all [startBrowser, WellOrdered, exposed, launchBrowser]
  | stop =>
    cases h
    simp [stopBrowser, WellOrdered, exposed, Stale]
  | restart installed process =>
    cases h
    have := wellOrdered_launchBrowser process
    simp_all [restartBrowser, stopBrowser, WellOrdered, exposed, launchBrowser, Stale]
  | find | issueAuth | submit => cases h

namespace Thread.Effect

variable {now : ℤ} {uuid : String} {b b' : Broker} {th th' : Thread}

theorem cdpWs (h : Effect now uuid b th b' th') : b'.cdpWs = b.cdpWs ∨ b'.cdpWs = none := by
  cases h with
  | lifecycle x todo => exact x.run_cdpWs uuid b
  | quiet shared => exact .inl shared.cdpWs
  | _ => exact .inl rfl

/-- What is left to do was left before. -/
theorem todo (h : Effect now uuid b th b' th') {todo : List LifecycleStep}
    (ht : th'.todo = some todo) :
    ∃ x, th = .lifecycle (x :: todo) ∧ b' = (LifecycleStep.run uuid b x).1 := by
  cases h with
  | lifecycle x rest =>
    split at ht <;> cases ht
    exact ⟨x, rfl, rfl⟩
  | quiet _ _ _ _ _ htodo => cases htodo.2.symm.trans ht
  | _ => cases ht

/-- Only starting and stopping changes the session. -/
theorem changes (h : Effect now uuid b th b' th') : b'.sessionId = b.sessionId ∨
    ∃ x todo, (x = .newSession ∨ x = .endSession) ∧ th = .lifecycle (x :: todo) ∧
      th' = .lifecycle todo := by
  cases h with
  | lifecycle x todo =>
    obtain h | ⟨rfl | rfl | rfl | rfl | rfl | rfl, -⟩ := x.run_shared uuid b
    · exact .inl h.sessionId
    · exact .inl rfl
    · exact .inr ⟨_, todo, .inl rfl, rfl, rfl⟩
    · exact .inr ⟨_, todo, .inr rfl, rfl, rfl⟩
    all_goals exact .inl rfl
  | quiet shared => exact .inl shared.sessionId
  | _ => exact .inl rfl

end Thread.Effect

/-! ### Sessions -/

namespace BrowserRun

/-- What comes over the current connection is of the current session. -/
structure Current (s : BrowserRun) : Prop where
  todo : ∀ k th, s.threads.get? k = some th → ∀ todo, th.todo = some todo →
    WellOrdered todo ∧ (exposed todo → s.broker.cdpWs = none)
  connection : ∀ c l, s.listeners.get? c = some l → s.broker.cdpWs = some c →
    l.session = s.broker.sessionId
  armed : ∀ p, s.broker.pendingSubmission = some p → s.broker.sessionId = some p.sessionId ∨
    ∃ k todo, s.threads.get? k = some (.lifecycle todo) ∧ Stale todo
  handling : ∀ c l, s.listeners.get? c = some l → ∀ r p, l.handling = some (r, some p) →
    s.broker.cdpWs = some c → s.broker.sessionId = some p.sessionId
  known : ∀ j w, s.continuing.get? j = some w → s.listeners.get? w.connection ≠ none
  continuing : ∀ j w, s.continuing.get? j = some w → s.broker.cdpWs = some w.connection →
    s.broker.sessionId = some w.pending.sessionId ∧ w.session = s.broker.sessionId

variable {s t : BrowserRun}

/-- What is armed while there is a connection belongs to the session. -/
theorem Current.armed_of_connected (hs : Current s) {p : PendingSubmissionAuthorization} {c : ℕ}
    (hp : s.broker.pendingSubmission = some p) (hws : s.broker.cdpWs = some c) :
    s.broker.sessionId = some p.sessionId := by
  obtain h | ⟨k, todo, hk, hstale⟩ := hs.armed p hp
  · exact h
  · cases ((hs.todo k _ hk todo rfl).2 hstale.exposed).symm.trans hws

/-- What is armed after the step of a thread belongs to the session, or is going to be cleared. -/
theorem Current.armed_ran (hs : Current s) {k : ℕ} {uuid : String} {th th' : Thread} {b : Broker}
    (hk : s.threads.get? k = some th) (heffect : th.Effect s.now uuid s.broker b th')
    (hok : s.Orderly (.run k uuid)) {p : PendingSubmissionAuthorization}
    (hp : b.pendingSubmission = some p) : b.sessionId = some p.sessionId ∨
      ∃ k' todo, (s.threads.set k th').get? k' = some (.lifecycle todo) ∧ Stale todo := by
  obtain hp' | ⟨call, rfl⟩ := heffect.pending hp
  · obtain hsession | ⟨x, todo, hx, rfl, rfl⟩ := heffect.changes
    · obtain h | ⟨k', todo, hk', hstale⟩ := hs.armed p hp'
      · exact .inl (hsession.trans h)
      · refine .inr ?_
        by_cases hkk : k' = k
        · -- the thread that is going to clear what is armed takes a step
          subst hkk
          cases hk.symm.trans hk'
          cases heffect with
          | lifecycle x todo =>
            cases x with
            | clearTargets =>
              exact ⟨k', todo, Dict.get?_set_self _ _,
                (hs.todo k' _ hk _ rfl).1.2.1 (.inr (.inr rfl))⟩
            | clearPending => cases hp
            | _ => cases hstale
          | quiet _ _ _ _ _ htodo => cases htodo.1
        · exact ⟨k', todo, (Dict.get?_set_ne hkk _).trans hk', hstale⟩
    · refine .inr ⟨k, todo, Dict.get?_set_self _ _, (hs.todo k _ hk _ rfl).1.2.1 ?_⟩
      obtain rfl | rfl := hx
      · exact .inl rfl
      · exact .inr (.inl rfl)
  · obtain hsession | ⟨x, todo, -, h, -⟩ := heffect.changes
    · exact .inl (hsession.trans (hok _ hk p rfl))
    · cases h

/-- The step of a thread. -/
theorem Current.ran (hs : Current s) {k : ℕ} {uuid : String} {th th' : Thread} {b : Broker}
    (hk : s.threads.get? k = some th) (heffect : th.Effect s.now uuid s.broker b th')
    (hok : s.Orderly (.run k uuid)) : Current (s.ran k uuid th b th') := by
  have hnone : s.broker.cdpWs = none → b.cdpWs = none := by
    intro h
    obtain hsame | hlost := heffect.cdpWs
    · rw [hsame, h]
    · exact hlost
  -- a connection that is still there has seen no change of the session
  have hsame : ∀ c, b.cdpWs = some c →
      s.broker.cdpWs = some c ∧ b.sessionId = s.broker.sessionId := by
    intro c hc
    have hws : s.broker.cdpWs = some c := by
      obtain hsame | hlost := heffect.cdpWs
      · exact hsame ▸ hc
      · cases hlost.symm.trans hc
    refine ⟨hws, ?_⟩
    obtain hsession | ⟨x, todo, hx, rfl, rfl⟩ := heffect.changes
    · exact hsession
    · have hexposed : exposed (x :: todo) := by obtain rfl | rfl := hx <;> rfl
      cases ((hs.todo k _ hk _ rfl).2 hexposed).symm.trans hws
  refine
    { todo := Dict.forall_get?_set (fun k' v hv todo ht =>
        (hs.todo k' v hv todo ht).imp_right fun h he => hnone (h he)) fun todo ht => ?_
      connection := fun c l hc hws => ?_
      armed := fun p hp => hs.armed_ran hk heffect hok hp
      handling := fun c l hc r p hl hws => ?_
      known := hs.known
      continuing := fun j w hj hws => ?_ }
  · obtain ⟨x, rfl, rfl⟩ := heffect.todo ht
    obtain ⟨⟨hbefore, -, hrest⟩, hclosed⟩ := hs.todo k _ hk _ rfl
    refine ⟨hrest, fun he => ?_⟩
    obtain rfl | he := hbefore he
    · rfl
    · exact hnone (hclosed he)
  · exact (hs.connection c l hc (hsame c hws).1).trans (hsame c hws).2.symm
  · exact (hsame c hws).2.trans (hs.handling c l hc r p hl (hsame c hws).1)
  · obtain ⟨hws', hsession⟩ := hsame _ hws
    obtain ⟨h, h'⟩ := hs.continuing j w hj hws'
    exact ⟨hsession.trans h, h'.trans hsession.symm⟩

/-- A listener goes on to another request, or to none. -/
theorem Current.listening (hs : Current s) {c : ℕ} {session : Option String}
    {x : Option (PausedRequest × Option PendingSubmissionAuthorization)}
    (hc : s.listeners.get? c = some ⟨session, x⟩)
    (x' : Option (PausedRequest × Option PendingSubmissionAuthorization))
    (hx : ∀ r p, x' = some (r, some p) → s.broker.cdpWs = some c →
      s.broker.sessionId = some p.sessionId) :
    Current { s with listeners := s.listeners.set c ⟨session, x'⟩ } := by
  have hsession := hs.connection c _ hc
  exact { hs with
    connection := Dict.forall_get?_set hs.connection hsession
    handling := Dict.forall_get?_set hs.handling hx
    known := fun j w hj => Dict.get?_set_ne_none (hs.known j w hj) _ }

theorem Current.init (profileDir : String) (now : ℤ) :
    Current (BrowserRun.init profileDir now) where
  todo _ _ h := by cases h
  connection _ _ h := by cases h
  armed _ h := by cases h
  handling _ _ h := by cases h
  known _ _ h := by cases h
  continuing _ _ h := by cases h

theorem Current.step (hs : Current s) {e : Event} (h : s.Step e t) (hok : s.Orderly e) :
    Current t := by
  cases h with
  | command c hk =>
    rename_i k
    refine { hs with
      todo := Dict.forall_get?_set hs.todo fun todo ht =>
        ⟨(c.wellOrdered ht).1, fun he => absurd he (c.wellOrdered ht).2⟩
      armed := fun p hp => (hs.armed p hp).imp_right ?_ }
    -- the new thread has an id of its own, so the one that clears the record later is still there
    rintro ⟨k', todo, hk', hstale⟩
    refine ⟨k', todo, (Dict.get?_set_ne ?_ _).trans hk', hstale⟩
    rintro rfl
    cases hk.symm.trans hk'
  | run hu hk heffect => exact hs.ran hk heffect hok
  | connect hws hc =>
    rename_i c
    refine
      { todo := fun k th hk todo ht => ⟨(hs.todo k th hk todo ht).1, fun he => ?_⟩
        connection := fun c' l hl hws' => ?_
        armed := hs.armed
        handling := fun c' l hl r p hr hws' => ?_
        known := fun j w hj => ?_
        continuing := fun j w hj hws' => ?_ }
    · -- the threads between a close and its reset are the ones that the condition excludes
      cases th with
      | lifecycle todo' =>
        cases ht
        exact absurd he (hok _ (Dict.mem_values_of_get? hk) todo rfl)
      | _ => cases ht
    · cases hws'
      obtain ⟨-, rfl⟩ | ⟨hne, -⟩ := Dict.of_get?_set hl
      · rfl
      · exact absurd rfl hne
    · cases hws'
      -- the listener of the new connection has not paused a request
      obtain ⟨-, rfl⟩ | ⟨hne, -⟩ := Dict.of_get?_set hl
      · cases hr
      · exact absurd rfl hne
    · exact Dict.get?_set_ne_none (hs.known j w hj) _
    · -- the thread of a matched request has a connection of its own
      cases hws'
      exact absurd hc (hs.known j w hj)
  | pause r hc =>
    unfold pause
    split_ifs with hsafe
    · exact { hs with }
    · refine hs.listening hc _ fun r' p h hws => ?_
      obtain ⟨-, hp⟩ := Prod.ext_iff.1 (Option.some.inj h)
      exact hs.armed_of_connected hp hws
  | consume sent hc hp hj =>
    -- the record goes from the broker to the answer, which keeps the session of its connection
    obtain ⟨rfl, -⟩ := matching_eq_some hp
    have hl := hs.listening hc none fun _ _ h => by cases h
    exact { hl with
      armed := fun _ h => by cases h
      known := Dict.forall_get?_set hl.known fun h => by
        cases (Dict.get?_set_self _ _).symm.trans h
      continuing := Dict.forall_get?_set hl.continuing fun hws =>
        ⟨hs.handling _ _ hc _ _ rfl hws, hs.connection _ _ hc hws⟩ }
  | refuse sent hc hp =>
    have hl := hs.listening hc none fun _ _ h => by cases h
    exact { hl with }
  | resume sent hj =>
    exact { hs with
      known := fun j' w h => hs.known j' w (Dict.of_get?_erase h).2
      continuing := fun j' w h => hs.continuing j' w (Dict.of_get?_erase h).2 }
  | other e now hws hsession hpending hissued =>
    -- a connection can only be lost here
    have hnone : s.broker.cdpWs = none → Broker.cdpWs _ = none := fun h => hws.elim (·.trans h) id
    have hconn : ∀ c, Broker.cdpWs _ = some c → s.broker.cdpWs = some c := fun c h =>
      hws.elim (fun hsame => hsame ▸ h) fun hlost => by cases hlost.symm.trans h
    exact
      { todo := fun k th hk todo ht => (hs.todo k th hk todo ht).imp_right fun h he => hnone (h he)
        connection := fun c l hl h => (hs.connection c l hl (hconn c h)).trans hsession.symm
        armed := fun p hp => (hs.armed p (hpending ▸ hp)).imp_left hsession.trans
        handling := fun c l hl r p hr h => hsession.trans (hs.handling c l hl r p hr (hconn c h))
        known := hs.known
        continuing := fun j w hj h => by
          obtain ⟨hp, hw⟩ := hs.continuing j w hj (hconn _ h)
          exact ⟨hsession.trans hp, hw.trans hsession.symm⟩ }

/-! ### Single use -/

/-- Where an authorization can be. -/
inductive Place where
  | issued
  /-- A thread has consumed it, and not armed it yet. -/
  | carried (k : ℕ)
  | armed
  /-- A request was matched with it, and not answered yet. -/
  | matched (j : ℕ)
  | used

/-- An authorization is at a place. -/
def At (s : BrowserRun) : Place → String → Prop
  | .issued, authId => ∃ auth, s.broker.issuedAuthorizations.get? authId = some auth
  | .carried k, authId => ∃ th p, s.threads.get? k = some th ∧ th.carried = some p ∧
      p.authId = authId
  | .armed, authId => ∃ p, s.broker.pendingSubmission = some p ∧ p.authId = authId
  | .matched j, authId => ∃ w, s.continuing.get? j = some w ∧ w.pending.authId = authId
  | .used, authId => authId ∈ s.used

theorem at_used {authId : String} : s.At .used authId ↔ authId ∈ s.used := Iff.rfl

/-- Every authorization is at one place, and is used once. -/
structure Single (s : BrowserRun) : Prop where
  drawn : ∀ place authId, s.At place authId → authId ∈ s.drawn
  unique : ∀ place place' authId, s.At place authId → s.At place' authId → place = place'
  used : s.used.Nodup

/-- Nothing comes to a place. -/
theorem Single.mono (hs : Single s) (hat : ∀ place authId, t.At place authId → s.At place authId)
    (hdrawn : ∀ x ∈ s.drawn, x ∈ t.drawn) (hused : t.used.Nodup) : Single t where
  drawn place authId h := hdrawn _ (hs.drawn place authId (hat _ _ h))
  unique place place' authId h h' := hs.unique place place' authId (hat _ _ h) (hat _ _ h')
  used := hused

/-- One authorization comes to a place, and is nowhere else. -/
theorem Single.put (hs : Single s) {x : String} {q : Place}
    (hat : ∀ place authId, t.At place authId →
      (authId = x ∧ place = q) ∨ (authId ≠ x ∧ s.At place authId))
    (hx : x ∈ t.drawn) (hdrawn : ∀ x ∈ s.drawn, x ∈ t.drawn) (hused : t.used.Nodup) :
    Single t where
  drawn place authId h := by
    obtain ⟨rfl, -⟩ | ⟨-, h⟩ := hat _ _ h
    · exact hx
    · exact hdrawn _ (hs.drawn place authId h)
  unique place place' authId h h' := by
    obtain ⟨rfl, rfl⟩ | ⟨hne, h⟩ := hat _ _ h
    · obtain ⟨-, rfl⟩ | ⟨hne, -⟩ := hat _ _ h'
      · rfl
      · exact absurd rfl hne
    · obtain ⟨rfl, -⟩ | ⟨-, h'⟩ := hat _ _ h'
      · exact absurd rfl hne
      · exact hs.unique place place' authId h h'
  used := hused

/-- One authorization moves from a place to another. -/
theorem Single.move (hs : Single s) {x : String} {p q : Place} (hx : s.At p x)
    (hat : ∀ place authId, t.At place authId →
      (authId = x ∧ place = q) ∨ (s.At place authId ∧ (place = p → authId ≠ x)))
    (hdrawn : ∀ x ∈ s.drawn, x ∈ t.drawn) (hused : t.used.Nodup) : Single t := by
  have hput : ∀ place authId, t.At place authId →
      (authId = x ∧ place = q) ∨ (authId ≠ x ∧ s.At place authId) := by
    intro place authId h
    obtain h | ⟨h, hne⟩ := hat _ _ h
    · exact .inl h
    · refine .inr ⟨?_, h⟩
      rintro rfl
      exact hne (hs.unique _ _ _ h hx) rfl
  exact hs.put hput (hdrawn x (hs.drawn _ _ hx)) hdrawn hused

/-- What a thread carries after its step. -/
theorem at_carried_ran {k k' : ℕ} {uuid authId : String} {th th' : Thread} {b : Broker}
    (h : (s.ran k uuid th b th').At (.carried k') authId) :
    (k' = k ∧ ∃ p, th'.carried = some p ∧ p.authId = authId) ∨
      (k' ≠ k ∧ s.At (.carried k') authId) := by
  obtain ⟨v, p, hv, hp, hid⟩ := h
  obtain ⟨rfl, rfl⟩ | ⟨hne, hv⟩ := Dict.of_get?_set hv
  · exact .inl ⟨rfl, p, hp, hid⟩
  · exact .inr ⟨hne, v, p, hv, hp, hid⟩

/-- A step that moves no authorization. -/
theorem Single.ran_mono (hs : Single s) {k : ℕ} (uuid : String) {th th' : Thread} {b : Broker}
    (hk : s.threads.get? k = some th)
    (hissued : ∀ authId auth, b.issuedAuthorizations.get? authId = some auth →
      s.broker.issuedAuthorizations.get? authId = some auth)
    (hpending : ∀ p, b.pendingSubmission = some p → s.broker.pendingSubmission = some p)
    (hcarried : ∀ p, th'.carried = some p → th.carried = some p) :
    Single (s.ran k uuid th b th') := by
  refine hs.mono (fun place authId h => ?_) (fun x hx => List.mem_cons_of_mem _ hx) hs.used
  cases place with
  | issued =>
    obtain ⟨auth, h⟩ := h
    exact ⟨auth, hissued authId auth h⟩
  | carried k' =>
    obtain ⟨rfl, p, hp, hid⟩ | ⟨-, h⟩ := at_carried_ran h
    · exact ⟨th, p, hk, hcarried p hp, hid⟩
    · exact h
  | armed =>
    obtain ⟨p, hp, hid⟩ := h
    exact ⟨p, hpending p hp, hid⟩
  | matched | used => exact h

/-- The step of a thread. -/
theorem Single.ran (hs : Single s) {k : ℕ} {uuid : String} {th th' : Thread} {b : Broker}
    (hu : uuid ∉ s.drawn) (hk : s.threads.get? k = some th)
    (heffect : th.Effect s.now uuid s.broker b th') : Single (s.ran k uuid th b th') := by
  have hdrawn : ∀ x ∈ s.drawn, x ∈ uuid :: s.drawn := fun x hx => List.mem_cons_of_mem _ hx
  have hcarries : ∀ p, th'.carried = some p → th.carried = some p ∨
      ∃ auth, th.checked = some (p.authId, auth) := fun p hp =>
    (heffect.carried hp).imp_right fun ⟨auth, h, _⟩ => ⟨auth, h⟩
  cases heffect with
  | enter call frameId method action expiresAt response =>
    -- a new authorization is issued
    refine hs.put (x := uuid) (q := .issued) (fun place authId h => ?_) List.mem_cons_self hdrawn
      hs.used
    have hold : s.At place authId → authId ≠ uuid := fun h he => hu (he ▸ hs.drawn _ _ h)
    cases place with
    | issued =>
      obtain ⟨auth, h⟩ := h
      obtain ⟨rfl, -⟩ | ⟨hne, h⟩ := Dict.of_get?_set h
      · exact .inl ⟨rfl, rfl⟩
      · exact .inr ⟨hne, auth, h⟩
    | carried k' =>
      obtain ⟨-, p, hp, -⟩ | ⟨-, h⟩ := at_carried_ran h
      · cases hp
      · exact .inr ⟨hold h, h⟩
    | armed | matched | used => exact .inr ⟨hold h, h⟩
  | consume call hget =>
    -- it is taken out of the issued ones
    rename_i x auth auth'
    refine hs.move (p := .issued) (q := .carried k) ⟨auth', hget⟩ (fun place authId h => ?_)
      hdrawn hs.used
    cases place with
    | issued =>
      obtain ⟨a, h⟩ := h
      obtain ⟨hne, h⟩ := Dict.of_get?_erase h
      exact .inr ⟨⟨a, h⟩, fun _ => hne⟩
    | carried k' =>
      obtain ⟨rfl, p, hp, rfl⟩ | ⟨-, h⟩ := at_carried_ran h
      · cases hp
        exact .inl ⟨rfl, rfl⟩
      · exact .inr ⟨h, nofun⟩
    | armed | matched | used => exact .inr ⟨h, nofun⟩
  | arm call p =>
    -- it is armed, in the place of another
    refine hs.move (p := .carried k) (q := .armed) ⟨_, p, hk, rfl, rfl⟩
      (fun place authId h => ?_) hdrawn hs.used
    cases place with
    | armed =>
      obtain ⟨p', hp', rfl⟩ := h
      cases hp'
      exact .inl ⟨rfl, rfl⟩
    | carried k' =>
      obtain ⟨-, p', hp', -⟩ | ⟨hne, h⟩ := at_carried_ran h
      · cases hp'
      · exact .inr ⟨h, fun he => absurd (Place.carried.inj he) hne⟩
    | issued | matched | used => exact .inr ⟨h, nofun⟩
  | lifecycle x todo =>
    have hcarried := fun p hp => (hcarries p hp).resolve_right fun ⟨auth, h⟩ => by cases h
    obtain h | ⟨rfl | rfl | rfl | rfl | rfl | rfl, -⟩ := x.run_shared uuid s.broker
    · exact hs.ran_mono uuid hk (fun _ _ h' => h.issued ▸ h') (fun _ h' => h.pending ▸ h') hcarried
    case inr.inr.inr.inr.inr.inl =>
      exact hs.ran_mono uuid hk (fun _ _ h => h) (fun _ h => by cases h) hcarried
    case inr.inr.inr.inr.inr.inr =>
      exact hs.ran_mono uuid hk (fun _ _ h => by cases h) (fun _ h => h) hcarried
    all_goals exact hs.ran_mono uuid hk (fun _ _ h => h) (fun _ h => h) hcarried
  | quiet shared _ _ hcarried =>
    refine hs.ran_mono uuid hk (fun _ _ h => shared.issued ▸ h) (fun _ h => shared.pending ▸ h)
      fun p hp => ?_
    obtain hnone | hsame := hcarried
    · cases hnone.symm.trans hp
    · exact hsame ▸ hp
  | release =>
    exact hs.ran_mono uuid hk (fun _ _ h => h) (fun _ h => by cases h) fun _ h => by cases h
  | lookup | check | bind =>
    exact hs.ran_mono uuid hk (fun _ _ h => h) (fun _ h => h) fun _ h => by cases h

theorem Single.init (profileDir : String) (now : ℤ) :
    Single (BrowserRun.init profileDir now) := by
  have hat : ∀ place authId, ¬ (BrowserRun.init profileDir now).At place authId := by
    intro place authId h
    cases place with
    | issued =>
      obtain ⟨_, h⟩ := h
      cases h
    | carried k =>
      obtain ⟨_, _, h, _⟩ := h
      cases h
    | armed | matched =>
      obtain ⟨_, h, _⟩ := h
      cases h
    | used => cases h
  exact
    { drawn := fun place authId h => absurd h (hat place authId)
      unique := fun place _ authId h => absurd h (hat place authId)
      used := List.nodup_nil }

/-- An answer that continues nothing. -/
theorem Single.unused (hs : Single s)
    (hat : ∀ place authId, place ≠ .used → t.At place authId → s.At place authId)
    (hdrawn : ∀ x ∈ s.drawn, x ∈ t.drawn) (hused : t.used = s.used) : Single t := by
  refine hs.mono (fun place authId h => ?_) hdrawn (hused ▸ hs.used)
  cases place with
  | used => exact at_used.2 (hused ▸ at_used.1 h)
  | _ => exact hat _ _ nofun h

/-- What an answer to a matched request uses. -/
theorem used_resume (s : BrowserRun) (j : ℕ) (w : Continuation) (sent : Bool) :
    (s.resume j w sent).used = s.used ++
      if s.broker.cdpWs = some w.connection ∧ sent then [w.pending.authId] else [] := by
  simp only [BrowserRun.used, BrowserRun.resume, List.filterMap_append]
  split_ifs <;> simp [Handled.authId]

theorem used_refuse (s : BrowserRun) (c : ℕ) (session : Option String) (r : PausedRequest)
    (sent : Bool) : (s.refuse c session r sent).used = s.used := by
  simp only [BrowserRun.used, refuse, List.filterMap_append]
  split_ifs <;> simp [Handled.authId]

/-- The answer to a matched request uses its authorization, or loses it. -/
theorem Single.resumed (hs : Single s) {j : ℕ} {w : Continuation} (sent : Bool)
    (hj : s.continuing.get? j = some w) : Single (s.resume j w sent) := by
  have hused := used_resume s j w sent
  have hnot : w.pending.authId ∉ s.used := fun h => by
    cases hs.unique .used (.matched j) _ h ⟨w, hj, rfl⟩
  refine hs.move (p := .matched j) (q := .used) ⟨w, hj, rfl⟩ (fun place authId h => ?_)
    (fun _ h => h) ?_
  · cases place with
    | matched j' =>
      obtain ⟨w', hw', rfl⟩ := h
      obtain ⟨hne, hw'⟩ := Dict.of_get?_erase hw'
      exact .inr ⟨⟨w', hw', rfl⟩, fun he => absurd (Place.matched.inj he) hne⟩
    | used =>
      rw [at_used, hused, List.mem_append] at h
      obtain h | h := h
      · exact .inr ⟨h, nofun⟩
      · split_ifs at h
        · exact .inl ⟨List.mem_singleton.1 h, rfl⟩
        · cases h
    | issued | carried | armed => exact .inr ⟨h, nofun⟩
  · rw [hused]
    split_ifs
    · exact hs.used.append (List.nodup_singleton _) (by simpa using hnot)
    · simpa using hs.used

theorem Single.step (hs : Single s) {e : Event} (h : s.Step e t) (hok : s.Orderly e) :
    Single t := by
  have hdrawn : ∀ x ∈ s.drawn, x ∈ s.drawn := fun _ h => h
  cases h with
  | command c hk =>
    refine hs.mono (fun place authId h => ?_) hdrawn hs.used
    cases place with
    | carried k =>
      obtain ⟨th, p, hth, hp, hid⟩ := h
      obtain ⟨-, rfl⟩ | ⟨-, hth⟩ := Dict.of_get?_set hth
      · cases (thread_command c).2.2.1.symm.trans hp
      · exact ⟨th, p, hth, hp, hid⟩
    | _ => exact h
  | run hu hk heffect => exact hs.ran hu hk heffect
  | connect hws hc =>
    exact hs.mono (fun place authId h => by cases place <;> exact h) hdrawn hs.used
  | pause r hc =>
    rename_i session
    unfold pause
    split_ifs with hsafe
    · refine hs.unused (fun place authId hplace h => ?_) hdrawn ?_
      · cases place with
        | used => exact absurd rfl hplace
        | _ => exact h
      · simp [BrowserRun.used, Handled.authId]
    · exact hs.mono (fun place authId h => by cases place <;> exact h) hdrawn hs.used
  | consume sent hc hp hj =>
    rename_i j session r pending p
    -- what the listener read is still armed
    have harmed := (hok _ hc _ rfl).1 p hp
    refine hs.move (p := .armed) (q := .matched j) ⟨p, harmed, rfl⟩ (fun place authId h => ?_)
      hdrawn hs.used
    cases place with
    | armed =>
      obtain ⟨_, h, _⟩ := h
      cases h
    | matched j' =>
      obtain ⟨w, hw, rfl⟩ := h
      obtain ⟨rfl, rfl⟩ | ⟨-, hw⟩ := Dict.of_get?_set hw
      · exact .inl ⟨rfl, rfl⟩
      · exact .inr ⟨⟨w, hw, rfl⟩, nofun⟩
    | issued | carried | used => exact .inr ⟨h, nofun⟩
  | refuse sent hc hp =>
    refine hs.unused (fun place authId hplace h => ?_) hdrawn (used_refuse ..)
    cases place with
    | used => exact absurd rfl hplace
    | _ => exact h
  | resume sent hj => exact hs.resumed sent hj
  | other e now hws hsession hpending hissued =>
    refine hs.mono (fun place authId h => ?_) hdrawn hs.used
    cases place with
    | issued =>
      obtain ⟨auth, h⟩ := h
      exact ⟨auth, hissued ▸ h⟩
    | armed =>
      obtain ⟨p, h, hid⟩ := h
      exact ⟨p, hpending ▸ h, hid⟩
    | _ => exact h

/-! ### Governed submissions -/

/-- Every request that is not a read was answered as it should be. -/
def Answered (s : BrowserRun) : Prop := ∀ h ∈ s.handled, ¬ h.request.Safe →
  h.outcome = .failed ∨ ∃ authId, h.outcome = .continued authId ∧ h.Authorized s.issuedLog authId

theorem Answered.mono (hs : Answered s) (hlog : ∀ i ∈ s.issuedLog, i ∈ t.issuedLog)
    {h : Handled} (hh : h ∈ s.handled) (hr : ¬ h.request.Safe) : h.outcome = .failed ∨
      ∃ authId, h.outcome = .continued authId ∧ h.Authorized t.issuedLog authId := by
  obtain hfailed | ⟨authId, hc, i, hi, hrest⟩ := hs h hh hr
  · exact .inl hfailed
  · exact .inr ⟨authId, hc, i, hlog i hi, hrest⟩

/-- One more request is answered. -/
theorem Answered.answer (hs : Answered s) {x : Handled} (ht : t.handled = s.handled ++ [x])
    (hlog : t.issuedLog = s.issuedLog) (hx : ¬ x.request.Safe → x.outcome = .failed ∨
      ∃ authId, x.outcome = .continued authId ∧ x.Authorized t.issuedLog authId) :
    Answered t := by
  intro h hh hr
  rw [ht, List.mem_append, List.mem_singleton] at hh
  obtain hh | rfl := hh
  · exact hs.mono (fun i hi => hlog ▸ hi) hh hr
  · exact hx hr

theorem Answered.step (hs : Answered s) (hsound : Sound s) (hcurrent : Current s) {e : Event}
    (h : s.Step e t) (hok : s.Orderly e) : Answered t := by
  cases h with
  | run hu hk heffect =>
    exact fun h hh hr => hs.mono (fun i hi => List.mem_append_left _ hi) hh hr
  | pause r hc =>
    unfold pause
    split_ifs with hsafe
    · exact hs.answer rfl rfl fun hr => absurd hsafe hr
    · exact hs
  | refuse sent hc hp =>
    obtain ⟨hws, hsent⟩ := (hok _ hc _ rfl).2 hp
    exact hs.answer rfl rfl fun _ => .inl (if_pos ⟨hws, hsent⟩)
  | resume sent hj =>
    rename_i w
    obtain ⟨htime, hws, hsent⟩ := hok w hj
    obtain ⟨⟨i, hi, hid, hauth, hissue⟩, hmethod, hurl, hframe⟩ := hsound.continuing _ w hj
    obtain ⟨hsession, hw⟩ := hcurrent.continuing _ w hj hws
    refine hs.answer rfl rfl fun _ =>
      .inr ⟨w.pending.authId, if_pos ⟨hws, hsent⟩, i, hi, hid, ?_⟩
    rw [hauth]
    exact ⟨hmethod, hurl.symm, hframe, ⟨w.pending.sessionId, hissue, hw.trans hsession⟩, htime⟩
  | command | connect | consume | other => exact hs

/-- **Submissions are governed** in every run in which an authorization is armed in the session in
which it was checked, connections are only made when the one before is done with, listeners consume
what is still armed, and the answers reach the connection of their request, in time. -/
theorem governed_of_orderly {s : BrowserRun} (h : (browser.restrict Orderly).Reachable s) :
    Governed s := by
  have hinv : (browser.restrict Orderly).Invariant fun s =>
      Sound s ∧ Current s ∧ Single s ∧ Answered s :=
    { init := fun s hs => by
        obtain ⟨profileDir, now, rfl⟩ := hs
        exact ⟨.init profileDir now, .init profileDir now, .init profileDir now,
          fun h hh => by cases hh⟩
      step := fun s e t hs h => by
        obtain ⟨hsound, hcurrent, hsingle, hanswered⟩ := hs
        obtain ⟨hok, hnext⟩ := h
        have hstep := next_step hnext
        exact ⟨hsound.step hstep, hcurrent.step hstep hok, hsingle.step hstep hok,
          hanswered.step hsound hcurrent hstep hok⟩ }
  obtain ⟨-, -, hsingle, hanswered⟩ := hinv.holds h
  exact ⟨hanswered, hsingle.used⟩

/-! ### A submission in time, and one that is late -/

/-- A thread takes steps, with these identifiers. -/
def steps (k : ℕ) (uuids : List String) : List Event := uuids.map (.run k)

/-- The browser is started and connected to, a button is found on its page, an authorization for ten
units of time is issued for the form of the button, and armed. -/
def armedRun : List Event :=
  .command 0 (.start (some "https://example.org/form") true (.ok 4242)) ::
    steps 0 ["s1", "s2", "s3", "s4", "s5", "s6", "s7"] ++
  [.connect 0, .command 1 (.find ⟨[⟨17, "node", [("tag", .str "button")]⟩], none⟩)] ++
    steps 1 ["f1", "f2", "f3", "f4"] ++
  [.command 2 (.issueAuth ⟨"bt_f3", "s3", 10,
    ⟨true, some [("frame", true)], .value ("POST", "https://example.org/submit")⟩⟩)] ++
    steps 2 ["i1", "i2", "i3", "i4", "i5", "i6", "i7"] ++
  [.command 3 (.submit ⟨"bt_f3", some "i7", ⟨true, .value (), .error "no page"⟩⟩)] ++
    steps 3 ["u1", "u2", "u3", "u4", "u5", "u6", "u7", "u8", "u9"]

/-- The request that the form sends. -/
def post : PausedRequest := ⟨"POST", "https://example.org/submit", "frame"⟩

/-- It is paused, matched and continued. -/
def postRun : List Event := [.pause 0 post, .decide 0 0 true, .resume 0 true]

/-- The submission is continued with its authorization. -/
theorem governed_submitted : ∃ s : BrowserRun,
    s.handled = [⟨post, some "s3", 0, .continued "i7"⟩] ∧ Governed s := by
  have hrun : (System.runFn (System.guardFn Orderly next) (init "colab" 0)
      (armedRun ++ postRun)).map handled = some [⟨post, some "s3", 0, .continued "i7"⟩] := by
    decide +kernel
  obtain ⟨s, hs, hhandled⟩ := Option.map_eq_some_iff.1 hrun
  refine ⟨s, hhandled, governed_of_orderly ?_⟩
  rw [browser, System.restrict_ofFn]
  exact System.reachable_runFn (.init ⟨"colab", 0, rfl⟩) hs

/-- The authorization is armed in time, and the request comes after it has expired. -/
theorem not_governed_late : ¬ ∀ s, browser.Reachable s → Governed s := by
  intro h
  have hrun : (System.runFn next (init "colab" 0) (armedRun ++ .clock 100 :: postRun)).map
      (fun s => (s.handled, s.issuedLog.map fun i => i.auth.expiresAt)) =
        some ([⟨post, some "s3", 100, .continued "i7"⟩], [10]) := by
    decide +kernel
  obtain ⟨s, hs, heq⟩ := Option.map_eq_some_iff.1 hrun
  obtain ⟨hhandled, hlog⟩ := Prod.mk.inj heq
  have hreach : browser.Reachable s := System.reachable_runFn (.init ⟨"colab", 0, rfl⟩) hs
  obtain hfailed | ⟨authId, -, i, hi, -, -, -, -, -, htime⟩ := (h s hreach).handled
    ⟨post, some "s3", 100, .continued "i7"⟩ (hhandled ▸ List.mem_singleton_self _) (by decide +kernel)
  · cases hfailed
  · have hexpires : i.auth.expiresAt ∈ [10] := hlog ▸ List.mem_map_of_mem hi
    rw [List.mem_singleton] at hexpires
    rw [hexpires] at htime
    exact absurd htime (by decide)

end BrowserRun

end Browser

end AnnyRuntime
