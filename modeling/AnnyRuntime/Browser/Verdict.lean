import AnnyRuntime.Browser.Watched

/-!
# What a submission leaves and what it reports

A submission arms its authorization in the middle of its dialogue with the browser (`Arms`).  Only
two answers after that make it disarm again (`Refuses`); it raises when there is none in time.  What
it reports is taken from the polls of the page, and not from the listener that decides about the
request.

* `leavesNothing_iff` : **when nothing stays armed.**
* `truthful_iff` : **when the report is true.**
-/

namespace AnnyRuntime

namespace Browser

/-! ### The way to arming -/

section Arming

variable (env : ℕ → Moment) (s : Scene) (targetId : Json) (authId : String)
  (auth : IssuedAuthorization)

/-- The authorization passes the checks of `submit`, and is consumed. -/
structure Accepts : Prop where
  running : (s.after env 0 1).broker.process.isSome = true
  named : authId ≠ ""
  known : (s.after env 0 2).broker.issuedAuthorizations.get? authId = some auth
  session : some auth.sessionId = (s.after env 0 3).broker.sessionId
  target : .str auth.targetId = targetId
  unexpired : (env 3).time ≤ auth.expiresAt
  /-- No other submission has consumed it in between. -/
  unspent : ((s.after env 0 5).broker.issuedAuthorizations.get? authId).isSome = true

/-- The scene when the authorization was consumed. -/
def spentScene : Scene :=
  let s := s.after env 0 5
  s.withBroker { s.broker with issuedAuthorizations := s.broker.issuedAuthorizations.erase authId }

/-- The target of an accepted authorization is found, and its node. -/
structure Finds (objId : String) : Prop where
  target : ∃ record, ((spentScene env s authId).after env 5 1).broker.targets.get? auth.targetId =
      some record ∧
    record.sessionId = ((spentScene env s authId).after env 5 2).broker.sessionId
  node : ∃ res, (env 7).answer = .ok res ∧ res.object.bind RemoteObject.objectId = some objId

/-- The submission arms its authorization. -/
def Arms : Prop :=
  Accepts env s targetId authId auth ∧ ∃ objId, Finds env s authId auth objId

/-- The scene when the authorization was armed. -/
def armedScene : Scene :=
  let s := (spentScene env s authId).after env 5 4
  s.withBroker { s.broker with pendingSubmission := some (auth.pending authId) }

end Arming

/-- The browser answers the script with an exception or an error. -/
def Refuses (a : Except CdpError CdpResult) : Prop :=
  ∃ res, a = .ok res ∧
    (res.exceptionDetails.isSome = true ∨ (Json.lookup "error" res.members).isSome = true)

/-- What `submit` does once it has armed its authorization. -/
def Program.armed (targetId : Json) (pending : PendingSubmissionAuthorization) (objId : String) :
    Program :=
  callFunction objId (script "submit" []) (fun _ => raise)
    (fun details => .write (.pending none) (fail details)) fun res =>
      match Json.lookup "error" res.members with
      | some e => .write (.pending none)
          (.respond [("status", .str "error"), ("message", .ofJson e)])
      | none => .clock fun now =>
        pollPage (now + 8) (fun obs => .respond
          [("status", .str "ok"),
            ("result", .str (match obs with
              | .ok _ => "REQUEST_ACCEPTED"
              | .error _ => "POST_ACTION_FAILED")),
            ("action", .ofMembers [("type", .str "submit"), ("target_id", .ofJson targetId),
              ("authorization_used", .bool true)]),
            ("request", .ofMembers [("method", .str pending.expectedMethod),
              ("destination", .str pending.expectedUrl)]),
            observed obs]) 16 (.error "Timed out waiting for post-submission page")

variable {env : ℕ → Moment} {s s' : Scene} {targetId authId : Json} {id objId : String}
  {auth : IssuedAuthorization} {r : Response} {n : ℕ}

theorem Program.submitForm_eq (targetId : Json) (pending : PendingSubmissionAuthorization) :
    submitForm targetId pending = withTarget targetId fun record =>
      resolveNode record (fun _ => raise) fun objId =>
        .write (.pending (some pending)) (armed targetId pending objId) := rfl

/-! ### A submission that arms nothing -/

/-- The response of a command that failed. -/
def IsError (r : Response) : Prop :=
  ("status", PyVal.str "error") ∈ r ∧ ∀ v, ("result", v) ∉ r

theorem isError_error (message : String) : IsError (error message) := by
  simp [IsError, error]

theorem isError_refuse (message : String) (v : PyVal) :
    IsError (error message ++ [("action", v)]) := by
  simp [IsError, error]

/-- A submission ends with an error, has armed nothing and has asked for no page. -/
structure Refused (s : Scene) (e : Ended) : Prop where
  response : IsError e.response
  answers : ∀ a ∈ e.answers, a.1 ≠ "Runtime.evaluate"
  follows : s.Follows e.scene

theorem refused_respond (hr : IsError r) (h : s.Follows s') :
    Refused s ((Program.respond r).exec env n s') where
  response := hr
  answers := fun _ h => by cases h
  follows := h.trans (.during s' _)

theorem Refused.mono {e : Ended} (h : Refused s' e) (hs : s.Follows s') : Refused s e :=
  ⟨h.response, h.answers, hs.trans h.follows⟩

theorem follows_spentScene (s : Scene) (id : String) : s.Follows (spentScene env s id) :=
  (Scene.Follows.after env 0 5 s).trans (.erase _ id)

/-- A submission whose authorization is not accepted. -/
theorem refused_submit (h : ∀ id auth, authId = .str id → ¬ Accepts env s targetId id auth) :
    Refused s ((Program.submit targetId authId).exec env 0 s) := by
  have hafter := fun k => Scene.Follows.after env 0 k s
  simp only [Program.submit, Program.whileRunning, Program.exec]
  split
  swap
  · exact refused_respond (isError_error _) (hafter 1)
  rename_i hrunning
  split
  · exact refused_respond (isError_refuse _ _) (hafter 1)
  rename_i htruthy
  split
  · exact refused_respond (isError_error _) (hafter 1)
  · exact refused_respond (isError_error _) (hafter 1)
  · rename_i id
    simp only [Program.exec]
    split
    · exact refused_respond (isError_refuse _ _) (hafter 2)
    · rename_i auth hknown
      simp only [Program.exec]
      split
      · exact refused_respond (isError_refuse _ _) (hafter 3)
      rename_i hsession
      split
      · exact refused_respond (isError_refuse _ _) (hafter 3)
      rename_i htarget
      simp only [Program.exec]
      split
      · exact refused_respond (isError_refuse _ _) (hafter 4)
      rename_i htime
      simp only [Program.exec]
      split
      · rename_i hunspent
        exact absurd
          { running := hrunning
            named := by simpa [Json.truthy] using htruthy
            known := hknown
            session := not_not.1 hsession
            target := not_not.1 htarget
            unexpired := not_lt.1 htime
            unspent := hunspent } (h id auth rfl)
      · exact refused_respond (isError_error _) ((hafter 5).trans (.erase _ id))
  · exact refused_respond (isError_refuse _ _) (hafter 1)

/-- A submission whose authorization is accepted looks for its form. -/
theorem exec_submit_of_accepts (h : Accepts env s targetId id auth) :
    (Program.submit targetId (.str id)).exec env 0 s =
      (Program.submitForm targetId (auth.pending id)).exec env 5 (spentScene env s id) := by
  have htruthy : (Json.str id).truthy = true := by simpa [Json.truthy] using h.named
  have hknown : ((s.during (env 0)).during (env 1)).broker.issuedAuthorizations.get? id =
      some auth := h.known
  have hsession : some auth.sessionId =
      (((s.during (env 0)).during (env 1)).during (env 2)).broker.sessionId := h.session
  simp only [Program.submit, Program.whileRunning, Program.exec]
  rw [if_pos (show (s.during (env 0)).broker.process.isSome = true from h.running), htruthy]
  simp only [Program.exec, Bool.true_eq_false, ↓reduceIte]
  rw [hknown]
  simp only [Program.exec, Nat.reduceAdd]
  rw [if_neg (not_not.2 hsession), if_neg (not_not.2 h.target)]
  simp only [Program.exec]
  rw [if_neg (not_lt.2 h.unexpired)]
  simp only [Program.exec]
  refine congrArg (fun p : Program => p.exec env 5 (spentScene env s id)) (if_pos ?_)
  exact h.unspent

/-- A submission that does not find its target. -/
theorem refused_submitForm (hauth : Accepts env s targetId id auth)
    (h : ¬ ∃ objId, Finds env s id auth objId) :
    Refused (spentScene env s id)
      ((Program.submitForm targetId (auth.pending id)).exec env 5 (spentScene env s id)) := by
  have hafter := fun k => Scene.Follows.after env 5 k (spentScene env s id)
  rw [Program.submitForm_eq, ← hauth.target]
  simp only [Program.withTarget, Program.exec]
  split
  · exact refused_respond (isError_error _) (hafter 1)
  rename_i record hrecord
  simp only [Program.exec]
  split
  · exact refused_respond (isError_error _) (hafter 2)
  rename_i hcurrent
  have hresolve : ∀ e : Ended, Refused (spentScene env s id) e → Refused (spentScene env s id)
      { e with answers := ("DOM.resolveNode", (env 7).answer) :: e.answers } := by
    rintro e ⟨hresponse, hanswers, hfollows⟩
    refine ⟨hresponse, fun a ha => ?_, hfollows⟩
    rcases List.mem_cons.1 ha with rfl | ha
    · simp
    · exact hanswers a ha
  simp only [Program.resolveNode, Program.exec]
  refine hresolve _ ?_
  split
  · exact refused_respond (isError_error _) (hafter 3)
  · exact refused_respond (isError_error _) (hafter 3)
  rename_i res hres
  split
  · exact refused_respond (isError_error _) (hafter 3)
  · rename_i objId hobj
    exact absurd ⟨objId, ⟨record, hrecord, not_not.1 hcurrent⟩, res, hres, hobj⟩ h

/-- A submission that arms its authorization. -/
theorem exec_submitForm_of_finds (hauth : Accepts env s targetId id auth)
    (h : Finds env s id auth objId) :
    (Program.submitForm targetId (auth.pending id)).exec env 5 (spentScene env s id) =
      let e :=
        (Program.armed targetId (auth.pending id) objId).exec env 9 (armedScene env s id auth)
      { e with answers := ("DOM.resolveNode", (env 7).answer) :: e.answers } := by
  obtain ⟨⟨record, hrecord, hcurrent⟩, res, hres, hobj⟩ := h
  have hfound : ((spentScene env s id).during (env 5)).broker.targets.get? auth.targetId =
      some record := hrecord
  have hsession : record.sessionId =
      (((spentScene env s id).during (env 5)).during (env 6)).broker.sessionId := hcurrent
  rw [Program.submitForm_eq, ← hauth.target]
  simp only [Program.withTarget, Program.exec]
  rw [hfound]
  simp only [Program.exec]
  rw [if_neg (not_not.2 hsession)]
  simp only [Program.resolveNode, Program.exec]
  rw [hres]
  simp only [hobj, Program.exec]
  rfl

/-! ### What disarms a submission -/

theorem quiet_observing {name : String} {next : Except String Json → Program}
    (h : ∀ obs, (next obs).Quiet) : (Program.observing name next).Quiet := by
  intro up
  dsimp only
  split_ifs
  · rintro (e | res)
    · exact h _
    · dsimp only
      split
      · exact h _
      · exact h _
  · exact h _

theorem quiet_pollPage {deadline : ℤ} {next : Except String Json → Program}
    (h : ∀ obs, (next obs).Quiet) (k : ℕ) (obs : Except String Json) :
    (Program.pollPage deadline next k obs).Quiet := by
  induction k generalizing obs with
  | zero => exact h obs
  | succ k ih =>
    intro now
    dsimp only
    split_ifs
    · refine quiet_observing ?_
      rintro (message | page)
      · exact ih obs
      · dsimp only
        split
        · split
          · split_ifs
            · exact h _
            · exact ih _
          · exact ih _
        · trivial
    · exact h obs

theorem quiet_polls (report : Except String Json → Response) (obs : Except String Json) :
    (Program.clock fun now =>
      .pollPage (now + 8) (fun obs => .respond (report obs)) 16 obs).Quiet := by
  intro now
  refine quiet_pollPage ?_ 16 obs
  intro obs
  trivial

/-- A submission that disarms its authorization and fails. -/
structure Disarms (s : Scene) (e : Ended) : Prop where
  response : IsError e.response
  answers : ∀ a ∈ e.answers, a.1 ≠ "Runtime.evaluate"
  pending : e.scene.broker.pendingSubmission = none
  issued : ∀ id, s.broker.issuedAuthorizations.get? id = none →
    e.scene.broker.issuedAuthorizations.get? id = none

theorem disarms_respond (hr : IsError r) (h : s.Follows s') :
    Disarms s ((Program.write (.pending none) (.respond r)).exec env n s') where
  response := hr
  answers := fun _ h => by cases h
  pending := (Scene.Follows.pending_eq_none_iff (.during _ _)).2 (.inl rfl)
  issued := fun id hnone => (Scene.Follows.during _ _).issued id
    ((h.trans (.during s' _)).issued id hnone)

/-- When the browser refuses, the submission disarms its authorization. -/
theorem disarms_armed (targetId : Json) (pending : PendingSubmissionAuthorization) (objId : String)
    (s : Scene) (h : Refuses (env 9).answer) :
    Disarms s ((Program.armed targetId pending objId).exec env 9 s) := by
  obtain ⟨res, hres, hrefused⟩ := h
  have hasked : ∀ e : Ended, Disarms s e →
      Disarms s { e with answers := ("Runtime.callFunctionOn", (env 9).answer) :: e.answers } := by
    rintro e ⟨hresponse, hanswers, hpending, hissued⟩
    refine ⟨hresponse, fun a ha => ?_, hpending, hissued⟩
    rcases List.mem_cons.1 ha with rfl | ha
    · simp
    · exact hanswers a ha
  simp only [Program.armed, Program.callFunction, Program.exec]
  refine hasked _ ?_
  rw [hres]
  dsimp only
  split
  · exact disarms_respond (isError_error _) (.during s _)
  · rename_i hno
    split
    · refine disarms_respond ?_ (.during s _)
      simp [IsError]
    · rename_i hnone
      simp [hno, hnone] at hrefused

/-- When the browser does not refuse, the submission changes nothing any more. -/
theorem follows_armed (targetId : Json) (pending : PendingSubmissionAuthorization) (objId : String)
    (s : Scene) (h : ¬ Refuses (env 9).answer) :
    s.Follows ((Program.armed targetId pending objId).exec env 9 s).scene := by
  simp only [Program.armed, Program.callFunction, Program.exec]
  refine (Scene.Follows.during s (env 9)).trans ?_
  cases ha : (env 9).answer with
  | error e => exact .during _ _
  | ok res =>
    dsimp only
    split
    · rename_i hdetails
      exact absurd ⟨res, ha, .inl (by rw [hdetails]; rfl)⟩ h
    · split
      · rename_i hsome
        exact absurd ⟨res, ha, .inr (by rw [hsome]; rfl)⟩ h
      · exact (quiet_polls _ _).follows _ _

/-! ### What a submission leaves armed -/

/-- **Nothing stays armed** when a submission has ended, and an authorization that it consumed is
accepted never again. -/
structure LeavesNothing (env : ℕ → Moment) (s : Scene) (targetId authId : Json) (e : Ended) :
    Prop where
  disarmed : e.scene.broker.pendingSubmission = none
  once : ∀ id auth, authId = .str id → Accepts env s targetId id auth →
    ∀ env' targetId' auth', ¬ Accepts env' e.scene targetId' id auth'

theorem Accepts.unique {auth' : IssuedAuthorization} (h : Accepts env s targetId id auth)
    (h' : Accepts env s targetId id auth') : auth = auth' :=
  Option.some.inj (h.known.symm.trans h'.known)

theorem not_accepts_of_get?_eq_none
    (h : s.broker.issuedAuthorizations.get? id = none) : ¬ Accepts env s targetId id auth := by
  intro haccepts
  have hknown := haccepts.known
  rw [(Scene.Follows.after env 0 2 s).issued id h] at hknown
  cases hknown

theorem get?_spentScene : (spentScene env s id).broker.issuedAuthorizations.get? id = none := by
  change ((s.after env 0 5).broker.issuedAuthorizations.erase id).get? id = none
  rw [Dict.get?_erase, if_pos rfl]

/-- How a submission goes: its authorization is not accepted, or it is consumed and the target is
not found, or the authorization is armed. -/
theorem submit_cases (env : ℕ → Moment) (s : Scene) (targetId authId : Json) :
    let e := (Program.submit targetId authId).exec env 0 s
    (Refused s e ∧ ∀ id auth, authId = .str id → ¬ Accepts env s targetId id auth) ∨
    ∃ id auth, authId = .str id ∧ Accepts env s targetId id auth ∧
      ((Refused s e ∧ ¬ Arms env s targetId id auth ∧
          e.scene.broker.issuedAuthorizations.get? id = none) ∨
        (Arms env s targetId id auth ∧ ∃ objId,
          let e' := (Program.armed targetId (auth.pending id) objId).exec env 9
            (armedScene env s id auth)
          e = { e' with answers := ("DOM.resolveNode", (env 7).answer) :: e'.answers })) := by
  by_cases hacc : ∃ id auth, authId = .str id ∧ Accepts env s targetId id auth
  · obtain ⟨id, auth, rfl, haccepts⟩ := hacc
    refine .inr ⟨id, auth, rfl, haccepts, ?_⟩
    rw [exec_submit_of_accepts haccepts]
    by_cases hfinds : ∃ objId, Finds env s id auth objId
    · obtain ⟨objId, hobj⟩ := hfinds
      exact .inr ⟨⟨haccepts, objId, hobj⟩, objId, exec_submitForm_of_finds haccepts hobj⟩
    · have hrefused := refused_submitForm haccepts hfinds
      refine .inl ⟨hrefused.mono (follows_spentScene s id), fun h => hfinds h.2, ?_⟩
      exact hrefused.follows.issued id get?_spentScene
  · have hnot : ∀ id auth, authId = .str id → ¬ Accepts env s targetId id auth :=
      fun id auth hid h => hacc ⟨id, auth, hid, h⟩
    exact .inl ⟨refused_submit hnot, hnot⟩

theorem get?_armedScene : (armedScene env s id auth).broker.issuedAuthorizations.get? id = none :=
  (Scene.Follows.after env 5 4 (spentScene env s id)).issued id get?_spentScene

/-- What stays armed of a submission that armed its authorization. -/
theorem pending_armed (env : ℕ → Moment) (s : Scene) (targetId : Json) (id : String)
    (auth : IssuedAuthorization) (objId : String) :
    let e := (Program.armed targetId (auth.pending id) objId).exec env 9 (armedScene env s id auth)
    (e.scene.broker.pendingSubmission = none ↔
      Refuses (env 9).answer ∨ (armedScene env s id auth).taken < e.scene.taken) ∧
    e.scene.broker.issuedAuthorizations.get? id = none := by
  by_cases hrefuses : Refuses (env 9).answer
  · have hdisarms :=
      disarms_armed targetId (auth.pending id) objId (armedScene env s id auth) hrefuses
    exact ⟨iff_of_true hdisarms.pending (.inl hrefuses), hdisarms.issued id get?_armedScene⟩
  · have hfollows :=
      follows_armed targetId (auth.pending id) objId (armedScene env s id auth) hrefuses
    refine ⟨?_, hfollows.issued id get?_armedScene⟩
    rw [hfollows.pending_eq_none_iff]
    simp [hrefuses, armedScene, Scene.withBroker]

/-- **When a submission leaves nothing armed.**  One that armed its authorization does exactly when
the browser refuses its script, or what is armed is taken away before it ends; any other one when
nothing was armed before, or it was taken away. -/
theorem leavesNothing_iff (env : ℕ → Moment) (s : Scene) (targetId authId : Json) :
    let e := (Program.submit targetId authId).exec env 0 s
    LeavesNothing env s targetId authId e ↔
      (∀ id auth, authId = .str id → Arms env s targetId id auth →
        Refuses (env 9).answer ∨ (armedScene env s id auth).taken < e.scene.taken) ∧
      ((¬ ∃ id auth, authId = .str id ∧ Arms env s targetId id auth) →
        s.broker.pendingSubmission = none ∨ s.taken < e.scene.taken) := by
  intro e
  rcases submit_cases env s targetId authId with ⟨hrefused, hnot⟩ |
    ⟨id, auth, rfl, haccepts, ⟨hrefused, hnoarm, hspent⟩ | ⟨harms, objId, he⟩⟩
  · have hnoarms : ¬ ∃ id auth, authId = .str id ∧ Arms env s targetId id auth := by
      rintro ⟨id, auth, hid, harms⟩
      exact hnot id auth hid harms.1
    have hpending := hrefused.follows.pending_eq_none_iff
    constructor
    · rintro ⟨hdisarmed, -⟩
      exact ⟨fun id auth hid harms => absurd harms.1 (hnot id auth hid),
        fun _ => hpending.1 hdisarmed⟩
    · rintro ⟨-, h⟩
      exact ⟨hpending.2 (h hnoarms), fun id auth hid hacc => absurd hacc (hnot id auth hid)⟩
  · have hnoarms : ¬ ∃ id' auth', Json.str id = .str id' ∧ Arms env s targetId id' auth' := by
      rintro ⟨id', auth', hid, harms⟩
      obtain rfl := Json.str.inj hid
      rw [← haccepts.unique harms.1] at harms
      exact hnoarm harms
    have hpending := hrefused.follows.pending_eq_none_iff
    constructor
    · rintro ⟨hdisarmed, -⟩
      exact ⟨fun id' auth' hid harms => absurd ⟨id', auth', hid, harms⟩ hnoarms,
        fun _ => hpending.1 hdisarmed⟩
    · rintro ⟨-, h⟩
      refine ⟨hpending.2 (h hnoarms), fun id' auth' hid _ env' targetId' auth'' => ?_⟩
      obtain rfl := Json.str.inj hid
      exact not_accepts_of_get?_eq_none hspent
  · obtain ⟨hpending, hspent⟩ := pending_armed env s targetId id auth objId
    have hscene : e.scene = ((Program.armed targetId (auth.pending id) objId).exec env 9
        (armedScene env s id auth)).scene := by
      dsimp only [e]
      rw [he]
    constructor
    · rintro ⟨hdisarmed, -⟩
      refine ⟨fun id' auth' hid harms' => ?_, fun hno => absurd ⟨id, auth, rfl, harms⟩ hno⟩
      obtain rfl := Json.str.inj hid
      obtain rfl := haccepts.unique harms'.1
      rw [hscene] at hdisarmed ⊢
      exact hpending.1 hdisarmed
    · rintro ⟨h, -⟩
      have hdisarmed := h id auth rfl harms
      rw [hscene] at hdisarmed
      refine ⟨by rw [hscene]; exact hpending.2 hdisarmed,
        fun id' auth' hid _ env' targetId' auth'' => ?_⟩
      obtain rfl := Json.str.inj hid
      rw [hscene]
      exact not_accepts_of_get?_eq_none hspent

/-- A browser runs, and an authorization was issued for the form of a page. -/
def formBroker : Broker :=
  { Broker.init "profile" with
    process := some 1
    browserState := .running
    sessionId := some "s1"
    targets := Dict.empty.set "bt_1" ⟨7, "node-1", some "s1"⟩
    issuedAuthorizations := Dict.empty.set "auth-1"
      { targetId := "bt_1"
        sessionId := "s1"
        expiresAt := 100
        expectedMethod := "POST"
        expectedUrl := "https://example.org/send"
        expectedFrameId := "f1"
        issuedAt := 0 } }

/-- The scene with it. -/
def formScene : Scene := ⟨formBroker, [], [], [], 0⟩

/-- The node of the form is found, and this is the answer to the script that submits it. -/
def submitting (script : Moment) (poll : Moment) : ℕ → Moment
  | 7 => { answer := .ok { object := some { objectId := some "obj-1" } } }
  | 9 => script
  | _ => poll

/-- **The script is not answered in time**: the submission raises, and its authorization stays
armed. -/
theorem not_leavesNothing :
    let env := submitting { answer := .error (.runtime "CDP request timed out.") } {}
    let e := (Program.submit (.str "bt_1") (.str "auth-1")).exec env 0 formScene
    e.response = internalError ∧
      e.scene.broker.pendingSubmission.map (·.authId) = some "auth-1" ∧
      ¬ LeavesNothing env formScene (.str "bt_1") (.str "auth-1") e := by
  intro env e
  have hpending : e.scene.broker.pendingSubmission.map (·.authId) = some "auth-1" := by
    decide +kernel
  refine ⟨rfl, hpending, fun h => ?_⟩
  rw [h.disarmed] at hpending
  cases hpending

/-! ### What a submission reports -/

/-- The page that an answer shows. -/
def pageOf : Except CdpError CdpResult → Option Json
  | .error _ => none
  | .ok res => if res.exceptionDetails.isSome then none else some res.value

/-- The pages that the polls were shown. -/
def Ended.pages (e : Ended) : List Json :=
  e.answers.filterMap fun a => if a.1 = "Runtime.evaluate" then pageOf a.2 else none

/-- What is shown is a page. -/
def IsPage (page : Json) : Prop := ∃ ms, page = .obj ms

/-- The polls were shown a page, and nothing but pages. -/
def Observed (e : Ended) : Prop := e.pages ≠ [] ∧ ∀ page ∈ e.pages, IsPage page

/-- The result in a response. -/
def Reports (e : Ended) (result : String) : Prop := ("result", PyVal.str result) ∈ e.response

/-- The polls have ended, having started from an observation. -/
structure Polled (report : Except String Json → Response) (obs : Except String Json) (e : Ended) :
    Prop where
  /-- What is no page raises, and otherwise the report is of the last observation. -/
  response : (∃ page ∈ e.pages, ¬ IsPage page) ∧ e.response = internalError ∨
    (∀ page ∈ e.pages, IsPage page) ∧ ∃ obs', e.response = report obs' ∧
      (obs'.toOption.isSome = true ↔ obs.toOption.isSome = true ∨ e.pages ≠ [])

section Polls

variable {report : Except String Json → Response} {obs obs' : Except String Json} {e : Ended}

theorem polled_respond (s : Scene) (n : ℕ) :
    Polled report obs ((Program.respond (report obs)).exec env n s) :=
  ⟨.inr ⟨fun _ h => (List.not_mem_nil h).elim, obs, rfl, by simp [Ended.pages, Program.exec]⟩⟩

/-- A poll that is shown nothing. -/
theorem Polled.blank {a : Except CdpError CdpResult} (h : Polled report obs e)
    (ha : pageOf a = none) :
    Polled report obs { e with answers := ("Runtime.evaluate", a) :: e.answers } := by
  have hpages : ({ e with answers := ("Runtime.evaluate", a) :: e.answers } : Ended).pages =
      e.pages := by
    simp [Ended.pages, ha]
  obtain ⟨h⟩ := h
  refine ⟨?_⟩
  rw [hpages]
  exact h

/-- A poll that is shown a page, after which the polls go on or end with it. -/
theorem Polled.page {a : Except CdpError CdpResult} {ms : List (String × Json)}
    (h : Polled report (.ok (.obj ms)) e) (ha : pageOf a = some (.obj ms)) :
    Polled report obs { e with answers := ("Runtime.evaluate", a) :: e.answers } := by
  have hpages : ({ e with answers := ("Runtime.evaluate", a) :: e.answers } : Ended).pages =
      .obj ms :: e.pages := by
    simp [Ended.pages, ha]
  obtain ⟨⟨page, hmem, hpage⟩, hresponse⟩ | ⟨hall, obs', hresponse, hiff⟩ := h.response
  · refine ⟨.inl ⟨⟨page, ?_, hpage⟩, hresponse⟩⟩
    rw [hpages]
    exact List.mem_cons_of_mem _ hmem
  · refine ⟨.inr ⟨?_, obs', hresponse, ?_⟩⟩
    · rw [hpages]
      intro page hmem
      rcases List.mem_cons.1 hmem with rfl | hmem
      · exact ⟨ms, rfl⟩
      · exact hall page hmem
    · rw [hiff, hpages]
      simp [Except.toOption]

/-- The polls of a submission. -/
theorem polled_pollPage (deadline : ℤ) (k n : ℕ) (s : Scene) (obs : Except String Json) :
    Polled report obs
      ((Program.pollPage deadline (fun obs => .respond (report obs)) k obs).exec env n s) := by
  induction k generalizing n s obs with
  | zero => exact polled_respond s n
  | succ k ih =>
    simp only [Program.pollPage, Program.exec]
    split
    swap
    · exact polled_respond _ _
    simp only [Program.observing, Program.exec]
    split
    swap
    · exact ih _ _ _
    simp only [Program.exec]
    cases ha : (env (n + 1 + 1)).answer with
    | error e => exact (ih _ _ _).blank rfl
    | ok res =>
      cases hdetails : res.exceptionDetails with
      | some details =>
        refine Polled.blank ?_ (by simp [pageOf, hdetails])
        simp only [hdetails]
        exact ih _ _ _
      | none =>
        have hpage : pageOf (.ok res) = some res.value := by simp [pageOf, hdetails]
        simp only [hdetails]
        cases hvalue : res.value with
        | obj ms =>
          rw [hvalue] at hpage
          refine Polled.page ?_ hpage
          dsimp only
          split
          · split_ifs
            · exact polled_respond _ _
            · exact ih _ _ _
          · exact ih _ _ _
        | _ =>
          -- what is no page has no URL
          refine ⟨.inl ⟨⟨res.value, ?_, ?_⟩, rfl⟩⟩
          · simp [Ended.pages, hpage]
          · rw [hvalue]
            rintro ⟨ms, h⟩
            cases h

end Polls

/-- A submission reports that its request was accepted exactly when it observed a page, and
otherwise an error or that the action failed. -/
structure Judged (e : Ended) : Prop where
  accepted : Reports e "REQUEST_ACCEPTED" ↔ Observed e
  otherwise : ("status", PyVal.str "error") ∈ e.response ∨ Reports e "REQUEST_ACCEPTED" ∨
    Reports e "POST_ACTION_FAILED"

theorem judged_of_isError {e : Ended} (h : IsError e.response)
    (hanswers : ∀ a ∈ e.answers, a.1 ≠ "Runtime.evaluate") : Judged e where
  accepted := by
    refine iff_of_false (h.2 _) fun hobserved => hobserved.1 ?_
    rw [Ended.pages, List.filterMap_eq_nil_iff]
    intro a ha
    exact if_neg (hanswers a ha)
  otherwise := .inl h.1

/-- The answers to other requests show no pages. -/
theorem Judged.asked {e : Ended} {method : String} (h : Judged e) (hm : method ≠ "Runtime.evaluate")
    (a : Except CdpError CdpResult) : Judged { e with answers := (method, a) :: e.answers } := by
  have hpages : ({ e with answers := (method, a) :: e.answers } : Ended).pages = e.pages := by
    simp [Ended.pages, hm]
  refine ⟨?_, h.otherwise⟩
  rw [Observed, hpages]
  exact h.accepted

theorem Polled.judged {e : Ended} {pending : PendingSubmissionAuthorization} {message : String}
    (h : Polled (fun obs =>
      [("status", .str "ok"),
        ("result", .str (match obs with
          | .ok _ => "REQUEST_ACCEPTED"
          | .error _ => "POST_ACTION_FAILED")),
        ("action", .ofMembers [("type", .str "submit"), ("target_id", .ofJson targetId),
          ("authorization_used", .bool true)]),
        ("request", .ofMembers [("method", .str pending.expectedMethod),
          ("destination", .str pending.expectedUrl)]),
        Program.observed obs]) (.error message) e) : Judged e := by
  obtain ⟨hnot, hresponse⟩ | ⟨hall, obs, hresponse, hiff⟩ := h.response
  · refine ⟨iff_of_false ?_ fun hobserved => ?_, .inl ?_⟩
    · rw [Reports, hresponse]
      exact (isError_error _).2 _
    · obtain ⟨page, hmem, hpage⟩ := hnot
      exact hpage (hobserved.2 page hmem)
    · rw [hresponse]
      exact (isError_error _).1
  · cases obs with
    | ok page =>
      have hpages : e.pages ≠ [] := by simpa [Except.toOption] using hiff
      have hreports : Reports e "REQUEST_ACCEPTED" := by
        rw [Reports, hresponse]
        simp
      exact ⟨iff_of_true hreports ⟨hpages, hall⟩, .inr (.inl hreports)⟩
    | error message' =>
      have hpages : e.pages = [] := by simpa [Except.toOption] using hiff
      refine ⟨iff_of_false ?_ fun hobserved => hobserved.1 hpages, .inr (.inr ?_)⟩
      · rw [Reports, hresponse]
        simp [Program.observed]
      · rw [Reports, hresponse]
        simp

theorem judged_armed (pending : PendingSubmissionAuthorization) (objId : String) (s : Scene) :
    Judged ((Program.armed targetId pending objId).exec env 9 s) := by
  by_cases hrefuses : Refuses (env 9).answer
  · have hdisarms := disarms_armed targetId pending objId s hrefuses
    exact judged_of_isError hdisarms.response hdisarms.answers
  · simp only [Program.armed, Program.callFunction, Program.exec]
    refine Judged.asked ?_ (by simp) _
    cases ha : (env 9).answer with
    | error e => exact judged_of_isError (isError_error _) fun _ h => (List.not_mem_nil h).elim
    | ok res =>
      dsimp only
      split
      · rename_i hdetails
        exact absurd ⟨res, ha, .inl (by rw [hdetails]; rfl)⟩ hrefuses
      · split
        · rename_i hsome
          exact absurd ⟨res, ha, .inr (by rw [hsome]; rfl)⟩ hrefuses
        · simp only [Program.exec]
          exact (polled_pollPage _ _ _ _ _).judged

/-- The report of every submission. -/
theorem judged_submit (env : ℕ → Moment) (s : Scene) (targetId authId : Json) :
    Judged ((Program.submit targetId authId).exec env 0 s) := by
  rcases submit_cases env s targetId authId with ⟨hrefused, -⟩ |
    ⟨id, auth, -, -, ⟨hrefused, -, -⟩ | ⟨-, objId, he⟩⟩
  · exact judged_of_isError hrefused.response hrefused.answers
  · exact judged_of_isError hrefused.response hrefused.answers
  · rw [he]
    exact (judged_armed _ _ _).asked (by simp) _

/-- A listener has consumed the authorization of the submission, and the browser has accepted the
command to continue the request that it matched. -/
def Continued (env : ℕ → Moment) (s : Scene) (targetId authId : Json) (e : Ended) : Prop :=
  ∃ id auth, authId = .str id ∧ Accepts env s targetId id auth ∧ auth.pending id ∈ e.scene.accepted

/-- **A submission tells the truth**: it reports that its request was accepted exactly when it was
continued, and otherwise an error or that the action failed. -/
structure Truthful (env : ℕ → Moment) (s : Scene) (targetId authId : Json) (e : Ended) : Prop where
  accepted : Reports e "REQUEST_ACCEPTED" ↔ Continued env s targetId authId e
  otherwise : ¬ Continued env s targetId authId e →
    ("status", PyVal.str "error") ∈ e.response ∨ Reports e "POST_ACTION_FAILED"

/-- A broker, and the listeners around it, when a submission comes in. -/
def Scene.start (b : Broker)
    (reading : List (PausedRequest × Option PendingSubmissionAuthorization))
    (continuing : List PendingSubmissionAuthorization) : Scene := ⟨b, reading, continuing, [], 0⟩

/-- **When a submission tells the truth**: when it observes a page exactly if its request was
continued. -/
theorem truthful_iff (env : ℕ → Moment) (b : Broker)
    (reading : List (PausedRequest × Option PendingSubmissionAuthorization))
    (continuing : List PendingSubmissionAuthorization) (targetId authId : Json) :
    let s := Scene.start b reading continuing
    let e := (Program.submit targetId authId).exec env 0 s
    Truthful env s targetId authId e ↔ (Observed e ↔ Continued env s targetId authId e) := by
  intro s e
  have hjudged : Judged e := judged_submit env s targetId authId
  constructor
  · rintro ⟨haccepted, -⟩
    exact hjudged.accepted.symm.trans haccepted
  · intro hiff
    have haccepted := hjudged.accepted.trans hiff
    refine ⟨haccepted, fun hnot => ?_⟩
    rcases hjudged.otherwise with herror | hreports | hfailed
    · exact .inl herror
    · exact absurd (haccepted.1 hreports) hnot
    · exact .inr hfailed

/-- The page sends its form elsewhere, and stays as it is. -/
def blockedPost : Moment where
  happenings := [.paused ⟨"POST", "https://example.org/elsewhere", "f1"⟩, .decided 0]
  answer := .ok { result := { value := some (.obj [("success", .bool true)]) } }

/-- The page of the form. -/
def formPage : Moment where
  answer := .ok { result := { value := some (.obj [("url", .str "https://example.org/form")]) } }

/-- **The request is blocked**, and is reported to be accepted since the page is still there. -/
theorem not_truthful :
    let env := submitting blockedPost formPage
    let e := (Program.submit (.str "bt_1") (.str "auth-1")).exec env 0 formScene
    Reports e "REQUEST_ACCEPTED" ∧ e.scene.accepted = [] ∧
      ¬ Truthful env formScene (.str "bt_1") (.str "auth-1") e := by
  intro env e
  have hreports : Reports e "REQUEST_ACCEPTED" := List.mem_cons_of_mem _ List.mem_cons_self
  have haccepted : e.scene.accepted = [] := by decide +kernel
  refine ⟨hreports, haccepted, fun h => ?_⟩
  obtain ⟨id, auth, -, -, hmem⟩ := h.accepted.1 hreports
  rw [haccepted] at hmem
  cases hmem

end Browser

end AnnyRuntime
