import AnnyRuntime.Browser.Cdp

/-!
# What the broker asks of the browser

`Program.Sends ok writes` : every message that a program can come to send has a method that is `ok`,
whatever it is answered, and what it assigns satisfies `writes`.  All programs of the broker keep to
fourteen methods (`Operation.sends`), and `Fetch.enable` is not among them: no step of starting the
browser asks for it, and neither does the call that makes a connection.

So no request of a page is ever paused (`CdpRun.Restrained.holds`), and interception is in force
exactly in the runs in which no page of the current session sends anything but a read
(`CdpRun.intercepted_iff`).
-/

namespace AnnyRuntime

namespace Browser

/-- No target is entered. -/
def Write.Plain : Write → Prop
  | target .. => False
  | _ => True

namespace Program

/-- Every message that can be sent has a method that is `ok`, and every assignment is one of
`writes`. -/
def Sends (ok : String → Prop) (writes : Write → Prop) : Program → Prop
  | respond _ => True
  | request method _ next => ok method ∧ ∀ a, (next a).Sends ok writes
  | sendAsync method _ next => ok method ∧ next.Sends ok writes
  | start p next => p.Sends ok writes ∧ next.Sends ok writes
  | running next => ∀ up, (next up).Sends ok writes
  | read next => ∀ b, (next b).Sends ok writes
  | stamp next => ∀ session, (next session).Sends ok writes
  | write w next => writes w ∧ next.Sends ok writes
  | consume _ next => ∀ found, (next found).Sends ok writes
  | draw next => ∀ uuid, (next uuid).Sends ok writes
  | clock next => ∀ now, (next now).Sends ok writes
  | lifecycle _ next => next.Sends ok writes

/-- The methods that the broker uses. -/
def methods : List String :=
  ["DOM.enable", "DOM.resolveNode", "DOM.describeNode", "Runtime.evaluate", "Runtime.getProperties",
    "Runtime.callFunctionOn", "Page.navigate", "Page.getNavigationHistory",
    "Page.navigateToHistoryEntry", "Page.reload", "Page.getFrameTree", "Page.createIsolatedWorld",
    "Fetch.continueRequest", "Fetch.failRequest"]

theorem Sends.mono {ok : String → Prop} {writes writes' : Write → Prop}
    (hwrites : ∀ w, writes w → writes' w) {p : Program} (h : p.Sends ok writes) :
    p.Sends ok writes' := by
  induction p with
  | respond response => trivial
  | request method params next ih => exact ⟨h.1, fun a => ih a (h.2 a)⟩
  | sendAsync method params next ih => exact ⟨h.1, ih h.2⟩
  | start p next ihp ih => exact ⟨ihp h.1, ih h.2⟩
  | write w next ih => exact ⟨hwrites w h.1, ih h.2⟩
  | lifecycle x next ih => exact ih h
  | running next ih | read next ih | stamp next ih | consume authId next ih | draw next ih
  | clock next ih => exact fun x => ih x (h x)

/-- A step leads to a program that sends no more. -/
theorem Sends.step {ok : String → Prop} {writes : Write → Prop} {uuid : String} {now : ℤ}
    {b b' : Broker} {p p' : Program} (hp : p.Sends ok writes)
    (h : p.step uuid now b = some (b', p')) : p'.Sends ok writes := by
  cases p with
  | respond | request | sendAsync | start => cases h
  | write w next =>
    cases h
    exact hp.2
  | lifecycle x next =>
    simp only [Program.step] at h
    split at h <;> cases h
    · exact hp
    · trivial
  | running next | read next | stamp next | consume authId next | draw next | clock next =>
    cases h
    exact hp _

section Parts

variable {ok : String → Prop} {writes : Write → Prop} {next : Program}

theorem sends_write {w : Write} (hw : writes w) (h : next.Sends ok writes) :
    (write w next).Sends ok writes := ⟨hw, h⟩

theorem sends_whileRunning (h : next.Sends ok writes) : (whileRunning next).Sends ok writes := by
  rintro (_ | _)
  · trivial
  · exact h

theorem sends_withTarget {targetId : Json} {next : Target → Program}
    (h : ∀ record, (next record).Sends ok writes) : (withTarget targetId next).Sends ok writes := by
  cases targetId with
  | str id =>
    intro b
    dsimp only
    split
    · trivial
    · intro b
      dsimp only
      split
      · trivial
      · exact h _
  | _ => trivial

theorem sends_unlessError {res : CdpResult} (h : next.Sends ok writes) :
    (unlessError res next).Sends ok writes := by
  unfold unlessError
  split
  · trivial
  · exact h

theorem sends_resolveNode (hok : ok "DOM.resolveNode") {record : Target}
    {failed : CdpError → Program} {next : String → Program}
    (hfailed : ∀ e, (failed e).Sends ok writes) (h : ∀ objId, (next objId).Sends ok writes) :
    (resolveNode record failed next).Sends ok writes := by
  refine ⟨hok, ?_⟩
  rintro ((_ | _) | res)
  · trivial
  · exact hfailed _
  · dsimp only
    split
    · trivial
    · exact h _

theorem sends_callFunction (hok : ok "Runtime.callFunctionOn") {objId : String} {function : Json}
    {failed : CdpError → Program} {thrown : String → Program} {next : CdpResult → Program}
    (hfailed : ∀ e, (failed e).Sends ok writes)
    (hthrown : ∀ details, (thrown details).Sends ok writes)
    (h : ∀ res, (next res).Sends ok writes) :
    (callFunction objId function failed thrown next).Sends ok writes := by
  refine ⟨hok, ?_⟩
  rintro (e | res)
  · exact hfailed e
  · dsimp only
    split
    · exact hthrown _
    · exact h _

theorem sends_observing (hok : ok "Runtime.evaluate") {name : String}
    {next : Except String Json → Program} (h : ∀ obs, (next obs).Sends ok writes) :
    (observing name next).Sends ok writes := by
  rintro (_ | _)
  · exact h _
  · refine ⟨hok, ?_⟩
    rintro (e | res)
    · exact h _
    · dsimp only
      split
      · exact h _
      · exact h _

theorem sends_acted (hok : ok "Runtime.evaluate") (kind : String) (targetId : Json)
    (more : List (String × PyVal)) : (acted kind targetId more).Sends ok writes :=
  sends_observing hok fun _ => trivial

end Parts

/-! ### The commands -/

theorem sends_findElements (elements : List Property) (found : List PyVal) :
    (findElements elements found).Sends (· ∈ methods) (fun _ => True) := by
  induction elements generalizing found with
  | nil => trivial
  | cons element elements ih =>
    unfold findElements
    split
    · split
      · trivial
      · refine ⟨by decide, ?_⟩
        rintro (e | item)
        · trivial
        · dsimp only
          split
          · trivial
          · exact ih found
          · refine ⟨by decide, ?_⟩
            rintro (e | described)
            · trivial
            · dsimp only
              split
              · exact ih found
              · exact fun uuid session => ⟨trivial, ih _⟩
    · exact ih found

theorem sends_find (query : List (String × Json)) :
    (find query).Sends (· ∈ methods) (fun _ => True) := by
  refine sends_whileRunning ?_
  split
  · refine ⟨by decide, fun _ => ⟨by decide, ?_⟩⟩
    rintro (e | res)
    · trivial
    · dsimp only
      split
      · trivial
      · trivial
      · trivial
      · refine ⟨by decide, ?_⟩
        rintro (e | array)
        · trivial
        · exact sends_findElements _ _
  · trivial

theorem sends_click (targetId : Json) : (click targetId).Sends (· ∈ methods) Write.Plain :=
  sends_whileRunning <| sends_withTarget fun _ =>
    sends_resolveNode (by decide) (fun _ => trivial) fun _ =>
      sends_callFunction (by decide) (fun _ => trivial) (fun _ => trivial) fun _ =>
        sends_unlessError (sends_acted (by decide) _ _ _)

theorem sends_editText (kind : String) (targetId : Json) (values : List Json) (looks : Bool) :
    (editText kind targetId values looks).Sends (· ∈ methods) Write.Plain := by
  have hacted : (acted kind targetId []).Sends (· ∈ methods) Write.Plain :=
    sends_acted (by decide) _ _ _
  refine sends_whileRunning <| sends_withTarget fun _ =>
    sends_resolveNode (by decide) (fun _ => trivial) fun _ =>
      sends_callFunction (by decide) (fun _ => trivial) (fun _ => trivial) fun _ =>
        sends_unlessError <|
          sends_callFunction (by decide) (fun _ => trivial) (fun _ => trivial) fun _ => ?_
  split
  · exact sends_unlessError hacted
  · exact hacted

theorem sends_validateControlTarget {record : Target} {next : String → Json → Json → Program}
    (h : ∀ objId tag type, (next objId tag type).Sends (· ∈ methods) Write.Plain) :
    (validateControlTarget record next).Sends (· ∈ methods) Write.Plain := by
  unfold validateControlTarget
  split
  · trivial
  · refine sends_callFunction (by decide) (fun _ => trivial) (fun _ => trivial) fun _ =>
      sends_unlessError ?_
    split
    · exact h _ _ _
    · trivial

theorem sends_select (targetId optionIdentity : Json) :
    (select targetId optionIdentity).Sends (· ∈ methods) Write.Plain := by
  refine sends_withTarget fun _ => sends_validateControlTarget fun _ _ _ => ?_
  split
  · trivial
  · exact sends_callFunction (by decide) (fun _ => trivial) (fun _ => trivial) fun _ =>
      sends_unlessError (sends_acted (by decide) _ _ _)

theorem sends_check (targetId : Json) : (check targetId).Sends (· ∈ methods) Write.Plain := by
  refine sends_withTarget fun _ => sends_validateControlTarget fun _ _ _ => ?_
  split
  · trivial
  · exact sends_callFunction (by decide) (fun _ => trivial) (fun _ => trivial) fun _ =>
      sends_acted (by decide) _ _ _

theorem sends_uncheck (targetId : Json) : (uncheck targetId).Sends (· ∈ methods) Write.Plain := by
  refine sends_withTarget fun _ => sends_validateControlTarget fun _ _ _ => ?_
  split_ifs
  · trivial
  · trivial
  · trivial
  · exact sends_callFunction (by decide) (fun _ => trivial) (fun _ => trivial) fun _ =>
      sends_acted (by decide) _ _ _

theorem sends_findFrame (token : String) (frames : List String) {next : String → Program}
    (h : ∀ frame, (next frame).Sends (· ∈ methods) Write.Plain) :
    (findFrame token next frames).Sends (· ∈ methods) Write.Plain := by
  induction frames generalizing next with
  | nil => exact h ""
  | cons frame frames ih =>
    refine ⟨by decide, ?_⟩
    rintro (e | world)
    · exact ih h
    · dsimp only
      split
      · exact ih h
      · refine ⟨by decide, ?_⟩
        rintro (e | res)
        · exact ih h
        · dsimp only
          split
          · refine ⟨by decide, ?_⟩
            rintro (e | _)
            · exact ih fun last => h _
            · exact h frame
          · exact ih h

theorem sends_issueAuth (targetId sessionId expiresIn : Json) :
    (issueAuth targetId sessionId expiresIn).Sends (· ∈ methods) Write.Plain := by
  refine sends_whileRunning <| sends_withTarget fun _ b => ?_
  dsimp only
  split
  · split
    · trivial
    · refine sends_resolveNode (by decide) (fun _ => trivial) fun objId token => ⟨by decide, ?_⟩
      rintro (e | _)
      · trivial
      · refine ⟨by decide, ?_⟩
        rintro (e | tree)
        · trivial
        · dsimp only
          split
          · trivial
          · refine sends_findFrame _ _ fun frame => ?_
            unfold issueAuth.formOf
            split
            · trivial
            · refine sends_callFunction (by decide) (fun _ => trivial) (fun _ => trivial) fun _ =>
                sends_unlessError fun authId now => ?_
              split
              · exact fun issued => ⟨trivial, trivial⟩
              · trivial
  · trivial

theorem sends_pollPage (deadline : ℤ) {next : Except String Json → Program}
    (h : ∀ obs, (next obs).Sends (· ∈ methods) Write.Plain) (n : ℕ) (obs : Except String Json) :
    (pollPage deadline next n obs).Sends (· ∈ methods) Write.Plain := by
  induction n generalizing obs with
  | zero => exact h obs
  | succ n ih =>
    intro now
    dsimp only
    split
    · refine sends_observing (by decide) ?_
      rintro (e | page)
      · exact ih obs
      · dsimp only
        split
        · split
          · split
            · exact h _
            · exact ih _
          · exact ih _
        · trivial
    · exact h obs

theorem sends_submitForm (targetId : Json) (pending : PendingSubmissionAuthorization) :
    (submitForm targetId pending).Sends (· ∈ methods) Write.Plain := by
  refine sends_withTarget fun _ => sends_resolveNode (by decide) (fun _ => trivial) fun _ =>
    sends_write trivial <|
      sends_callFunction (by decide) (fun _ => trivial) (fun _ => ⟨trivial, trivial⟩) fun res => ?_
  split
  · trivial
  · intro now
    apply sends_pollPage
    exact fun _ => trivial

theorem sends_submit (targetId authId : Json) :
    (submit targetId authId).Sends (· ∈ methods) Write.Plain := by
  refine sends_whileRunning ?_
  split
  · trivial
  · split
    · trivial
    · trivial
    · intro b
      dsimp only
      split
      · trivial
      · intro b
        dsimp only
        split_ifs
        · trivial
        · trivial
        · intro now
          dsimp only
          split
          · trivial
          · rintro (_ | _)
            · trivial
            · exact sends_submitForm _ _
    · trivial

theorem sends_navigate (url : Json) : (navigate url).Sends (· ∈ methods) Write.Plain := by
  unfold navigate
  split
  · trivial
  · rintro (_ | _)
    · trivial
    · refine ⟨trivial, trivial, by decide, ?_⟩
      rintro (e | _)
      · exact ⟨trivial, trivial⟩
      · exact ⟨trivial, fun b => trivial⟩

theorem sends_navigateAction (action : Json) :
    (navigateAction action).Sends (· ∈ methods) Write.Plain := by
  refine sends_whileRunning ?_
  split
  · refine ⟨by decide, ?_⟩
    rintro (e | history)
    · trivial
    · dsimp only
      split
      · trivial
      · refine ⟨by decide, ?_⟩
        rintro (e | _) <;> trivial
  · split
    · refine ⟨by decide, ?_⟩
      rintro (e | _) <;> trivial
    · trivial

theorem sends_observe : observe.Sends (· ∈ methods) Write.Plain := by
  refine sends_observing (by decide) ?_
  rintro (e | obs) <;> trivial

theorem sends_hideBrowser (outcome : HideOutcome) :
    (hideBrowser outcome).Sends (· ∈ methods) Write.Plain := by
  intro up b
  dsimp only
  split
  · split
    case h_5 => exact ⟨trivial, fun b => trivial⟩
    all_goals exact fun b => trivial
  · exact fun b => trivial

theorem sends_getStatus (ended : Bool) : (getStatus ended).Sends (· ∈ methods) Write.Plain := by
  intro up b
  dsimp only
  split
  · exact ⟨trivial, fun b => trivial⟩
  · exact fun b => trivial

theorem sends_ofSteps (steps : List LifecycleStep) :
    (ofSteps steps).Sends (· ∈ methods) Write.Plain := by
  induction steps with
  | nil => trivial
  | cons x steps ih => exact ih

theorem sends_handleCdpEvent (requestId : String) (r : PausedRequest) :
    (handleCdpEvent requestId r).Sends (· ∈ methods) Write.Plain := by
  unfold handleCdpEvent
  split
  · exact ⟨by decide, trivial⟩
  · intro b
    dsimp only
    split
    · exact ⟨trivial, ⟨by decide, fun _ => trivial⟩, trivial⟩
    · exact ⟨by decide, trivial⟩

end Program

open Program in
/-- Only `find` enters targets. -/
theorem Operation.sends_plain (host : Host) {op : Operation} (h : ∀ query, op ≠ .find query) :
    (op.program host).Sends (· ∈ methods) Write.Plain := by
  cases op with
  | startBrowser url => exact sends_ofSteps _
  | stopBrowser => exact sends_ofSteps _
  | restartBrowser => exact sends_ofSteps _
  | getStatus => exact sends_getStatus _
  | hideBrowser => exact sends_hideBrowser _
  | issueAuth targetId sessionId expiresIn => exact sends_issueAuth _ _ _
  | navigate url => exact sends_navigate _
  | navigateAction action => exact sends_navigateAction _
  | observe => exact sends_observe
  | find query => exact absurd rfl (h query)
  | click targetId => exact sends_click _
  | type targetId text => exact sends_editText _ _ _ _
  | fill targetId text => exact sends_editText _ _ _ _
  | clear targetId => exact sends_editText _ _ _ _
  | select targetId optionIdentity => exact sends_select _ _
  | check targetId => exact sends_check _
  | uncheck targetId => exact sends_uncheck _
  | submit targetId authId => exact sends_submit _ _

open Program in
/-- **Every command keeps to the methods.** -/
theorem Operation.sends (host : Host) (op : Operation) :
    (op.program host).Sends (· ∈ methods) fun _ => True := by
  by_cases h : ∃ query, op = .find query
  · obtain ⟨query, rfl⟩ := h
    exact sends_find query
  · exact (sends_plain host fun query heq => h ⟨query, heq⟩).mono fun _ _ => trivial

/-! ### Runs -/

/-- A thread keeps to the methods. -/
def CdpThread.Restrained (th : CdpThread) : Prop :=
  th.program.Sends (· ∈ Program.methods) (fun _ => True) ∧
    (th.call ≠ none → th.method ∈ Program.methods)

theorem CdpThread.restrained_of_idle {th : CdpThread}
    (h : th.program.Sends (· ∈ Program.methods) (fun _ => True)) (hcall : th.call = none) : th.Restrained :=
  ⟨h, fun hne => absurd hcall hne⟩

theorem CdpThread.Restrained.method_mem {th : CdpThread} (h : th.Restrained) {call : Call}
    (hcall : th.call = some call) : th.method ∈ Program.methods :=
  h.2 (by rw [hcall]; exact Option.some_ne_none _)

/-- A thread goes on within its request. -/
theorem CdpThread.Restrained.called {th : CdpThread} (h : th.Restrained) {call : Call}
    (hcall : th.call = some call) (call' : Call) :
    CdpThread.Restrained { th with call := some call' } :=
  ⟨h.1, fun _ => h.method_mem hcall⟩

theorem CdpThread.Restrained.answered {th : CdpThread} (h : th.Restrained)
    (a : Except CdpError CdpResult) : (th.answered a).Restrained := by
  refine restrained_of_idle ?_ (th.call_answered a)
  obtain ⟨hsends, -⟩ := h
  unfold CdpThread.answered
  split
  · rename_i hp
    rw [hp] at hsends
    exact hsends.2 a
  · exact hsends

namespace CdpRun

variable {s t : CdpRun}

/-- Everything that was sent, and everything that is going to be, keeps to the methods. -/
structure Restrained (s : CdpRun) : Prop where
  threads : ∀ k th, s.threads.get? k = some th → th.Restrained
  sent : ∀ m ∈ s.sent, m.method ∈ Program.methods
  pages : ∀ p ∈ s.pages, p.paused = false

namespace Restrained

theorem init (profileDir : String) (now : ℤ) : Restrained (CdpRun.init profileDir now) where
  threads _ _ h := by cases h
  sent _ h := by cases h
  pages _ h := by cases h

theorem numbered (hs : s.Restrained) (c : ℕ) {method : String} (hm : method ∈ Program.methods)
    (fails : Bool) : (s.numbered c method fails).Restrained :=
  { hs with
    sent := by
      intro m hmem
      unfold CdpRun.numbered at hmem
      split at hmem
      · exact hs.sent m hmem
      · obtain hmem | hmem := List.mem_append.1 hmem
        · exact hs.sent m hmem
        · obtain rfl := List.mem_singleton.1 hmem
          exact hm }

theorem moved (hs : s.Restrained) (k : ℕ) {th : CdpThread} (lock : Option ℕ)
    (h : th.Restrained) : (s.moved k th lock).Restrained :=
  { hs with threads := Dict.forall_get?_set hs.threads h }

/-- The browser was not asked to pause requests. -/
theorem intercepts_eq_false (hs : s.Restrained) (session : Option String) :
    s.intercepts session = false := by
  rw [Bool.eq_false_iff]
  intro h
  obtain ⟨e, -, he⟩ := List.any_eq_true.1 h
  obtain ⟨m, hm, haccepted⟩ := List.any_eq_true.1 (Bool.and_eq_true_iff.1 he).2
  simp only [Bool.and_eq_true, decide_eq_true_eq] at haccepted
  have hmethod := hs.sent m hm
  rw [haccepted.1.2] at hmethod
  exact absurd hmethod (by decide)

theorem step (hs : s.Restrained) {e : CdpEvent} (hok : IsCommand s e) (h : s.Step e t) :
    t.Restrained := by
  cases h with
  | command hk =>
    obtain ⟨host, op, rfl⟩ := hok
    exact hs.moved _ _ (CdpThread.restrained_of_idle (op.sends host) rfl)
  | begins hk hcall hp =>
    -- the method of a request is one of its program
    refine hs.moved _ _ ⟨(hs.threads _ _ hk).1, fun _ => ?_⟩
    have hsends := (hs.threads _ _ hk).1
    rw [hp] at hsends
    simp only [CdpThread.method, hp]
    exact hsends.1
  | ran hk hcall hu hstep =>
    exact { hs with
      threads := Dict.forall_get?_set hs.threads
        (CdpThread.restrained_of_idle ((hs.threads _ _ hk).1.step hstep) hcall) }
  | @started k input th p next hk hcall hp hj =>
    have hsends := (hs.threads _ _ hk).1
    rw [hp] at hsends
    have hgoes : CdpThread.Restrained { th with program := next } :=
      CdpThread.restrained_of_idle hsends.2 hcall
    have hstarts : CdpThread.Restrained { program := p } :=
      CdpThread.restrained_of_idle hsends.1 rfl
    exact { hs with
      threads := Dict.forall_get?_set (Dict.forall_get?_set hs.threads hgoes) hstarts }
  | sentAsync fails hk hcall hp =>
    have hsends := (hs.threads _ _ hk).1
    rw [hp] at hsends
    unfold CdpRun.sentAsync
    split
    · exact hs.moved _ _ (CdpThread.restrained_of_idle hsends.2 hcall)
    · exact (hs.numbered _ hsends.1 _).moved _ _ (CdpThread.restrained_of_idle hsends.2 hcall)
  | moved lock hk hcall hwaits => exact hs.moved _ _ ((hs.threads _ _ hk).called hcall _)
  | connected hk hcall hc =>
    exact { hs with
      threads := Dict.forall_get?_set hs.threads ((hs.threads _ _ hk).called hcall _) }
  | assigned hk hcall =>
    exact { hs with
      threads := Dict.forall_get?_set hs.threads ((hs.threads _ _ hk).called hcall _) }
  | sent hk hcall =>
    have hth := hs.threads _ _ hk
    exact (hs.numbered _ (hth.method_mem hcall) false).moved _ _ (hth.called hcall _)
  | failed hk hcall =>
    have hth := hs.threads _ _ hk
    exact (hs.numbered _ (hth.method_mem hcall) true).moved _ _ (hth.called hcall _)
  | raised lock e hk hcall => exact hs.moved _ _ ((hs.threads _ _ hk).answered _)
  | gaveUp hk hcall hws =>
    exact { hs with threads := Dict.forall_get?_set hs.threads ((hs.threads _ _ hk).answered _) }
  | replied hk hcall hr =>
    exact { hs with threads := Dict.forall_get?_set hs.threads ((hs.threads _ _ hk).answered _) }
  | arrived outcome hsent => exact { hs with }
  | page hk =>
    rw [hs.intercepts_eq_false]
    refine { hs with pages := fun p hp => ?_ }
    obtain hp | hp := List.mem_append.1 hp
    · exact hs.pages p hp
    · obtain rfl := List.mem_singleton.1 hp
      rfl
  | exit => exact { hs with }
  | clock now => exact { hs with }

/-- **The broker keeps to the methods.** -/
theorem holds (h : commands.Reachable s) : s.Restrained :=
  System.Invariant.holds (I := Restrained)
    { init := fun _ h => by
        obtain ⟨profileDir, now, rfl⟩ := h
        exact .init profileDir now
      step := fun _ _ _ hs h => by
        obtain ⟨hok, hnext⟩ := h
        exact hs.step hok (next_step hnext) } h

end Restrained

/-- Interception is in force: what a page of the current session sends, other than a read, is paused
for the broker. -/
def Intercepted (s : CdpRun) : Prop :=
  ∀ p ∈ s.pages, p.session = p.current → ¬ p.request.Safe → p.paused = true

/-- **Interception is in force exactly when there is nothing to intercept.** -/
theorem intercepted_iff (h : commands.Reachable s) :
    s.Intercepted ↔ ∀ p ∈ s.pages, p.session = p.current → p.request.Safe := by
  have hpaused := (Restrained.holds h).pages
  constructor
  · intro hs p hp hcurrent
    by_contra hunsafe
    exact absurd ((hpaused p hp).symm.trans (hs p hp hcurrent hunsafe)) Bool.false_ne_true
  · exact fun hs p hp hcurrent hunsafe => absurd (hs p hp hcurrent) hunsafe

/-- The browser is started, and its page is observed and sends a request. -/
def pageRun (method : String) : List CdpEvent :=
  startRun 0 "s1" ++ [ask 1 .observe] ++ steps 1 ["o1"] ++ connectRun 1 1 "s1" ++
    answerRun 1 1 1 {} ++ [.page (some "s1") ⟨method, "https://example.org/", "frame"⟩ "r1" 2]

theorem isCommand_pageRun (method : String) (s : CdpRun) : ∀ e ∈ pageRun method, IsCommand s e := by
  simp only [pageRun, List.forall_mem_append, List.forall_mem_singleton]
  exact ⟨⟨⟨⟨⟨isCommand_startRun s 0 _, isCommand_ask s 1 _⟩, isCommand_steps s 1 _⟩,
    isCommand_connectRun s 1 1 _⟩, isCommand_answerRun s 1 1 1 _⟩, trivial⟩

theorem intercepted_read : ∃ s : CdpRun, s.pages.length = 1 ∧ s.Intercepted := by
  have hrun : (System.runFn next (init "colab" 0) (pageRun "GET")).map
      (fun s => s.pages.map fun p => (p.request, p.paused)) =
      some [(⟨"GET", "https://example.org/", "frame"⟩, false)] := by
    decide +kernel
  obtain ⟨s, hs, hpages⟩ := Option.map_eq_some_iff.1 hrun
  obtain ⟨p, hp, hrequest⟩ := List.map_eq_singleton_iff.1 hpages
  refine ⟨s, by rw [hp]; rfl, (intercepted_iff (reachable_commands (isCommand_pageRun _) hs)).2 ?_⟩
  intro q hq _
  rw [hp, List.mem_singleton] at hq
  rw [hq, (Prod.mk.inj hrequest).1]
  decide +kernel

/-- A page sends a form, and the broker does not hear of it. -/
theorem not_intercepted : ¬ ∀ s, commands.Reachable s → s.Intercepted := by
  intro h
  have hrun : (System.runFn next (init "colab" 0) (pageRun "POST")).map
      (fun s => s.pages.map fun p => (p.request, p.session = p.current && !p.paused)) =
      some [(⟨"POST", "https://example.org/", "frame"⟩, true)] := by
    decide +kernel
  obtain ⟨s, hs, hpages⟩ := Option.map_eq_some_iff.1 hrun
  obtain ⟨p, hp, heq⟩ := List.map_eq_singleton_iff.1 hpages
  obtain ⟨hrequest, hother⟩ := Prod.mk.inj heq
  simp only [Bool.and_eq_true, decide_eq_true_eq, Bool.not_eq_true'] at hother
  have hpaused := h s (reachable_commands (isCommand_pageRun _) hs) p
    (hp ▸ List.mem_singleton_self p) hother.1 (by rw [hrequest]; decide +kernel)
  cases hother.2.symm.trans hpaused

end CdpRun

end Browser

end AnnyRuntime
