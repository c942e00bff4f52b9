import AnnyRuntime.Browser.Interception

/-!
# Targets and sessions

A target is entered with the session that is read once its node has been described, several requests
after the search began, and another thread may restart the browser before that read.  Where it does
not (`InSession`):

* `CdpRun.targets_bound` : **in every run, the node of every target was described by the browser of
  the session that the target is entered with, and a command that names a target of an earlier
  session is refused in a few steps, none of which is a request to the browser.**
* `CdpRun.not_bound` : a restart between the description and the read leaves a target that is
  accepted in a session whose browser never described its node.
-/

namespace AnnyRuntime

namespace Browser

/-! ### Refusals -/

/-- A target is not one of the current session: its session is this one. -/
def Broker.Outdated (targetId session : String) (b : Broker) : Prop :=
  b.sessionId ≠ some session ∧
    ∀ record, b.targets.get? targetId = some record → record.sessionId = some session

/-- The response to a command on such a target while the browser runs.  A submission is judged by
its authorization first. -/
def Refusal (submits : Bool) (r : Response) : Prop :=
  r = error "TARGET_STALE" ∨ submits = true ∧ r.head? = some ("status", .str "error")

namespace Program

/-- The program comes to an `answer` within so many steps, none of which is a request, whatever it
reads of a broker that is `ok`, unless it finds that the browser does not run. -/
def Answers (ok : Broker → Prop) (answer : Response → Prop) : Program → ℕ → Prop
  | respond r, _ => answer r
  | running next, n + 1 => (next true).Answers ok answer n ∧ next false = .respond notRunning
  | read next, n + 1 => ∀ b, ok b → (next b).Answers ok answer n
  | consume _ next, n + 1 => ∀ found, (next found).Answers ok answer n
  | clock next, n + 1 => ∀ now, (next now).Answers ok answer n
  | _, _ => False

variable {ok : Broker → Prop} {answer : Response → Prop} {next : Program} {n : ℕ}

theorem answers_whileRunning (h : next.Answers ok answer n) :
    (whileRunning next).Answers ok answer (n + 1) := ⟨h, rfl⟩

/-- A target of an earlier session is not looked at. -/
theorem answers_withTarget {targetId session : String} {next : Target → Program}
    (hanswer : answer (error "TARGET_STALE")) :
    (withTarget (.str targetId) next).Answers (Broker.Outdated targetId session) answer
      (n + 2) := by
  intro b hb
  dsimp only
  split
  · exact hanswer
  · rename_i record hrecord
    intro b' hb'
    have hne : record.sessionId ≠ b'.sessionId := by
      rw [hb.2 record hrecord]
      exact hb'.1.symm
    dsimp only
    rw [if_pos hne]
    exact hanswer

theorem answers_submit {targetId session : String} (authId : Json) :
    (submit (.str targetId) authId).Answers (Broker.Outdated targetId session)
      (Refusal true) 7 := by
  have hrefuse : ∀ message n, (refuse message (.str targetId)).Answers
      (Broker.Outdated targetId session) (Refusal true) n :=
    fun _ _ => .inr ⟨rfl, rfl⟩
  have hraise : ∀ n, raise.Answers (Broker.Outdated targetId session) (Refusal true) n :=
    fun _ => .inr ⟨rfl, rfl⟩
  refine answers_whileRunning ?_
  split
  · exact hrefuse _ _
  · split
    · exact hraise _
    · exact hraise _
    · intro b hb
      dsimp only
      split
      · exact hrefuse _ _
      · intro b' hb'
        dsimp only
        split_ifs
        · exact hrefuse _ _
        · exact hrefuse _ _
        · intro now
          dsimp only
          split
          · exact hrefuse _ _
          · rintro (_ | _)
            · exact hraise _
            · exact answers_withTarget (.inl rfl)
    · exact hrefuse _ _

/-- A step leads to a program that answers one step sooner, and is not a request. -/
theorem Answers.step {uuid : String} {now : ℤ} {b b' : Broker} {p p' : Program} (hb : ok b)
    (hp : p.Answers ok answer n) (h : p.step uuid now b = some (b', p')) :
    ∃ m, n = m + 1 ∧ (p'.Answers ok answer m ∨ b.process = none ∧ p' = .respond notRunning) := by
  cases p with
  | respond => cases h
  | running next =>
    cases h
    cases n with
    | zero => exact hp.elim
    | succ n =>
      refine ⟨n, rfl, ?_⟩
      cases hprocess : b.process with
      | none => exact .inr ⟨rfl, hp.2⟩
      | some pid => exact .inl hp.1
  | consume authId next | clock next =>
    cases h
    cases n with
    | zero => exact hp.elim
    | succ n => exact ⟨n, rfl, .inl (hp _)⟩
  | read next =>
    cases h
    cases n with
    | zero => exact hp.elim
    | succ n => exact ⟨n, rfl, .inl (hp b hb)⟩
  | _ => cases n <;> exact hp.elim

theorem Answers.of_respond {r : Response} (h : (respond r).Answers ok answer n) : answer r := by
  cases n <;> exact h

/-- The program has answered, or it can go on. -/
theorem Answers.progress {p : Program} (hp : p.Answers ok answer n) :
    (∃ r, p = .respond r) ∨ ∀ uuid now b, (p.step uuid now b).isSome := by
  cases p with
  | respond r => exact .inl ⟨r, rfl⟩
  | running | read | consume | clock => exact .inr fun _ _ _ => rfl
  | _ => cases n <;> exact hp.elim

end Program

/-- **A command on a target of an earlier session is refused.** -/
theorem Operation.answers (host : Host) (op : Operation) {targetId : String} (session : String)
    (h : (op.task host).target = some targetId) :
    (op.program host).Answers (Broker.Outdated targetId session) (Refusal (op.task host).submits)
      (if (op.task host).submits then 7 else 3) := by
  have hstr : ∀ {j : Json}, Program.textOf j = some targetId → j = .str targetId := by
    intro j hj
    cases j with
    | str x => exact congrArg Json.str (Option.some.inj hj)
    | _ => cases hj
  cases op with
  | submit targetId authId =>
    obtain rfl := hstr h
    exact Program.answers_submit authId
  | click targetId | type targetId | fill targetId | clear targetId | issueAuth targetId =>
    obtain rfl := hstr h
    exact Program.answers_whileRunning (Program.answers_withTarget (.inl rfl))
  | select targetId | check targetId | uncheck targetId =>
    obtain rfl := hstr h
    exact Program.answers_withTarget (.inl rfl)
  | _ => cases h

/-! ### How a target is entered -/

/-- A target is entered with the node that was described, the session that was read and the
identifier that was drawn. -/
def Write.EnteredWith (node : Option ℕ) (token : Option String) (session : Option (Option String)) :
    Write → Prop
  | target targetId record => node = some record.backendNodeId ∧ session = some record.sessionId ∧
      ∃ uuid, token = some uuid ∧ targetId = "bt_" ++ uuid
  | _ => True

namespace LifecycleStep

variable (uuid : String) (b : Broker) (x : LifecycleStep)

theorem checked_keeps (url : Option String) (installed : Bool) :
    (checked b url installed).1.sessionId = b.sessionId ∧
      (checked b url installed).1.targets = b.targets := by
  unfold checked
  split
  · exact ⟨rfl, rfl⟩
  · exact ⟨rfl, rfl⟩
  · split <;> exact ⟨rfl, rfl⟩

theorem run_sessionId : (x.run uuid b).1.sessionId = b.sessionId ∨
    (x.run uuid b).1.sessionId = none ∨ (x.run uuid b).1.sessionId = some uuid := by
  cases x with
  | newSession => exact .inr (.inr rfl)
  | endSession => exact .inr (.inl rfl)
  | check url installed => exact .inl (checked_keeps b url installed).1
  | recheck installed => exact .inl (checked_keeps b _ installed).1
  | terminate | restartable =>
    simp only [run]
    split <;> exact .inl rfl
  | launch process => cases process <;> exact .inl rfl
  | _ => exact .inl rfl

theorem run_targets : (x.run uuid b).1.targets = b.targets ∨ (x.run uuid b).1.targets = .empty := by
  cases x with
  | clearTargets => exact .inr rfl
  | check url installed => exact .inl (checked_keeps b url installed).2
  | recheck installed => exact .inl (checked_keeps b _ installed).2
  | terminate | restartable =>
    simp only [run]
    split <;> exact .inl rfl
  | launch process => cases process <;> exact .inl rfl
  | _ => exact .inl rfl

end LifecycleStep

namespace Program

/-- The session that a thread has read for a target after a step. -/
def sessionAfter (b : Broker) (session : Option (Option String)) : Program → Option (Option String)
  | stamp _ => some b.sessionId
  | _ => session

/-- Every target is entered with the node that the last reply describes, and the session and the
identifier that were read and drawn after it. -/
def Enters (node : Option ℕ) (token : Option String) (session : Option (Option String)) :
    Program → Prop
  | respond _ => True
  | request method _ next => ∀ a, (next a).Enters (describedBy method a) token none
  | sendAsync _ _ next => next.Enters node token session
  | start p next => p.Enters none none none ∧ next.Enters node token session
  | running next => ∀ up, (next up).Enters node token session
  | read next => ∀ b, (next b).Enters node token session
  | stamp next => ∀ x, (next x).Enters node token (some x)
  | write w next =>
    w.EnteredWith node token session ∧ next.Enters node ((write w next).tokenAfter "" token) session
  | consume _ next => ∀ found, (next found).Enters node token session
  | draw next => ∀ uuid, (next uuid).Enters node (some uuid) session
  | clock next => ∀ now, (next now).Enters node token session
  | lifecycle _ next => next.Enters node token session

variable {node : Option ℕ} {token : Option String} {session : Option (Option String)}

/-- A program that enters no targets. -/
theorem Sends.enters {ok : String → Prop} {p : Program} (h : p.Sends ok Write.Plain) :
    p.Enters node token session := by
  induction p generalizing node token session with
  | respond response => trivial
  | request method params next ih => exact fun a => ih a (h.2 a)
  | sendAsync method params next ih => exact ih h.2
  | start p next ihp ih => exact ⟨ihp h.1, ih h.2⟩
  | write w next ih =>
    refine ⟨?_, ih h.2⟩
    cases w with
    | target targetId record => exact h.1.elim
    | _ => trivial
  | lifecycle x next ih => exact ih h
  | running next ih | read next ih | stamp next ih | consume authId next ih | draw next ih
  | clock next ih => exact fun x => ih x (h x)

theorem enters_whileRunning {next : Program} (h : next.Enters node token session) :
    (whileRunning next).Enters node token session := by
  rintro (_ | _)
  · trivial
  · exact h

theorem enters_findElements (elements : List Property) (found : List PyVal) :
    (findElements elements found).Enters node token session := by
  induction elements generalizing found node token session with
  | nil => trivial
  | cons element elements ih =>
    unfold findElements
    split
    · split
      · trivial
      · rintro (e | item)
        · trivial
        · dsimp only
          split
          · trivial
          · exact ih found
          · rintro (e | described)
            · trivial
            · dsimp only
              split
              · exact ih found
              · rename_i backendId hnode
                intro uuid x
                exact ⟨⟨hnode, rfl, uuid, rfl, rfl⟩, ih _⟩
    · exact ih found

theorem enters_find (query : List (String × Json)) :
    (find query).Enters node token session := by
  refine enters_whileRunning ?_
  split
  · rintro _ (e | res)
    · trivial
    · dsimp only
      split
      · trivial
      · trivial
      · trivial
      · rintro (e | array)
        · trivial
        · exact enters_findElements _ _
  · trivial

/-- A step leads to a program that enters targets with what is known after it. -/
theorem Enters.step {uuid : String} {now : ℤ} {b b' : Broker} {p p' : Program}
    (hp : p.Enters node token session) (h : p.step uuid now b = some (b', p')) :
    p'.Enters node (p.tokenAfter uuid token) (p.sessionAfter b session) := by
  cases p with
  | respond | request | sendAsync | start => cases h
  | write w next =>
    cases h
    cases w <;> exact hp.2
  | lifecycle x next =>
    simp only [Program.step] at h
    split at h <;> cases h
    · exact hp
    · trivial
  | running next | read next | stamp next | consume authId next | draw next | clock next =>
    cases h
    exact hp _

/-- What a step makes of the session. -/
theorem step_sessionId {uuid : String} {now : ℤ} {b b' : Broker} {p p' : Program}
    (h : p.step uuid now b = some (b', p')) :
    b'.sessionId = b.sessionId ∨ b'.sessionId = none ∨ b'.sessionId = some uuid := by
  cases p with
  | respond | request | sendAsync | start => cases h
  | write w next =>
    cases h
    exact .inl (w.apply_sessionId b)
  | lifecycle x next =>
    have hx := x.run_sessionId uuid b
    simp only [Program.step] at h
    split at h <;> rename_i b₁ heq <;> cases h <;> rw [heq] at hx <;> exact hx
  | running | read | stamp | consume | draw | clock =>
    cases h
    exact .inl rfl

/-- What a step makes of the targets. -/
theorem step_targets {uuid : String} {now : ℤ} {b b' : Broker} {p p' : Program}
    (h : p.step uuid now b = some (b', p')) :
    b'.targets = b.targets ∨ b'.targets = .empty ∨
      ∃ targetId record, p = .write (.target targetId record) p' ∧
        b'.targets = b.targets.set targetId record := by
  cases p with
  | respond | request | sendAsync | start => cases h
  | write w next =>
    cases h
    cases w with
    | target targetId record => exact .inr (.inr ⟨targetId, record, rfl, rfl⟩)
    | _ => exact .inl rfl
  | lifecycle x next =>
    have hx := x.run_targets uuid b
    simp only [Program.step] at h
    split at h <;> rename_i b₁ heq <;> cases h <;> rw [heq] at hx <;>
      exact hx.imp_right .inl
  | running | read | stamp | consume | draw | clock =>
    cases h
    exact .inl rfl

end Program

theorem Operation.enters (host : Host) (op : Operation) :
    (op.program host).Enters none none none := by
  by_cases h : ∃ query, op = .find query
  · obtain ⟨query, rfl⟩ := h
    exact Program.enters_find query
  · exact (sends_plain host fun query heq => h ⟨query, heq⟩).enters

/-! ### Runs -/

/-- The next step reads the session for a target. -/
def Program.stamps : Program → Bool
  | stamp _ => true
  | _ => false

/-- The message of an error that a thread responds with. -/
def Program.message : Program → Option String
  | respond [_, (_, .str message)] => some message
  | _ => none

theorem Program.exists_of_message {p : Program} {message : String} (h : p.message = some message) :
    ∃ r, p = .respond r := by
  unfold Program.message at h
  split at h
  · exact ⟨_, rfl⟩
  · cases h

namespace CdpRun

variable {s t : CdpRun}

/-- A thread that reads the session for a target finds the one whose browser gave it its last
reply. -/
def InSession (s : CdpRun) : CdpEvent → Prop
  | .run k _ => ∀ th ∈ s.threads.get? k, th.program.stamps = true →
    th.replied = s.broker.sessionId
  | _ => True

instance : ∀ s e, Decidable (InSession s e)
  | s, .run k _ => inferInstanceAs (Decidable (∀ th ∈ s.threads.get? k, th.program.stamps = true →
    th.replied = s.broker.sessionId))
  | _, .command .. | _, .receive .. | _, .page .. | _, .exit | _, .clock _ => isTrue trivial

/-- The identifier that a thread has for a target. -/
def tokenOf (s : CdpRun) (k : ℕ) : Option String := (s.threads.get? k).bind CdpThread.token

theorem tokenOf_of_get? {k : ℕ} {th : CdpThread} {uuid : String} (hk : s.threads.get? k = some th)
    (h : th.token = some uuid) : s.tokenOf k = some uuid :=
  Option.bind_eq_some_iff.2 ⟨th, hk, h⟩

/-- What a thread has for a target that it may enter. -/
structure Knows (s : CdpRun) (th : CdpThread) : Prop where
  call : th.call ≠ none → ∃ method params next, th.program = .request method params next
  enters : ∃ node session, th.program.Enters node th.token session ∧
    (∀ n, node = some n → (n, th.replied) ∈ s.observed) ∧
    ∀ y, session = some y → y = th.replied ∧ ∀ x, y = some x → x ∈ s.drawn

/-- A thread refuses its command, which names a target of an earlier session. -/
structure Refusing (s : CdpRun) (th : CdpThread) : Prop where
  call : th.call = none
  requests : th.requests = 0
  program : ∃ targetId session n, s.found.get? targetId = some (some session) ∧ session ∈ s.drawn ∧
    s.broker.sessionId ≠ some session ∧
    (th.program.Answers (Broker.Outdated targetId session) (Refusal th.submits) n ∨
      th.program = .respond notRunning) ∧
    th.steps + n ≤ if th.submits then 7 else 3

/-- Targets are entered once, with the session whose browser described their node. -/
structure Bound (s : CdpRun) : Prop where
  session : ∀ x, s.broker.sessionId = some x → x ∈ s.drawn
  threads : ∀ k th, s.threads.get? k = some th → s.Knows th
  tokens : ∀ k uuid, s.tokenOf k = some uuid →
    uuid ∈ s.drawn ∧ s.found.get? ("bt_" ++ uuid) = none
  apart : ∀ k k' uuid, s.tokenOf k = some uuid → s.tokenOf k' = some uuid → k = k'
  found : ∀ targetId y, s.found.get? targetId = some y →
    (∃ uuid ∈ s.drawn, targetId = "bt_" ++ uuid) ∧ ∀ x, y = some x → x ∈ s.drawn
  targets : ∀ targetId record, s.broker.targets.get? targetId = some record →
    s.found.get? targetId = some record.sessionId ∧
      (record.backendNodeId, record.sessionId) ∈ s.observed
  earlier : ∀ k th, s.threads.get? k = some th → th.earlier = true → s.Refusing th

theorem Knows.mono {th : CdpThread} (h : s.Knows th) (hobserved : s.observed ⊆ t.observed)
    (hdrawn : s.drawn ⊆ t.drawn) : t.Knows th := by
  obtain ⟨hcall, node, session, henters, hnode, hsession⟩ := h
  exact ⟨hcall, node, session, henters, fun n hn => hobserved (hnode n hn),
    fun y hy => ⟨(hsession y hy).1, fun x hx => hdrawn ((hsession y hy).2 x hx)⟩⟩

/-- A thread that is not in a request has what it had, or what it got by a step. -/
theorem Knows.idle {th : CdpThread} {node : Option ℕ} (hcall : th.call = none)
    (hnode : ∀ n, node = some n → (n, th.replied) ∈ s.observed)
    (h : th.program.Enters node th.token none) : s.Knows th :=
  ⟨fun hne => absurd hcall hne, node, none, h, hnode, fun _ hy => by cases hy⟩

/-- A request of a thread is answered. -/
theorem Knows.answered {th : CdpThread} (h : s.Knows th) (hcall : th.call ≠ none)
    (a : Except CdpError CdpResult) (y : Option String)
    (hnode : ∀ n, describedBy th.method a = some n → (n, y) ∈ t.observed) :
    t.Knows { th.answered a with replied := y } := by
  obtain ⟨method, params, next, hp⟩ := h.call hcall
  obtain ⟨node, session, henters, -, -⟩ := h.enters
  rw [hp] at henters
  simp only [CdpThread.method, hp] at hnode
  simp only [CdpThread.answered, hp]
  exact .idle rfl hnode (henters a)

theorem Refusing.mono {th : CdpThread} (h : s.Refusing th)
    (hfound : ∀ targetId y, s.found.get? targetId = some y → t.found.get? targetId = some y)
    (hdrawn : s.drawn ⊆ t.drawn)
    (hsession : ∀ x ∈ s.drawn, s.broker.sessionId ≠ some x → t.broker.sessionId ≠ some x) :
    t.Refusing th := by
  obtain ⟨hcall, hrequests, targetId, session, n, h₁, h₂, h₃, h₄⟩ := h
  exact ⟨hcall, hrequests, targetId, session, n, hfound _ _ h₁, hdrawn h₂, hsession _ h₂ h₃, h₄⟩

/-- It has answered, or it can go on. -/
theorem Refusing.progress {th : CdpThread} (h : s.Refusing th) :
    (∃ r, th.program = .respond r) ∨ ∀ uuid now b, (th.program.step uuid now b).isSome := by
  obtain ⟨targetId, session, n, -, -, -, hanswers | hanswers, -⟩ := h.program
  · exact hanswers.progress
  · exact .inl ⟨_, hanswers⟩

/-- It makes no request, and starts no thread. -/
theorem Refusing.program_ne {th : CdpThread} {p : Program} (h : s.Refusing th)
    (hp : ∀ r, p ≠ .respond r) (hstep : ∀ uuid now b, p.step uuid now b = none) :
    th.program ≠ p := by
  rintro rfl
  obtain ⟨r, hr⟩ | hgoes := h.progress
  · exact hp r hr
  · have hsome := hgoes "" s.now s.broker
    rw [hstep] at hsome
    cases hsome

namespace Bound

theorem init (profileDir : String) (now : ℤ) : Bound (CdpRun.init profileDir now) where
  session _ h := by cases h
  threads _ _ h := by cases h
  tokens _ _ h := by cases h
  apart _ _ _ h := by cases h
  found _ _ h := by cases h
  targets _ _ h := by cases h
  earlier _ _ h := by cases h

theorem outdated (hs : s.Bound) {targetId session : String}
    (hfound : s.found.get? targetId = some (some session))
    (hne : s.broker.sessionId ≠ some session) : s.broker.Outdated targetId session :=
  ⟨hne, fun _ hrecord => Option.some.inj ((hs.targets _ _ hrecord).1.symm.trans hfound)⟩

/-- Steps that touch neither threads nor targets. -/
theorem quiet (hs : s.Bound) (hthreads : t.threads = s.threads)
    (hsession : t.broker.sessionId = s.broker.sessionId)
    (htargets : t.broker.targets = s.broker.targets) (hdrawn : t.drawn = s.drawn)
    (hfound : t.found = s.found) (hobserved : s.observed ⊆ t.observed) : t.Bound where
  session := by rw [hsession, hdrawn]; exact hs.session
  threads k th hk := by
    rw [hthreads] at hk
    exact (hs.threads k th hk).mono hobserved (by rw [hdrawn]; exact List.Subset.refl _)
  tokens := by unfold tokenOf; rw [hthreads, hdrawn, hfound]; exact hs.tokens
  apart := by unfold tokenOf; rw [hthreads]; exact hs.apart
  found := by rw [hfound, hdrawn]; exact hs.found
  targets targetId record h := by
    rw [htargets] at h
    rw [hfound]
    exact ⟨(hs.targets targetId record h).1, hobserved (hs.targets targetId record h).2⟩
  earlier k th hk he := by
    rw [hthreads] at hk
    refine (hs.earlier k th hk he).mono (by rw [hfound]; exact fun _ _ h => h) ?_ ?_
    · rw [hdrawn]; exact List.Subset.refl _
    · rw [hsession]; exact fun _ _ h => h

/-- A thread changes, or is added. -/
theorem moved (hs : s.Bound) {k : ℕ} {th : CdpThread} (lock : Option ℕ)
    (htoken : ∀ uuid, th.token = some uuid → s.tokenOf k = some uuid) (hknows : s.Knows th)
    (hearlier : th.earlier = true → s.Refusing th) : (s.moved k th lock).Bound := by
  have htokens : ∀ k' uuid, (s.moved k th lock).tokenOf k' = some uuid →
      s.tokenOf k' = some uuid := by
    intro k' uuid h
    obtain ⟨th', hk', htok⟩ := Option.bind_eq_some_iff.1 h
    obtain ⟨rfl, rfl⟩ | ⟨-, hk'⟩ := Dict.of_get?_set hk'
    · exact htoken uuid htok
    · exact Option.bind_eq_some_iff.2 ⟨th', hk', htok⟩
  exact
    { session := hs.session
      threads := fun k' th' hk' => (Dict.forall_get?_set hs.threads hknows k' th' hk').mono
        (List.Subset.refl _) (List.Subset.refl _)
      tokens := fun k' uuid h => hs.tokens k' uuid (htokens k' uuid h)
      apart := fun k₁ k₂ uuid h₁ h₂ => hs.apart k₁ k₂ uuid (htokens _ _ h₁) (htokens _ _ h₂)
      found := hs.found
      targets := hs.targets
      earlier := fun k' th' hk' he => (Dict.forall_get?_set hs.earlier hearlier k' th' hk' he).mono
        (fun _ _ h => h) (List.Subset.refl _) fun _ _ h => h }

section Ran

variable {k : ℕ} {th : CdpThread} {uuid : String} {b : Broker} {p : Program}

/-- What a step enters is new. -/
theorem enters_ran (hs : s.Bound) (hk : s.threads.get? k = some th) {targetId : String}
    (h : th.program.enters = some targetId) :
    ∃ uuid, s.tokenOf k = some uuid ∧ targetId = "bt_" ++ uuid := by
  obtain ⟨node, session, henters, -, -⟩ := (hs.threads k th hk).enters
  unfold Program.enters at h
  split at h
  · rename_i hp
    cases h
    rw [hp] at henters
    obtain ⟨-, -, uuid, htoken, rfl⟩ := henters.1
    exact ⟨uuid, Option.bind_eq_some_iff.2 ⟨th, hk, htoken⟩, rfl⟩
  · cases h

theorem found_ran (hs : s.Bound) (hk : s.threads.get? k = some th) {targetId : String}
    {y : Option String} (h : s.found.get? targetId = some y) :
    (s.ran k th uuid b p).found.get? targetId = some y := by
  simp only [CdpRun.ran]
  split
  · rename_i targetId' henters
    obtain ⟨token, htoken, rfl⟩ := hs.enters_ran hk henters
    rw [Dict.get?_set_ne]
    · exact h
    · rintro rfl
      cases h.symm.trans (hs.tokens k token htoken).2
  · exact h

theorem of_found_ran (hs : s.Bound) (hk : s.threads.get? k = some th) {targetId : String}
    {y : Option String} (h : (s.ran k th uuid b p).found.get? targetId = some y) :
    s.found.get? targetId = some y ∨
      y = th.replied ∧ (∀ x, y = some x → x ∈ s.drawn) ∧ th.program.enters ≠ none ∧
        ∃ uuid, s.tokenOf k = some uuid ∧ targetId = "bt_" ++ uuid := by
  simp only [CdpRun.ran] at h
  split at h
  · rename_i targetId' henters
    obtain ⟨rfl, rfl⟩ | ⟨-, h⟩ := Dict.of_get?_set h
    · refine .inr ⟨rfl, ?_, by rw [henters]; exact Option.some_ne_none _, hs.enters_ran hk henters⟩
      obtain ⟨node, session, henters', -, hsession⟩ := (hs.threads k th hk).enters
      unfold Program.enters at henters
      split at henters
      · rename_i record next hp
        rw [hp] at henters'
        -- the session of the record is the one that was read
        obtain ⟨-, hread, -⟩ := henters'.1
        obtain ⟨heq, hdrawn⟩ := hsession _ hread
        rw [← heq]
        exact hdrawn
      · cases henters
    · exact .inl h
  · exact .inl h

theorem of_tokenOf_ran (hk : s.threads.get? k = some th) {k' : ℕ} {token : String}
    (h : (s.ran k th uuid b p).tokenOf k' = some token) :
    s.tokenOf k' = some token ∧ (k' = k → th.program.enters = none) ∨
      k' = k ∧ token = uuid ∧ th.program.enters = none := by
  obtain ⟨th', hk', htoken⟩ := Option.bind_eq_some_iff.1 h
  obtain ⟨rfl, rfl⟩ | ⟨hne, hk'⟩ := Dict.of_get?_set hk'
  · dsimp only at htoken
    unfold Program.tokenAfter at htoken
    split at htoken
    · rename_i hp
      exact .inr ⟨rfl, (Option.some.inj htoken).symm, by rw [hp]; rfl⟩
    · cases htoken
    · rename_i htarget
      refine .inl ⟨Option.bind_eq_some_iff.2 ⟨th, hk, htoken⟩, fun _ => ?_⟩
      unfold Program.enters
      split
      · rename_i hp
        exact (htarget _ _ _ hp).elim
      · rfl
  · exact .inl ⟨Option.bind_eq_some_iff.2 ⟨th', hk', htoken⟩, fun heq => absurd heq hne⟩

/-- No step goes back to a session that is over. -/
theorem sessionId_ran_ne (hu : uuid ∉ s.drawn)
    (hstep : th.program.step uuid s.now s.broker = some (b, p)) {x : String} (hx : x ∈ s.drawn)
    (hne : s.broker.sessionId ≠ some x) : b.sessionId ≠ some x := by
  intro heq
  obtain h | h | h := Program.step_sessionId hstep
  · exact hne (h.symm.trans heq)
  · cases h.symm.trans heq
  · exact hu (Option.some.inj (h.symm.trans heq) ▸ hx)

theorem session_ran (hs : s.Bound) (hstep : th.program.step uuid s.now s.broker = some (b, p))
    {x : String} (hx : b.sessionId = some x) : x ∈ (s.ran k th uuid b p).drawn := by
  obtain h | h | h := Program.step_sessionId hstep
  · exact List.mem_cons_of_mem _ (hs.session x (h.symm.trans hx))
  · cases h.symm.trans hx
  · exact Option.some.inj (h.symm.trans hx) ▸ List.mem_cons_self

theorem threads_ran (hs : s.Bound) (hk : s.threads.get? k = some th) (hcall : th.call = none)
    (hstep : th.program.step uuid s.now s.broker = some (b, p))
    (hin : th.program.stamps = true → th.replied = s.broker.sessionId) {k' : ℕ} {th' : CdpThread}
    (hk' : (s.ran k th uuid b p).threads.get? k' = some th') :
    (s.ran k th uuid b p).Knows th' := by
  have hdrawn : s.drawn ⊆ (s.ran k th uuid b p).drawn := List.subset_cons_self _ _
  obtain ⟨rfl, rfl⟩ | ⟨-, hk'⟩ := Dict.of_get?_set hk'
  · obtain ⟨-, node, session, henters, hnode, hread⟩ := hs.threads _ th hk
    refine ⟨fun hne => absurd hcall hne, node, _, henters.step hstep, hnode, fun y hy => ?_⟩
    unfold Program.sessionAfter at hy
    split at hy
    · -- the session is read: it is that of the browser which described the node
      rename_i hp
      obtain rfl := Option.some.inj hy
      exact ⟨(hin (by rw [hp]; rfl)).symm, fun x hx => hdrawn (hs.session x hx)⟩
    · exact ⟨(hread y hy).1, fun x hx => hdrawn ((hread y hy).2 x hx)⟩
  · exact (hs.threads k' th' hk').mono (List.Subset.refl _) hdrawn

theorem tokens_ran (hs : s.Bound) (hk : s.threads.get? k = some th) (hu : uuid ∉ s.drawn) {k' : ℕ}
    {token : String} (htoken : (s.ran k th uuid b p).tokenOf k' = some token) :
    token ∈ (s.ran k th uuid b p).drawn ∧
      (s.ran k th uuid b p).found.get? ("bt_" ++ token) = none := by
  obtain ⟨hold, hkeeps⟩ | ⟨rfl, rfl, hkeeps⟩ := of_tokenOf_ran hk htoken
  · refine ⟨List.mem_cons_of_mem _ (hs.tokens k' token hold).1,
      Option.eq_none_iff_forall_ne_some.2 fun y hy => ?_⟩
    obtain h | ⟨-, -, henters, token', htoken', heq⟩ := hs.of_found_ran hk hy
    · cases h.symm.trans (hs.tokens k' token hold).2
    · -- the identifier that is used belongs to one thread
      obtain rfl := (String.append_right_inj "bt_").1 heq
      exact henters (hkeeps (hs.apart k' k token hold htoken'))
  · refine ⟨List.mem_cons_self, Option.eq_none_iff_forall_ne_some.2 fun y hy => ?_⟩
    obtain h | ⟨-, -, henters, -⟩ := hs.of_found_ran hk hy
    · -- no target has an identifier that was not drawn before
      obtain ⟨token', htoken', heq⟩ := (hs.found _ y h).1
      obtain rfl := (String.append_right_inj "bt_").1 heq
      exact hu htoken'
    · exact henters hkeeps

theorem apart_ran (hs : s.Bound) (hk : s.threads.get? k = some th) (hu : uuid ∉ s.drawn)
    {k₁ k₂ : ℕ} {token : String} (h₁ : (s.ran k th uuid b p).tokenOf k₁ = some token)
    (h₂ : (s.ran k th uuid b p).tokenOf k₂ = some token) : k₁ = k₂ := by
  obtain ⟨hold₁, -⟩ | ⟨rfl, rfl, -⟩ := of_tokenOf_ran hk h₁ <;>
    obtain ⟨hold₂, -⟩ | ⟨rfl, heq, -⟩ := of_tokenOf_ran hk h₂
  · exact hs.apart k₁ k₂ token hold₁ hold₂
  · exact absurd (heq ▸ (hs.tokens k₁ token hold₁).1) hu
  · exact absurd (hs.tokens k₂ token hold₂).1 hu
  · rfl

theorem targets_ran (hs : s.Bound) (hk : s.threads.get? k = some th)
    (hstep : th.program.step uuid s.now s.broker = some (b, p)) {targetId : String}
    {record : Target} (hrecord : b.targets.get? targetId = some record) :
    (s.ran k th uuid b p).found.get? targetId = some record.sessionId ∧
      (record.backendNodeId, record.sessionId) ∈ s.observed := by
  obtain h | h | ⟨targetId', record', hp, h⟩ := Program.step_targets hstep
  · rw [h] at hrecord
    exact ⟨hs.found_ran hk (hs.targets _ _ hrecord).1, (hs.targets _ _ hrecord).2⟩
  · rw [h] at hrecord
    cases hrecord
  · rw [h] at hrecord
    obtain ⟨rfl, rfl⟩ | ⟨-, hrecord⟩ := Dict.of_get?_set hrecord
    · -- the target that the step enters
      obtain ⟨-, node, session, henters, hnode, hread⟩ := hs.threads k th hk
      rw [hp] at henters
      obtain ⟨hdescribed, hstamp, -⟩ := henters.1
      obtain ⟨heq, -⟩ := hread _ hstamp
      refine ⟨?_, heq ▸ hnode _ hdescribed⟩
      simp only [CdpRun.ran, hp, Program.enters, Dict.get?_set_self, heq]
    · exact ⟨hs.found_ran hk (hs.targets _ _ hrecord).1, (hs.targets _ _ hrecord).2⟩

theorem earlier_ran (hs : s.Bound) (hk : s.threads.get? k = some th) (hcall : th.call = none)
    (hu : uuid ∉ s.drawn) (hstep : th.program.step uuid s.now s.broker = some (b, p)) {k' : ℕ}
    {th' : CdpThread} (hk' : (s.ran k th uuid b p).threads.get? k' = some th')
    (he : th'.earlier = true) : (s.ran k th uuid b p).Refusing th' := by
  have hdrawn : s.drawn ⊆ (s.ran k th uuid b p).drawn := List.subset_cons_self _ _
  obtain ⟨rfl, rfl⟩ | ⟨-, hk'⟩ := Dict.of_get?_set hk'
  · obtain ⟨-, hrequests, targetId, session, n, hfound, hsession, hne, hanswers, hsteps⟩ :=
      hs.earlier _ th hk he
    obtain hanswers | hanswers := hanswers
    · obtain ⟨m, rfl, hanswers'⟩ := hanswers.step (hs.outdated hfound hne) hstep
      exact ⟨hcall, hrequests, targetId, session, m, hs.found_ran hk hfound, hdrawn hsession,
        sessionId_ran_ne hu hstep hsession hne, hanswers'.imp_right And.right,
        by dsimp only; omega⟩
    · rw [hanswers] at hstep
      cases hstep
  · exact (hs.earlier k' th' hk' he).mono (fun _ _ h => hs.found_ran hk h) hdrawn
      fun _ hx hne => sessionId_ran_ne hu hstep hx hne

/-- A step of a thread that is not a request. -/
theorem ran (hs : s.Bound) (hk : s.threads.get? k = some th) (hcall : th.call = none)
    (hu : uuid ∉ s.drawn) (hstep : th.program.step uuid s.now s.broker = some (b, p))
    (hin : th.program.stamps = true → th.replied = s.broker.sessionId) :
    (s.ran k th uuid b p).Bound where
  session _ hx := hs.session_ran hstep hx
  threads _ _ hk' := hs.threads_ran hk hcall hstep hin hk'
  tokens _ _ htoken := hs.tokens_ran hk hu htoken
  apart _ _ _ h₁ h₂ := hs.apart_ran hk hu h₁ h₂
  found targetId y hy := by
    have hdrawn : s.drawn ⊆ (s.ran k th uuid b p).drawn := List.subset_cons_self _ _
    obtain h | ⟨-, hx, -, token, htoken, rfl⟩ := hs.of_found_ran hk hy
    · obtain ⟨⟨token, htoken, heq⟩, hx⟩ := hs.found targetId y h
      exact ⟨⟨token, hdrawn htoken, heq⟩, fun x h => hdrawn (hx x h)⟩
    · exact ⟨⟨token, hdrawn (hs.tokens k token htoken).1, rfl⟩, fun x h => hdrawn (hx x h)⟩
  targets _ _ hrecord := hs.targets_ran hk hstep hrecord
  earlier _ _ hk' he := hs.earlier_ran hk hcall hu hstep hk' he

end Ran

/-- The thread of a command. -/
theorem command (hs : s.Bound) (k : ℕ) (host : Host) (op : Operation) :
    (s.moved k (s.commanded (op.task host)) s.lock).Bound := by
  refine hs.moved _ (fun _ h => by cases h)
    (.idle rfl (fun _ h => by cases h) (op.enters host)) fun he => ?_
  change s.isEarlier (op.task host).target = true at he
  unfold isEarlier at he
  split at he
  · rename_i session hfound
    obtain ⟨targetId, htarget, hfound⟩ := Option.bind_eq_some_iff.1 hfound
    exact ⟨rfl, rfl, targetId, session, _, hfound, (hs.found _ _ hfound).2 session rfl,
      of_decide_eq_true he, .inl (op.answers host session htarget), (Nat.zero_add _).le⟩
  · cases he

/-- A thread goes on within its request. -/
theorem called (hs : s.Bound) {k : ℕ} {th : CdpThread} {call : Call}
    (hk : s.threads.get? k = some th) (hcall : th.call = some call) (call' : Call)
    (lock : Option ℕ) :
    (s.moved k { th with call := some call' } lock).Bound := by
  have hknows := hs.threads k th hk
  refine hs.moved lock (fun _ h => tokenOf_of_get? hk h)
    ⟨fun _ => hknows.call (by rw [hcall]; exact Option.some_ne_none _), hknows.enters⟩ fun he => ?_
  -- a command that is refused is in no request
  cases hcall.symm.trans (hs.earlier k th hk he).call

/-- The request of a thread is answered. -/
theorem answered (hs : s.Bound) {k : ℕ} {th : CdpThread} {call : Call}
    (hk : s.threads.get? k = some th) (hcall : th.call = some call) (lock : Option ℕ)
    (a : Except CdpError CdpResult) (y : Option String)
    (hnode : ∀ n, describedBy th.method a = some n → (n, y) ∈ s.observed) :
    (s.moved k { th.answered a with replied := y } lock).Bound := by
  refine hs.moved lock (fun _ h => tokenOf_of_get? hk ((th.token_answered a).symm.trans h))
    ((hs.threads k th hk).answered (by rw [hcall]; exact Option.some_ne_none _) a y hnode)
    fun he => ?_
  cases hcall.symm.trans (hs.earlier k th hk ((th.earlier_answered a).symm.trans he)).call

/-- The request of a thread ends with an exception. -/
theorem raised (hs : s.Bound) {k : ℕ} {th : CdpThread} {call : Call}
    (hk : s.threads.get? k = some th) (hcall : th.call = some call) (lock : Option ℕ)
    (e : CdpError) : (s.raised k th lock e).Bound := by
  have h := hs.answered hk hcall lock (.error e) th.replied fun _ h => by cases h
  rwa [show { th.answered (.error e) with replied := th.replied } = th.answered (.error e) by
    rw [← th.replied_answered (.error e)]] at h

/-- A reply is taken out of the table. -/
theorem replied (hs : s.Bound) {k c id : ℕ} {th : CdpThread} {r : Reply}
    (hk : s.threads.get? k = some th) (hcall : th.call = some (.waiting c id)) :
    (s.replied k th c id r).Bound := by
  have hseen : Bound { s with observed := s.observed ++
      ((describedBy th.method r.answer).map (·, s.sessionOf r.connection)).toList } :=
    hs.quiet rfl rfl rfl rfl rfl (List.subset_append_left _ _)
  have hgoes := hseen.answered hk hcall s.lock r.answer (s.sessionOf r.connection) fun n hn => by
    -- the node that the reply describes was added
    refine List.mem_append_right _ ?_
    rw [hn]
    exact List.mem_singleton_self _
  exact hgoes.quiet rfl rfl rfl rfl rfl (List.Subset.refl _)

theorem step (hs : s.Bound) {e : CdpEvent} (hok : IsCommand s e) (hin : s.InSession e)
    (h : s.Step e t) : t.Bound := by
  have hsame : s.observed ⊆ s.observed := List.Subset.refl _
  cases h with
  | command hk =>
    obtain ⟨host, op, rfl⟩ := hok
    exact hs.command _ host op
  | @begins k input th method params next hk hcall hp =>
    refine hs.moved _ (fun _ h => tokenOf_of_get? hk h)
      ⟨fun _ => ⟨method, params, next, hp⟩, (hs.threads k th hk).enters⟩ fun he => ?_
    -- a command that is refused makes no request
    exact absurd hp ((hs.earlier k th hk he).program_ne (fun _ => nofun) fun _ _ _ => rfl)
  | ran hk hcall hu hstep => exact hs.ran hk hcall hu hstep (hin _ hk)
  | @started k input th p next hk hcall hp hj =>
    obtain ⟨-, node, session, henters, hnode, hread⟩ := hs.threads k th hk
    rw [hp] at henters
    have hgoes : (s.moved k { th with program := next } s.lock).Bound := by
      refine hs.moved _ (fun _ h => tokenOf_of_get? hk h)
        ⟨fun hne => absurd hcall hne, node, session, henters.2, hnode, hread⟩ fun he => ?_
      exact absurd hp ((hs.earlier k th hk he).program_ne (fun _ => nofun) fun _ _ _ => rfl)
    exact hgoes.moved s.lock (fun _ h => by cases h)
      (.idle rfl (fun _ h => by cases h) henters.1) fun he => by cases he
  | @sentAsync k input th method params next fails hk hcall hp =>
    obtain ⟨-, node, session, henters, hnode, hread⟩ := hs.threads k th hk
    rw [hp] at henters
    have hgoes : (s.moved k { th with program := next } none).Bound := by
      refine hs.moved _ (fun _ h => tokenOf_of_get? hk h)
        ⟨fun hne => absurd hcall hne, node, session, henters, hnode, hread⟩ fun he => ?_
      exact absurd hp ((hs.earlier k th hk he).program_ne (fun _ => nofun) fun _ _ _ => rfl)
    unfold CdpRun.sentAsync
    split
    · exact hgoes
    · exact hgoes.quiet rfl rfl rfl rfl rfl hsame
  | moved lock hk hcall hwaits => exact hs.called hk hcall _ lock
  | connected hk hcall hc => exact (hs.called hk hcall _ s.lock).quiet rfl rfl rfl rfl rfl hsame
  | assigned hk hcall => exact (hs.called hk hcall _ s.lock).quiet rfl rfl rfl rfl rfl hsame
  | sent hk hcall => exact (hs.called hk hcall _ none).quiet rfl rfl rfl rfl rfl hsame
  | @failed k input th c message hk hcall =>
    exact (hs.called hk hcall _ (some k)).quiet rfl rfl rfl rfl rfl hsame
  | raised lock e hk hcall => exact hs.raised hk hcall lock e
  | @gaveUp k input th c c' message hk hcall hws =>
    exact (hs.raised hk hcall none
      (.runtime ("CDP communication failed: " ++ message))).quiet rfl rfl rfl rfl rfl hsame
  | replied hk hcall hr => exact hs.replied hk hcall
  | arrived outcome hsent => exact hs.quiet rfl rfl rfl rfl rfl hsame
  | @page session r requestId k hk =>
    have henters : (Program.handleCdpEvent requestId r).Enters none none none :=
      (Program.sends_handleCdpEvent requestId r).enters
    have hhandled : (s.moved k { program := .handleCdpEvent requestId r } s.lock).Bound :=
      hs.moved s.lock (fun _ h => by cases h) (.idle rfl (fun _ h => by cases h) henters)
        fun he => by cases he
    split_ifs
    · exact hhandled.quiet rfl rfl rfl rfl rfl hsame
    · exact hs.quiet rfl rfl rfl rfl rfl hsame
  | exit => exact hs.quiet rfl rfl rfl rfl rfl hsame
  | clock now => exact hs.quiet rfl rfl rfl rfl rfl hsame

/-- **Targets are bound to the session of their browser.** -/
theorem holds (h : (commands.restrict InSession).Reachable s) : s.Bound :=
  System.Invariant.holds (I := Bound)
    { init := fun _ h => by
        obtain ⟨profileDir, now, rfl⟩ := h
        exact .init profileDir now
      step := fun _ _ _ hs h => by
        obtain ⟨hin, hok, hnext⟩ := h
        exact hs.step hok hin (next_step hnext) } h

end Bound

/-- The command of a thread is refused: it has made no request, and has answered or goes on with one
of a few steps that is not a request.  While the browser runs, a step that answers gives the
refusal. -/
structure Refused (s : CdpRun) (k : ℕ) (th : CdpThread) : Prop where
  requests : th.requests = 0
  steps : th.steps ≤ if th.submits then 7 else 3
  answered : ∀ r, th.program = .respond r → Refusal th.submits r ∨ r = notRunning
  goes : (∃ r, th.program = .respond r) ∨ ∀ input, input.uuid ∉ s.drawn → ∃ b p,
    s.next (.run k input) = some (s.ran k th input.uuid b p) ∧
      (s.broker.process ≠ none → ∀ r, p = .respond r → Refusal th.submits r)

/-- A thread that refuses its command is never stopped. -/
theorem Bound.refused (hs : s.Bound) {k : ℕ} {th : CdpThread} (hk : s.threads.get? k = some th)
    (he : th.earlier = true) : s.Refused k th := by
  have hrefusing := hs.earlier k th hk he
  obtain ⟨targetId, session, n, hfound, -, hne, hanswers, hsteps⟩ := hrefusing.program
  refine ⟨hrefusing.requests, (Nat.le_add_right _ _).trans hsteps, fun r hr => ?_, ?_⟩
  · rw [hr] at hanswers
    exact hanswers.imp Program.Answers.of_respond Program.respond.inj
  obtain hanswered | hgoes := hrefusing.progress
  · exact .inl hanswered
  refine .inr fun input hu => ?_
  obtain ⟨⟨b, p⟩, hstep⟩ := Option.isSome_iff_exists.1 (hgoes input.uuid s.now s.broker)
  refine ⟨b, p, ?_, fun hup r hr => ?_⟩
  · simp only [next, hk, Option.bind_some, runThread, hrefusing.call]
    split
    case h_4 => rw [if_neg hu, hstep, Option.map_some]
    all_goals
      rename_i hp
      rw [hp] at hstep
      cases hstep
  · obtain hanswers | hanswers := hanswers
    · obtain ⟨m, -, hanswers' | ⟨hdown, -⟩⟩ := hanswers.step (hs.outdated hfound hne) hstep
      · rw [hr] at hanswers'
        exact hanswers'.of_respond
      · exact absurd hdown hup
    · rw [hanswers] at hstep
      cases hstep

/-- **Targets are bound to their sessions, and those of earlier sessions are refused.** -/
theorem targets_bound (h : (commands.restrict InSession).Reachable s) :
    (∀ targetId record, s.broker.targets.get? targetId = some record →
      (record.backendNodeId, record.sessionId) ∈ s.observed) ∧
    ∀ k th, s.threads.get? k = some th → th.earlier = true → s.Refused k th := by
  have hs := Bound.holds h
  exact ⟨fun targetId record hrecord => (hs.targets targetId record hrecord).2,
    fun k th hk he => hs.refused hk he⟩

/-! ### A restart between two steps of a search -/

/-- A search finds one element, up to the description of its node. -/
def findRun (k c id node : ℕ) (session : String) : List CdpEvent :=
  [ask k (.find [])] ++ steps k [session ++ "q"] ++ connectRun k c session ++
    answerRun k c (id + 1) {} ++ acquireRun k ++
    answerRun k c (id + 2) { result := { objectId := some "array" } } ++ acquireRun k ++
    answerRun k c (id + 3) { properties := [⟨"0", { objectId := some "item" }⟩] } ++ acquireRun k ++
    answerRun k c (id + 4) { properties := [⟨"node", { objectId := some "node" }⟩] } ++
    acquireRun k ++ answerRun k c (id + 5) { backendNodeId := some node }

/-- The target is entered. -/
def enterRun (k : ℕ) (session : String) : List CdpEvent :=
  steps k (["t", "u", "v"].map (session ++ ·))

theorem isCommand_findRun (s : CdpRun) (k c id node : ℕ) (session : String) :
    ∀ e ∈ findRun k c id node session, IsCommand s e := by
  have hacquire := isCommand_acquireRun s k
  have hanswer := isCommand_answerRun s k c
  simp only [findRun, List.forall_mem_append, List.forall_mem_singleton]
  exact ⟨⟨⟨⟨⟨⟨⟨⟨⟨⟨⟨isCommand_ask s k _, isCommand_steps s k _⟩, isCommand_connectRun s k c _⟩,
    hanswer _ _⟩, hacquire⟩, hanswer _ _⟩, hacquire⟩, hanswer _ _⟩, hacquire⟩, hanswer _ _⟩,
    hacquire⟩, hanswer _ _⟩

/-- The browser is restarted between two searches, and the target of the first is clicked. -/
def clickedRun : List CdpEvent :=
  startRun 0 "s1" ++ findRun 1 1 0 7 "s1" ++ enterRun 1 "s1" ++ restartRun 2 "s2" ++
    findRun 3 2 5 9 "s2" ++ enterRun 3 "s2" ++ [ask 4 (.click (.str "bt_s1t"))] ++
    steps 4 ["x", "y"]

theorem targets_bound_clicked : ∃ (s : CdpRun) (record : Target) (th : CdpThread),
    s.broker.targets.get? "bt_s2t" = some record ∧ record.sessionId = s.broker.sessionId ∧
      (record.backendNodeId, record.sessionId) ∈ s.observed ∧ s.threads.get? 4 = some th ∧
        th.earlier = true ∧ s.Refused 4 th := by
  have hrun : (System.runFn (System.guardFn InSession next) (init "colab" 0) clickedRun).map
      (fun s => ((s.broker.targets.get? "bt_s2t").map fun record =>
        decide (record.sessionId = s.broker.sessionId), (s.threads.get? 4).map (·.earlier))) =
      some (some true, some true) := by
    decide +kernel
  obtain ⟨s, hs, heq⟩ := Option.map_eq_some_iff.1 hrun
  obtain ⟨hrecord, hth⟩ := Prod.mk.inj heq
  obtain ⟨record, hrecord, hsession⟩ := Option.map_eq_some_iff.1 hrecord
  obtain ⟨th, hth, he⟩ := Option.map_eq_some_iff.1 hth
  have hcommands : ∀ s, ∀ e ∈ clickedRun, IsCommand s e := by
    intro s
    simp only [clickedRun, List.forall_mem_append, List.forall_mem_singleton]
    exact ⟨⟨⟨⟨⟨⟨⟨isCommand_startRun s 0 _, isCommand_findRun s 1 1 0 7 _⟩, isCommand_steps s 1 _⟩,
      isCommand_restartRun s 2 _⟩, isCommand_findRun s 3 2 5 9 _⟩, isCommand_steps s 3 _⟩,
      isCommand_ask s 4 _⟩, isCommand_steps s 4 _⟩
  have hreach : (commands.restrict InSession).Reachable s := by
    refine System.Reachable.runFn (.init ⟨"colab", 0, rfl⟩) (fun s e he t h => ?_) hs
    obtain ⟨hin, hnext⟩ := Option.ite_none_right_eq_some.1 h
    exact ⟨hin, hcommands s e he, hnext⟩
  obtain ⟨hbound, hrefused⟩ := targets_bound hreach
  exact ⟨s, record, th, hrecord, of_decide_eq_true hsession, hbound _ _ hrecord, hth, he,
    hrefused 4 th hth he⟩

/-- The browser is restarted before the session of the target is read. -/
def lateRun : List CdpEvent :=
  startRun 0 "s1" ++ findRun 1 1 0 7 "s1" ++ restartRun 2 "s2" ++ enterRun 1 "s1"

/-- The browser is stopped, and a target that was found before is clicked. -/
def stoppedRun : List CdpEvent :=
  startRun 0 "s1" ++ findRun 1 1 0 7 "s1" ++ enterRun 1 "s1" ++ [ask 2 .stopBrowser] ++
    steps 2 ["a", "b", "c", "d", "e", "f", "g", "h"] ++ [ask 3 (.click (.str "bt_s1t"))] ++
    steps 3 ["x"]

/-- A target of the current session may have a node that its browser never described, and a command
on a target of an earlier session may be told that the browser is not running. -/
theorem not_bound :
    (¬ ∀ s, commands.Reachable s → ∀ targetId record,
      s.broker.targets.get? targetId = some record → record.sessionId = s.broker.sessionId →
        (record.backendNodeId, s.broker.sessionId) ∈ s.observed) ∧
    ¬ ∀ s, commands.Reachable s → ∀ k th r, s.threads.get? k = some th → th.earlier = true →
      th.program = .respond r → r = error "TARGET_STALE" := by
  constructor
  · intro h
    have hrun : (System.runFn next (init "colab" 0) lateRun).map
        (fun s => ((s.broker.targets.get? "bt_s1t").map fun record =>
          (record.backendNodeId, record.sessionId), s.broker.sessionId, s.observed)) =
        some (some (7, some "s2"), some "s2", [(7, some "s1")]) := by
      decide +kernel
    have hcommands : ∀ s, ∀ e ∈ lateRun, IsCommand s e := by
      intro s
      simp only [lateRun, List.forall_mem_append]
      exact ⟨⟨⟨isCommand_startRun s 0 _, isCommand_findRun s 1 1 0 7 _⟩,
        isCommand_restartRun s 2 _⟩, isCommand_steps s 1 _⟩
    obtain ⟨s, hs, heq⟩ := Option.map_eq_some_iff.1 hrun
    simp only [Prod.mk.injEq] at heq
    obtain ⟨hrecord, hsession, hobserved⟩ := heq
    obtain ⟨record, hrecord, heq⟩ := Option.map_eq_some_iff.1 hrecord
    obtain ⟨hnode, hstamp⟩ := Prod.mk.inj heq
    have hmem := h s (reachable_commands hcommands hs) _ record hrecord (hstamp.trans hsession.symm)
    rw [hnode, hsession, hobserved] at hmem
    exact absurd hmem (by decide)
  · intro h
    have hrun : (System.runFn next (init "colab" 0) stoppedRun).map
        (fun s => (s.threads.get? 3).map fun th => (th.earlier, th.program.message)) =
        some (some (true, some "Browser is not running.")) := by
      decide +kernel
    have hcommands : ∀ s, ∀ e ∈ stoppedRun, IsCommand s e := by
      intro s
      simp only [stoppedRun, List.forall_mem_append, List.forall_mem_singleton]
      exact ⟨⟨⟨⟨⟨⟨isCommand_startRun s 0 _, isCommand_findRun s 1 1 0 7 _⟩, isCommand_steps s 1 _⟩,
        isCommand_ask s 2 _⟩, isCommand_steps s 2 _⟩, isCommand_ask s 3 _⟩, isCommand_steps s 3 _⟩
    obtain ⟨s, hs, hth⟩ := Option.map_eq_some_iff.1 hrun
    obtain ⟨th, hth, heq⟩ := Option.map_eq_some_iff.1 hth
    obtain ⟨he, hmessage⟩ := Prod.mk.inj heq
    obtain ⟨r, hp⟩ := Program.exists_of_message hmessage
    have hstale := h s (reachable_commands hcommands hs) 3 th r hth he hp
    rw [hp, hstale] at hmessage
    exact absurd hmessage (by decide)

end CdpRun

end Browser

end AnnyRuntime
