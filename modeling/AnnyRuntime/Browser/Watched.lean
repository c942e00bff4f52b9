import AnnyRuntime.Browser.Cdp

/-!
# A submission while the browser goes on

A thread runs its program (`Program.exec`) while the listeners decide about paused requests, other
threads continue them, and other commands change the broker (`Happening`).  All that happens before
a step of the thread, and what the step is answered, is a `Moment`.

What happens never arms an authorization and issues none again (`Scene.Follows`), so that what is
armed stays armed until it is taken away.
-/

namespace AnnyRuntime

namespace Browser

/-- What can happen between two steps of a thread. -/
inductive Happening where
  /-- A listener reads what is armed, for a request that the browser paused. -/
  | paused (r : PausedRequest)
  /-- A listener that has read decides about its request. -/
  | decided (k : ℕ)
  /-- The browser answers a command to continue a request. -/
  | continued (k : ℕ) (accepts : Bool)
  /-- Starting or stopping clears what is armed. -/
  | cleared
  /-- Another submission consumes an authorization. -/
  | spent (authId : String)
  /-- Another command, or the end of the browser, changes the rest of the broker. -/
  | changed (b : Broker)

/-- The broker, the threads around it, and what is recorded of them. -/
structure Scene where
  broker : Broker
  /-- The requests that listeners decide about, and what each has read. -/
  reading : List (PausedRequest × Option PendingSubmissionAuthorization)
  /-- What the requests were continued with that the browser has not answered for yet. -/
  continuing : List PendingSubmissionAuthorization
  /-- What the requests were continued with that the browser accepted. -/
  accepted : List PendingSubmissionAuthorization
  /-- How often what is armed was taken away. -/
  taken : ℕ

/-- What is armed is taken away. -/
def Scene.disarm (s : Scene) : Scene :=
  { s with broker := { s.broker with pendingSubmission := none }, taken := s.taken + 1 }

/-- What happens changes the scene. -/
def Happening.apply (s : Scene) : Happening → Scene
  | paused r =>
    if r.Safe then s else { s with reading := s.reading ++ [(r, s.broker.pendingSubmission)] }
  | decided k =>
    match s.reading[k]? with
    | none => s
    | some (r, read) =>
      match matching read r with
      | none => { s with reading := s.reading.eraseIdx k }
      | some p =>
        { s.disarm with reading := s.reading.eraseIdx k, continuing := s.continuing ++ [p] }
  | continued k accepts =>
    match s.continuing[k]? with
    | none => s
    | some p =>
      { s with
        continuing := s.continuing.eraseIdx k
        accepted := if accepts then s.accepted ++ [p] else s.accepted }
  | cleared => s.disarm
  | spent authId =>
    { s with
      broker :=
        { s.broker with issuedAuthorizations := s.broker.issuedAuthorizations.erase authId } }
  | changed b =>
    { s with
      broker :=
        { b with
          pendingSubmission := s.broker.pendingSubmission
          issuedAuthorizations := s.broker.issuedAuthorizations } }

/-- What comes before a step of the thread, and what the step is answered. -/
structure Moment where
  happenings : List Happening := []
  time : ℤ := 0
  uuid : String := ""
  answer : Except CdpError CdpResult := .ok {}

namespace Scene

/-- The scene when a moment has passed. -/
def during (s : Scene) (m : Moment) : Scene := m.happenings.foldl Happening.apply s

/-- The scene when `k` moments have passed, from the `n`-th on. -/
def after (env : ℕ → Moment) : ℕ → ℕ → Scene → Scene
  | _, 0, s => s
  | n, k + 1, s => after env (n + 1) k (s.during (env n))

/-- The thread changes the broker. -/
def withBroker (s : Scene) (b : Broker) : Scene := { s with broker := b }

end Scene

/-- How a program ends: its response, the scene then, and what the browser answered it. -/
structure Ended where
  response : Response
  scene : Scene
  answers : List (String × Except CdpError CdpResult)

/-- A thread runs its program, from the `n`-th moment on. -/
def Program.exec (env : ℕ → Moment) : Program → ℕ → Scene → Ended
  | .respond r, n, s => ⟨r, s.during (env n), []⟩
  | .request method _ next, n, s =>
    let ended := (next (env n).answer).exec env (n + 1) (s.during (env n))
    { ended with answers := (method, (env n).answer) :: ended.answers }
  | .sendAsync _ _ next, n, s => next.exec env (n + 1) (s.during (env n))
  | .start _ next, n, s => next.exec env (n + 1) (s.during (env n))
  | .running next, n, s =>
    let s := s.during (env n)
    (next s.broker.process.isSome).exec env (n + 1) s
  | .read next, n, s =>
    let s := s.during (env n)
    (next s.broker).exec env (n + 1) s
  | .stamp next, n, s =>
    let s := s.during (env n)
    (next s.broker.sessionId).exec env (n + 1) s
  | .write w next, n, s =>
    let s := s.during (env n)
    next.exec env (n + 1) (s.withBroker (w.apply s.broker))
  | .consume authId next, n, s =>
    let s := s.during (env n)
    (next (s.broker.issuedAuthorizations.get? authId).isSome).exec env (n + 1) <|
      s.withBroker
        { s.broker with issuedAuthorizations := s.broker.issuedAuthorizations.erase authId }
  | .draw next, n, s => (next (env n).uuid).exec env (n + 1) (s.during (env n))
  | .clock next, n, s => (next (env n).time).exec env (n + 1) (s.during (env n))
  | .lifecycle x next, n, s =>
    let s := s.during (env n)
    match x.run (env n).uuid s.broker with
    | (b, none) => next.exec env (n + 1) (s.withBroker b)
    | (b, some response) => ⟨response, (s.withBroker b).during (env (n + 1)), []⟩

variable {env : ℕ → Moment} {s s' s'' : Scene} {p p' : Program} {n k : ℕ}

/-- The steps of a thread are those of its program. -/
theorem Program.exec_step {b : Broker}
    (h : p.step (env n).uuid (env n).time (s.during (env n)).broker = some (b, p')) :
    p.exec env n s = p'.exec env (n + 1) ((s.during (env n)).withBroker b) := by
  cases p with
  | lifecycle x next =>
    obtain ⟨⟨b', answer⟩, hrun⟩ : ∃ r, x.run (env n).uuid (s.during (env n)).broker = r := ⟨_, rfl⟩
    simp only [Program.step, hrun] at h
    simp only [Program.exec, hrun]
    cases answer with
    | none =>
      cases h
      rfl
    | some response =>
      cases h
      rfl
  | respond | request | sendAsync | start => cases h
  | running | read | stamp | write | consume | draw | clock =>
    cases h
    rfl

/-! ### What happens arms nothing -/

/-- A scene comes after another one, and the thread armed nothing in between. -/
structure Scene.Follows (s s' : Scene) : Prop where
  pending : s'.taken = s.taken ∧ s'.broker.pendingSubmission = s.broker.pendingSubmission ∨
    s.taken < s'.taken ∧ s'.broker.pendingSubmission = none
  issued : ∀ authId, s.broker.issuedAuthorizations.get? authId = none →
    s'.broker.issuedAuthorizations.get? authId = none

namespace Scene.Follows

theorem refl (s : Scene) : s.Follows s := ⟨.inl ⟨rfl, rfl⟩, fun _ h => h⟩

theorem trans (h : s.Follows s') (h' : s'.Follows s'') : s.Follows s'' where
  pending := by
    rcases h.pending with ⟨ht, hp⟩ | ⟨ht, hp⟩ <;> rcases h'.pending with ⟨ht', hp'⟩ | ⟨ht', hp'⟩
    · exact .inl ⟨ht'.trans ht, hp'.trans hp⟩
    · exact .inr ⟨ht ▸ ht', hp'⟩
    · exact .inr ⟨ht' ▸ ht, hp'.trans hp⟩
    · exact .inr ⟨ht.trans ht', hp'⟩
  issued := fun authId hnone => h'.issued authId (h.issued authId hnone)

/-- Nothing is armed in the end exactly when nothing was, or it was taken away. -/
theorem pending_eq_none_iff (h : s.Follows s') : s'.broker.pendingSubmission = none ↔
    s.broker.pendingSubmission = none ∨ s.taken < s'.taken := by
  rcases h.pending with ⟨ht, hp⟩ | ⟨ht, hp⟩
  · rw [hp, ht]
    simp
  · exact iff_of_true hp (.inr ht)

theorem disarm (s : Scene) : s.Follows s.disarm := ⟨.inr ⟨Nat.lt_succ_self _, rfl⟩, fun _ h => h⟩

/-- Consuming an authorization. -/
theorem erase (s : Scene) (authId : String) : s.Follows (s.withBroker
    { s.broker with issuedAuthorizations := s.broker.issuedAuthorizations.erase authId }) where
  pending := .inl ⟨rfl, rfl⟩
  issued := fun authId' h => by
    change (s.broker.issuedAuthorizations.erase authId).get? authId' = none
    rw [Dict.get?_erase, h, ite_self]

theorem apply (s : Scene) (h : Happening) : s.Follows (h.apply s) := by
  cases h with
  | paused r =>
    simp only [Happening.apply]
    split_ifs
    · exact refl s
    · exact ⟨.inl ⟨rfl, rfl⟩, fun _ h => h⟩
  | decided k =>
    simp only [Happening.apply]
    split
    · exact refl s
    · split
      · exact ⟨.inl ⟨rfl, rfl⟩, fun _ h => h⟩
      · exact ⟨.inr ⟨Nat.lt_succ_self _, rfl⟩, fun _ h => h⟩
  | continued k accepts =>
    simp only [Happening.apply]
    split
    · exact refl s
    · exact ⟨.inl ⟨rfl, rfl⟩, fun _ h => h⟩
  | cleared => exact disarm s
  | spent authId => exact erase s authId
  | changed b => exact ⟨.inl ⟨rfl, rfl⟩, fun _ h => h⟩

theorem during (s : Scene) (m : Moment) : s.Follows (s.during m) := by
  unfold Scene.during
  induction m.happenings generalizing s with
  | nil => exact refl s
  | cons h hs ih => exact (apply s h).trans (ih _)

theorem after (env : ℕ → Moment) (n k : ℕ) (s : Scene) : s.Follows (s.after env n k) := by
  induction k generalizing n s with
  | zero => exact refl s
  | succ k ih => exact (during s (env n)).trans (ih _ _)

end Scene.Follows

/-! ### Programs that arm nothing -/

/-- The program assigns nothing. -/
def Program.Quiet : Program → Prop
  | .respond _ => True
  | .request _ _ next => ∀ a, (next a).Quiet
  | .running next => ∀ up, (next up).Quiet
  | .read next => ∀ b, (next b).Quiet
  | .consume _ next => ∀ found, (next found).Quiet
  | .clock next => ∀ now, (next now).Quiet
  | _ => False

theorem Program.Quiet.follows (h : p.Quiet) (n : ℕ) (s : Scene) :
    s.Follows (p.exec env n s).scene := by
  induction p generalizing n s with
  | respond r => exact .during s _
  | request method params next ih => exact (Scene.Follows.during s _).trans (ih _ (h _) _ _)
  | running next ih | read next ih | clock next ih =>
    exact (Scene.Follows.during s _).trans (ih _ (h _) _ _)
  | consume authId next ih =>
    exact ((Scene.Follows.during s _).trans (.erase _ authId)).trans (ih _ (h _) _ _)
  | sendAsync | start | stamp | write | draw | lifecycle => cases h

end Browser

end AnnyRuntime
