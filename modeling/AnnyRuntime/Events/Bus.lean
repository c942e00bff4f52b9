import AnnyRuntime.Json.Basic
import AnnyRuntime.Lib.Dict
import AnnyRuntime.Lib.Transition
import Mathlib.Data.List.Nodup
import Mathlib.Data.Prod.Lex
import Mathlib.Order.WellFounded

/-!
# The event bus

`emit` appends an event to the history and calls the handlers of its type, one after the other.  A
handler may subscribe and unsubscribe handlers and emit events itself, and what it raises is caught.
So an emission is run step by step here, on a stack of emissions (`Run.step`); what the calls of the
handlers do is open (`Behaviour`).

The loop goes through the list of the subscribers itself, not through a copy: a handler that
unsubscribes itself makes it skip the next one.

* `history_of_reachable` : the history is always the last 100 events.
* `delivery_of_undisturbed` : **while each loop finds the handlers where they were when its event
  was emitted, every handler is called exactly once, in this order, and the emission ends** when
  only so many events are emitted.
* `not_delivers` : a handler that unsubscribes itself.
-/

namespace AnnyRuntime

namespace Events

/-! ### Events -/

/-- `EventType`. -/
inductive EventType where
  | sessionAttached
  | sessionDetached
  | workspaceCreated
  | workspaceReady
  | workspaceDestroyed
  | processStarted
  | processOutput
  | processExited
  | executionStarted
  | executionCompleted
  | executionFailed
  | runtimeHealthChanged
  | updateAvailable
  | updateCompleted
  | updateFailed
  | runtimeStarted
  | runtimeStopping
  | runtimeRecovery
  | generationIncremented
  | bootstrapStarted
  | githubDiscovered
  | organizationDiscovered
  | repositoriesDiscovered
  | operationalRepositoryResolved
  | canonicalStateLoaded
  | currentMissionResolved
  | blockersLoaded
  | nextActionLoaded
  | continuityReconciled
  | bootstrapCompleted
  deriving DecidableEq

/-- `Event`. -/
structure Event where
  eventType : EventType
  source : String
  tenantId : Option String := none
  accountId : Option String := none
  projectId : Option String := none
  payload : List (String × Json) := []
  timestamp : PyFloat
  deriving DecidableEq

/-- `_history_limit`. -/
def historyLimit : ℕ := 100

/-- The last events, no more than the limit. -/
def lastEvents (es : List Event) : List Event := es.drop (es.length - historyLimit)

/-! ### The bus -/

/-- `EventBus`. -/
structure EventBus (H : Type) where
  subscribers : Dict EventType (List H)
  history : List Event
  /-- A handler is subscribed once. -/
  nodup : ∀ t hs, subscribers.get? t = some hs → hs.Nodup
  /-- The history is not longer than its limit. -/
  limited : history.length ≤ historyLimit

section Bus

variable {H : Type}

namespace EventBus

/-- The subscribers of a type. -/
def handlers (b : EventBus H) (t : EventType) : List H := (b.subscribers.get? t).getD []

theorem nodup_handlers (b : EventBus H) (t : EventType) : (b.handlers t).Nodup := by
  rw [handlers]
  cases ht : b.subscribers.get? t with
  | none => exact List.nodup_nil
  | some hs => exact b.nodup t hs ht

/-- A bus with other subscribers of a type. -/
def withHandlers (b : EventBus H) (t : EventType) (hs : List H) (h : hs.Nodup) : EventBus H where
  subscribers := b.subscribers.set t hs
  history := b.history
  nodup t' hs' ht' := by
    rcases Dict.of_get?_set ht' with ⟨-, rfl⟩ | ⟨-, ht'⟩
    · exact h
    · exact b.nodup t' hs' ht'
  limited := b.limited

/-- The history grows by an event, and loses the oldest one when it is too long. -/
def record (b : EventBus H) (e : Event) : EventBus H where
  subscribers := b.subscribers
  history := lastEvents (b.history ++ [e])
  nodup := b.nodup
  limited := by
    rw [lastEvents, List.length_drop]
    omega

variable [DecidableEq H]

/-- `subscribe`. -/
def subscribe (b : EventBus H) (t : EventType) (h : H) : EventBus H :=
  if hmem : h ∈ b.handlers t then b
  else b.withHandlers t (b.handlers t ++ [h]) 
      (List.concat_eq_append ▸ (b.nodup_handlers t).concat hmem)

/-- `unsubscribe`. -/
def unsubscribe (b : EventBus H) (t : EventType) (h : H) : EventBus H :=
  if h ∈ b.handlers t then
    b.withHandlers t ((b.handlers t).erase h) ((b.nodup_handlers t).erase h)
  else b

end EventBus

/-! ### Emissions -/

/-- What a handler does with the bus. -/
inductive Action (H : Type) where
  | subscribe (t : EventType) (h : H)
  | unsubscribe (t : EventType) (h : H)
  | emit (e : Event)

/-- What the calls of the handlers do until they return or raise: the call with this number, of this
handler, for this event. -/
abbrev Behaviour (H : Type) := ℕ → H → Event → List (Action H)

/-- An emission. -/
structure Emission (H : Type) where
  event : Event
  /-- The handlers that were subscribed when it was called. -/
  subscribed : List H
  /-- Those that it called. -/
  called : List H
  /-- What the last one of them is still to do. -/
  running : List (Action H)

/-- Emissions inside of each other, the innermost first, and what is recorded of them. -/
structure Run (H : Type) where
  bus : EventBus H
  stack : List (Emission H)
  /-- The number of calls of handlers. -/
  calls : ℕ
  /-- The events that were emitted. -/
  emitted : List Event
  /-- The emissions that ended. -/
  ended : List (Emission H)

namespace Run

/-- `emit` begins. -/
def emit (m : Run H) (e : Event) : Run H :=
  { m with
    bus := m.bus.record e
    stack := ⟨e, m.bus.handlers e.eventType, [], []⟩ :: m.stack
    emitted := m.emitted ++ [e] }

/-- An event is emitted on a bus. -/
def start (b : EventBus H) (e : Event) : Run H := emit ⟨b, [], 0, [], []⟩ e

/-- The next handler of an emission, in the list as it is now. -/
def next (b : EventBus H) (f : Emission H) : Option H :=
  (b.handlers f.event.eventType)[f.called.length]?

variable [DecidableEq H]

/-- The innermost emission goes on: with what its handler does, or else with its next handler. -/
def step (B : Behaviour H) (m : Run H) : Run H :=
  match m.stack with
  | [] => m
  | f :: fs =>
    match f.running with
    | .subscribe t h :: as =>
      { m with bus := m.bus.subscribe t h, stack := { f with running := as } :: fs }
    | .unsubscribe t h :: as =>
      { m with bus := m.bus.unsubscribe t h, stack := { f with running := as } :: fs }
    | .emit e :: as => emit { m with stack := { f with running := as } :: fs } e
    | [] =>
      match next m.bus f with
      | some h =>
        { m with
          stack := { f with called := f.called ++ [h], running := B m.calls h f.event } :: fs
          calls := m.calls + 1 }
      | none => { m with stack := fs, ended := f :: m.ended }

/-- The states of an emission. -/
def runs (B : Behaviour H) (b : EventBus H) (e : Event) : System (Run H) Unit :=
  .ofFn (· = start b e) fun m _ => some (step B m)

end Run

/-! ### What an emission should do -/

/-- The emission called every handler that was subscribed once, and no other one. -/
def Emission.Once [DecidableEq H] (f : Emission H) : Prop :=
  ∀ h, f.called.count h = if h ∈ f.subscribed then 1 else 0

/-- The emission called the handlers that were subscribed, in their order. -/
def Emission.InOrder (f : Emission H) : Prop := f.called = f.subscribed

namespace Run

/-- The loop of the innermost emission finds its next handler where it was. -/
def Undisturbed (m : Run H) : Prop :=
  ∀ f fs, m.stack = f :: fs → f.running = [] → next m.bus f = f.subscribed[f.called.length]?

/-- Only so many events are emitted. -/
def FinitelyMany [DecidableEq H] (B : Behaviour H) (b : EventBus H) (e : Event) : Prop :=
  ∃ N, ∀ m, (runs B b e).Reachable m → m.emitted.length ≤ N

/-- The emissions call the handlers in their order. -/
def RunsInOrder [DecidableEq H] (B : Behaviour H) (b : EventBus H) (e : Event) : Prop :=
  ∀ m, (runs B b e).Reachable m →
    (∀ f ∈ m.stack, f.called <+: f.subscribed) ∧ ∀ f ∈ m.ended, f.InOrder

/-- An emission on a bus does what it should. -/
structure Delivers [DecidableEq H] (B : Behaviour H) (b : EventBus H) (e : Event) : Prop where
  /-- Each emission that ended, of the event or of one inside of it. -/
  once : ∀ m, (runs B b e).Reachable m → ∀ f ∈ m.ended, f.Once
  /-- No handler is called twice, and no other one, while an emission goes on. -/
  atMostOnce : ∀ m, (runs B b e).Reachable m → ∀ f ∈ m.stack, ∀ h,
    f.called.count h ≤ if h ∈ f.subscribed then 1 else 0
  /-- The emission ends. -/
  ends : FinitelyMany B b e → ∃ m, (runs B b e).Reachable m ∧ m.stack = []
  history : ∀ m, (runs B b e).Reachable m → m.bus.history = lastEvents (b.history ++ m.emitted)

variable [DecidableEq H] {B : Behaviour H} {b : EventBus H} {e : Event} {m : Run H}
  {f : Emission H} {fs : List (Emission H)}

/-! ### Steps -/

theorem step_nil (h : m.stack = []) : step B m = m := by
  simp only [step, h]

/-- What a step can do. -/
theorem step_cases (hstack : m.stack = f :: fs) :
    (∃ a as bus, f.running = a :: as ∧ bus.history = m.bus.history ∧
        step B m = { m with bus := bus, stack := { f with running := as } :: fs }) ∨
      (∃ e as, f.running = .emit e :: as ∧
        step B m = emit { m with stack := { f with running := as } :: fs } e) ∨
      (∃ h, f.running = [] ∧ next m.bus f = some h ∧
        step B m = { m with
          stack := { f with called := f.called ++ [h], running := B m.calls h f.event } :: fs
          calls := m.calls + 1 }) ∨
      (f.running = [] ∧ next m.bus f = none ∧
        step B m = { m with stack := fs, ended := f :: m.ended }) := by
  cases hrun : f.running with
  | nil =>
    right
    right
    cases hnext : next m.bus f with
    | some h => exact .inl ⟨h, rfl, rfl, by simp only [step, hstack, hrun, hnext]⟩
    | none => exact .inr ⟨rfl, rfl, by simp only [step, hstack, hrun, hnext]⟩
  | cons a as =>
    cases a with
    | subscribe t h =>
      refine .inl ⟨.subscribe t h, as, m.bus.subscribe t h, rfl, ?_,
        by simp only [step, hstack, hrun]⟩
      unfold EventBus.subscribe
      split_ifs <;> rfl
    | unsubscribe t h =>
      refine .inl ⟨.unsubscribe t h, as, m.bus.unsubscribe t h, rfl, ?_,
        by simp only [step, hstack, hrun]⟩
      unfold EventBus.unsubscribe
      split_ifs <;> rfl
    | emit e => exact .inr (.inl ⟨e, as, rfl, by simp only [step, hstack, hrun]⟩)

/-- **Induction over the run of an emission.** -/
theorem induction {P : Run H → Prop} (hstart : P (start b e))
    (hstep : ∀ m, (runs B b e).Reachable m → P m → P (step B m)) (h : (runs B b e).Reachable m) :
    P m := by
  induction h with
  | init hinit =>
    obtain rfl : _ = start b e := hinit
    exact hstart
  | step hm hnext ih =>
    obtain rfl := Option.some.inj hnext
    exact hstep _ hm ih

theorem reachable_step (h : (runs B b e).Reachable m) : (runs B b e).Reachable (step B m) :=
  .step (a := ()) h rfl

/-! ### The history -/

theorem lastEvents_append (es es' : List Event) :
    lastEvents (lastEvents es ++ es') = lastEvents (es ++ es') := by
  simp only [lastEvents, List.length_append, List.length_drop, List.drop_append, List.drop_drop]
  congr 2 <;> omega

/-- **The history** is the last events, in their order. -/
theorem history_of_reachable (h : (runs B b e).Reachable m) :
    m.bus.history = lastEvents (b.history ++ m.emitted) := by
  have hemit {m : Run H} (hm : m.bus.history = lastEvents (b.history ++ m.emitted)) (e : Event) :
      (emit m e).bus.history = lastEvents (b.history ++ (emit m e).emitted) := by
    change lastEvents (m.bus.history ++ [e]) = lastEvents (b.history ++ (m.emitted ++ [e]))
    rw [hm, lastEvents_append, List.append_assoc]
  refine induction (P := fun m => m.bus.history = lastEvents (b.history ++ m.emitted))
    (hemit (m := ⟨b, [], 0, [], []⟩) ?_ e) (fun m _ hm => ?_) h
  · have hlen : b.history.length - historyLimit = 0 := Nat.sub_eq_zero_of_le b.limited
    change b.history = lastEvents (b.history ++ [])
    rw [List.append_nil, lastEvents, hlen, List.drop_zero]
  · cases hstack : m.stack with
    | nil => rwa [step_nil hstack]
    | cons f fs =>
      obtain ⟨a, as, bus, -, hbus, heq⟩ | ⟨e, as, -, heq⟩ | ⟨h, -, -, heq⟩ | ⟨-, -, heq⟩ :=
        step_cases (B := B) hstack <;> rw [heq]
      · exact hbus.trans hm
      · exact hemit hm e
      · exact hm
      · exact hm

/-! ### Delivery -/

omit [DecidableEq H] in
/-- A list goes on with its next element. -/
theorem prefix_concat {l l' : List H} {x : H} (h : l <+: l') (hx : l'[l.length]? = some x) :
    l ++ [x] <+: l' := by
  obtain ⟨t, rfl⟩ := h
  rw [List.getElem?_append_right (le_refl _), Nat.sub_self] at hx
  obtain ⟨t', rfl⟩ : ∃ t', t = x :: t' := by
    cases t with
    | nil => cases hx
    | cons y t' => exact ⟨t', by rw [Option.some.inj hx]⟩
  exact ⟨t', by rw [List.append_assoc, List.singleton_append]⟩

/-- What holds of the emissions of an undisturbed run. -/
structure Orderly (m : Run H) : Prop where
  stack : ∀ f ∈ m.stack, f.called <+: f.subscribed ∧ f.subscribed.Nodup
  ended : ∀ f ∈ m.ended, f.InOrder ∧ f.subscribed.Nodup

omit [DecidableEq H] in
theorem Orderly.emit (h : Orderly m) (e : Event) : Orderly (emit m e) where
  stack := List.forall_mem_cons.2 ⟨⟨List.nil_prefix, m.bus.nodup_handlers _⟩, h.stack⟩
  ended := h.ended

/-- One step, when the loop finds its next handler where it was. -/
theorem Orderly.step (h : Orderly m) (hm : Undisturbed m) : Orderly (step B m) := by
  cases hstack : m.stack with
  | nil => rwa [step_nil hstack]
  | cons f fs =>
    have hall := h.stack
    rw [hstack, List.forall_mem_cons] at hall
    obtain ⟨⟨hpre, hnodup⟩, hfs⟩ := hall
    obtain ⟨a, as, bus, -, -, heq⟩ | ⟨e, as, -, heq⟩ | ⟨x, hrun, hx, heq⟩ | ⟨hrun, hx, heq⟩ :=
      step_cases (B := B) hstack <;> rw [heq]
    · exact ⟨List.forall_mem_cons.2 ⟨⟨hpre, hnodup⟩, hfs⟩, h.ended⟩
    · exact Orderly.emit (m := { m with stack := { f with running := as } :: fs })
        ⟨List.forall_mem_cons.2 ⟨⟨hpre, hnodup⟩, hfs⟩, h.ended⟩ e
    · refine ⟨List.forall_mem_cons.2 ⟨⟨?_, hnodup⟩, hfs⟩, h.ended⟩
      have hget : f.subscribed[f.called.length]? = some x := (hm f fs hstack hrun).symm.trans hx
      exact prefix_concat hpre hget
    · refine ⟨hfs, List.forall_mem_cons.2 ⟨⟨?_, hnodup⟩, h.ended⟩⟩
      have hget : f.subscribed[f.called.length]? = none := (hm f fs hstack hrun).symm.trans hx
      exact hpre.eq_of_length_le (List.getElem?_eq_none_iff.1 hget)

theorem orderly_of_undisturbed (hun : ∀ m, (runs B b e).Reachable m → Undisturbed m)
    (h : (runs B b e).Reachable m) : Orderly m := by
  refine induction ?_ (fun m hm ih => ih.step (hun m hm)) h
  exact Orderly.emit (m := ⟨b, [], 0, [], []⟩) ⟨List.forall_mem_nil _, List.forall_mem_nil _⟩ e

/-! ### The end -/

/-- What is left of a run in which only so many events are emitted: these events, the handlers that
are still to be called, what the called ones are still to do, and the emissions themselves. -/
def left (N : ℕ) (m : Run H) : ℕ ×ₗ ℕ ×ₗ ℕ ×ₗ ℕ :=
  toLex (N - m.emitted.length,
    toLex ((m.stack.map fun f => f.subscribed.length - f.called.length).sum,
      toLex ((m.stack.map fun f => f.running.length).sum, m.stack.length)))

/-- Each step leaves less. -/
theorem left_step_lt {N : ℕ} (hstack : m.stack ≠ []) (hord : Orderly m) (hm : Undisturbed m)
    (hN : (step B m).emitted.length ≤ N) : left N (step B m) < left N m := by
  obtain ⟨f, fs, hstack⟩ := List.exists_cons_of_ne_nil hstack
  obtain ⟨a, as, bus, hrun, -, heq⟩ | ⟨e, as, hrun, heq⟩ | ⟨x, hrun, hx, heq⟩ | ⟨hrun, hx, heq⟩ :=
    step_cases (B := B) hstack
  · simp [heq, left, hstack, hrun, Prod.Lex.toLex_lt_toLex]
  · rw [heq] at hN ⊢
    have hlen : m.emitted.length + 1 ≤ N := by simpa [emit] using hN
    simp only [left, emit, List.length_append, List.length_singleton, Prod.Lex.toLex_lt_toLex]
    exact .inl (by omega)
  · have hget : f.subscribed[f.called.length]? = some x := (hm f fs hstack hrun).symm.trans hx
    obtain ⟨hlt, -⟩ := List.getElem?_eq_some_iff.1 hget
    simp only [heq, left, hstack, Prod.Lex.toLex_lt_toLex, List.map_cons, List.sum_cons,
      List.length_append, List.length_singleton]
    exact .inr ⟨trivial, .inl (by omega)⟩
  · have hall := hord.stack f (hstack ▸ List.mem_cons_self)
    have hget : f.subscribed[f.called.length]? = none := (hm f fs hstack hrun).symm.trans hx
    have hdone : f.subscribed.length - f.called.length = 0 :=
      Nat.sub_eq_zero_of_le (List.getElem?_eq_none_iff.1 hget)
    simp [heq, left, hstack, hrun, hdone, Prod.Lex.toLex_lt_toLex]

/-- **The emission ends**, when only so many events are emitted. -/
theorem exists_end (hun : ∀ m, (runs B b e).Reachable m → Undisturbed m)
    (hfin : FinitelyMany B b e) : ∃ m, (runs B b e).Reachable m ∧ m.stack = [] := by
  obtain ⟨N, hN⟩ := hfin
  have hend (x : ℕ ×ₗ ℕ ×ₗ ℕ ×ₗ ℕ) : ∀ m, left N m = x → (runs B b e).Reachable m →
      ∃ m, (runs B b e).Reachable m ∧ m.stack = [] := by
    induction x using WellFoundedLT.induction with
    | ind x ih =>
      rintro m rfl hm
      by_cases hstack : m.stack = []
      · exact ⟨m, hm, hstack⟩
      · have hnext := reachable_step hm
        exact ih _ (left_step_lt hstack (orderly_of_undisturbed hun hm) (hun m hm)
          (hN _ hnext)) _ rfl hnext
  exact hend _ _ rfl (.init rfl)

/-! ### What an emission does -/

theorem once_of_inOrder (h : f.InOrder) (hnodup : f.subscribed.Nodup) : f.Once := by
  intro x
  rw [h]
  split_ifs with hx
  · exact List.count_eq_one_of_mem hnodup hx
  · exact List.count_eq_zero_of_not_mem hx

/-- **What an undisturbed emission does.** -/
theorem delivers_of_undisturbed (hun : ∀ m, (runs B b e).Reachable m → Undisturbed m) :
    Delivers B b e where
  once m hm f hf := by
    obtain ⟨horder, hnodup⟩ := (orderly_of_undisturbed hun hm).ended f hf
    exact once_of_inOrder horder hnodup
  atMostOnce m hm f hf x := by
    obtain ⟨hpre, hnodup⟩ := (orderly_of_undisturbed hun hm).stack f hf
    rw [← once_of_inOrder (f := { f with called := f.subscribed }) rfl hnodup x]
    exact hpre.sublist.count_le x
  ends := exists_end hun
  history _ := history_of_reachable

/-- A run in which the emissions call their handlers in order is undisturbed. -/
theorem undisturbed_of_inOrder (hrun : RunsInOrder B b e) (h : (runs B b e).Reachable m) :
    Undisturbed m := by
  intro f fs hm hnil
  have hnext := hrun _ (reachable_step (B := B) h)
  obtain ⟨a, as, bus, hcons, -, -⟩ | ⟨e, as, hcons, -⟩ | ⟨x, -, hx, heq⟩ | ⟨-, hx, heq⟩ :=
    step_cases (B := B) hm
  · exact absurd (hnil.symm.trans hcons) (by simp)
  · exact absurd (hnil.symm.trans hcons) (by simp)
  · rw [heq] at hnext
    obtain ⟨t, ht⟩ : f.called ++ [x] <+: f.subscribed := hnext.1 _ List.mem_cons_self
    rw [hx, ← ht]
    simp
  · rw [heq] at hnext
    have horder : f.called = f.subscribed := hnext.2 _ List.mem_cons_self
    rw [hx, ← horder, List.getElem?_eq_none (le_refl _)]

end Run

open Run

/-- **Delivery.**  While the loops find their next handlers where they were, and only then, they
call the handlers in their order; then every emission does what it should.  The history is always
the last events. -/
theorem delivery_of_undisturbed [DecidableEq H] (B : Behaviour H) (b : EventBus H) (e : Event) :
    ((∀ m, (runs B b e).Reachable m → Undisturbed m) ↔ RunsInOrder B b e) ∧
      ((∀ m, (runs B b e).Reachable m → Undisturbed m) → Delivers B b e) ∧
      ∀ m, (runs B b e).Reachable m → m.bus.history = lastEvents (b.history ++ m.emitted) := by
  refine ⟨⟨fun hun m hm => ⟨fun f hf => ?_, fun f hf => ?_⟩, fun h m => undisturbed_of_inOrder h⟩,
    delivers_of_undisturbed, fun m => history_of_reachable⟩
  · exact ((orderly_of_undisturbed hun hm).stack f hf).1
  · exact ((orderly_of_undisturbed hun hm).ended f hf).1

end Bus

/-! ### Disturbed emissions -/

/-- A bus with two handlers for updates. -/
def twoHandlers : EventBus ℕ where
  subscribers := Dict.empty.set .updateAvailable [0, 1]
  history := []
  nodup t hs h := by
    rcases Dict.of_get?_set h with ⟨-, rfl⟩ | ⟨-, h⟩
    · decide
    · cases h
  limited := Nat.zero_le _

/-- The time at the start. -/
theorem isFloatLit_start : isFloatLit ['0', '.', '0'] = true := by decide

/-- An update. -/
def update : Event where
  eventType := .updateAvailable
  source := "runtime"
  timestamp := .lit ⟨['0', '.', '0'], isFloatLit_start⟩

/-- Handlers that leave the bus alone. -/
def quiet : Behaviour ℕ := fun _ _ _ => []

/-- A handler that unsubscribes itself. -/
def leaving : Behaviour ℕ := fun _ h _ => if h = 0 then [.unsubscribe .updateAvailable 0] else []

/-- Handlers that each subscribe another one. -/
def growing : Behaviour ℕ := fun _ h _ => [.subscribe .updateAvailable (h + 2)]

/-- While the handlers leave the bus alone, its subscribers stay. -/
theorem subscribers_quiet {m : Run ℕ} (h : (Run.runs quiet twoHandlers update).Reachable m) :
    m.bus.subscribers = twoHandlers.subscribers ∧
      ∀ f ∈ m.stack, f.running = [] ∧ f.subscribed = m.bus.handlers f.event.eventType := by
  refine Run.induction (P := fun m => m.bus.subscribers = twoHandlers.subscribers ∧
    ∀ f ∈ m.stack, f.running = [] ∧ f.subscribed = m.bus.handlers f.event.eventType)
    ⟨rfl, List.forall_mem_singleton.2 ⟨rfl, rfl⟩⟩ (fun m _ hm => ?_) h
  cases hstack : m.stack with
  | nil =>
    rw [Run.step_nil hstack]
    exact hm
  | cons f fs =>
    obtain ⟨hsame, hall⟩ := hm
    rw [hstack, List.forall_mem_cons] at hall
    obtain ⟨a, as, bus, hrun, -, -⟩ | ⟨e, as, hrun, -⟩ | ⟨x, -, -, heq⟩ | ⟨-, -, heq⟩ :=
      Run.step_cases (B := quiet) hstack
    · exact absurd (hall.1.1.symm.trans hrun) (by simp)
    · exact absurd (hall.1.1.symm.trans hrun) (by simp)
    · rw [heq]
      exact ⟨hsame, List.forall_mem_cons.2 ⟨⟨rfl, hall.1.2⟩, hall.2⟩⟩
    · rw [heq]
      exact ⟨hsame, hall.2⟩

/-- Handlers that leave the bus alone are all called. -/
theorem delivery_quiet : Run.Delivers quiet twoHandlers update := by
  refine (delivery_of_undisturbed quiet twoHandlers update).2.1 fun m hm f fs hstack _ => ?_
  rw [Run.next, ((subscribers_quiet hm).2 f (hstack ▸ List.mem_cons_self)).2]

/-- Where the emission to handlers that each subscribe another one is. -/
structure Growing (m : Run ℕ) : Prop where
  emitted : m.emitted.length = 1
  stack : ∃ f, m.stack = [f] ∧ f.event = update ∧
    ((f.running = [] ∧ m.bus.handlers .updateAvailable = List.range (f.called.length + 2)) ∨
      (f.running = [.subscribe .updateAvailable (f.called.length + 1)] ∧
        m.bus.handlers .updateAvailable = List.range (f.called.length + 1)))

/-- There is always one more handler. -/
theorem Growing.step {m : Run ℕ} (h : Growing m) : Growing (Run.step growing m) := by
  obtain ⟨hemitted, f, hstack, hevent, ⟨hrun, hhandlers⟩ | ⟨hrun, hhandlers⟩⟩ := h
  · have hnext : Run.next m.bus f = some f.called.length := by
      rw [Run.next, hevent]
      change (m.bus.handlers .updateAvailable)[_]? = _
      rw [hhandlers, List.getElem?_range (by omega)]
    have heq : Run.step growing m = { m with
        stack := [{ f with
          called := f.called ++ [f.called.length]
          running := [.subscribe .updateAvailable (f.called.length + 2)] }]
        calls := m.calls + 1 } := by
      simp only [Run.step, hstack, hrun, hnext, growing]
    rw [heq]
    refine ⟨hemitted, _, rfl, hevent, .inr ⟨?_, ?_⟩⟩
    · simp
    · simpa using hhandlers
  · have heq : Run.step growing m = { m with
        bus := m.bus.subscribe .updateAvailable (f.called.length + 1)
        stack := [{ f with running := [] }] } := by
      simp only [Run.step, hstack, hrun]
    have hnew : f.called.length + 1 ∉ m.bus.handlers .updateAvailable := by simp [hhandlers]
    rw [heq]
    refine ⟨hemitted, _, rfl, hevent, .inl ⟨rfl, ?_⟩⟩
    rw [EventBus.subscribe, dif_neg hnew]
    simp only [EventBus.handlers, EventBus.withHandlers, Dict.get?_set_self, Option.getD_some]
    rw [← EventBus.handlers, hhandlers, ← List.range_succ]

theorem growing_of_reachable {m : Run ℕ}
    (h : (Run.runs growing twoHandlers update).Reachable m) : Growing m :=
  Run.induction ⟨rfl, _, rfl, rfl, .inl ⟨rfl, rfl⟩⟩ (fun _ _ hm => hm.step) h

/-- **A handler that unsubscribes itself, and handlers that each subscribe another one**: one of the
handlers is not called, and the emission never ends. -/
theorem not_delivers :
    ¬ Run.Delivers leaving twoHandlers update ∧ ¬ Run.Delivers growing twoHandlers update := by
  refine ⟨fun h => ?_, fun h => ?_⟩
  · have hreach : (Run.runs leaving twoHandlers update).Reachable
        (Run.step leaving (Run.step leaving (Run.step leaving (Run.start twoHandlers update)))) :=
      Run.reachable_step (Run.reachable_step (Run.reachable_step (.init rfl)))
    have hended : (Run.step leaving (Run.step leaving (Run.step leaving
        (Run.start twoHandlers update)))).ended = [⟨update, [0, 1], [0], []⟩] := rfl
    have honce := h.once _ hreach _ (hended ▸ List.mem_singleton_self _) 1
    exact absurd honce (by decide)
  · obtain ⟨m, hm, hnil⟩ := h.ends ⟨1, fun m hm => (growing_of_reachable hm).emitted.le⟩
    obtain ⟨f, hstack, -⟩ := (growing_of_reachable hm).stack
    rw [hnil] at hstack
    cases hstack

end Events

end AnnyRuntime
