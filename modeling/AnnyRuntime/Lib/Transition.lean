import Mathlib.Data.List.Induction
import Mathlib.Logic.Relation

/-!
# Transition systems

A system has initial states and labelled steps.  What holds at the start and is kept by every step
holds in every reachable state (`Invariant.holds`); a system may be restricted to the steps that
meet a condition (`System.restrict`), and an invariant of the restricted system is one of all runs
whose steps meet it.
-/

namespace AnnyRuntime

/-- A transition system with states `σ` and actions `α`. -/
structure System (σ α : Type*) where
  /-- Where it starts. -/
  init : σ → Prop
  /-- `step s a t` : the action `a` can take `s` to `t`. -/
  step : σ → α → σ → Prop

namespace System

variable {σ α : Type*}

/-- The system of a function that says what an action does, when it can happen. -/
def ofFn (init : σ → Prop) (next : σ → α → Option σ) : System σ α :=
  ⟨init, fun s a t => next s a = some t⟩

/-- The states that runs reach. -/
inductive Reachable (T : System σ α) : σ → Prop
  | init {s : σ} : T.init s → T.Reachable s
  | step {s : σ} {a : α} {t : σ} : T.Reachable s → T.step s a t → T.Reachable t

/-- The system that only takes the steps that meet a condition. -/
def restrict (T : System σ α) (ok : σ → α → Prop) : System σ α :=
  ⟨T.init, fun s a t => ok s a ∧ T.step s a t⟩

variable {T : System σ α}

theorem Reachable.of_restrict {ok : σ → α → Prop} {s : σ} (h : (T.restrict ok).Reachable s) :
    T.Reachable s := by
  induction h with
  | init h => exact .init h
  | step _ hstep ih => exact .step ih hstep.2

/-- A property that holds at the start and that every step keeps. -/
structure Invariant (T : System σ α) (I : σ → Prop) : Prop where
  init : ∀ s, T.init s → I s
  step : ∀ s a t, I s → T.step s a t → I t

/-- **Induction over runs.** -/
theorem Invariant.holds {I : σ → Prop} (h : T.Invariant I) {s : σ} (hs : T.Reachable s) : I s := by
  induction hs with
  | init hi => exact h.init _ hi
  | step _ hstep ih => exact h.step _ _ _ ih hstep

/-- The state after a list of actions, when they can all happen. -/
def runFn (next : σ → α → Option σ) : σ → List α → Option σ
  | s, [] => some s
  | s, a :: as => (next s a).bind fun t => runFn next t as

/-- A run that takes one more step. -/
theorem runFn_concat {next : σ → α → Option σ} {s : σ} {as : List α} {a : α} :
    runFn next s (as ++ [a]) = (runFn next s as).bind fun t => next t a := by
  induction as generalizing s with
  | nil =>
    change (next s a).bind some = next s a
    exact Option.bind_fun_some _
  | cons b as ih =>
    change (next s b).bind (fun t => runFn next t (as ++ [a])) = ((next s b).bind _).bind _
    rw [Option.bind_assoc]
    exact congrArg _ (funext fun _ => ih)

/-- A property of the states of one run that every step of this run keeps. -/
theorem runFn_keeps {next : σ → α → Option σ} {init : σ} {I : σ → Prop} {as : List α}
    (hinit : I init)
    (hstep : ∀ before a rest s t, as = before ++ a :: rest → runFn next init before = some s →
      next s a = some t → I s → I t)
    {before rest : List α} {s : σ} (has : as = before ++ rest)
    (hrun : runFn next init before = some s) : I s := by
  induction before using List.reverseRecOn generalizing rest s with
  | nil => exact Option.some.inj hrun ▸ hinit
  | append_singleton before a ih =>
    rw [runFn_concat, Option.bind_eq_some_iff] at hrun
    obtain ⟨u, hu, hs⟩ := hrun
    rw [List.append_assoc] at has
    exact hstep before a rest u s has hu hs (ih has hu)

/-- A run of a function whose steps are steps of a system. -/
theorem Reachable.runFn {next : σ → α → Option σ} {s t : σ} {as : List α} (hs : T.Reachable s)
    (hnext : ∀ s, ∀ a ∈ as, ∀ t, next s a = some t → T.step s a t)
    (h : System.runFn next s as = some t) : T.Reachable t := by
  induction as generalizing s with
  | nil => exact Option.some.inj h ▸ hs
  | cons a as ih =>
    obtain ⟨u, hu, ht⟩ := Option.bind_eq_some_iff.1 h
    exact ih (.step hs (hnext s a List.mem_cons_self u hu))
      (fun s b hb => hnext s b (List.mem_cons_of_mem _ hb)) ht

theorem reachable_runFn {init : σ → Prop} {next : σ → α → Option σ} {s t : σ} {as : List α}
    (hs : (ofFn init next).Reachable s) (h : runFn next s as = some t) :
    (ofFn init next).Reachable t :=
  hs.runFn (fun _ _ _ _ h => h) h

theorem reachable_restrict_runFn {init : σ → Prop} {next : σ → α → Option σ} {ok : σ → α → Prop}
    {s t : σ} {as : List α} (hs : ((ofFn init next).restrict ok).Reachable s)
    (hok : ∀ s, ∀ a ∈ as, ok s a) (h : runFn next s as = some t) :
    ((ofFn init next).restrict ok).Reachable t :=
  hs.runFn (fun s a ha _ h => ⟨hok s a ha, h⟩) h

theorem reachable_foldl {init : σ → Prop} {next : σ → α → σ} {s : σ}
    (hs : (ofFn init fun s a => some (next s a)).Reachable s) (as : List α) :
    (ofFn init fun s a => some (next s a)).Reachable (as.foldl next s) := by
  induction as generalizing s with
  | nil => exact hs
  | cons a as ih => exact ih (.step hs rfl)

/-- The actions that meet a condition. -/
def guardFn (ok : σ → α → Prop) [∀ s a, Decidable (ok s a)] (next : σ → α → Option σ) (s : σ)
    (a : α) : Option σ :=
  if ok s a then next s a else none

theorem restrict_ofFn (init : σ → Prop) (next : σ → α → Option σ) (ok : σ → α → Prop)
    [∀ s a, Decidable (ok s a)] :
    (ofFn init next).restrict ok = ofFn init (guardFn ok next) := by
  simp only [restrict, ofFn, guardFn, Option.ite_none_right_eq_some]

/-- A property that every step of one run keeps, when every action can happen. -/
theorem foldl_keeps {next : σ → α → σ} {s : σ} {I : σ → Prop} {as : List α} (hs : I s)
    (hstep : ∀ before a rest, as = before ++ a :: rest → I (before.foldl next s) →
      I (next (before.foldl next s) a)) {before rest : List α} (has : as = before ++ rest) :
    I (before.foldl next s) := by
  induction before using List.reverseRecOn generalizing rest with
  | nil => exact hs
  | append_singleton before a ih =>
    rw [List.append_assoc] at has
    rw [List.foldl_append]
    exact hstep before a rest has (ih has)

end System

/-! ### Places in a run -/

/-- The places in a list, the first one and those after it. -/
theorem forall_split_cons {α : Type*} {x : α} {xs : List α} {P : List α → α → Prop} :
    (∀ before a rest, x :: xs = before ++ a :: rest → P before a) ↔
      P [] x ∧ ∀ before a rest, xs = before ++ a :: rest → P (x :: before) a := by
  constructor
  · intro h
    exact ⟨h [] x xs rfl, fun before a rest hxs => h (x :: before) a rest (by rw [hxs]; rfl)⟩
  · rintro ⟨hx, hxs⟩ before a rest heq
    cases before with
    | nil =>
      obtain ⟨rfl, -⟩ := List.cons.inj heq
      exact hx
    | cons y before =>
      obtain ⟨rfl, htail⟩ := List.cons.inj heq
      exact hxs before a rest htail

theorem forall_split_nil {α : Type*} {P : List α → α → Prop} :
    ∀ before a rest, ([] : List α) = before ++ a :: rest → P before a := by
  intro before a rest h
  simp at h

end AnnyRuntime
