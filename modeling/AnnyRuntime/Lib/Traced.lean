import Mathlib.Tactic.SplitIfs

/-!
# Computations that leave a trace

A computation emits events, and then returns a value or raises something (`Traced`).  What it emits
before it raises stays in the trace.

`emits_bind`, `raises_bind` : a sequence of two emits, or raises, what the first does, and what the
second does if the first returns.
-/

namespace AnnyRuntime

/-- A computation with its trace. -/
structure Traced (ω ε α : Type) where
  events : List ω
  outcome : Except ε α

namespace Traced

variable {ω ε α β : Type}

instance : Monad (Traced ω ε) where
  pure a := ⟨[], .ok a⟩
  bind x f := match x.outcome with
    | .error r => ⟨x.events, .error r⟩
    | .ok a => ⟨x.events ++ (f a).events, (f a).outcome⟩

/-- Something is raised. -/
def raise (r : ε) : Traced ω ε α := ⟨[], .error r⟩

/-- One event. -/
def emit (e : ω) (a : α) : Traced ω ε α := ⟨[e], .ok a⟩

/-- A value is returned, or something is raised. -/
def ofExcept (x : Except ε α) : Traced ω ε α := ⟨[], x⟩

/-- An event with a property is emitted. -/
def Emits (P : ω → Prop) (x : Traced ω ε α) : Prop := ∃ e ∈ x.events, P e

/-- Something with a property is raised. -/
def Raises (Q : ε → Prop) (x : Traced ω ε α) : Prop := ∃ r, x.outcome = .error r ∧ Q r

/-- A value with a property is returned. -/
def Returns (R : α → Prop) (x : Traced ω ε α) : Prop := ∃ a, x.outcome = .ok a ∧ R a

variable {P : ω → Prop} {Q : ε → Prop} {x : Traced ω ε α} {f : α → Traced ω ε β}

@[simp] theorem outcome_pure (a : α) : (pure a : Traced ω ε α).outcome = .ok a := rfl

@[simp] theorem outcome_raise (r : ε) : (raise r : Traced ω ε α).outcome = .error r := rfl

@[simp] theorem outcome_emit (e : ω) (a : α) : (emit e a : Traced ω ε α).outcome = .ok a := rfl

@[simp] theorem outcome_ofExcept (x : Except ε α) :
    (ofExcept x : Traced ω ε α).outcome = x := rfl

@[simp] theorem not_emits_pure (a : α) : ¬ (pure a : Traced ω ε α).Emits P :=
  fun ⟨_, he, _⟩ => nomatch he

@[simp] theorem not_emits_raise (r : ε) : ¬ (raise r : Traced ω ε α).Emits P :=
  fun ⟨_, he, _⟩ => nomatch he

@[simp] theorem not_emits_ofExcept (x : Except ε α) : ¬ (ofExcept x : Traced ω ε α).Emits P :=
  fun ⟨_, he, _⟩ => nomatch he

@[simp] theorem emits_emit (e : ω) (a : α) : (emit e a : Traced ω ε α).Emits P ↔ P e := by
  simp [Emits, emit]

theorem emits_ite {p : Prop} [Decidable p] {y : Traced ω ε α} :
    (if p then x else y).Emits P ↔ p ∧ x.Emits P ∨ ¬ p ∧ y.Emits P := by
  split_ifs with h <;> simp [h]

@[simp] theorem not_raises_pure (a : α) : ¬ (pure a : Traced ω ε α).Raises Q :=
  fun ⟨_, h, _⟩ => nomatch h

@[simp] theorem raises_raise (r : ε) : (raise r : Traced ω ε α).Raises Q ↔ Q r := by
  simp [Raises]

@[simp] theorem not_raises_emit (e : ω) (a : α) : ¬ (emit e a : Traced ω ε α).Raises Q :=
  fun ⟨_, h, _⟩ => nomatch h

theorem raises_ite {p : Prop} [Decidable p] {y : Traced ω ε α} :
    (if p then x else y).Raises Q ↔ p ∧ x.Raises Q ∨ ¬ p ∧ y.Raises Q := by
  split_ifs with h <;> simp [h]

@[simp] theorem returns_pure {R : α → Prop} (a : α) :
    (pure a : Traced ω ε α).Returns R ↔ R a := by
  simp [Returns]

@[simp] theorem not_returns_raise {R : α → Prop} (r : ε) :
    ¬ (raise r : Traced ω ε α).Returns R :=
  fun ⟨_, h, _⟩ => nomatch h

theorem returns_ite {R : α → Prop} {p : Prop} [Decidable p] {y : Traced ω ε α} :
    (if p then x else y).Returns R ↔ p ∧ x.Returns R ∨ ¬ p ∧ y.Returns R := by
  split_ifs with h <;> simp [h]

theorem bind_of_error {r : ε} (h : x.outcome = .error r) : x >>= f = ⟨x.events, .error r⟩ := by
  simp only [bind, h]

theorem bind_of_ok {a : α} (h : x.outcome = .ok a) :
    x >>= f = ⟨x.events ++ (f a).events, (f a).outcome⟩ := by
  simp only [bind, h]

/-- What a sequence comes to. -/
theorem outcome_bind : (x >>= f).outcome = x.outcome.bind fun a => (f a).outcome := by
  cases h : x.outcome with
  | error r =>
    rw [bind_of_error h]
    rfl
  | ok a =>
    rw [bind_of_ok h]
    rfl

/-- What a sequence raises. -/
theorem raises_bind :
    (x >>= f).Raises Q ↔ x.Raises Q ∨ ∃ a, x.outcome = .ok a ∧ (f a).Raises Q := by
  unfold Raises
  cases h : x.outcome with
  | error r =>
    rw [bind_of_error h]
    simp
  | ok a =>
    rw [bind_of_ok h]
    simp

/-- What a sequence returns. -/
theorem returns_bind {R : β → Prop} :
    (x >>= f).Returns R ↔ ∃ a, x.outcome = .ok a ∧ (f a).Returns R := by
  unfold Returns
  cases h : x.outcome with
  | error r =>
    rw [bind_of_error h]
    simp
  | ok a =>
    rw [bind_of_ok h]
    simp

/-- **What a sequence emits.** -/
theorem emits_bind :
    (x >>= f).Emits P ↔ x.Emits P ∨ ∃ a, x.outcome = .ok a ∧ (f a).Emits P := by
  cases h : x.outcome with
  | error r =>
    rw [bind_of_error h]
    simp [Emits]
  | ok a =>
    rw [bind_of_ok h]
    simp [Emits, or_and_right, exists_or]

end Traced

end AnnyRuntime
