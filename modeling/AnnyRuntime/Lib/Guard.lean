import Mathlib.Tactic.SplitIfs

/-!
# Sequences of checks

A function that checks one thing after the other and raises at the first one that fails is a
sequence in `Except`.  It passes exactly when every check does.
-/

namespace AnnyRuntime

namespace Guard

variable {ε : Type*} {α β : Type}

/-- Raise an error unless a condition holds. -/
def ensure (p : Prop) [Decidable p] (e : ε) : Except ε Unit :=
  if p then .ok () else .error e

@[simp] theorem ensure_eq_ok {p : Prop} [Decidable p] {e : ε} {u : Unit} :
    ensure p e = .ok u ↔ p := by
  rw [ensure]
  split_ifs with h <;> simp [h]

@[simp] theorem ensure_eq_error {p : Prop} [Decidable p] {e e' : ε} :
    ensure p e = .error e' ↔ ¬ p ∧ e = e' := by
  rw [ensure]
  split_ifs with h <;> simp [h]

/-- A step that succeeds hands its value on. -/
theorem ok_seq (a : α) (f : α → Except ε β) : (Except.ok a >>= f) = f a := rfl

/-- A sequence succeeds when its steps do, one after the other. -/
@[simp] theorem seq_eq_ok {x : Except ε α} {f : α → Except ε β} {b : β} :
    (x >>= f) = .ok b ↔ ∃ a, x = .ok a ∧ f a = .ok b := by
  rcases x with e | a
  · exact ⟨nofun, fun ⟨_, h, _⟩ => nomatch h⟩
  · exact ⟨fun h => ⟨a, rfl, h⟩, fun ⟨_, h, hf⟩ => Except.ok.inj h ▸ hf⟩

/-- A sequence raises what its first failing step raises. -/
@[simp] theorem seq_eq_error {x : Except ε α} {f : α → Except ε β} {e : ε} :
    (x >>= f) = .error e ↔ x = .error e ∨ ∃ a, x = .ok a ∧ f a = .error e := by
  rcases x with e' | a
  · exact ⟨fun h => .inl (congrArg _ (Except.error.inj h)),
      fun h => h.elim (fun h => congrArg _ (Except.error.inj h)) fun ⟨_, h, _⟩ => nomatch h⟩
  · exact ⟨fun h => .inr ⟨a, rfl, h⟩,
      fun h => h.elim nofun fun ⟨_, h, hf⟩ => Except.ok.inj h ▸ hf⟩

end Guard

end AnnyRuntime
