import AnnyRuntime.Lib.Transition

/-!
# Early returns

A function whose body can raise, return before its end, or go on with a value (`Early`).  Over what
is returned, early or at the end, `Early.Meets` is the weakest precondition: `meets_bind` takes a
body apart statement by statement, and `meets_mapM` a loop that returns at the first element that
does not fit.
-/

namespace AnnyRuntime

/-- What may raise does not. -/
def Answers {ε α : Type} (x : Except ε α) : Prop := ∃ a, x = .ok a

theorem forall_ok_iff {ε α : Type} {x : Except ε α} {C : Prop} (h : Answers x) :
    (∀ a, x = .ok a → C) ↔ C := by
  obtain ⟨a, ha⟩ := h
  exact ⟨fun hC => hC a ha, fun hC _ _ => hC⟩

/-- What a part of a body does. -/
inductive Early (ε ρ α : Type) where
  | raised (e : ε)
  /-- The function returns. -/
  | returned (r : ρ)
  /-- The body goes on. -/
  | value (a : α)

namespace Early

variable {ε ρ α β : Type}

instance : Monad (Early ε ρ) where
  pure := value
  bind x f := match x with
    | raised e => raised e
    | returned r => returned r
    | value a => f a

instance : LawfulMonad (Early ε ρ) := LawfulMonad.mk' (Early ε ρ)
  (fun x => by cases x <;> rfl) (fun _ _ => rfl) (fun x _ _ => by cases x <;> rfl)

/-- What may raise. -/
def ofExcept : Except ε α → Early ε ρ α
  | .error e => raised e
  | .ok a => value a

/-- What the function does, when its body ends with what it returns. -/
def outcome : Early ε ρ ρ → Except ε ρ
  | raised e => .error e
  | returned r | value r => .ok r

/-- Nothing is raised, what is returned meets `S`, and the body goes on with what meets `Q`. -/
def Meets (S : ρ → Prop) (Q : α → Prop) : Early ε ρ α → Prop
  | raised _ => False
  | returned r => S r
  | value a => Q a

/-- What is returned meets `S`, and the body goes on with what meets `Q`, if nothing is raised. -/
def Allows (S : ρ → Prop) (Q : α → Prop) : Early ε ρ α → Prop
  | raised _ => True
  | returned r => S r
  | value a => Q a

variable {S : ρ → Prop} {Q : α → Prop} {x : Early ε ρ α}

@[simp] theorem meets_pure {a : α} : (pure a : Early ε ρ α).Meets S Q ↔ Q a := Iff.rfl

@[simp] theorem meets_returned {r : ρ} : (returned r : Early ε ρ α).Meets S Q ↔ S r := Iff.rfl

/-- One statement after the other. -/
theorem meets_bind {f : α → Early ε ρ β} {Q : β → Prop} :
    (x >>= f).Meets S Q ↔ x.Meets S fun a => (f a).Meets S Q := by
  cases x <;> exact Iff.rfl

theorem meets_ofExcept {y : Except ε α} :
    (ofExcept y : Early ε ρ α).Meets S Q ↔ Answers y ∧ ∀ a, y = .ok a → Q a := by
  cases y <;> simp [ofExcept, Meets, Answers]

/-- **A whole body.** -/
theorem exists_outcome_iff {x : Early ε ρ ρ} :
    (∃ r, x.outcome = .ok r ∧ S r) ↔ x.Meets S S := by
  cases x <;> simp [outcome, Meets]

/-- **A loop that returns at the first element that does not fit**, unless `ok` fails there. -/
theorem meets_mapM {f : α → Early ε ρ β} {good ok : α → Prop} {g : α → β}
    (hf : ∀ a (Q : β → Prop), (f a).Meets S Q ↔ (good a → Q (g a)) ∧ (¬ good a → ok a))
    {l : List α} {Q : List β → Prop} :
    (l.mapM f).Meets S Q ↔
      (∀ before a rest, l = before ++ a :: rest → (∀ b ∈ before, good b) → ¬ good a → ok a) ∧
        ((∀ a ∈ l, good a) → Q (l.map g)) := by
  induction l generalizing Q with
  | nil => simp
  | cons a l ih =>
    rw [List.mapM_cons, meets_bind, hf,
      forall_split_cons (P := fun before a => (∀ b ∈ before, good b) → ¬ good a → ok a)]
    simp only [meets_bind, meets_pure, ih, List.forall_mem_cons, List.map_cons]
    by_cases ha : good a
    · simp [ha]
    · simp [ha]

/-! ### Without totality -/

theorem Allows.bind {f : α → Early ε ρ β} {Q : β → Prop} (hx : x.Allows S fun _ => True)
    (hf : ∀ a, (f a).Allows S Q) : (x >>= f).Allows S Q := by
  cases x with
  | raised e => trivial
  | returned r => exact hx
  | value a => exact hf a

theorem allows_ofExcept (y : Except ε α) : (ofExcept y : Early ε ρ α).Allows S fun _ => True := by
  cases y <;> trivial

theorem allows_mapM {f : α → Early ε ρ β} (hf : ∀ a, (f a).Allows S fun _ => True) (l : List α) :
    (l.mapM f).Allows S fun _ => True := by
  induction l with
  | nil => trivial
  | cons a l ih =>
    rw [List.mapM_cons]
    exact (hf a).bind fun b => ih.bind fun bs => trivial

/-- A whole body, where it returns. -/
theorem Allows.of_outcome {x : Early ε ρ ρ} (hx : x.Allows S S) {r : ρ} (h : x.outcome = .ok r) :
    S r := by
  cases x with
  | raised e => cases h
  | returned r' => exact Except.ok.inj h ▸ hx
  | value r' => exact Except.ok.inj h ▸ hx

end Early

/-- A loop raises when it does at some element. -/
theorem answers_mapM {ε α β : Type} {f : α → Except ε β} {l : List α} :
    Answers (l.mapM f) ↔ ∀ a ∈ l, Answers (f a) := by
  induction l with
  | nil => simp [Answers, pure, Except.pure]
  | cons a l ih =>
    rw [List.forall_mem_cons, ← ih, List.mapM_cons]
    cases ha : f a with
    | error e => simp [Answers, bind, Except.bind]
    | ok b => cases hl : l.mapM f <;> simp [Answers, bind, Except.bind, pure, Except.pure]

/-- The results of a loop are those of its elements. -/
theorem mem_mapM_iff {ε α β : Type} {f : α → Except ε β} {l : List α} {bs : List β}
    (h : l.mapM f = .ok bs) (b : β) : b ∈ bs ↔ ∃ a ∈ l, f a = .ok b := by
  induction l generalizing bs with
  | nil =>
    obtain rfl : [] = bs := Except.ok.inj h
    simp
  | cons a l ih =>
    rw [List.mapM_cons] at h
    cases ha : f a with
    | error e =>
      rw [ha] at h
      cases h
    | ok c =>
      cases hl : l.mapM f with
      | error e =>
        rw [ha, hl] at h
        cases h
      | ok cs =>
        rw [ha, hl] at h
        obtain rfl : c :: cs = bs := Except.ok.inj h
        simp [ih hl, ha, eq_comm]

end AnnyRuntime
