import Mathlib.Data.List.Induction

/-!
# What changes at most once

A machine is observed through a function of its state.  As long as what is observed is *open*, an
action may settle it, and what is settled never changes again.  `Settling.run` : over a run the
observation stays the same, or exactly one action of the run settles it.
-/

namespace AnnyRuntime

/-- How a machine with states `σ` and actions `α` settles what `observe` reads of it, over actions
that meet `ok`: `settles a x y` says that `a` may turn `x` into `y`. -/
structure Settling {σ α β : Type*} (next : σ → α → σ) (observe : σ → Option β)
    (ok : σ → α → Prop) (settles : α → β → β → Prop) (isOpen : β → Prop) : Prop where
  step : ∀ s a x, observe s = some x → ok s a →
    observe (next s a) = some x ∨ ∃ y, observe (next s a) = some y ∧ settles a x y
  opened : ∀ a x y, settles a x y → isOpen x
  closed : ∀ a x y, settles a x y → ¬ isOpen y

namespace Settling

variable {σ α β : Type*} {next : σ → α → σ} {observe : σ → Option β} {ok : σ → α → Prop}
  {settles : α → β → β → Prop} {isOpen : β → Prop}

/-- What is settled stays. -/
theorem stays (h : Settling next observe ok settles isOpen) {s : σ} {x : β} {as : List α}
    (hx : observe s = some x) (hclosed : ¬ isOpen x)
    (hok : ∀ before a rest, as = before ++ a :: rest → ok (before.foldl next s) a) :
    observe (as.foldl next s) = some x := by
  induction as using List.reverseRecOn with
  | nil => exact hx
  | append_singleton as a ih =>
    have hbefore := ih fun before b rest has => hok before b (rest ++ [a]) (by rw [has]; simp)
    rw [List.foldl_append]
    rcases h.step _ a x hbefore (hok as a [] rfl) with hsame | ⟨y, -, hsettles⟩
    · exact hsame
    · exact absurd (h.opened a x y hsettles) hclosed

/-- **Over a run** the observation stays the same, or one action settles it and it stays so. -/
theorem run (h : Settling next observe ok settles isOpen) {s : σ} {x : β} {as : List α}
    (hx : observe s = some x)
    (hok : ∀ before a rest, as = before ++ a :: rest → ok (before.foldl next s) a) :
    observe (as.foldl next s) = some x ∨
      ∃ before a rest y, as = before ++ a :: rest ∧ observe (before.foldl next s) = some x ∧
        settles a x y ∧ observe (as.foldl next s) = some y := by
  induction as generalizing s with
  | nil => exact .inl hx
  | cons a as ih =>
    have hrest : ∀ before b rest, as = before ++ b :: rest → ok (before.foldl next (next s a)) b :=
      fun before b rest has => hok (a :: before) b rest (by rw [has]; rfl)
    rcases h.step s a x hx (hok [] a as rfl) with hsame | ⟨y, hy, hsettles⟩
    · rcases ih hsame hrest with hstays | ⟨before, b, rest, y, has, hbefore, hsettles, hy⟩
      · exact .inl hstays
      · exact .inr ⟨a :: before, b, rest, y, by rw [has]; rfl, hbefore, hsettles, hy⟩
    · have hstays : observe (as.foldl next (next s a)) = some y :=
        h.stays hy (h.closed a x y hsettles) hrest
      exact .inr ⟨[], a, as, y, rfl, hx, hsettles, hstays⟩

end Settling

end AnnyRuntime
