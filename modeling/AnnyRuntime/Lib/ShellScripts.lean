import Mathlib.Data.Set.Insert
import Mathlib.Logic.Function.Basic
import Mathlib.Logic.Relation

/-!
# The runs of a shell script

A `Script` is what a shell makes of a text: commands, redirections, and the ways in which they are
put together.  What an expansion gives, whether a command succeeds and whether a file can be opened
is not known, so a script has many runs.

A part of a script that is never reached does no harm.  `Script.Ok` follows the script, with the
functions that are defined and the statuses that a part can end with (`Script.Ends`).

* `ends_of_runs`, `exists_runs_of_ends` : the statuses are the right ones.
* `fine_iff_ok` : **every run of a script does only what is allowed exactly when `Ok` accepts the
  script.**
* `ok_iff_of_listed` : in lists and pipelines, that is when every command in the text is allowed.

A run lists what happens in the parts of a script one after the other, also where the shell runs
parts at the same time.
-/

namespace AnnyRuntime

namespace Shell

/-- A script, over texts. -/
inductive Script (τ : Type*) where
  /-- Nothing is left to do. -/
  | done (status : Bool)
  /-- A value is evaluated as a part of a script. -/
  | evaluated
  /-- A function is defined. -/
  | define (name : τ) (body : Script τ)
  /-- A simple command: the words that its expansion may give. -/
  | command (words : Set (List τ))
  /-- A redirection, which may be one of output to a file. -/
  | redirect (toFile : Bool) (body : Script τ)
  /-- What comes next depends on the status: `if`, and with a part that has nothing to do `!`. -/
  | cond (first onSuccess onFailure : Script τ)
  /-- One of two parts, depending on a value: `case`, and of two statuses `[[`. -/
  | either (one other : Script τ)
  /-- `while`, with the status of the last round; over the words of an expansion, `for`. -/
  | loop (last : Bool) (condition body : Script τ)
  | pipe (left right : Script τ)
  | subshell (body : Script τ)
  | async (body : Script τ)

variable {τ : Type*}

namespace Script

/-- `a; b`, or two lines. -/
def seq (a b : Script τ) : Script τ := .cond a b b

/-- `a && b`. -/
def andThen (a b : Script τ) : Script τ := .cond a b (.done false)

/-- `a || b`. -/
def orElse (a b : Script τ) : Script τ := .cond a (.done true) b

/-- A command whose words stand in the text. -/
def literal (words : List τ) : Script τ := .command {words}

end Script

/-- The functions that are defined. -/
abbrev Functions (τ : Type*) := τ → Option (Script τ)

/-- The function that a command calls. -/
def Functions.called (s : Functions τ) (words : List τ) : Option (Script τ) := words.head?.bind s

/-- What happens in a run. -/
inductive Event (τ : Type*) where
  /-- A command is executed. -/
  | run (words : List τ)
  /-- A function is called. -/
  | call (words : List τ)
  /-- An output redirection to a file takes place. -/
  | output

section

variable [DecidableEq τ] (program : Set (List τ))

/-- The runs of a script: what happens, and the status and the functions at the end, if the end is
reached.  A program leaves the shell as it is; a command of the shell itself may do anything. -/
inductive Runs :
    Script τ → Functions τ → List (Event τ) → Option (Bool × Functions τ) → Prop
  | start (a : Script τ) (s : Functions τ) : Runs a s [] none
  | done (b : Bool) (s : Functions τ) : Runs (.done b) s [] (some (b, s))
  | evaluated (s : Functions τ) (tr : List (Event τ)) (o : Option (Bool × Functions τ)) :
      Runs .evaluated s tr o
  | define (f : τ) (a : Script τ) (s : Functions τ) :
      Runs (.define f a) s [] (some (true, Function.update s f (some a)))
  | running {s : Functions τ} {ws : Set (List τ)} {w : List τ} (hw : w ∈ ws)
      (hf : s.called w = none) : Runs (.command ws) s [.run w] none
  | run {s : Functions τ} {ws : Set (List τ)} {w : List τ} (hw : w ∈ ws)
      (hf : s.called w = none) (b : Bool) : Runs (.command ws) s [.run w] (some (b, s))
  | builtin {s : Functions τ} {ws : Set (List τ)} {w : List τ} (hw : w ∈ ws)
      (hf : s.called w = none) (hb : w ∉ program) (tr : List (Event τ))
      (o : Option (Bool × Functions τ)) : Runs (.command ws) s (.run w :: tr) o
  | call {s : Functions τ} {ws : Set (List τ)} {w : List τ} {a : Script τ} {tr : List (Event τ)}
      {o : Option (Bool × Functions τ)} (hw : w ∈ ws) (hf : s.called w = some a)
      (h : Runs a s tr o) : Runs (.command ws) s (.call w :: tr) o
  | redirectFails (t : Bool) (a : Script τ) (s : Functions τ) :
      Runs (.redirect t a) s [] (some (false, s))
  | redirect {t : Bool} {a : Script τ} {s : Functions τ} {tr : List (Event τ)}
      {o : Option (Bool × Functions τ)} (h : Runs a s tr o) :
      Runs (.redirect t a) s ((if t then [.output] else []) ++ tr) o
  | condFirst {c a b : Script τ} {s : Functions τ} {tr : List (Event τ)} (h : Runs c s tr none) :
      Runs (.cond c a b) s tr none
  | condNext {c a b : Script τ} {s s₁ : Functions τ} {r : Bool} {tr tr' : List (Event τ)}
      {o : Option (Bool × Functions τ)} (hc : Runs c s tr (some (r, s₁)))
      (h : Runs (if r then a else b) s₁ tr' o) : Runs (.cond c a b) s (tr ++ tr') o
  | one {a b : Script τ} {s : Functions τ} {tr : List (Event τ)}
      {o : Option (Bool × Functions τ)} (h : Runs a s tr o) : Runs (.either a b) s tr o
  | other {a b : Script τ} {s : Functions τ} {tr : List (Event τ)}
      {o : Option (Bool × Functions τ)} (h : Runs b s tr o) : Runs (.either a b) s tr o
  | loopFirst {last : Bool} {c a : Script τ} {s : Functions τ} {tr : List (Event τ)}
      (h : Runs c s tr none) : Runs (.loop last c a) s tr none
  | loopEnd {last : Bool} {c a : Script τ} {s s₁ : Functions τ} {tr : List (Event τ)}
      (h : Runs c s tr (some (false, s₁))) : Runs (.loop last c a) s tr (some (last, s₁))
  | loopBody {last : Bool} {c a : Script τ} {s s₁ : Functions τ} {tr tr' : List (Event τ)}
      (hc : Runs c s tr (some (true, s₁))) (h : Runs a s₁ tr' none) :
      Runs (.loop last c a) s (tr ++ tr') none
  | loopNext {last r : Bool} {c a : Script τ} {s s₁ s₂ : Functions τ}
      {tr tr' tr'' : List (Event τ)} {o : Option (Bool × Functions τ)}
      (hc : Runs c s tr (some (true, s₁))) (ha : Runs a s₁ tr' (some (r, s₂)))
      (h : Runs (.loop r c a) s₂ tr'' o) : Runs (.loop last c a) s (tr ++ tr' ++ tr'') o
  | piping {a b : Script τ} {s : Functions τ} {tr tr' : List (Event τ)}
      {o o' : Option (Bool × Functions τ)} (ha : Runs a s tr o) (hb : Runs b s tr' o') :
      Runs (.pipe a b) s (tr ++ tr') none
  | pipe {a b : Script τ} {s s' : Functions τ} {r : Bool} {tr tr' : List (Event τ)}
      {x : Bool × Functions τ} (ha : Runs a s tr (some x)) (hb : Runs b s tr' (some (r, s'))) :
      Runs (.pipe a b) s (tr ++ tr') (some (r, s))
  | subshell {a : Script τ} {s : Functions τ} {tr : List (Event τ)}
      {o : Option (Bool × Functions τ)} (h : Runs a s tr o) :
      Runs (.subshell a) s tr (o.map fun x => (x.1, s))
  | async {a : Script τ} {s : Functions τ} {tr : List (Event τ)}
      {o : Option (Bool × Functions τ)} (h : Runs a s tr o) :
      Runs (.async a) s tr (some (true, s))

/-- Every run does only what is allowed. -/
def Fine (P : Event τ → Prop) (a : Script τ) (s : Functions τ) : Prop :=
  ∀ tr o, Runs program a s tr o → ∀ e ∈ tr, P e

/-- No function may be called, and no command of the shell itself. -/
structure Guarded (P : Event τ → Prop) : Prop where
  call : ∀ w, ¬ P (.call w)
  run : ∀ w, P (.run w) → w ∈ program

end

/-! ### The check -/

namespace Script

variable [DecidableEq τ]

/-- The status and the functions that a script may end with. -/
def Ends : Script τ → Functions τ → Bool → Functions τ → Prop
  | .done r, s, b, s' => b = r ∧ s' = s
  | .evaluated, _, _, _ => True
  | .define f a, s, b, s' => b = true ∧ s' = Function.update s f (some a)
  | .command ws, s, _, s' => ws.Nonempty ∧ s' = s
  | .redirect _ a, s, b, s' => (b = false ∧ s' = s) ∨ a.Ends s b s'
  | .cond c a b, s, r, s' =>
    (∃ s₁, c.Ends s true s₁ ∧ a.Ends s₁ r s') ∨ ∃ s₁, c.Ends s false s₁ ∧ b.Ends s₁ r s'
  | .either a b, s, r, s' => a.Ends s r s' ∨ b.Ends s r s'
  | .loop last c a, s, r, s' =>
    ∃ s₁, Relation.ReflTransGen
      (fun x y : Bool × Functions τ => ∃ t, c.Ends x.2 true t ∧ a.Ends t y.1 y.2)
        (last, s) (r, s₁) ∧ c.Ends s₁ false s'
  | .pipe a b, s, r, s' => (∃ q s₁, a.Ends s q s₁) ∧ (∃ s₁, b.Ends s r s₁) ∧ s' = s
  | .subshell a, s, r, s' => (∃ s₁, a.Ends s r s₁) ∧ s' = s
  | .async _, s, r, s' => r = true ∧ s' = s

/-- One round of a loop, from the last status and the functions. -/
def Round (c a : Script τ) (x y : Bool × Functions τ) : Prop :=
  ∃ s, c.Ends x.2 true s ∧ a.Ends s y.1 y.2

/-- Whatever can be reached in the script is allowed. -/
def Ok (P : Event τ → Prop) : Script τ → Functions τ → Prop
  | .done _, _ => True
  | .evaluated, _ => False
  | .define _ _, _ => True
  | .command ws, s => ∀ w ∈ ws, s.called w = none ∧ P (.run w)
  | .redirect t a, s => (t = true → P .output) ∧ a.Ok P s
  | .cond c a b, s =>
    c.Ok P s ∧ (∀ s₁, c.Ends s true s₁ → a.Ok P s₁) ∧ ∀ s₁, c.Ends s false s₁ → b.Ok P s₁
  | .either a b, s => a.Ok P s ∧ b.Ok P s
  | .loop last c a, s =>
    ∀ x, Relation.ReflTransGen (Round c a) (last, s) x →
      c.Ok P x.2 ∧ ∀ s₁, c.Ends x.2 true s₁ → a.Ok P s₁
  | .pipe a b, s => a.Ok P s ∧ b.Ok P s
  | .subshell a, s => a.Ok P s
  | .async a, s => a.Ok P s

variable {P : Event τ → Prop} {a b c : Script τ} {s s' : Functions τ} {r : Bool}

/-- Both parts of a list can be reached. -/
theorem ok_seq : (seq a b).Ok P s ↔ a.Ok P s ∧ ∀ r s₁, a.Ends s r s₁ → b.Ok P s₁ := by
  refine and_congr_right fun _ => ⟨?_, fun h => ⟨h true, h false⟩⟩
  rintro ⟨htrue, hfalse⟩ r s₁ hends
  cases r with
  | true => exact htrue s₁ hends
  | false => exact hfalse s₁ hends

/-- The second part of `&&` can be reached when the first one can succeed. -/
theorem ok_andThen :
    (andThen a b).Ok P s ↔ a.Ok P s ∧ ∀ s₁, a.Ends s true s₁ → b.Ok P s₁ := by
  simp [andThen, Ok]

/-- The second part of `||` can be reached when the first one can fail. -/
theorem ok_orElse :
    (orElse a b).Ok P s ↔ a.Ok P s ∧ ∀ s₁, a.Ends s false s₁ → b.Ok P s₁ := by
  simp [orElse, Ok]

theorem ok_literal {words : List τ} :
    (literal words).Ok P s ↔ s.called words = none ∧ P (.run words) := by
  simp [literal, Ok]

/-- A loop that went on is accepted as it was. -/
theorem ok_loop_next {last : Bool} {s₁ s₂ : Functions τ} (h : (loop last c a).Ok P s)
    (hc : c.Ends s true s₁) (ha : a.Ends s₁ r s₂) : (loop r c a).Ok P s₂ :=
  fun x hx => h x (.head ⟨s₁, hc, ha⟩ hx)

end Script

/-! ### The check is exact -/

section

variable [DecidableEq τ] {program : Set (List τ)} {P : Event τ → Prop} {a b c : Script τ}
  {s s' : Functions τ} {r : Bool} {tr : List (Event τ)} {o : Option (Bool × Functions τ)}

open Script Relation

/-- **A run of an accepted script** does what is allowed, and ends as the script may. -/
theorem ends_of_runs (hP : Guarded program P) (h : Runs program a s tr o) (hok : a.Ok P s) :
    (∀ e ∈ tr, P e) ∧ ∀ r s', o = some (r, s') → a.Ends s r s' := by
  induction h with
  | start => simp
  | done b s => simp [Ends]
  | evaluated => exact absurd hok id
  | define f a s => simp [Ends]
  | running hw hf =>
    refine ⟨?_, by simp⟩
    simpa using (hok _ hw).2
  | run hw hf b =>
    refine ⟨by simpa using (hok _ hw).2, ?_⟩
    rintro r s' ⟨⟩
    exact ⟨⟨_, hw⟩, rfl⟩
  | builtin hw hf hb =>
    -- no command of the shell itself is allowed
    exact absurd (hP.run _ (hok _ hw).2) hb
  | call hw hf =>
    exact absurd (hf.symm.trans (hok _ hw).1) (by simp)
  | redirectFails t a s =>
    refine ⟨by simp, ?_⟩
    rintro r s' ⟨⟩
    exact .inl ⟨rfl, rfl⟩
  | @redirect t a s tr o h ih =>
    obtain ⟨hall, hends⟩ := ih hok.2
    refine ⟨fun e he => ?_, fun r s' ho => .inr (hends r s' ho)⟩
    rcases List.mem_append.1 he with he | he
    · cases t with
      | false => simp at he
      | true =>
        obtain rfl : e = .output := by simpa using he
        exact hok.1 rfl
    · exact hall e he
  | condFirst h ih => exact ⟨(ih hok.1).1, by simp⟩
  | @condNext c a b s s₁ r tr tr' o hc h ihc ih =>
    obtain ⟨hallc, hendsc⟩ := ihc hok.1
    cases r with
    | true =>
      obtain ⟨hall, hends⟩ := ih (hok.2.1 s₁ (hendsc true s₁ rfl))
      exact ⟨List.forall_mem_append.2 ⟨hallc, hall⟩,
        fun r s' ho => .inl ⟨s₁, hendsc true s₁ rfl, hends r s' ho⟩⟩
    | false =>
      obtain ⟨hall, hends⟩ := ih (hok.2.2 s₁ (hendsc false s₁ rfl))
      exact ⟨List.forall_mem_append.2 ⟨hallc, hall⟩,
        fun r s' ho => .inr ⟨s₁, hendsc false s₁ rfl, hends r s' ho⟩⟩
  | one h ih => exact ⟨(ih hok.1).1, fun r s' ho => .inl ((ih hok.1).2 r s' ho)⟩
  | other h ih => exact ⟨(ih hok.2).1, fun r s' ho => .inr ((ih hok.2).2 r s' ho)⟩
  | loopFirst h ih => exact ⟨(ih (hok _ .refl).1).1, by simp⟩
  | loopEnd h ih =>
    obtain ⟨hall, hends⟩ := ih (hok _ .refl).1
    refine ⟨hall, ?_⟩
    rintro r s' ⟨⟩
    exact ⟨_, .refl, hends false _ rfl⟩
  | loopBody hc h ihc ih =>
    obtain ⟨hallc, hendsc⟩ := ihc (hok _ .refl).1
    exact ⟨List.forall_mem_append.2
      ⟨hallc, (ih ((hok _ .refl).2 _ (hendsc true _ rfl))).1⟩, by simp⟩
  | @loopNext last r c a s s₁ s₂ tr tr' tr'' o hc ha h ihc iha ih =>
    obtain ⟨hallc, hendsc⟩ := ihc (hok _ .refl).1
    have hc₁ : c.Ends s true s₁ := hendsc true s₁ rfl
    obtain ⟨halla, hendsa⟩ := iha ((hok _ .refl).2 s₁ hc₁)
    have ha₁ : a.Ends s₁ r s₂ := hendsa r s₂ rfl
    obtain ⟨hall, hends⟩ := ih (ok_loop_next hok hc₁ ha₁)
    refine ⟨List.forall_mem_append.2 ⟨List.forall_mem_append.2 ⟨hallc, halla⟩, hall⟩, ?_⟩
    intro q s' ho
    obtain ⟨s₃, hrounds, hend⟩ := hends q s' ho
    exact ⟨s₃, .head ⟨s₁, hc₁, ha₁⟩ hrounds, hend⟩
  | piping ha hb iha ihb =>
    exact ⟨List.forall_mem_append.2 ⟨(iha hok.1).1, (ihb hok.2).1⟩, by simp⟩
  | @pipe a b s s₁ q tr tr' x ha hb iha ihb =>
    refine ⟨List.forall_mem_append.2 ⟨(iha hok.1).1, (ihb hok.2).1⟩, ?_⟩
    rintro r s' ⟨⟩
    exact ⟨⟨x.1, x.2, (iha hok.1).2 x.1 x.2 rfl⟩, ⟨s₁, (ihb hok.2).2 _ s₁ rfl⟩, rfl⟩
  | @subshell a s tr o h ih =>
    refine ⟨(ih hok).1, ?_⟩
    intro r s' ho
    obtain ⟨⟨r', s₁⟩, rfl, hx⟩ := Option.map_eq_some_iff.1 ho
    obtain ⟨rfl, rfl⟩ := Prod.mk.inj hx
    exact ⟨⟨s₁, (ih hok).2 _ s₁ rfl⟩, rfl⟩
  | async h ih =>
    refine ⟨(ih hok).1, ?_⟩
    rintro r s' ⟨⟩
    exact ⟨rfl, rfl⟩

/-- The rounds of a loop can be run. -/
theorem exists_runs_loop {last : Bool} {x : Bool × Functions τ}
    (hround : ∀ x y : Bool × Functions τ, ReflTransGen (Round c a) (last, s) x → Round c a x y →
      ∃ s₁ tr tr', Runs program c x.2 tr (some (true, s₁)) ∧
        Runs program a s₁ tr' (some (y.1, y.2)))
    (hx : ReflTransGen (Round c a) (last, s) x) :
    ∃ tr, ∀ tr' o, Runs program (.loop x.1 c a) x.2 tr' o →
      Runs program (.loop last c a) s (tr ++ tr') o := by
  induction hx with
  | refl => exact ⟨[], fun tr' o h => h⟩
  | tail hx hy ih =>
    obtain ⟨tr, htr⟩ := ih
    obtain ⟨s₁, trc, tra, hc, ha⟩ := hround _ _ hx hy
    refine ⟨tr ++ (trc ++ tra), fun tr' o h => ?_⟩
    rw [List.append_assoc]
    exact htr _ _ (.loopNext hc ha h)

/-- **What an accepted script may end with** is the end of a run. -/
theorem exists_runs_of_ends (program : Set (List τ)) (h : a.Ends s r s') (hok : a.Ok P s) :
    ∃ tr, Runs program a s tr (some (r, s')) := by
  induction a generalizing s r s' with
  | done q =>
    obtain ⟨rfl, rfl⟩ := h
    exact ⟨[], .done _ _⟩
  | evaluated => exact absurd hok id
  | define f a =>
    obtain ⟨rfl, rfl⟩ := h
    exact ⟨[], .define f a s⟩
  | command ws =>
    obtain ⟨⟨w, hw⟩, rfl⟩ := h
    exact ⟨[.run w], .run hw (hok w hw).1 r⟩
  | redirect t a ih =>
    rcases h with ⟨rfl, rfl⟩ | h
    · exact ⟨[], .redirectFails t a _⟩
    · obtain ⟨tr, htr⟩ := ih h hok.2
      exact ⟨_, .redirect htr⟩
  | cond c a b ihc iha ihb =>
    rcases h with ⟨s₁, hc, h⟩ | ⟨s₁, hc, h⟩
    · obtain ⟨tr, htr⟩ := ihc hc hok.1
      obtain ⟨tr', htr'⟩ := iha h (hok.2.1 s₁ hc)
      exact ⟨tr ++ tr', .condNext htr htr'⟩
    · obtain ⟨tr, htr⟩ := ihc hc hok.1
      obtain ⟨tr', htr'⟩ := ihb h (hok.2.2 s₁ hc)
      exact ⟨tr ++ tr', .condNext htr htr'⟩
  | either a b iha ihb =>
    rcases h with h | h
    · obtain ⟨tr, htr⟩ := iha h hok.1
      exact ⟨tr, .one htr⟩
    · obtain ⟨tr, htr⟩ := ihb h hok.2
      exact ⟨tr, .other htr⟩
  | loop last c a ihc iha =>
    obtain ⟨s₁, hrounds, hend⟩ := h
    have hround : ∀ x y : Bool × Functions τ, ReflTransGen (Round c a) (last, s) x →
        Round c a x y → ∃ s₁ tr tr', Runs program c x.2 tr (some (true, s₁)) ∧
          Runs program a s₁ tr' (some (y.1, y.2)) := by
      rintro x y hx ⟨t, hc, ha⟩
      obtain ⟨trc, htrc⟩ := ihc hc (hok x hx).1
      obtain ⟨tra, htra⟩ := iha ha ((hok x hx).2 t hc)
      exact ⟨t, trc, tra, htrc, htra⟩
    obtain ⟨tr, htr⟩ := exists_runs_loop hround hrounds
    obtain ⟨tr', htr'⟩ := ihc hend (hok _ hrounds).1
    exact ⟨tr ++ tr', htr _ _ (.loopEnd htr')⟩
  | pipe a b iha ihb =>
    obtain ⟨⟨q, s₁, ha⟩, ⟨s₂, hb⟩, rfl⟩ := h
    obtain ⟨tr, htr⟩ := iha ha hok.1
    obtain ⟨tr', htr'⟩ := ihb hb hok.2
    exact ⟨tr ++ tr', .pipe htr htr'⟩
  | subshell a ih =>
    obtain ⟨⟨s₁, h⟩, rfl⟩ := h
    obtain ⟨tr, htr⟩ := ih h hok
    exact ⟨tr, .subshell htr⟩
  | async a ih =>
    obtain ⟨rfl, rfl⟩ := h
    exact ⟨[], .async (.start a _)⟩

/-- What goes on after a run of the first part is allowed too. -/
theorem Fine.next (h : Fine program P (.cond c a b) s) (hc : c.Ok P s)
    (hends : c.Ends s r s') : Fine program P (if r then a else b) s' := by
  intro tr o hrun e he
  obtain ⟨tr₀, htr₀⟩ := exists_runs_of_ends program hends hc
  exact h _ _ (.condNext htr₀ hrun) e (List.mem_append_right tr₀ he)

/-- What goes on after a round of a loop is allowed too. -/
theorem Fine.round {x y : Bool × Functions τ} (h : Fine program P (.loop x.1 c a) x.2)
    (hc : c.Ok P x.2) (ha : ∀ s₁, c.Ends x.2 true s₁ → a.Ok P s₁) (hround : Round c a x y) :
    Fine program P (.loop y.1 c a) y.2 := by
  obtain ⟨t, hct, hat⟩ := hround
  obtain ⟨trc, htrc⟩ := exists_runs_of_ends program hct hc
  obtain ⟨tra, htra⟩ := exists_runs_of_ends program hat (ha t hct)
  intro tr o hrun e he
  exact h _ _ (.loopNext htrc htra hrun) e (List.mem_append_right _ he)

/-- **A script whose runs do what is allowed** is accepted. -/
theorem ok_of_fine (hP : Guarded program P) (h : Fine program P a s) : a.Ok P s := by
  induction a generalizing s with
  | done q => trivial
  | evaluated => exact absurd (h [.call []] none (.evaluated s _ _) _ (by simp)) (hP.call [])
  | define f a => trivial
  | command ws =>
    intro w hw
    cases hf : s.called w with
    | none => exact ⟨rfl, h _ _ (.running hw hf) _ (by simp)⟩
    | some f =>
      exact absurd (h [.call w] none (.call hw hf (.start f s)) _ (by simp)) (hP.call w)
  | redirect t a ih =>
    refine ⟨?_, ih fun tr o hrun e he => h _ _ (.redirect hrun) e (List.mem_append_right _ he)⟩
    rintro rfl
    exact h _ _ (.redirect (.start a s)) _ (by simp)
  | cond c a b ihc iha ihb =>
    have hc : c.Ok P s := by
      refine ihc fun tr o hrun e he => ?_
      cases o with
      | none => exact h _ _ (.condFirst hrun) e he
      | some x =>
        have hmore := h _ _ (.condNext (a := a) (b := b) (o := none) hrun (.start _ _)) e
        exact hmore (by simpa using he)
    exact ⟨hc, fun s₁ hends => iha (h.next hc hends), fun s₁ hends => ihb (h.next hc hends)⟩
  | either a b iha ihb =>
    exact ⟨iha fun tr o hrun => h tr o (.one hrun), ihb fun tr o hrun => h tr o (.other hrun)⟩
  | loop last c a ihc iha =>
    -- one round from where the loop is still fine
    have hround : ∀ (q : Bool) (t : Functions τ), Fine program P (.loop q c a) t →
        c.Ok P t ∧ ∀ s₁, c.Ends t true s₁ → a.Ok P s₁ := by
      intro q t hfine
      have hc : c.Ok P t := by
        refine ihc fun tr o hrun e he => ?_
        rcases o with _ | ⟨_ | _, s₁⟩
        · exact hfine _ _ (.loopFirst hrun) e he
        · exact hfine _ _ (.loopEnd hrun) e he
        · exact hfine _ _ (.loopBody hrun (.start a s₁)) e (by simpa using he)
      refine ⟨hc, fun s₁ hends => iha fun tr o hrun e he => ?_⟩
      obtain ⟨tr₀, htr₀⟩ := exists_runs_of_ends program hends hc
      cases o with
      | none => exact hfine _ _ (.loopBody htr₀ hrun) e (List.mem_append_right tr₀ he)
      | some x =>
        refine hfine _ _ (.loopNext htr₀ hrun (.start _ _)) e ?_
        simp [he]
    intro x hx
    refine hround x.1 x.2 ?_
    induction hx with
    | refl => exact h
    | tail hx hy ih =>
      obtain ⟨hokc, hoka⟩ := hround _ _ ih
      exact ih.round hokc hoka hy
  | pipe a b iha ihb =>
    constructor
    · refine iha fun tr o hrun e he => ?_
      exact h _ _ (.piping hrun (.start b s)) e (by simpa using he)
    · refine ihb fun tr o hrun e he => ?_
      exact h _ _ (.piping (.start a s) hrun) e (by simpa using he)
  | subshell a ih => exact ih fun tr o hrun => h _ _ (.subshell hrun)
  | async a ih => exact ih fun tr o hrun => h _ _ (.async hrun)

/-- **The check is exact.** -/
theorem fine_iff_ok (hP : Guarded program P) : Fine program P a s ↔ a.Ok P s :=
  ⟨ok_of_fine hP, fun hok _ _ hrun => (ends_of_runs hP hrun hok).1⟩

end

/-! ### Lists and pipelines -/

section

variable [DecidableEq τ] {P : Event τ → Prop} {a : Script τ} {ws : List (List τ)}
  {s s' : Functions τ} {r : Bool}

/-- A script of lists, pipelines and subshells, and the commands in it. -/
inductive Listed : Script τ → List (List τ) → Prop
  | literal (w : List τ) : Listed (.literal w) [w]
  | seq {a b : Script τ} {v w : List (List τ)} (ha : Listed a v) (hb : Listed b w) :
      Listed (.seq a b) (v ++ w)
  | andThen {a b : Script τ} {v w : List (List τ)} (ha : Listed a v) (hb : Listed b w) :
      Listed (.andThen a b) (v ++ w)
  | orElse {a b : Script τ} {v w : List (List τ)} (ha : Listed a v) (hb : Listed b w) :
      Listed (.orElse a b) (v ++ w)
  | pipe {a b : Script τ} {v w : List (List τ)} (ha : Listed a v) (hb : Listed b w) :
      Listed (.pipe a b) (v ++ w)
  | subshell {a : Script τ} {v : List (List τ)} (ha : Listed a v) : Listed (.subshell a) v

/-- Such a script may end with both statuses, and defines no function. -/
theorem ends_of_listed (h : Listed a ws) : a.Ends s r s' ↔ s' = s := by
  induction h generalizing s s' r with
  | literal w => simp [Script.literal, Script.Ends]
  | seq ha hb iha ihb => simp [Script.seq, Script.Ends, iha, ihb]
  | andThen ha hb iha ihb =>
    simp only [Script.andThen, Script.Ends, iha, ihb, exists_eq_left]
    exact or_iff_left_of_imp And.right
  | orElse ha hb iha ihb =>
    simp only [Script.orElse, Script.Ends, iha, ihb, exists_eq_left]
    exact or_iff_right_of_imp And.right
  | pipe ha hb iha ihb => simp [Script.Ends, iha, ihb]
  | subshell ha ih => simp [Script.Ends, ih]

/-- **In lists and pipelines every command can be reached.** -/
theorem ok_iff_of_listed (h : Listed a ws) :
    a.Ok P s ↔ ∀ w ∈ ws, s.called w = none ∧ P (.run w) := by
  induction h generalizing s with
  | literal w => simp [Script.ok_literal]
  | seq ha hb iha ihb =>
    simp only [Script.ok_seq, ends_of_listed ha, forall_eq, forall_const, iha, ihb,
      List.forall_mem_append]
  | andThen ha hb iha ihb =>
    simp only [Script.ok_andThen, ends_of_listed ha, forall_eq, iha, ihb, List.forall_mem_append]
  | orElse ha hb iha ihb =>
    simp only [Script.ok_orElse, ends_of_listed ha, forall_eq, iha, ihb, List.forall_mem_append]
  | pipe ha hb iha ihb => simp only [Script.Ok, iha, ihb, List.forall_mem_append]
  | subshell ha ih => exact ih

end

end Shell

end AnnyRuntime
