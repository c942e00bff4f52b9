import Mathlib.Data.List.Basic

/-!
# The words of a shell command

`scan` splits a command into tokens, as a shell does before it looks for commands: quotes are
removed, and every character of a word remembers whether it was quoted.  A command with an expansion
that starts with a dollar sign or a back quote has no tokens here, nor has one with a quote that is
not closed.

The characters are those of any alphabet, of which the shell only sees the sorts.

* `scan_single` : what is in single quotes is taken as it is.
* `size_scan_le` : no word has more characters than were read for it.
* `isPrefix_of_scan` : a word only grows.
* `scan_bare`, `bare_of_size` : which texts are read as they are, without quotes.
-/

namespace AnnyRuntime

namespace Shell

/-- What a character is to the shell. -/
inductive CharSort where
  /-- A character that no command can have. -/
  | unusable
  | singleQuote
  | doubleQuote
  | backslash
  | backQuote
  | dollar
  | blank
  | newline
  | hash
  | ampersand
  /-- Another operator, or the start of one. -/
  | operator
  | plain
  deriving DecidableEq

/-- An alphabet. -/
structure Alphabet (α : Type*) where
  sort : α → CharSort
  /-- After a dollar sign, it starts an expansion. -/
  opens : α → Bool
  /-- Unquoted, it may start a pattern or a list of alternatives, or stand for a directory. -/
  pattern : α → Bool

/-- A word: its characters, each with the information whether it was quoted. -/
abbrev Word (α : Type*) := List (α × Bool)

/-- The text of a word. -/
def Word.value {α : Type*} (w : Word α) : List α := w.map Prod.fst

/-- The text of a word that goes on. -/
@[simp] theorem Word.value_append_map {α : Type*} (w : Word α) (l : List α) (b : Bool) :
    Word.value (w ++ l.map (·, b)) = w.value ++ l := by
  simp [Word.value, Function.comp_def]

/-- A token. -/
inductive Token (α : Type*) where
  | word (w : Word α)
  /-- The operator that runs the next command when the last one succeeded. -/
  | and
  /-- Another operator, or the end of a line. -/
  | op (c : α)

/-- Where the scanner is. -/
inductive Mode (α : Type*) where
  | plain
  | single
  | double
  | comment
  /-- After a backslash, outside of quotes. -/
  | escape (backslash : α)
  /-- After a backslash, in double quotes. -/
  | escapeDouble (backslash : α)
  /-- Before the second character of an operator. -/
  | second

section

variable {α : Type*} (A : Alphabet α)

/-- What the scanner has read: where it is, and the word that it is in. -/
structure Reading (α : Type*) where
  mode : Mode α
  word : Option (Word α) := none

namespace Reading

/-- In another mode. -/
def inMode (r : Reading α) (m : Mode α) : Reading α := { r with mode := m }

/-- One more character of the word. -/
def push (r : Reading α) (c : α) (quoted : Bool) : Reading α :=
  { r with word := some (r.word.getD [] ++ [(c, quoted)]) }

/-- In quotes, and so in a word. -/
def quote (r : Reading α) (m : Mode α) : Reading α := ⟨m, some (r.word.getD [])⟩

/-- The word that ends, if there is one. -/
def emitted (r : Reading α) : List (Token α) := (r.word.map Token.word).toList

end Reading

/-- The next character starts an expansion; a quote does so outside of quotes only. -/
def expands (quoted : Bool) (cs : List α) : Bool :=
  cs.head?.any fun c =>
    A.opens c || (!quoted && (A.sort c = .singleQuote || A.sort c = .doubleQuote))

/-- A character outside of quotes. -/
def stepPlain (r : Reading α) (c : α) (cs : List α) : Option (Reading α × List (Token α)) :=
  match A.sort c with
  | .unusable | .backQuote => none
  | .singleQuote => some (r.quote .single, [])
  | .doubleQuote => some (r.quote .double, [])
  | .backslash => some (r.inMode (.escape c), [])
  | .dollar => if expands A false cs then none else some (r.push c false, [])
  | .blank => some (⟨.plain, none⟩, r.emitted)
  | .newline | .operator => some (⟨.plain, none⟩, r.emitted ++ [.op c])
  | .hash => if r.word.isNone then some (⟨.comment, none⟩, []) else some (r.push c false, [])
  | .ampersand =>
    if cs.head?.any (fun d => A.sort d = .ampersand) then
      some (⟨.second, none⟩, r.emitted ++ [.and])
    else some (⟨.plain, none⟩, r.emitted ++ [.op c])
  | .plain => some (r.push c false, [])

/-- A character in double quotes. -/
def stepDouble (r : Reading α) (c : α) (cs : List α) : Option (Reading α × List (Token α)) :=
  match A.sort c with
  | .unusable | .backQuote => none
  | .doubleQuote => some (r.inMode .plain, [])
  | .backslash => some (r.inMode (.escapeDouble c), [])
  | .dollar => if expands A true cs then none else some (r.push c true, [])
  | _ => some (r.push c true, [])

/-- One character is read: what is read then, and the tokens that end. -/
def step (r : Reading α) (c : α) (cs : List α) : Option (Reading α × List (Token α)) :=
  if A.sort c = .unusable then none
  else
    match r.mode with
    | .plain => stepPlain A r c cs
    | .double => stepDouble A r c cs
    | .single =>
      if A.sort c = .singleQuote then some (r.inMode .plain, []) else some (r.push c true, [])
    | .comment =>
      if A.sort c = .newline then some (⟨.plain, none⟩, r.emitted ++ [.op c]) else some (r, [])
    | .second => some (r.inMode .plain, [])
    -- a line that ends in a backslash goes on
    | .escape _ =>
      if A.sort c = .newline then some (r.inMode .plain, [])
      else some ((r.push c true).inMode .plain, [])
    | .escapeDouble b =>
      match A.sort c with
      | .newline => some (r.inMode .double, [])
      | .dollar | .backQuote | .doubleQuote | .backslash =>
        some ((r.push c true).inMode .double, [])
      -- the backslash stands for itself
      | _ => some (((r.push b true).push c true).inMode .double, [])

/-- The tokens at the end of a text, unless a quote is not closed. -/
def finish (r : Reading α) : Option (List (Token α)) :=
  match r.mode with
  | .single | .double | .escapeDouble _ => none
  | .escape b => some (r.push b true).emitted
  | .plain | .comment | .second => some r.emitted

/-- The tokens of a text, unless a quote is not closed or there is an expansion. -/
def scan : Reading α → List α → Option (List (Token α))
  | r, [] => finish r
  | r, c :: cs => (step A r c cs).bind fun x => (scan x.1 cs).map (x.2 ++ ·)

/-- The shell looks for a pattern, for alternatives or for a directory in the word. -/
def Word.active (w : Word α) : Bool := w.any fun x => !x.2 && A.pattern x.1

/-- The commands of a text that runs one after the other as long as they succeed, each as its
arguments.  `idle` tells the active words in which nothing is found. -/
def commands (idle : Word α → Bool) : List (Token α) → Option (List (List (List α)))
  | [] => some [[]]
  | .word w :: ts =>
    if Word.active A w && !idle w then none
    else
      match commands idle ts with
      | some (args :: rest) => some ((w.value :: args) :: rest)
      | _ => none
  | .and :: ts => (commands idle ts).map ([] :: ·)
  | .op _ :: _ => none

/-- The commands of a text. -/
def parse (idle : Word α → Bool) (cs : List α) : Option (List (List (List α))) :=
  (scan A ⟨.plain, none⟩ cs).bind (commands A idle)

/-! ### What is read -/

/-- The number of characters of the words. -/
def size : List (Token α) → ℕ
  | [] => 0
  | .word w :: ts => w.length + size ts
  | .and :: ts => size ts
  | .op _ :: ts => size ts

/-- A character that was read may still become one of the word. -/
def Mode.pending : Mode α → ℕ
  | .escape _ | .escapeDouble _ => 1
  | _ => 0

/-- The characters of the word that is being read. -/
def Reading.chars (r : Reading α) : Word α := r.word.getD []

variable {A} {r r' : Reading α} {c : α} {cs : List α} {ts : List (Token α)}

@[simp] theorem size_append (ts us : List (Token α)) : size (ts ++ us) = size ts + size us := by
  induction ts with
  | nil => simp [size]
  | cons t ts ih =>
    cases t with
    | word w =>
      simp only [List.cons_append, size, ih]
      omega
    | and => exact ih
    | op c => exact ih

@[simp] theorem size_emitted (r : Reading α) : size r.emitted = r.chars.length := by
  cases h : r.word <;> simp [Reading.emitted, Reading.chars, h, size]

@[simp] theorem chars_push (r : Reading α) (c : α) (b : Bool) :
    (r.push c b).chars = r.chars ++ [(c, b)] := rfl

@[simp] theorem chars_inMode (r : Reading α) (m : Mode α) : (r.inMode m).chars = r.chars := rfl

@[simp] theorem chars_quote (r : Reading α) (m : Mode α) : (r.quote m).chars = r.chars := rfl

/-- The word goes on: so many characters were added. -/
structure Continues (r r' : Reading α) (ts : List (Token α)) : Prop where
  tokens : ts = []
  chars : ∃ x, r'.chars = r.chars ++ x ∧ x.length + r'.mode.pending ≤ r.mode.pending + 1
  started : r.word ≠ none → r'.word ≠ none

/-- The word, if there is one, ends. -/
structure Ends (r r' : Reading α) (ts : List (Token α)) : Prop where
  tokens : ∃ us, ts = r.emitted ++ us ∧ size us = 0
  word : r'.word = none
  pending : r'.mode.pending = 0

/-- Characters are added to the word. -/
theorem continues_of {x : Word α} (hchars : r'.chars = r.chars ++ x)
    (hlength : x.length + r'.mode.pending ≤ r.mode.pending + 1)
    (hstarted : r'.word ≠ none ∨ r'.word = r.word) : Continues r r' [] :=
  ⟨rfl, ⟨x, hchars, hlength⟩, fun h => hstarted.elim id fun heq => heq ▸ h⟩

theorem continues_push (r : Reading α) (c : α) (b : Bool) : Continues r (r.push c b) [] :=
  continues_of (chars_push r c b) (by simp [Reading.push, Nat.add_comm])
    (.inl (by simp [Reading.push]))

theorem continues_inMode (r : Reading α) {m : Mode α} (h : m.pending ≤ r.mode.pending + 1) :
    Continues r (r.inMode m) [] :=
  continues_of (List.append_nil _).symm (by simpa [Reading.inMode] using h) (.inr rfl)

theorem continues_quote (r : Reading α) {m : Mode α} (h : m.pending = 0) :
    Continues r (r.quote m) [] :=
  continues_of (List.append_nil _).symm (by simp [Reading.quote, h])
    (.inl (by simp [Reading.quote]))

theorem ends_of {m : Mode α} (h : m.pending = 0) {us : List (Token α)} (hus : size us = 0) :
    Ends r ⟨m, none⟩ (r.emitted ++ us) :=
  ⟨⟨us, rfl, hus⟩, rfl, h⟩

/-- Outside of quotes. -/
theorem stepPlain_cases (h : stepPlain A r c cs = some (r', ts)) :
    Continues r r' ts ∨ Ends r r' ts := by
  simp only [stepPlain] at h
  cases hc : A.sort c <;> simp only [hc, reduceCtorEq, Option.some.injEq, Prod.mk.injEq] at h
  case singleQuote | doubleQuote =>
    obtain ⟨rfl, rfl⟩ := h
    exact .inl (continues_quote r rfl)
  case backslash =>
    obtain ⟨rfl, rfl⟩ := h
    exact .inl (continues_inMode r (by simp [Mode.pending]))
  case dollar =>
    split_ifs at h
    obtain ⟨rfl, rfl⟩ := Prod.mk.inj (Option.some.inj h)
    exact .inl (continues_push r c false)
  case blank =>
    obtain ⟨rfl, rfl⟩ := h
    exact .inr ⟨⟨[], (List.append_nil _).symm, rfl⟩, rfl, rfl⟩
  case newline | operator =>
    obtain ⟨rfl, rfl⟩ := h
    exact .inr (ends_of rfl rfl)
  case hash =>
    split_ifs at h with hw
    · obtain ⟨rfl, rfl⟩ := Prod.mk.inj (Option.some.inj h)
      have hnone : r.word = none := by simpa using hw
      exact .inr ⟨⟨[], by simp [Reading.emitted, hnone], rfl⟩, rfl, rfl⟩
    · obtain ⟨rfl, rfl⟩ := Prod.mk.inj (Option.some.inj h)
      exact .inl (continues_push r c false)
  case ampersand =>
    split_ifs at h
    · obtain ⟨rfl, rfl⟩ := Prod.mk.inj (Option.some.inj h)
      exact .inr (ends_of rfl rfl)
    · obtain ⟨rfl, rfl⟩ := Prod.mk.inj (Option.some.inj h)
      exact .inr (ends_of rfl rfl)
  case plain =>
    obtain ⟨rfl, rfl⟩ := h
    exact .inl (continues_push r c false)

/-- In double quotes. -/
theorem stepDouble_cases (h : stepDouble A r c cs = some (r', ts)) : Continues r r' ts := by
  simp only [stepDouble] at h
  cases hc : A.sort c <;> simp only [hc, reduceCtorEq, Option.some.injEq, Prod.mk.injEq] at h
  case doubleQuote | backslash =>
    obtain ⟨rfl, rfl⟩ := h
    exact continues_inMode r (by simp [Mode.pending])
  case dollar =>
    split_ifs at h
    obtain ⟨rfl, rfl⟩ := Prod.mk.inj (Option.some.inj h)
    exact continues_push r c true
  all_goals
    obtain ⟨rfl, rfl⟩ := h
    exact continues_push r c true

/-- **What a step does.** -/
theorem step_cases (h : step A r c cs = some (r', ts)) : Continues r r' ts ∨ Ends r r' ts := by
  obtain ⟨mode, word⟩ := r
  by_cases hc : A.sort c = .unusable
  · exact absurd h (by simp [step, hc])
  rw [step, if_neg hc] at h
  cases mode with
  | plain => exact stepPlain_cases h
  | double => exact .inl (stepDouble_cases h)
  | single =>
    dsimp only at h
    split_ifs at h
    · obtain ⟨rfl, rfl⟩ := Prod.mk.inj (Option.some.inj h)
      exact .inl (continues_inMode _ (by simp [Mode.pending]))
    · obtain ⟨rfl, rfl⟩ := Prod.mk.inj (Option.some.inj h)
      exact .inl (continues_push _ c true)
  | comment =>
    dsimp only at h
    split_ifs at h
    · obtain ⟨rfl, rfl⟩ := Prod.mk.inj (Option.some.inj h)
      exact .inr (ends_of rfl rfl)
    · obtain ⟨rfl, rfl⟩ := Prod.mk.inj (Option.some.inj h)
      exact .inl (continues_of (List.append_nil _).symm (by simp [Mode.pending]) (.inr rfl))
  | second =>
    obtain ⟨rfl, rfl⟩ := Prod.mk.inj (Option.some.inj h)
    exact .inl (continues_inMode _ (by simp [Mode.pending]))
  | escape b =>
    dsimp only at h
    split_ifs at h
    · obtain ⟨rfl, rfl⟩ := Prod.mk.inj (Option.some.inj h)
      exact .inl (continues_inMode _ (by simp [Mode.pending]))
    · obtain ⟨rfl, rfl⟩ := Prod.mk.inj (Option.some.inj h)
      exact .inl (continues_of (chars_push _ c true) (by simp [Reading.inMode, Mode.pending])
        (.inl (by simp [Reading.push, Reading.inMode])))
  | escapeDouble b =>
    cases hs : A.sort c <;> simp only [hs, Option.some.injEq, Prod.mk.injEq] at h
    case newline =>
      obtain ⟨rfl, rfl⟩ := h
      exact .inl (continues_inMode _ (by simp [Mode.pending]))
    case dollar | backQuote | doubleQuote | backslash =>
      obtain ⟨rfl, rfl⟩ := h
      exact .inl (continues_of (chars_push _ c true) (by simp [Reading.inMode, Mode.pending])
        (.inl (by simp [Reading.push, Reading.inMode])))
    all_goals
      obtain ⟨rfl, rfl⟩ := h
      refine .inl (continues_of (x := [(b, true), (c, true)]) (by simp) ?_ (.inl ?_))
      · simp [Reading.inMode, Mode.pending]
      · simp [Reading.push, Reading.inMode]

/-- **No word has more characters** than were read for it. -/
theorem size_scan_le (h : scan A r cs = some ts) :
    size ts ≤ r.chars.length + r.mode.pending + cs.length := by
  induction cs generalizing r ts with
  | nil =>
    obtain ⟨mode, word⟩ := r
    cases mode with
    | single | double | escapeDouble => exact absurd h (by simp [scan, finish])
    | escape b =>
      obtain rfl := Option.some.inj h
      simp [Mode.pending]
    | plain | comment | second =>
      obtain rfl := Option.some.inj h
      simp
  | cons c cs ih =>
    obtain ⟨⟨r', us⟩, hstep, hrest⟩ := Option.bind_eq_some_iff.1 h
    obtain ⟨vs, hscan, rfl⟩ := Option.map_eq_some_iff.1 hrest
    have hle : size vs ≤ r'.chars.length + r'.mode.pending + cs.length := ih hscan
    rw [List.length_cons, size_append]
    rcases step_cases hstep with ⟨rfl, ⟨x, hx, hlength⟩, -⟩ | ⟨⟨us', rfl, hus⟩, hword, hpending⟩
    · rw [hx, List.length_append] at hle
      simp only [size]
      omega
    · have hchars : r'.chars = [] := by simp [Reading.chars, hword]
      rw [hchars, hpending, List.length_nil] at hle
      rw [size_append, size_emitted, hus]
      omega

/-- **A word only grows.** -/
theorem isPrefix_of_scan {w : Word α} (hw : r.word = some w) (h : scan A r cs = some ts) :
    ∃ w' rest, ts = .word w' :: rest ∧ w <+: w' := by
  induction cs generalizing r ts w with
  | nil =>
    obtain ⟨mode, word⟩ := r
    obtain rfl : word = some w := hw
    cases mode with
    | single | double | escapeDouble => exact absurd h (by simp [scan, finish])
    | escape b =>
      obtain rfl := Option.some.inj h
      exact ⟨w ++ [(b, true)], [], rfl, List.prefix_append _ _⟩
    | plain | comment | second =>
      obtain rfl := Option.some.inj h
      exact ⟨w, [], rfl, List.prefix_rfl⟩
  | cons c cs ih =>
    obtain ⟨⟨r', us⟩, hstep, hrest⟩ := Option.bind_eq_some_iff.1 h
    obtain ⟨vs, hscan, rfl⟩ := Option.map_eq_some_iff.1 hrest
    rcases step_cases hstep with ⟨rfl, ⟨x, hx, -⟩, hstarted⟩ | ⟨⟨us', rfl, -⟩, -, -⟩
    · obtain ⟨w', hw'⟩ := Option.ne_none_iff_exists'.1 (hstarted (by simp [hw]))
      obtain ⟨v, rest, rfl, hprefix⟩ := ih hw' hscan
      refine ⟨v, rest, rfl, List.IsPrefix.trans ⟨x, ?_⟩ hprefix⟩
      simpa [Reading.chars, hw, hw'] using hx.symm
    · exact ⟨w, us' ++ vs, by simp [Reading.emitted, hw], List.prefix_rfl⟩

/-- The commands have the characters of the words. -/
theorem size_of_commands {idle : Word α → Bool} {cmds : List (List (List α))}
    (h : commands A idle ts = some cmds) : size ts = cmds.flatten.flatten.length := by
  induction ts generalizing cmds with
  | nil =>
    obtain rfl := Option.some.inj h
    rfl
  | cons t ts ih =>
    cases t with
    | word w =>
      rw [commands] at h
      split_ifs at h
      cases hrest : commands A idle ts with
      | none => simp [hrest] at h
      | some cmds' =>
        cases cmds' with
        | nil => simp [hrest] at h
        | cons args rest =>
          simp only [hrest, Option.some.injEq] at h
          obtain rfl := h
          simp [size, ih hrest, Word.value]
    | and =>
      obtain ⟨cmds', hrest, rfl⟩ := Option.map_eq_some_iff.1 h
      simp [size, ih hrest]
    | op c => exact absurd h (by simp [commands])

/-! ### Text that is read as it is -/

/-- The text means itself outside of quotes; the flag says that it goes on with a word. -/
def bare (A : Alphabet α) : Bool → List α → Bool
  | _, [] => true
  | started, c :: cs =>
    match A.sort c with
    | .plain => bare A true cs
    | .hash => started && bare A true cs
    | .dollar => !expands A false cs && bare A true cs
    -- nothing is left that it could quote
    | .backslash => cs.isEmpty
    | _ => false

/-- The word of such a text. -/
def bareWord (A : Alphabet α) (cs : List α) : Word α :=
  cs.map fun c => (c, A.sort c = .backslash)

/-- A step in which no token ends. -/
theorem scan_cons_of_step (h : step A r c cs = some (r', [])) :
    scan A r (c :: cs) = scan A r' cs := by
  rw [scan, h, Option.bind_some]
  exact Option.map_id'

/-- **A bare text is one word**, and has the characters of the text. -/
theorem scan_bare {w : Option (Word α)} (h : bare A w.isSome cs = true)
    (hne : w ≠ none ∨ cs ≠ []) :
    scan A ⟨.plain, w⟩ cs = some [.word (w.getD [] ++ bareWord A cs)] := by
  induction cs generalizing w with
  | nil =>
    cases w with
    | none => simp at hne
    | some w => simp [scan, finish, Reading.emitted, bareWord]
  | cons c cs ih =>
    have hgoes : ∀ {b : Bool}, step A ⟨.plain, w⟩ c cs = some (Reading.push ⟨.plain, w⟩ c b, []) →
        bare A true cs = true → b = decide (A.sort c = .backslash) →
          scan A ⟨.plain, w⟩ (c :: cs) = some [.word (w.getD [] ++ bareWord A (c :: cs))] := by
      rintro b hstep hrest rfl
      rw [scan_cons_of_step hstep]
      have hword := ih (w := some (w.getD [] ++ [(c, decide (A.sort c = .backslash))])) hrest
        (.inl (by simp))
      exact hword.trans (by simp [bareWord])
    cases hs : A.sort c <;> simp only [bare, hs, Bool.and_eq_true, Bool.false_eq_true] at h
    case plain => exact hgoes (b := false) (by simp [step, stepPlain, hs]) h (by simp [hs])
    case hash =>
      refine hgoes (b := false) ?_ h.2 (by simp [hs])
      simp [step, stepPlain, hs, Option.isSome_iff_ne_none.1 h.1]
    case dollar =>
      refine hgoes (b := false) ?_ h.2 (by simp [hs])
      have : expands A false cs = false := by simpa using h.1
      simp [step, stepPlain, hs, this]
    case backslash =>
      obtain rfl : cs = [] := by simpa using h
      simp [scan, step, stepPlain, hs, finish, Reading.inMode, Reading.push, Reading.emitted,
        bareWord]

/-- What is read after a backslash: the next character only. -/
theorem size_escape_lt {w : Option (Word α)} {b d : α}
    (h : scan A ⟨.escape b, w⟩ (d :: cs) = some ts) :
    size ts ≤ (w.getD []).length + 1 + cs.length := by
  obtain ⟨⟨r', us⟩, hstep, hrest⟩ := Option.bind_eq_some_iff.1 h
  obtain ⟨vs, hscan, rfl⟩ := Option.map_eq_some_iff.1 hrest
  have hle := size_scan_le hscan
  simp only [step] at hstep
  split_ifs at hstep
  · obtain ⟨rfl, rfl⟩ := Prod.mk.inj (Option.some.inj hstep)
    simp [Reading.inMode, Reading.chars, Mode.pending] at hle ⊢
    omega
  · obtain ⟨rfl, rfl⟩ := Prod.mk.inj (Option.some.inj hstep)
    simp [Reading.inMode, Reading.push, Reading.chars, Mode.pending] at hle ⊢
    omega

/-- **Which characters are kept**: those that are added to the word as they are, and the backslash,
until the next character is read. -/
theorem step_kept {w : Option (Word α)} {r' : Reading α} {us : List (Token α)}
    (hstep : step A ⟨.plain, w⟩ c cs = some (r', us))
    (hkept : (w.getD []).length + 1 ≤ r'.chars.length + r'.mode.pending + size us) :
    (r' = Reading.push ⟨.plain, w⟩ c false ∧ us = [] ∧
      (bare A true cs = true → bare A w.isSome (c :: cs) = true)) ∨
    (A.sort c = .backslash ∧ r' = Reading.inMode ⟨.plain, w⟩ (.escape c) ∧ us = []) := by
  -- a step that ends the word loses its character
  have hends : ¬ Ends ⟨.plain, w⟩ r' us := by
    rintro ⟨⟨us', rfl, hus⟩, hword, hpending⟩
    have hchars : r'.chars = [] := by simp [Reading.chars, hword]
    rw [hchars, hpending, size_append, size_emitted, hus] at hkept
    change (w.getD []).length + 1 ≤ 0 + 0 + ((w.getD []).length + 0) at hkept
    omega
  by_cases hc : A.sort c = .unusable
  · exact absurd hstep (by simp [step, hc])
  rw [step, if_neg hc] at hstep
  cases hs : A.sort c <;> simp only [stepPlain, hs, reduceCtorEq, Option.some.injEq,
    Prod.mk.injEq] at hstep
  case plain =>
    exact .inl ⟨hstep.1.symm, hstep.2.symm, fun h => by simp [bare, hs, h]⟩
  case dollar =>
    split_ifs at hstep with hexp
    obtain ⟨rfl, rfl⟩ := Prod.mk.inj (Option.some.inj hstep)
    exact .inl ⟨rfl, rfl, fun h => by simp [bare, hs, hexp, h]⟩
  case hash =>
    split_ifs at hstep with hnone
    · -- the rest is a comment
      obtain ⟨rfl, rfl⟩ := Prod.mk.inj (Option.some.inj hstep)
      have hemitted : Reading.emitted ⟨.plain, w⟩ = [] := by
        simp [Reading.emitted, Option.isNone_iff_eq_none.1 hnone]
      exact absurd ⟨⟨[], by simp [hemitted], rfl⟩, rfl, rfl⟩ hends
    · obtain ⟨rfl, rfl⟩ := Prod.mk.inj (Option.some.inj hstep)
      have hword : w ≠ none := Option.isNone_iff_eq_none.not.1 hnone
      exact .inl ⟨rfl, rfl, fun h => by simp [bare, hs, h, Option.isSome_iff_ne_none, hword]⟩
  case backslash =>
    exact .inr ⟨rfl, hstep.1.symm, hstep.2.symm⟩
  case singleQuote | doubleQuote =>
    obtain ⟨rfl, rfl⟩ := hstep
    change (w.getD []).length + 1 ≤ (w.getD []).length + 0 + 0 at hkept
    omega
  case blank =>
    obtain ⟨rfl, rfl⟩ := hstep
    exact absurd ⟨⟨[], (List.append_nil _).symm, rfl⟩, rfl, rfl⟩ hends
  case newline | operator =>
    obtain ⟨rfl, rfl⟩ := hstep
    exact absurd (ends_of rfl rfl) hends
  case ampersand =>
    split_ifs at hstep
    · obtain ⟨rfl, rfl⟩ := Prod.mk.inj (Option.some.inj hstep)
      exact absurd (ends_of rfl rfl) hends
    · obtain ⟨rfl, rfl⟩ := Prod.mk.inj (Option.some.inj hstep)
      exact absurd (ends_of rfl rfl) hends

/-- **Only a bare text is read as it is**: otherwise a character of it is lost. -/
theorem bare_of_size {w : Option (Word α)} (h : scan A ⟨.plain, w⟩ cs = some ts)
    (hsize : size ts = (w.getD []).length + cs.length) : bare A w.isSome cs = true := by
  induction cs generalizing w ts with
  | nil => rfl
  | cons c cs ih =>
    obtain ⟨⟨r', us⟩, hstep, hrest⟩ := Option.bind_eq_some_iff.1 h
    obtain ⟨vs, hscan, rfl⟩ := Option.map_eq_some_iff.1 hrest
    have hle : size vs ≤ r'.chars.length + r'.mode.pending + cs.length := size_scan_le hscan
    simp only [List.length_cons, size_append] at hsize
    have hkept : (w.getD []).length + 1 ≤ r'.chars.length + r'.mode.pending + size us := by
      omega
    rcases step_kept hstep hkept with ⟨rfl, rfl, hbare⟩ | ⟨hs, rfl, rfl⟩
    · -- the character of a word is kept, and so are those after it
      refine hbare (ih (w := some (w.getD [] ++ [(c, false)])) hscan ?_)
      simp only [size] at hsize
      simp
      omega
    · cases cs with
      | nil => simp [bare, hs]
      | cons d cs =>
        -- the backslash quotes the next character, and is lost itself
        have hlt := size_escape_lt hscan
        simp [size] at hsize hlt
        omega

/-! ### Quotes -/

section

variable {w : Word α} {q : α}

/-- **What is in single quotes** is taken as it is. -/
theorem scan_single {body : List α} (hq : A.sort q = .singleQuote)
    (h : ∀ c ∈ body, A.sort c ≠ .unusable ∧ A.sort c ≠ .singleQuote) (rest : List α) :
    scan A ⟨.single, some w⟩ (body ++ q :: rest) =
      scan A ⟨.plain, some (w ++ body.map (·, true))⟩ rest := by
  induction body generalizing w with
  | nil => simp [scan, step, hq, Reading.inMode]
  | cons c body ih =>
    obtain ⟨hc, hne⟩ := h c List.mem_cons_self
    have hstep : step A ⟨.single, some w⟩ c (body ++ q :: rest) =
        some (Reading.push ⟨.single, some w⟩ c true, []) := by
      simp [step, hc, hne]
    rw [List.cons_append, scan_cons_of_step hstep]
    have hih := ih (w := w ++ [(c, true)]) fun d hd => h d (List.mem_cons_of_mem _ hd)
    exact hih.trans (by simp)

/-- A quote opens. -/
theorem scan_quote {w : Option (Word α)} {m : Mode α}
    (h : (A.sort q = .singleQuote ∧ m = .single) ∨ (A.sort q = .doubleQuote ∧ m = .double)) :
    scan A ⟨.plain, w⟩ (q :: cs) = scan A ⟨m, some (w.getD [])⟩ cs := by
  rcases h with ⟨hq, rfl⟩ | ⟨hq, rfl⟩ <;> simp [scan, step, stepPlain, hq, Reading.quote]

/-- Double quotes close. -/
theorem scan_double_close (hq : A.sort q = .doubleQuote) :
    scan A ⟨.double, some w⟩ (q :: cs) = scan A ⟨.plain, some w⟩ cs := by
  simp [scan, step, stepDouble, hq, Reading.inMode]

/-- The characters that mean nothing in double quotes. -/
def inert (A : Alphabet α) (c : α) : Bool :=
  match A.sort c with
  | .unusable | .doubleQuote | .backslash | .backQuote | .dollar | .newline => false
  | _ => true

theorem scan_double_inert (hc : inert A c = true) :
    scan A ⟨.double, some w⟩ (c :: cs) = scan A ⟨.double, some (w ++ [(c, true)])⟩ cs := by
  have hstep : step A ⟨.double, some w⟩ c cs =
      some (Reading.push ⟨.double, some w⟩ c true, []) := by
    cases hs : A.sort c <;> simp_all [inert, step, stepDouble]
  rw [scan_cons_of_step hstep]
  rfl

/-- Inert characters, one after the other. -/
theorem scan_double_inerts {body : List α} (h : ∀ c ∈ body, inert A c = true) (rest : List α) :
    scan A ⟨.double, some w⟩ (body ++ rest) =
      scan A ⟨.double, some (w ++ body.map (·, true))⟩ rest := by
  induction body generalizing w with
  | nil => simp
  | cons c body ih =>
    rw [List.cons_append, scan_double_inert (h c List.mem_cons_self),
      ih fun d hd => h d (List.mem_cons_of_mem _ hd)]
    simp

/-- A backslash in double quotes quotes another one. -/
theorem scan_double_backslash {b : α} (hb : A.sort b = .backslash) :
    scan A ⟨.double, some w⟩ (b :: b :: cs) = scan A ⟨.double, some (w ++ [(b, true)])⟩ cs := by
  have hfirst : step A ⟨.double, some w⟩ b (b :: cs) = some (⟨.escapeDouble b, some w⟩, []) := by
    simp [step, stepDouble, hb, Reading.inMode]
  have hsecond : step A ⟨.escapeDouble b, some w⟩ b cs =
      some (⟨.double, some (w ++ [(b, true)])⟩, []) := by
    simp [step, hb, Reading.inMode, Reading.push]
  rw [scan_cons_of_step hfirst, scan_cons_of_step hsecond]

/-- Before an inert character it stands for itself. -/
theorem scan_double_escape {b : α} (hb : A.sort b = .backslash) (hc : inert A c = true) :
    scan A ⟨.double, some w⟩ (b :: c :: cs) =
      scan A ⟨.double, some (w ++ [(b, true), (c, true)])⟩ cs := by
  have hfirst : step A ⟨.double, some w⟩ b (c :: cs) = some (⟨.escapeDouble b, some w⟩, []) := by
    simp [step, stepDouble, hb, Reading.inMode]
  have hsecond : step A ⟨.escapeDouble b, some w⟩ c cs =
      some (⟨.double, some (w ++ [(b, true), (c, true)])⟩, []) := by
    cases hs : A.sort c <;> simp_all [inert, step, Reading.inMode, Reading.push]
  rw [scan_cons_of_step hfirst, scan_cons_of_step hsecond]

/-- A back quote starts an expansion. -/
theorem scan_double_backQuote (hc : A.sort c = .backQuote) :
    scan A ⟨.double, some w⟩ (c :: cs) = none := by
  simp [scan, step, stepDouble, hc]

/-- A dollar sign does so before some characters. -/
theorem scan_double_dollar (hc : A.sort c = .dollar) :
    scan A ⟨.double, some w⟩ (c :: cs) =
      if expands A true cs then none else scan A ⟨.double, some (w ++ [(c, true)])⟩ cs := by
  cases he : expands A true cs
  · have hstep : step A ⟨.double, some w⟩ c cs =
        some (Reading.push ⟨.double, some w⟩ c true, []) := by
      simp [step, stepDouble, hc, he]
    rw [scan_cons_of_step hstep]
    rfl
  · simp [scan, step, stepDouble, hc, he]

end

/-! ### Whole commands -/

/-- Plain characters go on with a word. -/
theorem scan_plains {t : List α} (ht : t ≠ []) (h : ∀ c ∈ t, A.sort c = .plain)
    (w : Option (Word α)) (rest : List α) :
    scan A ⟨.plain, w⟩ (t ++ rest) =
      scan A ⟨.plain, some (w.getD [] ++ t.map (·, false))⟩ rest := by
  induction t generalizing w with
  | nil => exact absurd rfl ht
  | cons c t ih =>
    have hstep : step A ⟨.plain, w⟩ c (t ++ rest) =
        some (Reading.push ⟨.plain, w⟩ c false, []) := by
      simp [step, stepPlain, h c List.mem_cons_self]
    rw [List.cons_append, scan_cons_of_step hstep]
    cases t with
    | nil => rfl
    | cons d t =>
      have hih := ih (List.cons_ne_nil d t) (fun e he => h e (List.mem_cons_of_mem _ he))
        (some (w.getD [] ++ [(c, false)]))
      exact hih.trans (by simp)

/-- A blank ends a word. -/
theorem scan_blank {b : α} (hb : A.sort b = .blank) (w : Option (Word α)) (rest : List α) :
    scan A ⟨.plain, w⟩ (b :: rest) =
      (scan A ⟨.plain, none⟩ rest).map ((w.map Token.word).toList ++ ·) := by
  simp [scan, step, stepPlain, hb, Reading.emitted]

/-- A plain word before a blank. -/
theorem scan_plainWord {t : List α} (ht : t ≠ []) (h : ∀ c ∈ t, A.sort c = .plain) {b : α}
    (hb : A.sort b = .blank) (rest : List α) :
    scan A ⟨.plain, none⟩ (t ++ b :: rest) =
      (scan A ⟨.plain, none⟩ rest).map (.word (t.map (·, false)) :: ·) := by
  rw [scan_plains ht h, scan_blank hb]
  rfl

/-- The operator between two commands, before a blank. -/
theorem scan_and {c d b : α} (hc : A.sort c = .ampersand) (hd : A.sort d = .ampersand)
    (hb : A.sort b = .blank) (rest : List α) :
    scan A ⟨.plain, none⟩ (c :: d :: b :: rest) =
      (scan A ⟨.plain, none⟩ rest).map (.and :: ·) := by
  simp [scan, step, stepPlain, hc, hd, hb, Reading.emitted, Reading.inMode, Function.comp_def]

theorem commands_nil {idle : Word α → Bool} : commands A idle [] = some [[]] := rfl

/-- A word is an argument, when nothing is looked for in it or nothing is found. -/
theorem commands_word_iff {idle : Word α → Bool} {w : Word α} {a : List α} {args : List (List α)}
    {rest : List (List (List α))} :
    commands A idle (.word w :: ts) = some ((a :: args) :: rest) ↔
      (Word.active A w = true → idle w = true) ∧ w.value = a ∧
        commands A idle ts = some (args :: rest) := by
  rw [commands]
  split_ifs with hactive
  · rw [Bool.and_eq_true, Bool.not_eq_true'] at hactive
    refine iff_of_false (by simp) fun h => ?_
    exact absurd ((h.1 hactive.1).symm.trans hactive.2) (by decide)
  · have hidle : Word.active A w = true → idle w = true := by
      intro ha
      by_contra hno
      exact hactive (by simp [ha, hno])
    cases hrest : commands A idle ts with
    | none => simp
    | some l =>
      cases l with
      | nil => simp
      | cons args' rest' =>
        simp only [Option.some.injEq, List.cons.injEq]
        constructor
        · rintro ⟨⟨rfl, rfl⟩, rfl⟩
          exact ⟨hidle, rfl, rfl, rfl⟩
        · rintro ⟨-, rfl, rfl, rfl⟩
          exact ⟨⟨rfl, rfl⟩, rfl⟩

/-- The operator goes on with the next command. -/
theorem commands_and_iff {idle : Word α → Bool} {rest : List (List (List α))} :
    commands A idle (.and :: ts) = some ([] :: rest) ↔ commands A idle ts = some rest := by
  simp [commands]

/-- **Which texts are one argument**, and this one the text itself. -/
theorem parse_singleton_iff {idle : Word α → Bool} (hne : cs ≠ []) :
    parse A idle cs = some [[cs]] ↔ bare A false cs = true ∧
      (Word.active A (bareWord A cs) = true → idle (bareWord A cs) = true) := by
  have hvalue : Word.value (bareWord A cs) = cs := by
    simp [Word.value, bareWord, Function.comp_def]
  constructor
  · intro h
    obtain ⟨ts, hscan, hcommands⟩ := Option.bind_eq_some_iff.1 h
    have hsize : size ts = cs.length := by simpa using size_of_commands hcommands
    have hbare : bare A false cs = true := bare_of_size (w := none) hscan (by simpa using hsize)
    obtain rfl : ts = [.word (bareWord A cs)] :=
      Option.some.inj (hscan.symm.trans (scan_bare (w := none) hbare (.inr hne)))
    exact ⟨hbare, (commands_word_iff.1 hcommands).1⟩
  · rintro ⟨hbare, hidle⟩
    rw [parse, scan_bare (w := none) hbare (.inr hne)]
    exact commands_word_iff.2 ⟨hidle, hvalue, commands_nil⟩

end

end Shell

end AnnyRuntime
