import AnnyRuntime.Lib.PyString
import AnnyRuntime.Lib.ShellWords
import AnnyRuntime.Telemetry.Metadata

/-!
# The text of git commands

`GitService.commit` writes the message and the author into a command with Python's `repr`, and
`diff` writes the ref into it as it is.  The shell reads them back.

What `repr` writes is a word of the shell too, but the shell takes everything in single quotes as it
is, and in double quotes it does not know the escapes of Python.

* `scan_repr` : a literal string is read back.
* `literal_of_scan` : no other one is.
* `literal_iff` : **which messages and authors `commit` passes literally, and which refs `diff`
  does.**
* `not_literal_newline` : a message of two lines is passed as one, with a backslash in it.
-/

namespace AnnyRuntime

namespace Git

open Shell PyStr

/-! ### The shell -/

/-- The characters that mean something to the shell; the fifth one is the back quote. -/
def specialChars : List (Char × CharSort) :=
  [('\x00', .unusable), ('\'', .singleQuote), ('"', .doubleQuote), ('\\', .backslash),
    (Char.ofNat 96, .backQuote), ('$', .dollar), (' ', .blank), ('\t', .blank), ('\n', .newline),
    ('#', .hash), ('&', .ampersand), ('|', .operator), (';', .operator), ('<', .operator),
    ('>', .operator), ('(', .operator), (')', .operator)]

/-- What a character is to the shell.  A surrogate that stands for a byte is passed as that byte. -/
def shellSort : PyChar → CharSort
  | .surrogate n => if 0x480 ≤ n.val ∧ n.val < 0x500 then .plain else .unusable
  | .char c => (specialChars.lookup c).getD .plain

/-- It is the name of a parameter, or the start of one, or opens an expansion. -/
def opensExpansion : PyChar → Bool
  | .surrogate _ => false
  | .char c =>
    c.isAlpha || c.isDigit ||
      ['_', '\x7b', '(', '[', '@', '*', '#', '?', '-', '$', '!'].contains c

/-- The characters of bash. -/
def bash : Alphabet PyChar where
  sort := shellSort
  opens := opensExpansion
  pattern c := c ∈ [PyChar.char '*', .char '?', .char '[', .char '\x7b', .char '~']

/-! ### The commands -/

section

variable (printable : Char → Bool)

/-- A character of the `repr` of a string that is quoted with `q`. -/
def reprPyChar (q : Char) : PyChar → List Char
  | .char c => Telemetry.reprChar printable q c
  | .surrogate n => Telemetry.escapeRepr (0xd800 + n.val)

/-- The quotes that `repr` takes. -/
def quoteOf (s : PyStr) : Char :=
  if PyChar.char '\'' ∈ s ∧ PyChar.char '"' ∉ s then '"' else '\''

/-- `repr(s)`. -/
def pyRepr (s : PyStr) : List Char :=
  quoteOf s :: (s.flatMap (reprPyChar printable (quoteOf s)) ++ [quoteOf s])

/-- The author, when one is given. -/
def givenAuthor (author : Option PyStr) : Option PyStr := author.filter (· ≠ [])

/-- The command that adds everything and commits it. -/
def commitCommand (message : PyStr) (author : Option PyStr) : List Char :=
  "git add -A && git commit -m ".toList ++ pyRepr printable message ++
    match givenAuthor author with
    | some a => " --author=".toList ++ pyRepr printable a
    | none => []

end

/-- The command that shows a difference. -/
def diffCommand (ref : Option PyStr) : PyStr :=
  match ref.filter (· ≠ []) with
  | some r => ofChars "git diff ".toList ++ r
  | none => ofChars "git diff".toList

/-- A word without quotes. -/
def plainWord (t : String) : Word PyChar := (ofChars t.toList).map (·, false)

/-- An argument. -/
def arg (t : String) : PyStr := ofChars t.toList

/-- What `commit` means to run. -/
def commitArguments (message : PyStr) (author : Option PyStr) : List (List PyStr) :=
  [[arg "git", arg "add", arg "-A"],
    [arg "git", arg "commit", arg "-m", message] ++
      match givenAuthor author with
      | some a => [arg "--author=" ++ a]
      | none => []]

/-- What `diff` means to run. -/
def diffArguments (ref : Option PyStr) : List PyStr :=
  [arg "git", arg "diff"] ++ (ref.filter (· ≠ [])).toList

/-- The shell runs what `commit` means. -/
def CommitLiteral (printable : Char → Bool) (idle : Word PyChar → Bool) (message : PyStr)
    (author : Option PyStr) : Prop :=
  parse bash idle (ofChars (commitCommand printable message author)) =
    some (commitArguments message author)

/-- The shell runs what `diff` means, and the ref is no option. -/
def DiffLiteral (idle : Word PyChar → Bool) (ref : Option PyStr) : Prop :=
  parse bash idle (diffCommand ref) = some [diffArguments ref] ∧
    ∀ r, ref = some r → r.head? ≠ some (.char '-')

/-! ### What can be passed -/

/-- `repr` shows the character. -/
def shown (printable : Char → Bool) : PyChar → Bool
  | .surrogate _ => false
  | .char c => (32 ≤ c.toNat && c.toNat < 127) || (127 < c.toNat && printable c)

/-- There is an expansion in the text, in double quotes. -/
def hot : PyStr → Bool
  | [] => false
  | c :: s =>
    shellSort c = .backQuote || (shellSort c = .dollar && s.head?.any opensExpansion) || hot s

/-- The string is read back by the shell as it is. -/
structure Literal (printable : Char → Bool) (s : PyStr) : Prop where
  /-- No character is escaped for not being printable. -/
  shown : ∀ c ∈ s, shown printable c = true
  /-- There are not both quotes in it. -/
  quotes : PyChar.char '\'' ∈ s → PyChar.char '"' ∉ s
  /-- In single quotes there is no backslash. -/
  single : PyChar.char '\'' ∉ s → PyChar.char '\\' ∉ s
  /-- In double quotes there is no expansion. -/
  double : PyChar.char '\'' ∈ s → hot s = false

/-- The ref is one word of the shell, and no option. -/
structure PlainRef (idle : Word PyChar → Bool) (r : PyStr) : Prop where
  bare : bare bash false r = true
  idle : Word.active bash (bareWord bash r) = true → idle (bareWord bash r) = true
  revision : r.head? ≠ some (.char '-')

variable {printable : Char → Bool} {s x y : PyStr} {w : Option (Word PyChar)}

/-! ### Sorts -/

/-- A character that is not plain is a special one. -/
theorem mem_specialChars {c : Char} (h : shellSort (.char c) ≠ .plain) :
    (c, shellSort (.char c)) ∈ specialChars := by
  cases hl : specialChars.lookup c with
  | none => exact absurd (by simp [shellSort, hl]) h
  | some k =>
    obtain ⟨l₁, l₂, heq, -⟩ := List.lookup_eq_some_iff.1 hl
    rw [shellSort, hl, Option.getD_some, heq]
    exact List.mem_append_right _ List.mem_cons_self

/-- The only character of its sort. -/
theorem eq_of_sort {c : PyChar} {k : CharSort} {d : Char} (h : shellSort c = k)
    (hk : k ≠ .plain ∧ k ≠ .unusable) (hd : ∀ x ∈ specialChars, x.2 = k → x.1 = d) :
    c = .char d := by
  cases c with
  | surrogate n =>
    simp only [shellSort] at h
    split_ifs at h
    · exact absurd h.symm hk.1
    · exact absurd h.symm hk.2
  | char c =>
    have hchar : c = d := hd _ (mem_specialChars (h ▸ hk.1)) h
    rw [hchar]

/-- A character that `repr` shows can be in a command. -/
theorem usable_of_shown {c : PyChar} (h : shown printable c = true) : shellSort c ≠ .unusable := by
  cases c with
  | surrogate n => exact absurd h (by simp [shown])
  | char c =>
    intro hc
    have hall : ∀ x ∈ specialChars, x.2 = .unusable → x.1 = '\x00' := by decide
    obtain rfl : c = '\x00' := hall _ (mem_specialChars (by rw [hc]; decide)) hc
    have hno : shown printable (.char '\x00') = false := rfl
    exact absurd (hno.symm.trans h) (by decide)

/-- A character that `repr` shows and does not quote means nothing in double quotes, unless it
starts an expansion. -/
theorem inert_of_shown {c : PyChar} (h : shown printable c = true) (hq : c ≠ .char '"')
    (hb : c ≠ .char '\\') (hback : shellSort c ≠ .backQuote) (hdollar : shellSort c ≠ .dollar) :
    inert bash c = true := by
  have hsort : bash.sort c = shellSort c := rfl
  cases hs : shellSort c with
  | unusable => exact absurd hs (usable_of_shown h)
  | doubleQuote => exact absurd (eq_of_sort hs (by decide) (by decide)) hq
  | backslash => exact absurd (eq_of_sort hs (by decide) (by decide)) hb
  | backQuote => exact absurd hs hback
  | dollar => exact absurd hs hdollar
  | newline =>
    obtain rfl : c = .char '\n' := eq_of_sort hs (by decide) (by decide)
    have hno : shown printable (.char '\n') = false := rfl
    exact absurd (hno.symm.trans h) (by decide)
  | singleQuote | blank | hash | ampersand | operator | plain => simp [inert, hsort, hs]

/-- What opens an expansion is shown. -/
theorem shown_of_opens (printable : Char → Bool) {c : PyChar} (h : opensExpansion c = true) :
    shown printable c = true := by
  cases c with
  | surrogate n => exact absurd h (by simp [opensExpansion])
  | char c =>
    have hrange : 32 ≤ c.toNat ∧ c.toNat < 127 := by
      simp only [opensExpansion, Bool.or_eq_true] at h
      rcases h with (h | h) | h
      · -- the definitions of the classes of letters
        change (decide ('A'.val ≤ c.val ∧ c.val ≤ 'Z'.val) ||
          (decide ('a'.val ≤ c.val) && decide (c.val ≤ 'z'.val))) = true at h
        simp only [Bool.or_eq_true, Bool.and_eq_true, decide_eq_true_eq,
          UInt32.le_iff_toNat_le] at h
        rcases h with h | h
        · exact ⟨le_trans (by decide) h.1, lt_of_le_of_lt h.2 (by decide)⟩
        · exact ⟨le_trans (by decide) h.1, lt_of_le_of_lt h.2 (by decide)⟩
      · obtain ⟨hlow, hhigh⟩ := Char.isDigit_iff_toNat.1 h
        exact ⟨le_trans (by decide) hlow, lt_of_le_of_lt hhigh (by decide)⟩
      · have hall : ['_', '\x7b', '(', '[', '@', '*', '#', '?', '-', '$', '!'].all
            (fun c => 32 ≤ c.toNat && c.toNat < 127) = true := by decide
        simpa using List.all_eq_true.1 hall c (by simpa using h)
    simp [shown, hrange]

/-! ### What `repr` writes -/

theorem shellSort_hexDigit {n : ℕ} (h : n < 16) :
    shellSort (.char (Json.hexDigit n)) = .plain := by
  have hall : ∀ n < 16, shellSort (.char (Json.hexDigit n)) = .plain := by decide
  exact hall n h

theorem shellSort_hexDigits {n m : ℕ} {d : Char} (h : d ∈ Telemetry.hexDigits n m) :
    shellSort (.char d) = .plain := by
  induction n generalizing m with
  | zero => exact absurd h (by simp [Telemetry.hexDigits])
  | succ n ih =>
    rcases List.mem_append.1 h with h | h
    · exact ih h
    · rw [List.mem_singleton] at h
      rw [h]
      exact shellSort_hexDigit (Nat.mod_lt m (by decide))

/-- An escape is a backslash, a letter and digits. -/
theorem escapeRepr_spec (n : ℕ) :
    ∃ d ds, Telemetry.escapeRepr n = '\\' :: d :: ds ∧
      ∀ d' ∈ d :: ds, shellSort (.char d') = .plain := by
  have hletter : ∀ {d : Char} {k m : ℕ}, shellSort (.char d) = .plain →
      ∀ d' ∈ d :: Telemetry.hexDigits k m, shellSort (.char d') = .plain := by
    intro d k m hd d' hd'
    rcases List.mem_cons.1 hd' with rfl | hd'
    · exact hd
    · exact shellSort_hexDigits hd'
  unfold Telemetry.escapeRepr
  split_ifs
  · exact ⟨_, _, rfl, hletter (by decide)⟩
  · exact ⟨_, _, rfl, hletter (by decide)⟩
  · exact ⟨_, _, rfl, hletter (by decide)⟩

/-- **What `repr` makes of a character**: itself, a quoted one, or an escape. -/
theorem reprPyChar_cases (printable : Char → Bool) {q : Char} (hq : q = '\'' ∨ q = '"')
    (c : PyChar) :
    (shown printable c = true ∧ c ≠ .char q ∧ c ≠ .char '\\' ∧
      ∃ d, c = .char d ∧ reprPyChar printable q c = [d]) ∨
    ((c = .char q ∨ c = .char '\\') ∧ ∃ d, c = .char d ∧ reprPyChar printable q c = ['\\', d]) ∨
    (shown printable c = false ∧ ∃ d ds, reprPyChar printable q c = '\\' :: d :: ds ∧
      ∀ d' ∈ d :: ds, shellSort (.char d') = .plain) := by
  cases c with
  | surrogate n => exact .inr (.inr ⟨rfl, escapeRepr_spec _⟩)
  | char c =>
    by_cases hquoted : c = '\\' ∨ c = q
    · refine .inr (.inl ⟨?_, c, rfl, ?_⟩)
      · rcases hquoted with rfl | rfl
        · exact .inr rfl
        · exact .inl rfl
      · simp [reprPyChar, Telemetry.reprChar, hquoted]
    · obtain ⟨hbackslash, hne⟩ := not_or.1 hquoted
      by_cases hshown : shown printable (.char c) = true
      · refine .inl ⟨hshown, by simpa using hne, by simpa using hbackslash, c, rfl, ?_⟩
        have hrange : (32 ≤ c.toNat ∧ c.toNat < 127) ∨ (127 < c.toNat ∧ printable c = true) := by
          simpa [shown] using hshown
        have hcontrol : ∀ d : Char, d.toNat < 32 → c ≠ d := by
          rintro d hd rfl
          omega
        rw [reprPyChar, Telemetry.reprChar, if_neg hquoted, if_neg (hcontrol _ (by decide)),
          if_neg (hcontrol _ (by decide)), if_neg (hcontrol _ (by decide))]
        split_ifs with h1 h2
        · rfl
        · rfl
        · exact absurd hrange (not_or.2 ⟨h1, h2⟩)
      · refine .inr (.inr ⟨by simpa using hshown, ?_⟩)
        have hrange : ¬ (32 ≤ c.toNat ∧ c.toNat < 127) ∧
            ¬ (127 < c.toNat ∧ printable c = true) := by
          rw [← not_or]
          simpa [shown] using hshown
        rw [reprPyChar, Telemetry.reprChar, if_neg hquoted, if_neg hrange.1, if_neg hrange.2]
        split_ifs
        · exact ⟨'n', [], rfl, List.forall_mem_singleton.2 (by decide)⟩
        · exact ⟨'r', [], rfl, List.forall_mem_singleton.2 (by decide)⟩
        · exact ⟨'t', [], rfl, List.forall_mem_singleton.2 (by decide)⟩
        · exact escapeRepr_spec _

/-- What `repr` makes of a character is the character exactly when it is shown, and not quoted. -/
theorem reprPyChar_eq_self {q : Char} (hq : q = '\'' ∨ q = '"') {c : PyChar} :
    ofChars (reprPyChar printable q c) = [c] ↔
      shown printable c = true ∧ c ≠ .char q ∧ c ≠ .char '\\' := by
  rcases reprPyChar_cases printable hq c with ⟨hs, h1, h2, d, rfl, hr⟩ | ⟨hc, d, rfl, hr⟩ |
    ⟨hs, d, ds, hr, -⟩
  · exact iff_of_true (by rw [hr]; rfl) ⟨hs, h1, h2⟩
  · refine iff_of_false (by rw [hr]; simp [ofChars]) ?_
    rintro ⟨-, h1, h2⟩
    exact hc.elim h1 h2
  · exact iff_of_false (by rw [hr]; simp [ofChars]) (by simp [hs])

/-- Where every element becomes at least one, and the list stays as it is, each element does. -/
theorem flatMap_eq_self {α : Type*} {f : α → List α} {l : List α} (hne : ∀ c, f c ≠ [])
    (h : l.flatMap f = l) : ∀ c ∈ l, f c = [c] := by
  have hlength : ∀ l : List α, l.length ≤ (l.flatMap f).length := by
    intro l
    induction l with
    | nil => simp
    | cons c l ih =>
      have := List.length_pos_iff.2 (hne c)
      simp only [List.flatMap_cons, List.length_append, List.length_cons]
      omega
  induction l with
  | nil => simp
  | cons c l ih =>
    obtain ⟨d, t, ht⟩ := List.exists_cons_of_ne_nil (hne c)
    rw [List.flatMap_cons, ht, List.cons_append] at h
    obtain ⟨rfl, htail⟩ := List.cons.inj h
    have hnil : t = [] := by
      have h1 := congrArg List.length htail
      have h2 := hlength l
      rw [List.length_append] at h1
      exact List.length_eq_zero_iff.1 (by omega)
    subst hnil
    intro e he
    rcases List.mem_cons.1 he with rfl | he
    · exact ht
    · exact ih htail e he

/-! ### Single quotes -/

/-- No character of a string without single quotes ends them. -/
theorem single_body (hs : PyChar.char '\'' ∉ s) :
    ∀ c ∈ ofChars (s.flatMap (reprPyChar printable '\'')),
      bash.sort c ≠ .unusable ∧ bash.sort c ≠ .singleQuote := by
  intro c hc
  obtain ⟨d, hd, rfl⟩ := List.mem_map.1 hc
  obtain ⟨x, hx, hd⟩ := List.mem_flatMap.1 hd
  have hplain : ∀ {d : Char}, shellSort (.char d) = .plain →
      bash.sort (.char d) ≠ .unusable ∧ bash.sort (.char d) ≠ .singleQuote := by
    intro d hd
    change shellSort (.char d) ≠ .unusable ∧ shellSort (.char d) ≠ .singleQuote
    rw [hd]
    decide
  have hbackslash : bash.sort (.char '\\') ≠ .unusable ∧ bash.sort (.char '\\') ≠ .singleQuote := by
    decide
  rcases reprPyChar_cases printable (.inl rfl) x with ⟨hshown, hne, -, e, rfl, hr⟩ |
    ⟨hquoted, e, rfl, hr⟩ | ⟨-, e, es, hr, hall⟩
  · rw [hr, List.mem_singleton] at hd
    subst hd
    exact ⟨usable_of_shown hshown, fun h => hne (eq_of_sort h (by decide) (by decide))⟩
  · rcases hquoted with heq | heq
    · exact absurd (heq ▸ hx) hs
    · rw [hr] at hd
      obtain rfl : e = '\\' := by simpa using heq
      obtain rfl : d = '\\' := by simpa using hd
      exact hbackslash
  · rw [hr] at hd
    rcases List.mem_cons.1 hd with rfl | hd
    · exact hbackslash
    · exact hplain (hall d hd)

/-- **A string without single quotes** is in them, and is read as `repr` wrote it. -/
theorem scan_repr_single (hs : PyChar.char '\'' ∉ s) (rest : PyStr) :
    scan bash ⟨.plain, w⟩ (ofChars (pyRepr printable s) ++ rest) =
      scan bash ⟨.plain, some (w.getD [] ++
        (ofChars (s.flatMap (reprPyChar printable '\''))).map (·, true))⟩ rest := by
  have hquote : quoteOf s = '\'' := by simp [quoteOf, hs]
  have htext : ofChars (pyRepr printable s) ++ rest = .char '\'' ::
      (ofChars (s.flatMap (reprPyChar printable '\'')) ++ .char '\'' :: rest) := by
    simp [pyRepr, hquote, ofChars]
  rw [htext, scan_quote (.inl ⟨rfl, rfl⟩), scan_single rfl (single_body hs)]

/-- The text before a quote that `repr` quotes is not the string. -/
theorem not_isPrefix_repr {k : ℕ} (hx : PyChar.char '\'' ∉ x) :
    ¬ (List.replicate k (PyChar.char '\\') ++
      (ofChars (x.flatMap (reprPyChar printable '\'')) ++ [.char '\\'])) <+:
        (x ++ .char '\'' :: y) := by
  induction x generalizing k with
  | nil =>
    intro h
    cases k with
    | zero => exact absurd (List.cons_prefix_cons.1 h).1 (by decide)
    | succ k => exact absurd (List.cons_prefix_cons.1 h).1 (by decide)
  | cons c x ih =>
    have hx' : PyChar.char '\'' ∉ x := fun h => hx (List.mem_cons_of_mem _ h)
    have hhead : ∀ {l : PyStr} {k : ℕ}, c ≠ .char '\\' →
        ¬ (List.replicate (k + 1) (PyChar.char '\\') ++ l) <+: (c :: x ++ .char '\'' :: y) := by
      intro l k hne h
      exact hne (List.cons_prefix_cons.1 h).1.symm
    rcases reprPyChar_cases printable (.inl rfl) c with ⟨-, -, hne, d, rfl, hr⟩ |
      ⟨hquoted, d, rfl, hr⟩ | ⟨hshown, d, ds, hr, -⟩
    · cases k with
      | zero =>
        intro h
        rw [List.flatMap_cons, hr] at h
        exact ih hx' (k := 0) (List.cons_prefix_cons.1 h).2
      | succ k => exact hhead hne
    · -- two backslashes stand where there is one
      obtain rfl : d = '\\' := by
        rcases hquoted with heq | heq
        · exact absurd List.mem_cons_self (heq ▸ hx)
        · simpa using heq
      intro h
      refine ih hx' (k := k + 1) ?_
      rw [List.flatMap_cons, hr] at h
      have hmove : ∀ (k : ℕ) (l : PyStr),
          List.replicate k (PyChar.char '\\') ++ .char '\\' :: .char '\\' :: l =
            .char '\\' :: (List.replicate (k + 1) (PyChar.char '\\') ++ l) := by
        intro k l
        induction k with
        | zero => rfl
        | succ k ihk => rw [List.replicate_succ, List.cons_append, ihk]; rfl
      exact (List.cons_prefix_cons.1 ((hmove k _) ▸ h)).2
    · have hne : c ≠ .char '\\' := by
        rintro rfl
        have hyes : shown printable (.char '\\') = true := rfl
        exact absurd (hyes.symm.trans hshown) (by decide)
      intro h
      rw [List.flatMap_cons, hr] at h
      cases k with
      | zero => exact hne (List.cons_prefix_cons.1 h).1.symm
      | succ k => exact hhead hne h

/-- **A string with both quotes** is read as another word. -/
theorem scan_repr_both {rest : PyStr} {ts : List (Token PyChar)} (hsingle : PyChar.char '\'' ∈ s)
    (hdouble : PyChar.char '"' ∈ s)
    (h : scan bash ⟨.plain, w⟩ (ofChars (pyRepr printable s) ++ rest) = some ts) :
    ∃ v ts', ts = .word v :: ts' ∧ v.value ≠ Word.value (w.getD []) ++ s := by
  have hquote : quoteOf s = '\'' := by simp [quoteOf, hdouble]
  obtain ⟨x, y, rfl, hx⟩ := List.eq_append_cons_of_mem hsingle
  have hrepr : reprPyChar printable '\'' (.char '\'') = ['\\', '\''] := by
    simp [reprPyChar, Telemetry.reprChar]
  -- the quote that `repr` quoted ends the quotes
  obtain ⟨tail, htext⟩ : ∃ tail : PyStr,
      ofChars (pyRepr printable (x ++ .char '\'' :: y)) ++ rest = .char '\'' ::
        ((ofChars (x.flatMap (reprPyChar printable '\'')) ++ [.char '\\']) ++
          .char '\'' :: tail) := by
    refine ⟨ofChars (y.flatMap (reprPyChar printable '\'')) ++ .char '\'' :: rest, ?_⟩
    simp [pyRepr, hquote, hrepr, ofChars]
  have hbody : ∀ c ∈ ofChars (x.flatMap (reprPyChar printable '\'')) ++ [PyChar.char '\\'],
      bash.sort c ≠ .unusable ∧ bash.sort c ≠ .singleQuote := by
    intro c hc
    rcases List.mem_append.1 hc with hc | hc
    · exact single_body hx c hc
    · rw [List.mem_singleton] at hc
      subst hc
      decide
  rw [htext, scan_quote (.inl ⟨rfl, rfl⟩), scan_single rfl hbody] at h
  obtain ⟨v, ts', rfl, hprefix⟩ := isPrefix_of_scan rfl h
  refine ⟨v, ts', rfl, fun hv => ?_⟩
  have hnot : ¬ (ofChars (x.flatMap (reprPyChar printable '\'')) ++ [PyChar.char '\\']) <+:
      (x ++ .char '\'' :: y) := not_isPrefix_repr (k := 0) hx
  have hvalue := hprefix.map Prod.fst
  rw [List.map_append, List.map_map] at hvalue
  refine hnot ((List.prefix_append_right_inj (Word.value (w.getD []))).1 ?_)
  rw [← hv]
  simpa [Word.value, Function.comp_def] using hvalue

/-! ### Double quotes -/

/-- What the shell makes of what `repr` makes of a character in double quotes. -/
def unquoted (printable : Char → Bool) (c : PyChar) : PyStr :=
  if c = .char '\\' then [c] else ofChars (reprPyChar printable '"' c)

theorem unquoted_eq_self {c : PyChar} (hc : c ≠ .char '"') :
    unquoted printable c = [c] ↔ shown printable c = true := by
  unfold unquoted
  split_ifs with hb
  · subst hb
    exact iff_of_true rfl rfl
  · rw [reprPyChar_eq_self (.inr rfl)]
    simp [hc, hb]

theorem unquoted_ne_nil (printable : Char → Bool) (c : PyChar) : unquoted printable c ≠ [] := by
  unfold unquoted
  split_ifs
  · simp
  · rcases reprPyChar_cases printable (.inr rfl) c with ⟨-, -, -, d, -, hr⟩ | ⟨-, d, -, hr⟩ |
      ⟨-, d, ds, hr, -⟩ <;> simp [hr, ofChars]

/-- What comes next in the text opens an expansion when the next character does. -/
theorem expands_repr (hs : PyChar.char '"' ∉ s) (rest : PyStr) :
    expands bash true (ofChars (s.flatMap (reprPyChar printable '"')) ++ .char '"' :: rest) =
      s.head?.any opensExpansion := by
  cases s with
  | nil => rfl
  | cons c s =>
    have hc : c ≠ .char '"' := fun h => hs (h ▸ List.mem_cons_self)
    rw [expands, List.head?_cons, Option.any_some]
    rcases reprPyChar_cases printable (.inr rfl) c with ⟨-, -, -, d, rfl, hr⟩ |
      ⟨hquoted, d, rfl, hr⟩ | ⟨hshown, d, ds, hr, -⟩
    · rw [List.flatMap_cons, hr]
      simp [ofChars, bash]
    · rw [List.flatMap_cons, hr]
      obtain heq | heq := hquoted
      · exact absurd heq hc
      · obtain rfl : d = '\\' := by simpa using heq
        rfl
    · rw [List.flatMap_cons, hr]
      have hno : opensExpansion c = false := by
        by_contra ho
        have := shown_of_opens printable (by simpa using ho)
        exact absurd (this.symm.trans hshown) (by decide)
      rw [hno]
      rfl

/-- **What the shell makes of one character** that `repr` wrote in double quotes. -/
theorem scan_double_repr {v : Word PyChar} {c : PyChar} (hc : c ≠ .char '"') (rest : PyStr) :
    scan bash ⟨.double, some v⟩ (ofChars (reprPyChar printable '"' c) ++ rest) =
      if shellSort c = .backQuote ∨ (shellSort c = .dollar ∧ expands bash true rest = true) then none
      else scan bash ⟨.double, some (v ++ (unquoted printable c).map (·, true))⟩ rest := by
  rcases reprPyChar_cases printable (.inr rfl) c with ⟨hshown, -, hb, d, rfl, hr⟩ |
    ⟨hquoted, d, rfl, hr⟩ | ⟨hshown, d, ds, hr, hall⟩
  · have hunquoted : unquoted printable (.char d) = [.char d] := (unquoted_eq_self hc).2 hshown
    have htext : ofChars (reprPyChar printable '"' (.char d)) ++ rest = .char d :: rest := by
      rw [hr]
      rfl
    rw [htext, hunquoted]
    by_cases hback : shellSort (.char d) = .backQuote
    · rw [scan_double_backQuote hback, if_pos (.inl hback)]
    by_cases hdollar : shellSort (.char d) = .dollar
    · rw [scan_double_dollar hdollar]
      simp [hdollar]
    · rw [scan_double_inert (inert_of_shown hshown hc hb hback hdollar)]
      simp [hback, hdollar]
  · -- a backslash is quoted, and read back
    obtain rfl : d = '\\' := by
      rcases hquoted with heq | heq
      · exact absurd heq hc
      · simpa using heq
    have hunquoted : unquoted printable (.char '\\') = [.char '\\'] := (unquoted_eq_self hc).2 rfl
    have htext : ofChars (reprPyChar printable '"' (.char '\\')) ++ rest =
        .char '\\' :: .char '\\' :: rest := by
      rw [hr]
      rfl
    have hinert : ¬ (shellSort (.char '\\') = .backQuote ∨
        (shellSort (.char '\\') = .dollar ∧ expands bash true rest = true)) := by
      rintro (h | ⟨h, -⟩) <;> exact absurd h (by decide)
    rw [htext, hunquoted, scan_double_backslash rfl, if_neg hinert]
    rfl
  · -- another escape means nothing to the shell
    have hinert : ∀ d' ∈ d :: ds, inert bash (.char d') = true := by
      intro d' hd'
      have hsort : bash.sort (.char d') = .plain := hall d' hd'
      simp [inert, hsort]
    have hinerts : ∀ c ∈ ofChars ds, inert bash c = true := by
      intro c hc
      obtain ⟨d', hd', rfl⟩ := List.mem_map.1 hc
      exact hinert d' (List.mem_cons_of_mem _ hd')
    have hvisible : ∀ d : Char, 32 ≤ d.toNat ∧ d.toNat < 127 → c ≠ .char d := by
      rintro d hd rfl
      exact absurd hshown (by simp [shown, hd])
    have hback : shellSort c ≠ .backQuote := fun h =>
      hvisible _ (by decide) (eq_of_sort (d := Char.ofNat 96) h (by decide) (by decide))
    have hdollar : shellSort c ≠ .dollar := fun h =>
      hvisible _ (by decide) (eq_of_sort (d := '$') h (by decide) (by decide))
    have htext : ofChars (reprPyChar printable '"' c) ++ rest =
        .char '\\' :: .char d :: (ofChars ds ++ rest) := by
      rw [hr]
      rfl
    have hunquoted : unquoted printable c = .char '\\' :: .char d :: ofChars ds := by
      rw [unquoted, if_neg (hvisible _ (by decide)), hr]
      rfl
    rw [htext, scan_double_escape rfl (hinert d List.mem_cons_self), scan_double_inerts hinerts,
      hunquoted, if_neg (by simp [hback, hdollar])]
    simp

/-- **A string with single quotes only** is in double quotes. -/
theorem scan_repr_double {v : Word PyChar} (hs : PyChar.char '"' ∉ s) (rest : PyStr) :
    scan bash ⟨.double, some v⟩
        (ofChars (s.flatMap (reprPyChar printable '"')) ++ .char '"' :: rest) =
      if hot s then none
      else scan bash ⟨.plain, some (v ++ (s.flatMap (unquoted printable)).map (·, true))⟩ rest := by
  induction s generalizing v with
  | nil => exact (scan_double_close rfl).trans (by simp [hot])
  | cons c s ih =>
    have hs' : PyChar.char '"' ∉ s := fun h => hs (List.mem_cons_of_mem _ h)
    have hc : c ≠ .char '"' := fun h => hs (h ▸ List.mem_cons_self)
    have htext : ofChars ((c :: s).flatMap (reprPyChar printable '"')) ++ .char '"' :: rest =
        ofChars (reprPyChar printable '"' c) ++
          (ofChars (s.flatMap (reprPyChar printable '"')) ++ .char '"' :: rest) := by
      simp [ofChars]
    have hhot : hot (c :: s) = true ↔ (shellSort c = .backQuote ∨
        (shellSort c = .dollar ∧ s.head?.any opensExpansion = true)) ∨ hot s = true := by
      simp [hot]
    rw [htext, scan_double_repr hc, expands_repr hs', ih hs', List.flatMap_cons]
    by_cases hexpands : shellSort c = .backQuote ∨
        (shellSort c = .dollar ∧ s.head?.any opensExpansion = true)
    · rw [if_pos hexpands, if_pos (hhot.2 (.inl hexpands))]
    · rw [if_neg hexpands]
      by_cases htail : hot s = true
      · rw [if_pos htail, if_pos (hhot.2 (.inr htail))]
      · rw [if_neg htail, if_neg fun h => (hhot.1 h).elim hexpands htail]
        simp

/-! ### What is read back -/

/-- **A literal string is read back.** -/
theorem scan_repr (h : Literal printable s) (rest : PyStr) :
    scan bash ⟨.plain, w⟩ (ofChars (pyRepr printable s) ++ rest) =
      scan bash ⟨.plain, some (w.getD [] ++ s.map (·, true))⟩ rest := by
  by_cases hs : PyChar.char '\'' ∈ s
  · have hd := h.quotes hs
    have hquote : quoteOf s = '"' := by simp [quoteOf, hs, hd]
    have htext : ofChars (pyRepr printable s) ++ rest = .char '"' ::
        (ofChars (s.flatMap (reprPyChar printable '"')) ++ .char '"' :: rest) := by
      simp [pyRepr, hquote, ofChars]
    have hself : s.flatMap (unquoted printable) = s.flatMap fun c => [c] :=
      List.flatMap_congr fun c hc =>
        (unquoted_eq_self fun heq => hd (heq ▸ hc)).2 (h.shown c hc)
    rw [htext, scan_quote (.inr ⟨rfl, rfl⟩), scan_repr_double hd, h.double hs, hself]
    simp
  · have hself : ofChars (s.flatMap (reprPyChar printable '\'')) = s := by
      have hflat : ofChars (s.flatMap (reprPyChar printable '\'')) =
          s.flatMap fun c => ofChars (reprPyChar printable '\'' c) := by
        simp [ofChars, List.map_flatMap]
      rw [hflat, List.flatMap_congr fun c hc => (reprPyChar_eq_self (.inl rfl)).2
        ⟨h.shown c hc, fun heq => hs (heq ▸ hc), fun heq => h.single hs (heq ▸ hc)⟩]
      simp
    rw [scan_repr_single hs, hself]

/-- The text goes on with another word, or ends. -/
def WordEnds (rest : PyStr) : Prop := ∀ c ∈ rest.head?, shellSort c = .blank

/-- A word ends. -/
theorem exists_word_of_ends {v : Word PyChar} {rest : PyStr} {ts : List (Token PyChar)}
    (hrest : WordEnds rest) (h : scan bash ⟨.plain, some v⟩ rest = some ts) :
    ∃ ts', ts = .word v :: ts' := by
  cases rest with
  | nil =>
    obtain rfl := Option.some.inj h
    exact ⟨[], rfl⟩
  | cons c rest =>
    have hc : bash.sort c = .blank := hrest c rfl
    obtain ⟨⟨r', us⟩, hstep, hmap⟩ := Option.bind_eq_some_iff.1 h
    obtain ⟨vs, -, rfl⟩ := Option.map_eq_some_iff.1 hmap
    simp only [step, hc, stepPlain] at hstep
    obtain ⟨-, rfl⟩ := Prod.mk.inj (Option.some.inj hstep)
    exact ⟨vs, rfl⟩

/-- **No other string is read back.** -/
theorem literal_of_scan {rest : PyStr} {ts : List (Token PyChar)} (hrest : WordEnds rest)
    (h : scan bash ⟨.plain, w⟩ (ofChars (pyRepr printable s) ++ rest) = some ts) :
    ∃ v ts', ts = .word v :: ts' ∧
      (v.value = Word.value (w.getD []) ++ s → Literal printable s) := by
  by_cases hs : PyChar.char '\'' ∈ s
  · by_cases hd : PyChar.char '"' ∈ s
    · obtain ⟨v, ts', rfl, hne⟩ := scan_repr_both hs hd h
      exact ⟨v, ts', rfl, fun heq => absurd heq hne⟩
    · have hquote : quoteOf s = '"' := by simp [quoteOf, hs, hd]
      have htext : ofChars (pyRepr printable s) ++ rest = .char '"' ::
          (ofChars (s.flatMap (reprPyChar printable '"')) ++ .char '"' :: rest) := by
        simp [pyRepr, hquote, ofChars]
      rw [htext, scan_quote (.inr ⟨rfl, rfl⟩), scan_repr_double hd] at h
      split_ifs at h with hhot
      obtain ⟨ts', rfl⟩ := exists_word_of_ends hrest h
      refine ⟨_, ts', rfl, fun heq => ?_⟩
      rw [Word.value_append_map] at heq
      have hself : s.flatMap (unquoted printable) = s := List.append_cancel_left heq
      have hall := flatMap_eq_self (unquoted_ne_nil printable) hself
      exact
        { shown := fun c hc => (unquoted_eq_self fun heq => hd (heq ▸ hc)).1 (hall c hc)
          quotes := fun _ => hd
          single := fun hno => absurd hs hno
          double := fun _ => by simpa using hhot }
  · rw [scan_repr_single hs] at h
    obtain ⟨ts', rfl⟩ := exists_word_of_ends hrest h
    refine ⟨_, ts', rfl, fun heq => ?_⟩
    rw [Word.value_append_map] at heq
    have hself : (s.flatMap fun c => ofChars (reprPyChar printable '\'' c)) = s := by
      simpa [ofChars, List.map_flatMap] using List.append_cancel_left heq
    have hne : ∀ c, ofChars (reprPyChar printable '\'' c) ≠ [] := by
      intro c
      rcases reprPyChar_cases printable (.inl rfl) c with ⟨-, -, -, d, -, hr⟩ | ⟨-, d, -, hr⟩ |
        ⟨-, d, ds, hr, -⟩ <;> simp [hr, ofChars]
    have hall : ∀ c ∈ s, shown printable c = true ∧ c ≠ .char '\'' ∧ c ≠ .char '\\' :=
      fun c hc => (reprPyChar_eq_self (.inl rfl)).1 (flatMap_eq_self hne hself c hc)
    exact
      { shown := fun c hc => (hall c hc).1
        quotes := fun hyes => absurd hyes hs
        single := fun _ hb => (hall _ hb).2.2 rfl
        double := fun hyes => absurd hyes hs }

/-! ### Whole commands -/

section

variable {idle : Word PyChar → Bool} {ts : List (Token PyChar)} {rest : PyStr}

theorem value_plainWord (t : String) : (plainWord t).value = arg t := by
  simp [plainWord, Word.value, arg, Function.comp_def]

/-- What is quoted is no pattern. -/
theorem active_append_quoted (v : Word PyChar) (s : PyStr) :
    Word.active bash (v ++ s.map (·, true)) = Word.active bash v := by
  simp [Word.active, List.any_append, Function.comp_def]

/-- A plain word before a blank. -/
theorem scan_arg {t : String} (ht : arg t ≠ []) (h : ∀ c ∈ arg t, bash.sort c = .plain)
    (rest : PyStr) :
    scan bash ⟨.plain, none⟩ (arg t ++ .char ' ' :: rest) =
      (scan bash ⟨.plain, none⟩ rest).map (.word (plainWord t) :: ·) :=
  scan_plainWord ht h rfl rest

/-- The tokens of the fixed words of a commit. -/
def commitTokens : List (Token PyChar) :=
  [.word (plainWord "git"), .word (plainWord "add"), .word (plainWord "-A"), .and,
    .word (plainWord "git"), .word (plainWord "commit"), .word (plainWord "-m")]

theorem scan_commitTokens (rest : PyStr) :
    scan bash ⟨.plain, none⟩ (ofChars "git add -A && git commit -m ".toList ++ rest) =
      (scan bash ⟨.plain, none⟩ rest).map (commitTokens ++ ·) := by
  have htext : ofChars "git add -A && git commit -m ".toList ++ rest =
      arg "git" ++ .char ' ' :: (arg "add" ++ .char ' ' :: (arg "-A" ++ .char ' ' ::
        .char '&' :: .char '&' :: .char ' ' :: (arg "git" ++ .char ' ' ::
          (arg "commit" ++ .char ' ' :: (arg "-m" ++ .char ' ' :: rest))))) := rfl
  rw [htext, scan_arg (by decide) (by decide), scan_arg (by decide) (by decide),
    scan_arg (by decide) (by decide), scan_and rfl rfl rfl, scan_arg (by decide) (by decide),
    scan_arg (by decide) (by decide), scan_arg (by decide) (by decide)]
  simp [commitTokens, Function.comp_def]

/-- A plain word is an argument. -/
theorem commands_plainWord {t : String} (h : Word.active bash (plainWord t) = false)
    {args : List PyStr} {cmds : List (List PyStr)} :
    commands bash idle (.word (plainWord t) :: ts) = some ((arg t :: args) :: cmds) ↔
      commands bash idle ts = some (args :: cmds) := by
  rw [commands_word_iff, value_plainWord, h]
  simp

theorem commands_commitTokens {args : List PyStr} :
    commands bash idle (commitTokens ++ ts) =
        some [[arg "git", arg "add", arg "-A"], arg "git" :: arg "commit" :: arg "-m" :: args] ↔
      commands bash idle ts = some [args] := by
  rw [commitTokens]
  simp only [List.cons_append, List.nil_append]
  rw [commands_plainWord (by decide), commands_plainWord (by decide),
    commands_plainWord (by decide), commands_and_iff, commands_plainWord (by decide),
    commands_plainWord (by decide), commands_plainWord (by decide)]

/-- The text after the message. -/
def authorText (printable : Char → Bool) (author : Option PyStr) : PyStr :=
  match givenAuthor author with
  | some a => .char ' ' :: (arg "--author=" ++ ofChars (pyRepr printable a))
  | none => []

theorem wordEnds_authorText (printable : Char → Bool) (author : Option PyStr) :
    WordEnds (authorText printable author) := by
  unfold WordEnds authorText
  cases givenAuthor author with
  | none => simp
  | some a =>
    rintro c ⟨⟩
    rfl

/-- What is left of the question after the fixed words. -/
theorem commitLiteral_iff_scan {message : PyStr} {author : Option PyStr} :
    CommitLiteral printable idle message author ↔
      ∃ ts, scan bash ⟨.plain, none⟩
          (ofChars (pyRepr printable message) ++ authorText printable author) = some ts ∧
        commands bash idle ts = some [message ::
          match givenAuthor author with
          | some a => [arg "--author=" ++ a]
          | none => []] := by
  have htext : ofChars (commitCommand printable message author) =
      ofChars "git add -A && git commit -m ".toList ++
        (ofChars (pyRepr printable message) ++ authorText printable author) := by
    unfold commitCommand authorText
    cases givenAuthor author <;> simp [ofChars, arg]
  have hargs : commitArguments message author =
      [[arg "git", arg "add", arg "-A"], arg "git" :: arg "commit" :: arg "-m" :: (message ::
        match givenAuthor author with
        | some a => [arg "--author=" ++ a]
        | none => [])] := rfl
  rw [CommitLiteral, parse, htext, scan_commitTokens, hargs, Option.bind_eq_some_iff]
  constructor
  · rintro ⟨us, hus, hcommands⟩
    obtain ⟨ts, hts, rfl⟩ := Option.map_eq_some_iff.1 hus
    exact ⟨ts, hts, commands_commitTokens.1 hcommands⟩
  · rintro ⟨ts, hts, hcommands⟩
    exact ⟨commitTokens ++ ts, by rw [hts]; rfl, commands_commitTokens.2 hcommands⟩

/-- Of the last text of a command, with the word that was begun before it. -/
theorem last_iff {w : Word PyChar} (hw : w.active bash = false) {s : PyStr} :
    (∃ ts, scan bash ⟨.plain, some w⟩ (ofChars (pyRepr printable s)) = some ts ∧
      commands bash idle ts = some [[w.value ++ s]]) ↔ Literal printable s := by
  have htext : ofChars (pyRepr printable s) ++ [] = ofChars (pyRepr printable s) :=
    List.append_nil _
  constructor
  · rintro ⟨ts, hts, hcommands⟩
    have hend : WordEnds ([] : PyStr) := by simp [WordEnds]
    rw [← htext] at hts
    obtain ⟨v, us, rfl, hliteral⟩ := literal_of_scan hend hts
    exact hliteral (commands_word_iff.1 hcommands).2.1
  · intro hs
    have hscan := scan_repr (w := some w) hs []
    rw [htext] at hscan
    refine ⟨[.word (w ++ s.map (·, true))], by rw [hscan]; rfl, ?_⟩
    have hinactive : Word.active bash (w ++ s.map (·, true)) = false := by
      rw [active_append_quoted, hw]
    have hvalue : Word.value (w ++ s.map (·, true)) = w.value ++ s := Word.value_append_map w s true
    exact commands_word_iff.2 ⟨by simp [hinactive], hvalue, commands_nil⟩

/-- **Which commits are passed literally**: those of a literal message and a literal author. -/
theorem commitLiteral_iff {message : PyStr} {author : Option PyStr} :
    CommitLiteral printable idle message author ↔
      Literal printable message ∧ ∀ a, givenAuthor author = some a → Literal printable a := by
  rw [commitLiteral_iff_scan]
  have hmessage : (∃ ts, scan bash ⟨.plain, none⟩
      (ofChars (pyRepr printable message) ++ authorText printable author) = some ts ∧
        commands bash idle ts = some [message ::
          match givenAuthor author with
          | some a => [arg "--author=" ++ a]
          | none => []]) → Literal printable message := by
    rintro ⟨ts, hts, hcommands⟩
    obtain ⟨v, ts', rfl, hliteral⟩ := literal_of_scan (wordEnds_authorText printable author) hts
    exact hliteral (commands_word_iff.1 hcommands).2.1
  have hquoted : Word.active bash (message.map (·, true)) = false :=
    active_append_quoted [] message
  have hvalue : Word.value (message.map (·, true)) = message := by
    simpa [Word.value] using Word.value_append_map ([] : Word PyChar) message true
  refine (and_iff_right_of_imp hmessage).symm.trans (and_congr_right fun hm => ?_)
  rw [scan_repr hm]
  simp only [Option.getD_none, List.nil_append]
  cases ha : givenAuthor author with
  | none =>
    refine iff_of_true ⟨[.word (message.map (·, true))], ?_, ?_⟩ (by simp)
    · simp [authorText, ha, scan, finish, Reading.emitted]
    · exact commands_word_iff.2 ⟨by simp [hquoted], hvalue, commands_nil⟩
  | some a =>
    have htext : authorText printable author =
        .char ' ' :: (arg "--author=" ++ ofChars (pyRepr printable a)) := by
      rw [authorText, ha]
    have hword : Word.value (plainWord "--author=") = arg "--author=" :=
      value_plainWord "--author="
    have hlast : (∃ us, scan bash ⟨.plain, some (plainWord "--author=")⟩
        (ofChars (pyRepr printable a)) = some us ∧
          commands bash idle us = some [[arg "--author=" ++ a]]) ↔ Literal printable a := by
      rw [← hword]
      exact last_iff (by decide)
    have hcommands : ∀ ts, commands bash idle (.word (message.map (·, true)) :: ts) =
        some [[message, arg "--author=" ++ a]] ↔
          commands bash idle ts = some [[arg "--author=" ++ a]] := by
      intro ts
      rw [commands_word_iff, hquoted, hvalue]
      simp
    rw [htext, scan_blank rfl, scan_plains (by decide) (by decide)]
    simp only [Option.getD_none, List.nil_append, Option.map_eq_some_iff]
    change (∃ ts, (∃ us, scan bash ⟨.plain, some (plainWord "--author=")⟩
      (ofChars (pyRepr printable a)) = some us ∧ _ = ts) ∧ _) ↔ _
    constructor
    · rintro ⟨ts, ⟨us, hus, rfl⟩, hcmds⟩ a' ha'
      obtain rfl := Option.some.inj ha'
      exact hlast.1 ⟨us, hus, (hcommands us).1 hcmds⟩
    · intro hall
      obtain ⟨us, hus, hcmds⟩ := hlast.2 (hall a rfl)
      exact ⟨_, ⟨us, hus, rfl⟩, (hcommands us).2 hcmds⟩

/-- **Which refs are passed literally.** -/
theorem diffLiteral_iff {ref : Option PyStr} :
    DiffLiteral idle ref ↔ ∀ r, ref = some r → r ≠ [] → PlainRef idle r := by
  cases hr : ref.filter (· ≠ []) with
  | none =>
    have hempty : ∀ r, ref = some r → r = [] := by
      rintro r rfl
      simpa using hr
    refine iff_of_true ⟨?_, ?_⟩ fun r h hne => absurd (hempty r h) hne
    · simp only [diffCommand, diffArguments, hr]
      rfl
    · intro r h
      simp [hempty r h]
  | some r =>
    obtain ⟨rfl, hne⟩ := Option.filter_eq_some_iff.1 hr
    have hne : r ≠ [] := by simpa using hne
    have htext : diffCommand (some r) =
        arg "git" ++ .char ' ' :: (arg "diff" ++ .char ' ' :: r) := by
      rw [diffCommand, hr]
      rfl
    have hargs : diffArguments (some r) = [arg "git", arg "diff", r] := by
      rw [diffArguments, hr]
      rfl
    have hparse : parse bash idle (diffCommand (some r)) = some [diffArguments (some r)] ↔
        parse bash idle r = some [[r]] := by
      rw [htext, hargs, parse, scan_arg (by decide) (by decide), scan_arg (by decide) (by decide),
        parse]
      cases scan bash ⟨.plain, none⟩ r with
      | none => simp
      | some ts =>
        exact (commands_plainWord (by decide)).trans (commands_plainWord (by decide))
    rw [DiffLiteral, hparse, parse_singleton_iff hne]
    constructor
    · rintro ⟨⟨hbare, hidle⟩, hrevision⟩ r' hr' -
      obtain rfl := Option.some.inj hr'
      exact ⟨hbare, hidle, hrevision r rfl⟩
    · intro h
      have hplain := h r rfl hne
      refine ⟨⟨hplain.bare, hplain.idle⟩, ?_⟩
      rintro r' hr'
      obtain rfl := Option.some.inj hr'
      exact hplain.revision

end

/-- **Which texts are passed literally**: the messages and the authors that `repr` writes as a shell
would, and the refs that are one plain word. -/
theorem literal_iff (printable : Char → Bool) (idle : Word PyChar → Bool) (message : PyStr)
    (author ref : Option PyStr) :
    (CommitLiteral printable idle message author ↔
      Literal printable message ∧ ∀ a, givenAuthor author = some a → Literal printable a) ∧
    (DiffLiteral idle ref ↔ ∀ r, ref = some r → r ≠ [] → PlainRef idle r) :=
  ⟨commitLiteral_iff, diffLiteral_iff⟩

/-- A message of two lines is passed as one line, and a ref can be another command. -/
theorem not_literal_newline :
    ¬ CommitLiteral (fun _ => true) (fun _ => true) (arg "a\nb") none ∧
      ¬ DiffLiteral (fun _ => true) (some (arg "HEAD; rm x")) := by
  constructor
  · unfold CommitLiteral
    decide
  · unfold DiffLiteral
    rintro ⟨h, -⟩
    revert h
    decide

end Git

end AnnyRuntime
