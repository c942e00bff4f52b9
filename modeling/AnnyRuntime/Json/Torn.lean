import AnnyRuntime.Json.Indent
import AnnyRuntime.Lib.Text

/-!
# A torn text followed by another one

What the decoder makes of a text that was cut off and then continued by the text of another
value.  The characters drive a scanner that only tracks strings and nesting depth:

* `parseValue_scan` : whatever the decoder accepts takes the scanner back to where it started;
* `loads_scan` : so a text that decodes to an object leaves the scanner in `Scan.done`;
* `loads_torn_append` : **a non-empty beginning of an object's text, continued by the text of
  an object, never decodes**, wherever the first text was cut.  Inside a string the quote of the
  first key ends it and the letter after that quote is out of place; outside a string the second
  object is one value in a container that is never closed;
* `run_torn` : the scanner is not done before the end of an object's text;
* `eq_of_loads_append` : **whatever stands before it on the line**, a beginning of an object's text
  only decodes to an object when it is whole and nothing but blanks precede it.
-/

namespace AnnyRuntime

namespace Json

/-! ### The text is one line -/

theorem ascii_of_printable {t : List Char} (h : ∀ c ∈ t, Printable c) : Text.Ascii t :=
  fun c hc => lt_of_le_of_lt (h c hc).2 (by decide)

theorem noBreak_of_printable {c : Char} (h : Printable c) : Text.NoBreak c := by
  refine ⟨?_, ?_⟩ <;> rintro rfl <;> exact absurd h (by decide)

theorem solid_dumps_obj (ms : List (String × Json)) : Text.Solid (dumps (.obj ms)) where
  noBreak c hc := noBreak_of_printable (printable_dumps _ c hc)
  head := ⟨'\x7b', by rw [dumps]; rfl, by decide⟩
  last := ⟨'\x7d', by rw [dumps, List.getLast?_cons, dumpsMembers_getLast]; rfl, by decide⟩

/-! ### The scanner -/

/-- The scanner: where it is, and how many containers are open. -/
inductive Scan where
  /-- No value has these characters. -/
  | dead
  /-- The outermost container is closed. -/
  | done
  /-- Between tokens, or in a number or a word. -/
  | out (d : ℕ)
  /-- After a string or a container. -/
  | closed (d : ℕ)
  /-- In a string. -/
  | quoted (d : ℕ)
  /-- In a string, after a backslash. -/
  | esc (d : ℕ)
  deriving DecidableEq

namespace Scan

/-- A container is closed: `d` are still open. -/
def pop (d : ℕ) : Scan := if d = 0 then done else closed d

/-- A closing bracket when `d` containers are open. -/
def close : ℕ → Scan
  | 0 => dead
  | d + 1 => pop d

/-- One character. -/
def step : Scan → Char → Scan
  | dead, _ => dead
  | done, c => if isWs c then done else dead
  | out d, c =>
    if c = '"' then quoted d
    else if c = '[' ∨ c = '\x7b' then out (d + 1)
    else if c = ']' ∨ c = '\x7d' then close d
    else out d
  | closed d, c =>
    if c = ',' ∨ c = ':' then out d
    else if c = ']' ∨ c = '\x7d' then close d
    else if isWs c then closed d
    else dead
  | quoted d, c => if c = '"' then closed d else if c = '\\' then esc d else quoted d
  | esc d, _ => quoted d

/-- A run of characters. -/
def run (s : Scan) (cs : List Char) : Scan := cs.foldl step s

@[simp] theorem run_nil (s : Scan) : run s [] = s := rfl

@[simp] theorem run_cons (s : Scan) (c : Char) (cs : List Char) :
    run s (c :: cs) = run (step s c) cs := rfl

@[simp] theorem run_append (s : Scan) (u v : List Char) :
    run s (u ++ v) = run (run s u) v := List.foldl_append

@[simp] theorem run_dead (cs : List Char) : run dead cs = dead := by
  induction cs with
  | nil => rfl
  | cons c cs ih => exact ih

/-- Between tokens or after a value, with `d` containers open. -/
def Rest (d : ℕ) (s : Scan) : Prop := s = out d ∨ s = closed d

theorem step_ws {d : ℕ} {s : Scan} (hs : Rest d s) {c : Char} (hc : isWs c = true) :
    step s c = s := by
  have hne : ∀ c' : Char, isWs c' = false → c ≠ c' := fun c' h he => by
    rw [← he, hc] at h; exact absurd h (by decide)
  rcases hs with rfl | rfl <;>
    simp [step, hc, hne '"' rfl, hne '[' rfl, hne '\x7b' rfl, hne ']' rfl, hne '\x7d' rfl,
      hne ',' rfl, hne ':' rfl]

theorem run_ws {d : ℕ} {s : Scan} (hs : Rest d s) {w : List Char} (hw : ∀ c ∈ w, isWs c = true) :
    run s w = s := by
  induction w with
  | nil => rfl
  | cons c w ih =>
    rw [run_cons, step_ws hs (hw c List.mem_cons_self)]
    exact ih fun c' hc' => hw c' (List.mem_cons_of_mem _ hc')

theorem step_comma {d : ℕ} {s : Scan} (hs : Rest d s) : step s ',' = out d := by
  rcases hs with rfl | rfl <;> rfl

theorem step_close {d : ℕ} {s : Scan} (hs : Rest (d + 1) s) {c : Char}
    (hc : c = ']' ∨ c = '\x7d') : step s c = pop d := by
  rcases hs with rfl | rfl <;> rcases hc with rfl | rfl <;> rfl

theorem run_done {w : List Char} (hw : ∀ c ∈ w, isWs c = true) : run done w = done := by
  induction w with
  | nil => rfl
  | cons c w ih =>
    rw [run_cons, step, if_pos (hw c List.mem_cons_self)]
    exact ih fun c' hc' => hw c' (List.mem_cons_of_mem _ hc')

theorem run_done_cases (cs : List Char) : run done cs = done ∨ run done cs = dead := by
  induction cs with
  | nil => exact Or.inl rfl
  | cons c cs ih =>
    rw [run_cons, step]
    split_ifs
    · exact ih
    · exact Or.inr (run_dead cs)

end Scan

open Scan

/-! ### The decoder and the scanner -/

theorem exists_skipWs (cs : List Char) :
    ∃ w, cs = w ++ skipWs cs ∧ ∀ c ∈ w, isWs c = true :=
  ⟨cs.takeWhile isWs, (List.takeWhile_append_dropWhile).symm, fun _ h => List.mem_takeWhile_imp h⟩

/-- A character that neither opens nor closes anything. -/
def isPlain (c : Char) : Bool :=
  !(c = '"' || c = '[' || c = '\x7b' || c = ']' || c = '\x7d')

theorem run_plain {w : List Char} (hw : ∀ c ∈ w, isPlain c = true) (d : ℕ) :
    run (out d) w = out d := by
  induction w with
  | nil => rfl
  | cons c w ih =>
    have hc := hw c List.mem_cons_self
    simp only [isPlain, Bool.not_eq_true', Bool.or_eq_false_iff, decide_eq_false_iff_not] at hc
    rw [run_cons, step, if_neg hc.1.1.1.1, if_neg (by simp [hc]), if_neg (by simp [hc])]
    exact ih fun c' hc' => hw c' (List.mem_cons_of_mem _ hc')

theorem isPlain_of_isNumChar {c : Char} (h : isNumChar c = true) : isPlain c = true := by
  have hne : ∀ c' : Char, isNumChar c' = false → c ≠ c' := fun c' h' he => by
    rw [← he, h] at h'; exact absurd h' (by decide)
  simp [isPlain, hne '"' rfl, hne '[' rfl, hne '\x7b' rfl, hne ']' rfl, hne '\x7d' rfl]

theorem parseLiteral_plain {cs : List Char} {v : Json} {r : List Char}
    (h : parseLiteral cs = some (v, r)) : ∃ w, cs = w ++ r ∧ ∀ c ∈ w, isPlain c = true := by
  obtain ⟨l, hl, h⟩ := List.exists_of_findSome?_eq_some h
  obtain ⟨r', h', heq⟩ := Option.map_eq_some_iff.1 h
  simp only [Prod.mk.injEq] at heq
  obtain ⟨-, rfl⟩ := heq
  unfold stripPrefix at h'
  split_ifs at h' with hp
  obtain ⟨t, rfl⟩ := List.isPrefixOf_iff_prefix.1 hp
  refine ⟨l.1, by simpa using h', ?_⟩
  have hall : literals.all fun l => l.1.all isPlain := by decide
  exact List.all_eq_true.1 (List.all_eq_true.1 hall l hl)

theorem parseScalar_plain {cs : List Char} {v : Json} {r : List Char}
    (h : parseScalar cs = some (v, r)) : ∃ w, cs = w ++ r ∧ ∀ c ∈ w, isPlain c = true := by
  unfold parseScalar at h
  cases hl : parseLiteral cs with
  | some x =>
    rw [hl] at h
    obtain rfl := Option.some.inj h
    exact parseLiteral_plain hl
  | none =>
    rw [hl] at h
    have hw : ∀ c ∈ cs.takeWhile isNumChar, isPlain c = true := fun c hc =>
      isPlain_of_isNumChar (List.mem_takeWhile_imp hc)
    refine ⟨cs.takeWhile isNumChar, ?_, hw⟩
    have hr : r = cs.dropWhile isNumChar := by
      simp only [parseNumber] at h
      split_ifs at h <;> exact (Prod.mk.inj (Option.some.inj h)).2.symm
    rw [hr, List.takeWhile_append_dropWhile]

/-- A character that a string can hold as it is. -/
def isInner (c : Char) : Bool := !(c = '"' || c = '\\')

theorem run_inner {w : List Char} (hw : ∀ c ∈ w, isInner c = true) (d : ℕ) :
    run (quoted d) w = quoted d := by
  induction w with
  | nil => rfl
  | cons c w ih =>
    have hc := hw c List.mem_cons_self
    simp only [isInner, Bool.not_eq_true', Bool.or_eq_false_iff, decide_eq_false_iff_not] at hc
    rw [run_cons, step, if_neg hc.1, if_neg hc.2]
    exact ih fun c' hc' => hw c' (List.mem_cons_of_mem _ hc')

theorem isInner_of_hexVal {c : Char} {n : ℕ} (h : hexVal c = some n) : isInner c = true := by
  have hne : ∀ c' : Char, hexVal c' = none → c ≠ c' := fun c' h' he => by
    rw [← he, h] at h'; exact absurd h' (by simp)
  simp [isInner, hne '"' rfl, hne '\\' rfl]

theorem parseHex4_inner {cs r : List Char} {n : ℕ} (h : parseHex4 cs = some (n, r)) :
    ∃ w, cs = w ++ r ∧ ∀ c ∈ w, isInner c = true := by
  match cs, h with
  | a :: b :: c :: d :: cs, h =>
    simp only [parseHex4, bind, Option.bind_eq_some_iff, pure, Option.some.injEq,
      Prod.mk.injEq] at h
    obtain ⟨x, hx, y, hy, z, hz, u, hu, -, rfl⟩ := h
    refine ⟨[a, b, c, d], rfl, ?_⟩
    simp [isInner_of_hexVal hx, isInner_of_hexVal hy, isInner_of_hexVal hz, isInner_of_hexVal hu]

theorem parseUnicode_scan {cs r : List Char} {c : Char} (h : parseUnicode cs = some (c, r)) :
    ∃ w, cs = w ++ r ∧ ∀ d, run (quoted d) w = quoted d := by
  unfold parseUnicode at h
  split at h
  · exact absurd h (by simp)
  · rename_i n t hn
    obtain ⟨w, rfl, hw⟩ := parseHex4_inner hn
    have one : ∀ {x : Char}, some (x, t) = some (c, r) →
        ∃ w', w ++ t = w' ++ r ∧ ∀ d, run (quoted d) w' = quoted d := by
      rintro x hx
      obtain rfl := (Prod.mk.inj (Option.some.inj hx)).2
      exact ⟨w, rfl, run_inner hw⟩
    split_ifs at h
    · split at h
      · rename_i r'
        split at h
        · exact absurd h (by simp)
        · rename_i m t' hm
          obtain ⟨w', rfl, hw'⟩ := parseHex4_inner hm
          split_ifs at h
          · obtain rfl := (Prod.mk.inj (Option.some.inj h)).2
            refine ⟨w ++ '\\' :: 'u' :: w', by simp, fun d => ?_⟩
            rw [run_append, run_inner hw]
            exact run_inner hw' d
          · exact one h
      · exact one h
    · exact one h

theorem parseEscape_scan {cs r : List Char} {c : Char} (h : parseEscape cs = some (c, r)) :
    ∃ w, cs = w ++ r ∧ ∀ d, run (esc d) w = quoted d := by
  cases cs with
  | nil => exact absurd h (by simp [parseEscape])
  | cons a cs =>
    rw [parseEscape] at h
    split_ifs at h
    · obtain ⟨w, rfl, hw⟩ := parseUnicode_scan h
      exact ⟨a :: w, rfl, hw⟩
    · obtain ⟨x, -, heq⟩ := Option.map_eq_some_iff.1 h
      obtain rfl := (Prod.mk.inj heq).2
      exact ⟨[a], rfl, fun d => rfl⟩

theorem parseString_scan {n : ℕ} {cs s r : List Char} (h : parseString n cs = some (s, r)) :
    ∃ w, cs = w ++ r ∧ ∀ d, run (quoted d) w = closed d := by
  induction n generalizing cs s r with
  | zero => exact absurd h (by simp [parseString])
  | succ n ih =>
    cases cs with
    | nil => exact absurd h (by simp [parseString])
    | cons c cs =>
      rw [parseString] at h
      split_ifs at h with hq hb hctl
      · obtain rfl := (Prod.mk.inj (Option.some.inj h)).2
        exact ⟨[c], rfl, fun d => by rw [hq]; rfl⟩
      · obtain ⟨e, he, h⟩ := Option.bind_eq_some_iff.1 h
        obtain ⟨x, hx, heq⟩ := Option.map_eq_some_iff.1 h
        obtain rfl := (Prod.mk.inj heq).2
        obtain ⟨w, rfl, hw⟩ := parseEscape_scan he
        obtain ⟨w', hw', hrun⟩ := ih hx
        refine ⟨c :: w ++ w', by rw [hw']; simp, fun d => ?_⟩
        rw [List.cons_append, run_cons, run_append, hb]
        exact (congrArg (run · w') (hw d)).trans (hrun d)
      · obtain ⟨x, hx, heq⟩ := Option.map_eq_some_iff.1 h
        obtain rfl := (Prod.mk.inj heq).2
        obtain ⟨w, rfl, hw⟩ := ih hx
        refine ⟨c :: w, rfl, fun d => ?_⟩
        rw [run_cons, step, if_neg hq, if_neg hb]
        exact hw d

theorem rest_out (d : ℕ) : Rest d (out d) := Or.inl rfl

theorem rest_closed (d : ℕ) : Rest d (closed d) := Or.inr rfl

theorem rest_pop (d : ℕ) : Rest (d + 1) (pop (d + 1)) := Or.inr rfl

/-- What the decoder does with `n` steps agrees with the scanner. -/
structure Agrees (n : ℕ) : Prop where
  /-- A value leaves the depth as it was. -/
  value : ∀ {cs r v}, parseValue n cs = some (v, r) →
    ∃ w, cs = w ++ r ∧ ∀ d, Rest (d + 1) (run (out (d + 1)) w)
  /-- The elements of an array end with its bracket. -/
  elems : ∀ {cs r l}, parseElems n cs = some (l, r) →
    ∃ w, cs = w ++ r ∧ ∀ d, run (out (d + 1)) w = pop d
  /-- The members of an object end with its brace. -/
  members : ∀ {cs r l}, parseMembers n cs = some (l, r) →
    ∃ w, cs = w ++ r ∧ ∀ d, run (out (d + 1)) w = pop d

theorem Agrees.zero : Agrees 0 where
  value h := absurd h (by simp [parseValue])
  elems h := absurd h (by simp [parseElems])
  members h := absurd h (by simp [parseMembers])

/-- After a container's opening bracket: it closes at once, or something is read in it. -/
theorem open_scan {c : Char} (hc : c = '[' ∨ c = '\x7b') {t r : List Char}
    (h : ∃ w, skipWs t = w ++ r ∧ ∀ d, run (out (d + 1)) w = pop d) :
    ∃ w, c :: t = w ++ r ∧ ∀ d, run (out d) w = pop d := by
  obtain ⟨w, hw, hrun⟩ := h
  obtain ⟨ws, hws, hall⟩ := exists_skipWs t
  refine ⟨c :: ws ++ w, by rw [hws, hw]; simp, fun d => ?_⟩
  have hopen : step (out d) c = out (d + 1) := by rcases hc with rfl | rfl <;> rfl
  rw [List.cons_append, run_cons, run_append, hopen, run_ws (rest_out _) hall, hrun]

theorem Agrees.arr {n : ℕ} (ih : Agrees n) {t r : List Char} {v : Json}
    (h : parseValue (n + 1) ('[' :: t) = some (v, r)) :
    ∃ w, '[' :: t = w ++ r ∧ ∀ d, run (out d) w = pop d := by
  rw [parseValue] at h
  refine open_scan (Or.inl rfl) ?_
  split at h
  · rename_i r' heq
    obtain rfl := (Prod.mk.inj (Option.some.inj h)).2
    exact ⟨[']'], by rw [heq]; rfl, fun d => rfl⟩
  · obtain ⟨x, hx, heq⟩ := Option.map_eq_some_iff.1 h
    obtain rfl := (Prod.mk.inj heq).2
    exact ih.elems hx

theorem Agrees.obj {n : ℕ} (ih : Agrees n) {t r : List Char} {v : Json}
    (h : parseValue (n + 1) ('\x7b' :: t) = some (v, r)) :
    ∃ w, '\x7b' :: t = w ++ r ∧ ∀ d, run (out d) w = pop d := by
  rw [parseValue] at h
  refine open_scan (Or.inr rfl) ?_
  split at h
  · rename_i r' heq
    obtain rfl := (Prod.mk.inj (Option.some.inj h)).2
    exact ⟨['\x7d'], by rw [heq]; rfl, fun d => rfl⟩
  · obtain ⟨x, hx, heq⟩ := Option.map_eq_some_iff.1 h
    obtain rfl := (Prod.mk.inj heq).2
    exact ih.members hx

theorem Agrees.value_succ {n : ℕ} (ih : Agrees n) {cs r : List Char} {v : Json}
    (h : parseValue (n + 1) cs = some (v, r)) :
    ∃ w, cs = w ++ r ∧ ∀ d, Rest (d + 1) (run (out (d + 1)) w) := by
  by_cases harr : ∃ t, cs = '[' :: t
  · obtain ⟨t, rfl⟩ := harr
    obtain ⟨w, hw, hrun⟩ := ih.arr h
    exact ⟨w, hw, fun d => by rw [hrun]; exact rest_pop d⟩
  by_cases hobj : ∃ t, cs = '\x7b' :: t
  · obtain ⟨t, rfl⟩ := hobj
    obtain ⟨w, hw, hrun⟩ := ih.obj h
    exact ⟨w, hw, fun d => by rw [hrun]; exact rest_pop d⟩
  by_cases hstr : ∃ t, cs = '"' :: t
  · obtain ⟨t, rfl⟩ := hstr
    rw [parseValue] at h
    obtain ⟨x, hx, heq⟩ := Option.map_eq_some_iff.1 h
    obtain rfl := (Prod.mk.inj heq).2
    obtain ⟨w, hw, hrun⟩ := parseString_scan hx
    refine ⟨'"' :: w, by rw [hw]; rfl, fun d => ?_⟩
    rw [run_cons]
    exact Or.inr (hrun (d + 1))
  · have hs : parseScalar cs = some (v, r) := by
      rw [← h, parseValue]
      · exact fun t ht => hstr ⟨t, ht⟩
      · exact fun t ht => harr ⟨t, ht⟩
      · exact fun t ht => hobj ⟨t, ht⟩
    obtain ⟨w, hw, hplain⟩ := parseScalar_plain hs
    exact ⟨w, hw, fun d => by rw [run_plain hplain]; exact rest_out _⟩

/-- After a value in a container: white space, then its end, or a comma and the rest of it. -/
theorem after_value {p q : List Char} {d : ℕ} {s : Scan} (hs : Rest (d + 1) s)
    (hp : ∀ c ∈ p, isWs c = true) (hq : ∀ c ∈ q, isWs c = true) {w : List Char}
    (hw : run (out (d + 1)) w = pop d) : run s (p ++ ',' :: (q ++ w)) = pop d := by
  rw [run_append, run_ws hs hp, run_cons, step_comma hs, run_append, run_ws (rest_out _) hq, hw]

theorem Agrees.elems_succ {n : ℕ} (ih : Agrees n) {cs r : List Char} {l : List Json}
    (h : parseElems (n + 1) cs = some (l, r)) :
    ∃ w, cs = w ++ r ∧ ∀ d, run (out (d + 1)) w = pop d := by
  rw [parseElems] at h
  split at h
  · exact absurd h (by simp)
  · rename_i v t hv
    obtain ⟨w, rfl, hrun⟩ := ih.value hv
    obtain ⟨p, hp, hpw⟩ := exists_skipWs t
    split at h
    · rename_i r' heq
      obtain rfl := (Prod.mk.inj (Option.some.inj h)).2
      refine ⟨w ++ (p ++ [']']), by rw [hp, heq]; simp, fun d => ?_⟩
      rw [run_append, run_append, run_ws (hrun d) hpw]
      exact step_close (hrun d) (Or.inl rfl)
    · rename_i r' heq
      obtain ⟨x, hx, hx'⟩ := Option.map_eq_some_iff.1 h
      obtain rfl := (Prod.mk.inj hx').2
      obtain ⟨q, hq, hqw⟩ := exists_skipWs r'
      obtain ⟨w', hw', hrun'⟩ := ih.elems hx
      refine ⟨w ++ (p ++ ',' :: (q ++ w')), by rw [hp, heq, hq, hw']; simp, fun d => ?_⟩
      rw [run_append]
      exact after_value (hrun d) hpw hqw (hrun' d)
    · exact absurd h (by simp)

theorem Agrees.members_succ {n : ℕ} (ih : Agrees n) {cs r : List Char}
    {l : List (String × Json)} (h : parseMembers (n + 1) cs = some (l, r)) :
    ∃ w, cs = w ++ r ∧ ∀ d, run (out (d + 1)) w = pop d := by
  rw [parseMembers.eq_def] at h
  split at h
  · exact absurd h (by simp)
  rename_i n' heqn
  obtain rfl := Nat.succ.inj heqn
  split at h
  swap
  · exact absurd h (by simp)
  rename_i cs'
  split at h
  · exact absurd h (by simp)
  rename_i k t hk
  obtain ⟨wk, rfl, hkrun⟩ := parseString_scan hk
  obtain ⟨p, hp, hpw⟩ := exists_skipWs t
  split at h
  swap
  · exact absurd h (by simp)
  rename_i t' heq
  split at h
  · exact absurd h (by simp)
  rename_i v u hv
  obtain ⟨p', hp', hpw'⟩ := exists_skipWs t'
  obtain ⟨wv, hwv, hvrun⟩ := ih.value hv
  obtain ⟨q, hq, hqw⟩ := exists_skipWs u
  -- the key, the colon and the value
  have hmember : ∀ d, Rest (d + 1) (run (out (d + 1)) ('"' :: wk ++ (p ++ ':' :: (p' ++ wv)))) := by
    intro d
    have hcolon : step (closed (d + 1)) ':' = out (d + 1) := rfl
    rw [List.cons_append, run_cons, run_append, run_append, run_cons, run_append]
    change Rest (d + 1) (run (run (step (run (run (quoted (d + 1)) wk) p) ':') p') wv)
    rw [hkrun, run_ws (rest_closed _) hpw, hcolon, run_ws (rest_out _) hpw']
    exact hvrun d
  have hsplit : '"' :: (wk ++ t) = ('"' :: wk ++ (p ++ ':' :: (p' ++ wv))) ++ (q ++ skipWs u) := by
    rw [← hq, hp, heq, hp', hwv]; simp
  split at h
  · rename_i r' heq'
    obtain rfl := (Prod.mk.inj (Option.some.inj h)).2
    refine ⟨('"' :: wk ++ (p ++ ':' :: (p' ++ wv))) ++ (q ++ ['\x7d']),
      by rw [hsplit, heq']; simp, fun d => ?_⟩
    rw [run_append, run_append, run_ws (hmember d) hqw]
    exact step_close (hmember d) (Or.inr rfl)
  · rename_i r' heq'
    obtain ⟨x, hx, hx'⟩ := Option.map_eq_some_iff.1 h
    obtain rfl := (Prod.mk.inj hx').2
    obtain ⟨q', hq', hqw'⟩ := exists_skipWs r'
    obtain ⟨w', hw', hrun'⟩ := ih.members hx
    refine ⟨('"' :: wk ++ (p ++ ':' :: (p' ++ wv))) ++ (q ++ ',' :: (q' ++ w')),
      by rw [hsplit, heq', hq', hw']; simp, fun d => ?_⟩
    rw [run_append]
    exact after_value (hmember d) hqw hqw' (hrun' d)
  · exact absurd h (by simp)

theorem agrees (n : ℕ) : Agrees n := by
  induction n with
  | zero => exact Agrees.zero
  | succ n ih =>
    exact { value := ih.value_succ, elems := ih.elems_succ, members := ih.members_succ }

/-- A text that starts an object after white space and decodes closes what it opens. -/
theorem loads_scan_skipWs {cs t : List Char} {v : Json} (ht : skipWs cs = '\x7b' :: t)
    (h : loads cs = some v) : run (out 0) ('\x7b' :: t) = done := by
  unfold loads at h
  rw [ht] at h
  split at h
  · rename_i v' r hv
    split_ifs at h with hr
    obtain ⟨w, hw, hrun⟩ := (agrees _).obj hv
    obtain ⟨p, hp, hpw⟩ := exists_skipWs r
    rw [hr, List.append_nil] at hp
    rw [hw, run_append, hrun, hp]
    exact run_done hpw
  · exact absurd h (by simp)

/-- A text that starts an object and decodes closes what it opens. -/
theorem loads_scan {cs : List Char} {v : Json} (h : loads ('\x7b' :: cs) = some v) :
    run (out 0) ('\x7b' :: cs) = done := loads_scan_skipWs (skipWs_cons rfl) h

/-! ### Cutting an object's text -/

namespace Scan

/-- Inside a container, or past any value. -/
def deep : Scan → Bool
  | dead | done => true
  | out d | closed d | quoted d | esc d => d ≠ 0

theorem deep_close (d : ℕ) : deep (close d) = true := by
  cases d with
  | zero => rfl
  | succ d => cases d <;> rfl

theorem deep_step {s : Scan} (h : deep s = true) (c : Char) : deep (step s c) = true := by
  cases s with
  | dead => rfl
  | done => simp only [step]; split_ifs <;> rfl
  | out d =>
    simp only [step]
    split_ifs
    · exact h
    · rfl
    · exact deep_close d
    · exact h
  | closed d =>
    simp only [step]
    split_ifs
    · exact h
    · exact deep_close d
    · exact h
    · rfl
  | quoted d =>
    simp only [step]
    split_ifs <;> exact h
  | esc d => exact h

theorem deep_run {s : Scan} (h : deep s = true) (cs : List Char) : deep (run s cs) = true := by
  induction cs generalizing s with
  | nil => exact h
  | cons c cs ih => exact ih (deep_step h c)

end Scan

/-- Members whose first key starts with a letter or an underscore. -/
def startsWithLetter : List (String × Json) → Bool
  | [] => false
  | (k, _) :: _ => k.toList.head?.any fun c => c.isAlpha || c = '_'

theorem escapeChar_alpha {c : Char} (h : (c.isAlpha || c = '_') = true) : escapeChar c = [c] := by
  have hne : ∀ c' : Char, (c'.isAlpha || c' = '_') = false → c ≠ c' := fun c' h' he => by
    rw [← he, h] at h'; exact absurd h' (by decide)
  have hrange : 32 ≤ c.toNat ∧ c.toNat ≤ 126 := by
    -- the definitions of the classes of letters
    change (decide ('A'.val ≤ c.val ∧ c.val ≤ 'Z'.val) ||
      (decide ('a'.val ≤ c.val) && decide (c.val ≤ 'z'.val)) || decide (c = '_')) = true at h
    simp only [Bool.or_eq_true, Bool.and_eq_true, decide_eq_true_eq, UInt32.le_iff_toNat_le] at h
    rcases h with (h | h) | rfl
    · exact ⟨le_trans (by decide) h.1, le_trans h.2 (by decide)⟩
    · exact ⟨le_trans (by decide) h.1, le_trans h.2 (by decide)⟩
    · decide
  unfold escapeChar
  rw [if_neg (hne _ rfl), if_neg (hne _ rfl), if_neg (hne _ rfl), if_neg (hne _ rfl),
    if_neg (hne _ rfl), if_neg (hne _ rfl), if_neg (hne _ rfl), if_pos hrange]

theorem dumps_obj_head {ms : List (String × Json)} (h : startsWithLetter ms = true) :
    ∃ c r, (c.isAlpha || c = '_') = true ∧ dumps (.obj ms) = '\x7b' :: '"' :: c :: r := by
  match ms, h with
  | (k, v) :: ms, h =>
    simp only [startsWithLetter, Option.any_eq_true_iff_get] at h
    obtain ⟨hs, hc⟩ := h
    obtain ⟨c, t, hk⟩ : ∃ c t, k.toList = c :: t := by
      cases hk : k.toList with
      | nil => rw [hk] at hs; exact absurd hs (by simp)
      | cons c t => exact ⟨c, t, rfl⟩
    simp only [hk, List.head?_cons, Option.get_some] at hc
    obtain ⟨u, hu, -⟩ := dumpsMembers_cons k v ms
    refine ⟨c, t.flatMap escapeChar ++ ['"'] ++ (':' :: ' ' :: (dumps v ++ u)), hc, ?_⟩
    rw [dumps, hu, quote, hk, List.flatMap_cons, escapeChar_alpha hc]
    simp

theorem step_closed_alpha {c : Char} (h : (c.isAlpha || c = '_') = true) (d : ℕ) :
    step (closed d) c = dead := by
  have hne : ∀ c' : Char, (c'.isAlpha || c' = '_') = false → c ≠ c' := fun c' h' he => by
    rw [← he, h] at h'; exact absurd h' (by decide)
  simp [step, isWs, hne ',' rfl, hne ':' rfl, hne ']' rfl, hne '\x7d' rfl, hne ' ' rfl,
    hne '\t' rfl, hne '\n' rfl, hne '\r' rfl]

/-- An object in a container is a value of that container. -/
theorem run_dumps_obj (ms : List (String × Json)) (d : ℕ) :
    run (out (d + 1)) (dumps (.obj ms)) = closed (d + 1) := by
  have h := parseValue_dumps (.obj ms) ((dumps (.obj ms)).length + 1) [] (by omega) follows_nil
  rw [List.append_nil, show dumps (.obj ms) = '\x7b' :: dumpsMembers ms by rw [dumps]] at h
  obtain ⟨w, hw, hrun⟩ := (agrees _).obj h
  rw [List.append_nil] at hw
  rw [dumps, hw, hrun]
  rfl

/-- From inside a container, or past a value, the text of an object ends no object. -/
theorem run_ne_done {s : Scan} (hs : deep s = true) {ms : List (String × Json)}
    (hms : startsWithLetter ms = true) : run s (dumps (.obj ms)) ≠ done := by
  obtain ⟨c, r, hc, hd⟩ := dumps_obj_head hms
  cases s with
  | dead => rw [run_dead]; exact Scan.noConfusion
  | done => rw [hd]; exact (run_dead _).symm ▸ Scan.noConfusion
  | out d =>
    obtain ⟨d, rfl⟩ := Nat.exists_eq_succ_of_ne_zero (by simpa [deep] using hs)
    rw [run_dumps_obj]
    exact Scan.noConfusion
  | closed d => rw [hd]; exact (run_dead _).symm ▸ Scan.noConfusion
  | quoted d =>
    rw [hd]
    change run (step (closed d) c) r ≠ done
    rw [step_closed_alpha hc, run_dead]
    exact Scan.noConfusion
  | esc d =>
    rw [hd]
    change run (step (closed d) c) r ≠ done
    rw [step_closed_alpha hc, run_dead]
    exact Scan.noConfusion

/-- From inside a container, or past a value, the beginning of the text of an object ends no object
either. -/
theorem run_prefix_ne_done {s : Scan} (hs : deep s = true) {p : List Char} (hp : p ≠ [])
    {ms : List (String × Json)} (hms : startsWithLetter ms = true)
    (hpre : p <+: dumps (.obj ms)) : run s p ≠ done := by
  intro hdone
  obtain ⟨q, hq⟩ := hpre
  -- the rest of the text keeps the scanner where it is, or kills it
  have hdead : run s (dumps (.obj ms)) = dead := by
    rw [← hq, run_append, hdone]
    refine (run_done_cases q).resolve_left fun h => run_ne_done hs hms ?_
    rw [← hq, run_append, hdone, h]
  obtain ⟨c, r, hc, hd⟩ := dumps_obj_head hms
  obtain ⟨b, t, rfl⟩ := List.exists_cons_of_ne_nil hp
  rw [hd, List.cons_append] at hq
  obtain ⟨rfl, htail⟩ := List.cons.inj hq
  cases s with
  | dead =>
    rw [run_dead] at hdone
    exact Scan.noConfusion hdone
  | done | closed d =>
    change run dead t = done at hdone
    rw [run_dead] at hdone
    exact Scan.noConfusion hdone
  | out d =>
    obtain ⟨d, rfl⟩ := Nat.exists_eq_succ_of_ne_zero (by simpa [deep] using hs)
    rw [run_dumps_obj] at hdead
    exact Scan.noConfusion hdead
  | quoted d | esc d =>
    change run (quoted d) t = done at hdone
    cases t with
    | nil => exact Scan.noConfusion hdone
    | cons b t =>
      obtain ⟨rfl, hkey⟩ := List.cons.inj htail
      change run (closed d) t = done at hdone
      cases t with
      | nil => exact Scan.noConfusion hdone
      | cons b t =>
        obtain ⟨rfl, -⟩ := List.cons.inj hkey
        rw [run_cons, step_closed_alpha hc, run_dead] at hdone
        exact Scan.noConfusion hdone

/-- The scanner is not done before the end of a text that is closed by a brace. -/
theorem run_cut {p q t : List Char} {v : Json} (hq : q ≠ []) (h : p ++ q = '\x7b' :: t)
    (hlast : ('\x7b' :: t).getLast? = some '\x7d') (hv : loads ('\x7b' :: t) = some v) :
    run (out 0) p ≠ done := by
  intro hp
  have hw := loads_scan hv
  rw [← h, run_append, hp] at hw
  -- the scanner is done before `q`, which then holds nothing but white space
  obtain ⟨q', hq'⟩ : ∃ q', q = q' ++ ['\x7d'] := by
    rw [← h, List.getLast?_append_of_ne_nil _ hq] at hlast
    exact List.getLast?_eq_some_iff.1 hlast
  rw [hq', run_append] at hw
  rcases run_done_cases q' with hd | hd <;> rw [hd] at hw <;> exact absurd hw (by decide)

/-- A text that starts an object and that was cut off is no value. -/
theorem loads_cut {p q t : List Char} {v : Json} (hq : q ≠ []) (h : p ++ q = '\x7b' :: t)
    (hlast : ('\x7b' :: t).getLast? = some '\x7d') (hv : loads ('\x7b' :: t) = some v) :
    loads p = none := by
  rw [Option.eq_none_iff_forall_ne_some]
  intro w hw
  have hrun := run_cut hq h hlast hv
  cases p with
  | nil =>
    have hnone : loads [] = none := rfl
    exact absurd (hnone.symm.trans hw) (by simp)
  | cons c p =>
    rw [List.cons_append] at h
    obtain ⟨rfl, -⟩ := List.cons.inj h
    exact hrun (loads_scan hw)

theorem getLast?_dumps_obj (ms : List (String × Json)) :
    (dumps (.obj ms)).getLast? = some '\x7d' := by
  rw [dumps, List.getLast?_cons, dumpsMembers_getLast, Option.getD_some]

/-- The scanner is not done before the end of an object's text. -/
theorem run_torn {p q : List Char} {ms : List (String × Json)} (hq : q ≠ [])
    (h : p ++ q = dumps (.obj ms)) : run (out 0) p ≠ done := by
  have hlast := getLast?_dumps_obj ms
  have hwhole := loads_dumps (.obj ms)
  rw [dumps] at h hlast hwhole
  exact run_cut hq h hlast hwhole

/-- **A torn object is no value.** -/
theorem loads_torn {p q : List Char} {ms : List (String × Json)} (hq : q ≠ [])
    (h : p ++ q = dumps (.obj ms)) : loads p = none := by
  have hlast := getLast?_dumps_obj ms
  have hwhole := loads_dumps (.obj ms)
  rw [dumps] at h hlast hwhole
  exact loads_cut hq h hlast hwhole

/-- The text of the members after the first one ends with a brace. -/
theorem getLast?_indentMoreMembers (n : ℕ) (ms : List (String × Json)) :
    (indentMoreMembers n ms).getLast? = some '\x7d' := by
  induction ms with
  | nil => rw [indentMoreMembers, List.getLast?_concat]
  | cons m ms ih =>
    rw [indentMoreMembers, List.getLast?_cons, List.getLast?_append, ih]
    rfl

theorem getLast?_dumpsIndent_obj (n : ℕ) (ms : List (String × Json)) :
    (dumpsIndent n (.obj ms)).getLast? = some '\x7d' := by
  rw [dumpsIndent]
  cases ms with
  | nil => rfl
  | cons m ms =>
    rw [indentMembers, List.getLast?_cons, List.getLast?_append, getLast?_indentMoreMembers]
    rfl

/-- **A torn object with indentation is no value.** -/
theorem loads_torn_indent {p q : List Char} {ms : List (String × Json)} (hq : q ≠ [])
    (h : p ++ q = dumpsIndent 0 (.obj ms)) : loads p = none := by
  have hlast := getLast?_dumpsIndent_obj 0 ms
  have hwhole := loads_dumpsIndent (.obj ms)
  rw [dumpsIndent] at h hlast hwhole
  exact loads_cut hq h hlast hwhole

/-- **A torn object is not repaired by what is written after it.** -/
theorem loads_torn_append {p : List Char} (hp : p ≠ []) {ms ms' : List (String × Json)}
    (hpre : p <+: dumps (.obj ms)) (hms : startsWithLetter ms' = true) :
    loads (p ++ dumps (.obj ms')) = none := by
  rw [dumps] at hpre
  obtain ⟨c, t, rfl⟩ := List.exists_cons_of_ne_nil hp
  obtain ⟨rfl, -⟩ := List.cons_prefix_cons.1 hpre
  rw [Option.eq_none_iff_forall_ne_some]
  intro v hv
  have h : run (out 0) ('\x7b' :: (t ++ dumps (.obj ms'))) = done := loads_scan hv
  rw [run_cons, run_append] at h
  exact run_ne_done (deep_run (s := out 1) rfl t) hms h

/-! ### What is written after any text -/

theorem parseLiteral_ne_obj {cs r : List Char} {ms : List (String × Json)} :
    parseLiteral cs ≠ some (.obj ms, r) := by
  intro h
  unfold parseLiteral at h
  obtain ⟨l, hl, he⟩ := List.exists_of_findSome?_eq_some h
  obtain ⟨r', -, he⟩ := Option.map_eq_some_iff.1 he
  have hv : l.2 = .obj ms := (Prod.mk.inj he).1
  simp only [literals, List.mem_cons, List.not_mem_nil, or_false] at hl
  rcases hl with rfl | rfl | rfl | rfl | rfl | rfl <;> cases hv

/-- Only an opening brace starts an object. -/
theorem parseValue_obj_head {n : ℕ} {c : Char} {cs r : List Char} {ms : List (String × Json)}
    (h : parseValue n (c :: cs) = some (.obj ms, r)) : c = '\x7b' := by
  cases n with
  | zero => simp [parseValue] at h
  | succ n =>
    by_contra hobj
    by_cases hstr : c = '"'
    · subst hstr
      simp [parseValue] at h
    · by_cases harr : c = '['
      · subst harr
        rw [parseValue] at h
        split at h <;> simp at h
      · rw [parseValue_scalar hstr harr hobj] at h
        unfold parseScalar at h
        split at h
        · rename_i hlit
          exact parseLiteral_ne_obj (hlit.trans h)
        · unfold parseNumber at h
          dsimp only at h
          split_ifs at h <;> simp at h

theorem skipWs_append {u : List Char} (hu : skipWs u ≠ []) (v : List Char) :
    skipWs (u ++ v) = skipWs u ++ v := by
  induction u with
  | nil => exact absurd rfl hu
  | cons c u ih =>
    rw [skipWs, List.dropWhile_cons] at hu
    rw [List.cons_append, skipWs, skipWs, List.dropWhile_cons, List.dropWhile_cons]
    split_ifs at * with hc
    · exact ih hu
    · rfl

theorem skipWs_append_of_nil {u : List Char} (hu : skipWs u = []) (v : List Char) :
    skipWs (u ++ v) = skipWs v := by
  induction u with
  | nil => rfl
  | cons c u ih =>
    rw [skipWs, List.dropWhile_cons] at hu
    rw [List.cons_append, skipWs, List.dropWhile_cons]
    split_ifs at * with hc
    exact ih hu

/-- **What an object's text makes of any line.**  A line that was continued with the beginning of an
object's text decodes to an object only if it was blank and the text is whole. -/
theorem eq_of_loads_append {u p : List Char} {ms kvs : List (String × Json)} (hp : p ≠ [])
    (hpre : p <+: dumps (.obj ms)) (hms : startsWithLetter ms = true)
    (h : loads (u ++ p) = some (.obj kvs)) : skipWs u = [] ∧ p = dumps (.obj ms) ∧ kvs = ms := by
  by_cases hu : skipWs u = []
  · obtain ⟨q, hq⟩ := hpre
    have hskip : skipWs (u ++ p) = p := by
      obtain ⟨c, t, rfl⟩ := List.exists_cons_of_ne_nil hp
      rw [dumps, List.cons_append] at hq
      obtain ⟨rfl, -⟩ := List.cons.inj hq
      rw [skipWs_append_of_nil hu, skipWs_cons rfl]
    have hwhole : q = [] := by
      by_contra hne
      refine run_torn hne hq ?_
      obtain ⟨c, t, rfl⟩ := List.exists_cons_of_ne_nil hp
      rw [dumps, List.cons_append] at hq
      obtain ⟨rfl, -⟩ := List.cons.inj hq
      exact loads_scan_skipWs hskip h
    -- the whole text is there, so reading it gives the object back
    subst hwhole
    rw [List.append_nil] at hq
    subst hq
    refine ⟨hu, rfl, ?_⟩
    unfold loads at h
    have hvalue := parseValue_dumps (.obj ms) ((u ++ dumps (.obj ms)).length + 1) []
      (by rw [List.length_append]; omega) follows_nil
    rw [List.append_nil] at hvalue
    rw [hskip, hvalue] at h
    have hnil : skipWs [] = [] := rfl
    simpa [hnil, eq_comm] using h
  · -- `u` opens an object, and no beginning of the text closes it
    exfalso
    obtain ⟨c, t, ht⟩ := List.exists_cons_of_ne_nil hu
    have hskip : skipWs (u ++ p) = c :: (t ++ p) := by rw [skipWs_append hu, ht, List.cons_append]
    have hc : c = '\x7b' := by
      unfold loads at h
      rw [hskip] at h
      split at h
      · rename_i v r hv
        split_ifs at h
        obtain rfl := Option.some.inj h
        exact parseValue_obj_head hv
      · cases h
    subst hc
    have hdone := loads_scan_skipWs hskip h
    rw [run_cons, run_append] at hdone
    exact run_prefix_ne_done (deep_run (s := out 1) rfl t) hp hms hpre hdone

end Json

end AnnyRuntime
