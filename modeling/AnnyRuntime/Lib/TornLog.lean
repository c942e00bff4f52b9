import AnnyRuntime.Lib.LineLog

/-!
# Logs with torn writes, read strictly

A log has one entry on each line.  A write appends the text of an entry and a line end, or only the
beginning of that text, when it fails or the writer dies; and the next write goes on from there.  A
strict reader stops at the first line that it cannot parse.

The lines of such a log are told apart by their writes alone (`Rows`): a line is readable when one
whole text is all that was written to it.  `read_after` : a strict reader of any last part of the
lines returns the entries of the readable ones, up to the first line that is not readable.
-/

namespace AnnyRuntime

namespace TornLog

open Text LineLog

/-! ### Reading -/

/-- What stands before the first gap. -/
def upToGap {α : Type*} : List (Option α) → List α
  | some a :: l => a :: upToGap l
  | _ => []

theorem upToGap_map {α β : Type*} (f : α → β) (l : List (Option α)) :
    upToGap (l.map (Option.map f)) = (upToGap l).map f := by
  induction l with
  | nil => rfl
  | cons o l ih =>
    cases o with
    | none => rfl
    | some a =>
      show f a :: upToGap (l.map (Option.map f)) = f a :: (upToGap l).map f
      rw [ih]

@[simp] theorem upToGap_some {α : Type*} (l : List α) : upToGap (l.map some) = l := by
  induction l with
  | nil => rfl
  | cons a l ih =>
    show a :: upToGap (l.map some) = a :: l
    rw [ih]

/-- A strict reader: blank lines are skipped, and a line that does not parse ends the reading. -/
def readStrict {ν : Type*} (parse : List Char → Option ν) : List (List Char) → List ν
  | [] => []
  | l :: ls =>
    if strip l = [] then readStrict parse ls
    else
      match parse (strip l) with
      | some v => v :: readStrict parse ls
      | none => []

theorem readStrict_eq {ν : Type*} (parse : List Char → Option ν) {ls : List (List Char)}
    (h : ∀ l ∈ ls, strip l ≠ []) :
    readStrict parse ls = upToGap (ls.map fun l => parse (strip l)) := by
  induction ls with
  | nil => rfl
  | cons l ls ih =>
    rw [readStrict, if_neg (h l List.mem_cons_self), List.map_cons]
    cases parse (strip l) with
    | none => rfl
    | some v =>
      rw [ih fun l' hl' => h l' (List.mem_cons_of_mem l hl')]
      rfl

/-! ### Texts that start with no white space -/

/-- The text starts with a character that is not white space. -/
def Starts (t : List Char) : Prop := ∃ c ∈ t.head?, isSpace c = false

theorem Starts.ne_nil {t : List Char} (h : Starts t) : t ≠ [] := by
  rintro rfl
  obtain ⟨c, hc, -⟩ := h
  cases hc

theorem Starts.append {u : List Char} (h : Starts u) (v : List Char) : Starts (u ++ v) := by
  obtain ⟨c, hc, hspace⟩ := h
  refine ⟨c, ?_, hspace⟩
  rw [List.head?_append, Option.mem_def.1 hc]
  rfl

theorem Starts.of_beginning {p t : List Char} (ht : Starts t) (hp : p ≠ []) (hpre : p <+: t) :
    Starts p := by
  obtain ⟨c, hc, hspace⟩ := ht
  obtain ⟨b, p', rfl⟩ := List.exists_cons_of_ne_nil hp
  obtain ⟨r, rfl⟩ := hpre
  exact ⟨b, rfl, Option.some.inj hc ▸ hspace⟩

theorem Starts.dropWhile {t : List Char} (h : Starts t) : t.dropWhile isSpace = t := by
  obtain ⟨c, hc, hspace⟩ := h
  obtain ⟨r, rfl⟩ := List.head?_eq_some_iff.1 hc
  rw [List.dropWhile_cons_of_neg (by simp [hspace])]

theorem Starts.strip {t : List Char} (h : Starts t) : Starts (strip t) := by
  obtain ⟨c, hc, hspace⟩ := h
  obtain ⟨r, rfl⟩ := List.head?_eq_some_iff.1 hc
  refine ⟨c, ?_, hspace⟩
  rw [Text.strip, List.dropWhile_cons_of_neg (by simp [hspace]), List.reverse_cons,
    List.dropWhile_append]
  split_ifs with hnil
  · rw [List.dropWhile_cons_of_neg (by simp [hspace])]
    rfl
  · rw [List.reverse_append]
    rfl

/-- Stripping what was appended. -/
theorem strip_append {u p : List Char} (hu : Starts u) (hp : Starts p) :
    strip (u ++ p) = u ++ strip p := by
  have hne : p.reverse.dropWhile isSpace ≠ [] := by
    intro hnil
    have hstrip : strip p = [] := by
      rw [strip, hp.dropWhile, hnil]
      rfl
    exact hp.strip.ne_nil hstrip
  rw [strip, (hu.append p).dropWhile, List.reverse_append, List.dropWhile_append,
    if_neg (by simpa using hne), List.reverse_append, List.reverse_reverse, strip, hp.dropWhile]

/-! ### Entries and their texts -/

/-- How entries are written and read. -/
structure Format (ε ν : Type*) where
  text : ε → List Char
  parse : List Char → Option ν
  value : ε → ν
  solid : ∀ e, Solid (text e)
  parse_text : ∀ e, parse (text e) = some (value e)
  /-- A beginning of a text, alone on its line or not, only parses when it is whole and alone. -/
  parse_torn : ∀ {u p : List Char} {e : ε}, (u = [] ∨ Starts u) → p ≠ [] → p <+: text e →
    (u ≠ [] ∨ p ≠ text e) → parse (u ++ p) = none

/-- A write. -/
inductive Write (ε : Type*) where
  | whole (e : ε)
  /-- The first characters of the text. -/
  | torn (e : ε) (n : ℕ)

/-- The last line, while it has no end. -/
inductive Tail (ε : Type*) where
  | empty
  /-- One whole text. -/
  | whole (e : ε)
  | broken

/-- The lines that have an end, each with its entry if it is readable, and the last one. -/
structure Rows (ε : Type*) where
  closed : List (Option ε) := []
  tail : Tail ε := .empty

variable {ε ν : Type*} (F : Format ε ν)

/-- The last line as a line, if there is one. -/
def Tail.rows : Tail ε → List (Option ε)
  | .empty => []
  | .whole e => [some e]
  | .broken => [none]

/-- All lines. -/
def Rows.lines (r : Rows ε) : List (Option ε) := r.closed ++ r.tail.rows

/-- The lines after a write. -/
def Rows.next (r : Rows ε) : Write ε → Rows ε
  | .whole e =>
    match r.tail with
    | .empty => ⟨r.closed ++ [some e], .empty⟩
    | .whole _ | .broken => ⟨r.closed ++ [none], .empty⟩
  | .torn e n =>
    if n = 0 then r
    else
      match r.tail with
      | .empty => ⟨r.closed, if (F.text e).length ≤ n then .whole e else .broken⟩
      | .whole _ | .broken => ⟨r.closed, .broken⟩

/-- The text after a write. -/
def append (cs : List Char) : Write ε → List Char
  | .whole e => cs ++ (F.text e ++ ['\n'])
  | .torn e n => cs ++ (F.text e).take n

/-- What a line says. -/
def reading (l : List Char) : Option ν := F.parse (strip l)

/-- The last line is what its writes say. -/
inductive TailHolds : List Char → Tail ε → Prop
  | empty : TailHolds [] .empty
  | whole (e : ε) : TailHolds (F.text e) (.whole e)
  | broken {o : List Char} (hstarts : Starts o) (hbreak : ∀ c ∈ o, NoBreak c)
      (hreading : reading F o = none) : TailHolds o .broken

/-- The lines of the text are what the writes say. -/
structure Holds (cs : List Char) (r : Rows ε) : Prop where
  split : ∃ us o, cs = written us ++ o ∧ (∀ u ∈ us, Starts u ∧ ∀ c ∈ u, NoBreak c) ∧
    us.map (reading F) = r.closed.map (Option.map F.value) ∧ TailHolds F o r.tail

variable {F}

theorem reading_text (e : ε) : reading F (F.text e) = some (F.value e) := by
  rw [reading, (F.solid e).strip_eq, F.parse_text]

theorem starts_text (e : ε) : Starts (F.text e) := (F.solid e).head

theorem starts_beginning {p : List Char} {e : ε} (hp : p ≠ []) (hpre : p <+: F.text e) : Starts p :=
  (starts_text e).of_beginning hp hpre

/-- A line that goes on with the beginning of a text is not readable. -/
theorem reading_append {u p : List Char} {e : ε} (hu : Starts u) (hp : p ≠ [])
    (hpre : p <+: F.text e) : reading F (u ++ p) = none := by
  have hstarts := starts_beginning hp hpre
  rw [reading, strip_append hu hstarts]
  exact F.parse_torn (.inr hu) hstarts.strip.ne_nil
    (((F.solid e).isPrefix_strip hpre).trans hpre) (.inl hu.ne_nil)

/-- A line with nothing but the beginning of a text is not readable. -/
theorem reading_torn {p : List Char} {e : ε} (hp : p ≠ []) (hpre : p <+: F.text e)
    (hne : p ≠ F.text e) : reading F p = none := by
  have hstarts := starts_beginning hp hpre
  have hstripped := (F.solid e).isPrefix_strip hpre
  have hstrip : strip p ≠ F.text e := by
    intro heq
    refine hne (hpre.eq_of_length_le ?_)
    rw [← heq]
    exact length_strip_le p
  rw [reading]
  exact F.parse_torn (u := []) (.inl rfl) hstarts.strip.ne_nil (hstripped.trans hpre)
    (.inr hstrip)

theorem noBreak_beginning {p : List Char} {e : ε} (hpre : p <+: F.text e) : ∀ c ∈ p, NoBreak c :=
  fun c hc => (F.solid e).noBreak c (hpre.subset hc)

/-- A last line that is not empty. -/
theorem TailHolds.starts {o : List Char} {tail : Tail ε} (h : TailHolds F o tail)
    (hne : tail ≠ .empty) : Starts o ∧ ∀ c ∈ o, NoBreak c := by
  cases h with
  | empty => exact absurd rfl hne
  | whole e => exact ⟨starts_text e, (F.solid e).noBreak⟩
  | broken hstarts hbreak hreading => exact ⟨hstarts, hbreak⟩

/-! ### Writing -/

/-- The last line is ended. -/
theorem Holds.close {cs : List Char} {r : Rows ε} (us : List (List Char)) (l : List Char)
    (row : Option ε)
    (hcs : cs = written us ++ (l ++ ['\n']))
    (hus : ∀ u ∈ us, Starts u ∧ ∀ c ∈ u, NoBreak c)
    (hclosed : us.map (reading F) = r.closed.map (Option.map F.value))
    (hl : Starts l ∧ ∀ c ∈ l, NoBreak c) (hrow : reading F l = row.map F.value) :
    Holds F cs ⟨r.closed ++ [row], .empty⟩ := by
  refine ⟨us ++ [l], [], ?_, fun u hu => ?_, ?_, .empty⟩
  · rw [written_append, written_cons, written_nil, List.append_nil, hcs]
  · rcases List.mem_append.1 hu with hu | hu
    · exact hus u hu
    · exact List.mem_singleton.1 hu ▸ hl
  · rw [List.map_append, List.map_append, hclosed]
    exact congrArg _ (congrArg (fun o => [o]) hrow)

/-- **One write.** -/
theorem Holds.next {cs : List Char} {r : Rows ε} (h : Holds F cs r) (w : Write ε) :
    Holds F (append F cs w) (r.next F w) := by
  obtain ⟨us, o, rfl, hus, hclosed, htail⟩ := h.split
  cases w with
  | whole e =>
    have htext : Starts (F.text e) ∧ ∀ c ∈ F.text e, NoBreak c :=
      ⟨starts_text e, (F.solid e).noBreak⟩
    -- a line that was begun stays unreadable
    have hjoined : r.tail ≠ .empty →
        Holds F (append F (written us ++ o) (.whole e)) ⟨r.closed ++ [none], .empty⟩ := by
      intro hne
      obtain ⟨hstarts, hbreak⟩ := htail.starts hne
      refine Holds.close (r := r) us (o ++ F.text e) none ?_ hus hclosed
        ⟨hstarts.append _, fun c hc => ?_⟩
        (reading_append hstarts (F.solid e).ne_nil (List.prefix_refl _))
      · rw [append, List.append_assoc, ← List.append_assoc o]
      · exact (List.mem_append.1 hc).elim (hbreak c) (htext.2 c)
    cases hr : r.tail with
    | empty =>
      rw [hr] at htail
      cases htail
      rw [Rows.next, hr]
      refine Holds.close (r := r) us (F.text e) (some e) ?_ hus hclosed htext
        (reading_text e)
      rw [append, List.append_nil]
    | whole e' =>
      rw [Rows.next, hr]
      exact hjoined (by rw [hr]; exact fun hne => by cases hne)
    | broken =>
      rw [Rows.next, hr]
      exact hjoined (by rw [hr]; exact fun hne => by cases hne)
  | torn e n =>
    rw [Rows.next]
    by_cases hn : n = 0
    · rw [if_pos hn]
      subst hn
      rw [append, List.take_zero, List.append_nil]
      exact ⟨us, o, rfl, hus, hclosed, htail⟩
    · rw [if_neg hn]
      have hpre : (F.text e).take n <+: F.text e := List.take_prefix n _
      have hp : (F.text e).take n ≠ [] := by
        intro hnil
        rcases List.take_eq_nil_iff.1 hnil with h | h
        · exact hn h
        · exact (F.solid e).ne_nil h
      have hjoined : r.tail ≠ .empty →
          Holds F (append F (written us ++ o) (.torn e n)) ⟨r.closed, .broken⟩ := by
        intro hne
        obtain ⟨hstarts, hbreak⟩ := htail.starts hne
        refine ⟨us, o ++ (F.text e).take n, ?_, hus, hclosed, .broken (hstarts.append _)
          (fun c hc => ?_) (reading_append hstarts hp hpre)⟩
        · rw [append, List.append_assoc]
        · exact (List.mem_append.1 hc).elim (hbreak c) (noBreak_beginning hpre c)
      cases hr : r.tail with
      | empty =>
        rw [hr] at htail
        cases htail
        refine ⟨us, (F.text e).take n, by rw [append, List.append_nil], hus, hclosed, ?_⟩
        by_cases hlength : (F.text e).length ≤ n
        · show TailHolds F _ (if (F.text e).length ≤ n then .whole e else .broken)
          rw [if_pos hlength, List.take_of_length_le hlength]
          exact .whole e
        · show TailHolds F _ (if (F.text e).length ≤ n then .whole e else .broken)
          rw [if_neg hlength]
          refine .broken (starts_beginning hp hpre) (noBreak_beginning hpre) (reading_torn hp hpre ?_)
          intro heq
          have hlen := congrArg List.length heq
          rw [List.length_take] at hlen
          omega
      | whole e' => exact hjoined (by rw [hr]; exact fun hne => by cases hne)
      | broken => exact hjoined (by rw [hr]; exact fun hne => by cases hne)

/-! ### Runs -/

variable (F)

/-- The text after some writes. -/
def textAfter (ws : List (Write ε)) : List Char := ws.foldl (append F) []

/-- The lines after some writes. -/
def rowsAfter (ws : List (Write ε)) : Rows ε := ws.foldl (Rows.next F) {}

variable {F}

theorem holds_after (ws : List (Write ε)) : Holds F (textAfter F ws) (rowsAfter F ws) := by
  induction ws using List.reverseRecOn with
  | nil =>
    refine ⟨[], [], rfl, fun u hu => ?_, rfl, .empty⟩
    cases hu
  | append_singleton ws w ih =>
    rw [textAfter, rowsAfter, List.foldl_append, List.foldl_append]
    exact ih.next w

theorem TailHolds.readings {o : List Char} {tail : Tail ε} (h : TailHolds F o tail) :
    (∀ l ∈ lines o, strip l ≠ []) ∧
      (lines o).map (reading F) = tail.rows.map (Option.map F.value) := by
  cases h with
  | empty => exact ⟨(fun l hl => by cases hl), rfl⟩
  | whole e =>
    rw [lines_last (F.solid e).noBreak (F.solid e).ne_nil]
    refine ⟨fun l hl => ?_, congrArg (fun o => [o]) (reading_text e)⟩
    obtain rfl := List.mem_singleton.1 hl
    exact (starts_text e).strip.ne_nil
  | broken hstarts hbreak hreading =>
    rw [lines_last hbreak hstarts.ne_nil]
    refine ⟨fun l hl => ?_, congrArg (fun o => [o]) hreading⟩
    obtain rfl := List.mem_singleton.1 hl
    exact hstarts.strip.ne_nil

theorem lines_written_append {us : List (List Char)} (h : ∀ u ∈ us, ∀ c ∈ u, NoBreak c)
    (o : List Char) : lines (written us ++ o) = us ++ lines o := by
  induction us with
  | nil => rfl
  | cons u us ih =>
    rw [written_cons, List.append_assoc, List.cons_append, lines_line (h u List.mem_cons_self),
      ih fun v hv => h v (List.mem_cons_of_mem u hv), List.cons_append]

/-- The lines of such a text: none is blank, and each says what its writes say. -/
theorem Holds.readings {cs : List Char} {r : Rows ε} (h : Holds F cs r) :
    (∀ l ∈ lines cs, strip l ≠ []) ∧
      (lines cs).map (reading F) = r.lines.map (Option.map F.value) := by
  obtain ⟨us, o, rfl, hus, hclosed, htail⟩ := h.split
  obtain ⟨hblank, hreadings⟩ := htail.readings
  rw [lines_written_append fun u hu => (hus u hu).2]
  constructor
  · intro l hl
    rcases List.mem_append.1 hl with hl | hl
    · exact (hus l hl).1.strip.ne_nil
    · exact hblank l hl
  · rw [List.map_append, hclosed, hreadings, Rows.lines, List.map_append]

/-- **Reading the last lines.**  A strict reader of the lines from some line on. -/
theorem read_after (ws : List (Write ε)) (k : ℕ) :
    readStrict F.parse ((lines (textAfter F ws)).drop k) =
      (upToGap ((rowsAfter F ws).lines.drop k)).map F.value := by
  obtain ⟨hblank, hreadings⟩ := (holds_after (F := F) ws).readings
  rw [readStrict_eq F.parse fun l hl => hblank l (List.mem_of_mem_drop hl), ← upToGap_map,
    List.map_drop, List.map_drop, ← hreadings]
  rfl

theorem length_lines_after (ws : List (Write ε)) :
    (lines (textAfter F ws)).length = (rowsAfter F ws).lines.length := by
  have h := congrArg List.length (holds_after (F := F) ws).readings.2
  rwa [List.length_map, List.length_map] at h

/-- Without torn writes the lines are the entries. -/
theorem rowsAfter_whole (es : List ε) :
    (rowsAfter F (es.map .whole)).lines = es.map some := by
  have h : rowsAfter F (es.map .whole) = ⟨es.map some, .empty⟩ := by
    induction es using List.reverseRecOn with
    | nil => rfl
    | append_singleton es e ih =>
      rw [rowsAfter] at ih
      rw [rowsAfter, List.map_append, List.foldl_append, ih, List.map_append]
      rfl
  rw [h]
  exact List.append_nil _

end TornLog

end AnnyRuntime
