import AnnyRuntime.Lib.Text
import Mathlib.Data.List.Infix

/-!
# Append-only line logs

A log file with one entry on each line, read leniently: a reader strips every line, skips the
blank ones, and sets aside the lines it cannot parse (`LineLog.rejects`) together with their
numbers; the rest are the entries of the log (`LineLog.entries`).  A writer appends the text of
an entry and a line end.

* `entries_append`, `rejects_append` : a log that ends at a line end grows by what is appended.
* `mem_rejects_torn` : when the last line was torn, the first append is written to the end of the
  torn line; if the joined line does not parse, it is set aside, and was not before.
-/

namespace AnnyRuntime

namespace LineLog

open Text

/-- The lines that are not blank, stripped, with their numbers from `n` on. -/
def numbered : ℕ → List (List Char) → List (ℕ × List Char)
  | _, [] => []
  | n, l :: ls =>
    if strip l = [] then numbered (n + 1) ls else (n, strip l) :: numbered (n + 1) ls

/-- What a reader of a log looks at. -/
def logLines (cs : List Char) : List (ℕ × List Char) := numbered 1 (lines cs)

/-- What appending entries writes. -/
def written (ts : List (List Char)) : List Char := ts.flatMap (· ++ ['\n'])

@[simp] theorem written_nil : written [] = [] := rfl

@[simp] theorem written_cons (t : List Char) (ts : List (List Char)) :
    written (t :: ts) = t ++ '\n' :: written ts := by
  simp [written]

theorem written_append (ts us : List (List Char)) :
    written (ts ++ us) = written ts ++ written us := List.flatMap_append

theorem numbered_append (n : ℕ) (ls ms : List (List Char)) :
    numbered n (ls ++ ms) = numbered n ls ++ numbered (n + ls.length) ms := by
  induction ls generalizing n with
  | nil => rfl
  | cons l ls ih =>
    rw [List.cons_append, numbered, numbered, ih, List.length_cons,
      show n + 1 + ls.length = n + (ls.length + 1) by omega]
    split_ifs <;> rfl

theorem mem_numbered {n k : ℕ} {t : List Char} {ls : List (List Char)}
    (h : (k, t) ∈ numbered n ls) : n ≤ k ∧ k < n + ls.length := by
  induction ls generalizing n with
  | nil => exact absurd h (by simp [numbered])
  | cons l ls ih =>
    rw [numbered] at h
    rw [List.length_cons]
    split_ifs at h
    · have := ih h; omega
    · rcases List.mem_cons.1 h with h | h
      · have := (Prod.mk.inj h).1; omega
      · have := ih h; omega

theorem lines_written {ts : List (List Char)} (h : ∀ t ∈ ts, Solid t) :
    lines (written ts) = ts := by
  induction ts with
  | nil => rfl
  | cons t ts ih =>
    rw [written_cons, lines_line (h t List.mem_cons_self).noBreak,
      ih fun u hu => h u (List.mem_cons_of_mem _ hu)]

theorem noBreak_head {t : List Char} (h : ∀ c ∈ t, NoBreak c) : ∀ c ∈ t.head?, NoBreak c :=
  fun c hc => h c (List.mem_of_mem_head? hc)

theorem logLines_append {u t : List Char} (hu : AtLineStart u) (ht : ∀ c ∈ t.head?, NoBreak c) :
    logLines (u ++ t) = logLines u ++ numbered (1 + (lines u).length) (lines t) := by
  rw [logLines, lines_append hu ht, numbered_append, logLines]

theorem head_written {ts : List (List Char)} (h : ∀ t ∈ ts, Solid t) :
    ∀ c ∈ (written ts).head?, NoBreak c := by
  cases ts with
  | nil => simp
  | cons t ts =>
    obtain ⟨hb, ⟨d, hd, -⟩, -⟩ := h t List.mem_cons_self
    intro c hc
    rw [written_cons, List.head?_append, Option.mem_def.1 hd] at hc
    obtain rfl := Option.some.inj hc
    exact hb _ (List.mem_of_mem_head? hd)

variable {ε : Type*} (parse : List Char → Option ε)

/-- The entries of a log: its lines that parse. -/
def entries (cs : List Char) : List ε := (logLines cs).filterMap fun l => parse l.2

/-- The lines of a log that do not parse. -/
def rejects (cs : List Char) : List (ℕ × List Char) :=
  (logLines cs).filter fun l => (parse l.2).isNone

variable {parse}

theorem filterMap_numbered {ts : List (List Char)} (h : ∀ t ∈ ts, Solid t) (n : ℕ) :
    (numbered n ts).filterMap (fun l => parse l.2) = ts.filterMap parse := by
  induction ts generalizing n with
  | nil => rfl
  | cons t ts ih =>
    have ht := h t List.mem_cons_self
    rw [numbered, ht.strip_eq, if_neg ht.ne_nil, List.filterMap_cons, List.filterMap_cons,
      ih fun u hu => h u (List.mem_cons_of_mem _ hu)]

theorem filter_numbered {ts : List (List Char)} (h : ∀ t ∈ ts, Solid t)
    (hp : ∀ t ∈ ts, (parse t).isSome = true) (n : ℕ) :
    (numbered n ts).filter (fun l => (parse l.2).isNone) = [] := by
  induction ts generalizing n with
  | nil => rfl
  | cons t ts ih =>
    have ht := h t List.mem_cons_self
    rw [numbered, ht.strip_eq, if_neg ht.ne_nil, List.filter_cons_of_neg,
      ih (fun u hu => h u (List.mem_cons_of_mem _ hu))
        fun u hu => hp u (List.mem_cons_of_mem _ hu)]
    rw [← Option.not_isSome, hp t List.mem_cons_self]
    decide

/-- **Appending to a whole log.**  The new entries come after the old ones. -/
theorem entries_append {u : List Char} (hu : AtLineStart u) {ts : List (List Char)}
    (h : ∀ t ∈ ts, Solid t) :
    entries parse (u ++ written ts) = entries parse u ++ ts.filterMap parse := by
  rw [entries, logLines_append hu (head_written h), List.filterMap_append, lines_written h,
    filterMap_numbered h]
  rfl

/-- Appending entries that parse sets no line aside. -/
theorem rejects_append {u : List Char} (hu : AtLineStart u) {ts : List (List Char)}
    (h : ∀ t ∈ ts, Solid t) (hp : ∀ t ∈ ts, (parse t).isSome = true) :
    rejects parse (u ++ written ts) = rejects parse u := by
  rw [rejects, logLines_append hu (head_written h), List.filter_append, lines_written h,
    filter_numbered h hp, List.append_nil]
  rfl

/-- A last line without its end is read like any other. -/
theorem entries_last {u p : List Char} (hu : AtLineStart u) (hp : ∀ c ∈ p, NoBreak c) :
    entries parse (u ++ p) =
      entries parse u ++ if strip p = [] then [] else (parse (strip p)).toList := by
  rw [entries, logLines_append hu (noBreak_head hp), List.filterMap_append]
  congr 1
  by_cases hnil : p = []
  · subst hnil
    rfl
  · rw [lines_last hp hnil, numbered]
    split_ifs
    · rfl
    · rw [List.filterMap_cons]
      cases parse (strip p) <;> rfl

/-- The entries before a torn line are still there with it. -/
theorem entries_sublist_torn {u p : List Char} (hu : AtLineStart u) (hp : ∀ c ∈ p, NoBreak c) :
    (entries parse u).Sublist (entries parse (u ++ p)) := by
  rw [entries, entries, logLines_append hu (noBreak_head hp), List.filterMap_append]
  exact List.sublist_append_left _ _

/-- **Appending to a torn log.**  The torn line and the first entry become one line; when that
line does not parse it is set aside, and it was not set aside before. -/
theorem mem_rejects_torn {u p t : List Char} (hu : AtLineStart u) (hp : ∀ c ∈ p, NoBreak c)
    (hpt : Solid (p ++ t)) (ht : t ≠ []) (hbad : parse (p ++ t) = none)
    (ts : List (List Char)) :
    ∃ l, l ∈ rejects parse (u ++ p ++ written (t :: ts)) ∧ l ∉ rejects parse (u ++ p) := by
  refine ⟨(1 + (lines u).length, p ++ t), List.mem_filter.2 ⟨?_, by simp [hbad]⟩, fun h => ?_⟩
  · -- the torn line and the first entry are numbered as one line after those of `u`
    have hhead : ∀ c ∈ (p ++ written (t :: ts)).head?, NoBreak c := by
      intro c hc
      obtain ⟨d, hd, -⟩ := hpt.head
      rw [written_cons, ← List.append_assoc, List.head?_append, Option.mem_def.1 hd] at hc
      obtain rfl := Option.some.inj hc
      exact hpt.noBreak _ (List.mem_of_mem_head? hd)
    rw [List.append_assoc, logLines_append hu hhead, written_cons, ← List.append_assoc,
      lines_line hpt.noBreak, numbered, hpt.strip_eq, if_neg hpt.ne_nil]
    exact List.mem_append_right _ List.mem_cons_self
  · have hl := (List.mem_filter.1 h).1
    rw [logLines_append hu (noBreak_head hp), List.mem_append] at hl
    rcases hl with hl | hl
    · have := (mem_numbered hl).2
      omega
    · -- under the same number there was a shorter line before
      by_cases hnil : p = []
      · rw [hnil] at hl
        exact absurd hl (by simp [lines, numbered])
      · rw [lines_last hp hnil, numbered, numbered] at hl
        split_ifs at hl
        · exact absurd hl (by simp)
        · have hlen := congrArg List.length (Prod.mk.inj (List.mem_singleton.1 hl)).2
          have hle := length_strip_le p
          have htl := List.length_pos_of_ne_nil ht
          rw [List.length_append] at hlen
          omega

end LineLog

end AnnyRuntime
