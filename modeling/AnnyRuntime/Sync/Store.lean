import AnnyRuntime.Sync.Models
import AnnyRuntime.Lib.Text

/-!
# The log of SYNC records

`_persist` appends a record to the log as one line, and `_load_latest` reads the last line that is
not blank.  A crash can leave any beginning of the line.

* `Recorded.append` : whatever the log holds, appending (a beginning of) a record adds no other
  record to it.
* `Journal.append` : in a log that only the service wrote, the last line is the record that was
  completely written last, or no record at all.
-/

namespace AnnyRuntime

namespace Sync

open Text

/-- The characters that `str.splitlines` ends a line at. -/
def isLineBreak (c : Char) : Bool :=
  let n := c.toNat
  (10 ≤ n && n ≤ 13) || (28 ≤ n && n ≤ 30) || n = 0x85 || n = 0x2028 || n = 0x2029

/-- The lines of a text, and a blank one more after each line end of two characters and at the end
of the text. -/
def splitlines (text : List Char) : List (List Char) := text.splitOnP isLineBreak

/-- The last line that is not blank. -/
def lastLine (text : List Char) : Option (List Char) :=
  (splitlines text).reverse.find? fun line => strip line ≠ []

/-- `_load_latest`, for the text of the log; there is none when the file is not UTF-8. -/
def loadLatest (store : Option (List Char)) : Option SyncResult :=
  (store.bind lastLine).bind SyncResult.parseRecord

/-- What `_persist` appends. -/
def recordLine (j : Json) : List Char := Json.dumps j ++ ['\n']

/-! ### Lines -/

/-- What has no line end goes to the end of the last line. -/
theorem splitlines_append {p : List Char} (hp : ∀ c ∈ p, isLineBreak c = false) (text : List Char) :
    ∃ ls q, splitlines text = ls ++ [q] ∧ splitlines (text ++ p) = ls ++ [q ++ p] := by
  unfold splitlines
  induction text with
  | nil =>
    refine ⟨[], [], rfl, ?_⟩
    rw [List.nil_append, List.splitOnP_eq_singleton hp]
    rfl
  | cons c text ih =>
    obtain ⟨ls, q, hq, hp⟩ := ih
    rw [List.cons_append, List.splitOnP_cons_eq_if_modifyHead, List.splitOnP_cons_eq_if_modifyHead,
      hq, hp]
    by_cases hc : isLineBreak c = true
    · rw [if_pos hc, if_pos hc]
      exact ⟨[] :: ls, q, rfl, rfl⟩
    · rw [if_neg hc, if_neg hc]
      cases ls with
      | nil => exact ⟨[], c :: q, rfl, rfl⟩
      | cons l ls => exact ⟨(c :: l) :: ls, q, rfl, rfl⟩

/-- A line end starts a line. -/
theorem splitlines_newline (text : List Char) :
    splitlines (text ++ ['\n']) = splitlines text ++ [[]] := by
  unfold splitlines
  rw [List.splitOnP_append_cons _ _ (by decide)]
  rfl

theorem lastLine_newline (text : List Char) : lastLine (text ++ ['\n']) = lastLine text := by
  rw [lastLine, splitlines_newline, List.reverse_append, List.reverse_singleton,
    List.singleton_append, List.find?_cons_of_neg (by decide), lastLine]

theorem mem_of_lastLine {text l : List Char} (h : lastLine text = some l) : l ∈ splitlines text :=
  List.mem_reverse.1 (List.mem_of_find?_eq_some h)

theorem not_isLineBreak_of_printable {c : Char} (h : Json.Printable c) : isLineBreak c = false := by
  obtain ⟨h1, h2⟩ := h
  simp only [isLineBreak, Bool.or_eq_false_iff, Bool.and_eq_false_iff, decide_eq_false_iff_not]
  omega

/-- Appending a beginning of a line: it lacks the line end, or is the whole line. -/
theorem isPrefix_recordLine {j : Json} {p : List Char} (h : p <+: recordLine j) :
    p <+: Json.dumps j ∨ p = recordLine j := by
  rw [recordLine, List.prefix_concat_iff] at h
  exact h.symm

theorem not_isLineBreak_of_isPrefix {j : Json} {p : List Char} (h : p <+: Json.dumps j) :
    ∀ c ∈ p, isLineBreak c = false := fun c hc =>
  not_isLineBreak_of_printable (Json.printable_dumps j c (h.subset hc))

variable {r : SyncResult} {j : Json}

theorem parseRecord_congr {l l' : List Char} (h : Json.loads l = Json.loads l') :
    SyncResult.parseRecord l = SyncResult.parseRecord l' := by
  rw [SyncResult.parseRecord, SyncResult.parseRecord, h]

/-- **What a record makes of a line.**  A line that was continued with the beginning of a record is
read as that record, whole and on a blank line, or not at all. -/
theorem parseRecord_append (hr : r.encode = some j) {q p : List Char} (hp : p ≠ [])
    (hpre : p <+: Json.dumps j) {r' : SyncResult}
    (h : SyncResult.parseRecord (q ++ p) = some r') :
    Json.skipWs q = [] ∧ p = Json.dumps j ∧ r' = r.reload := by
  obtain ⟨ms, rfl, hms⟩ := SyncResult.startsWithLetter_of_encode hr
  have hobj : ∃ kvs, Json.loads (q ++ p) = some (.obj kvs) := by
    unfold SyncResult.parseRecord at h
    split at h
    · exact ⟨_, by assumption⟩
    · cases h
  obtain ⟨kvs, hkvs⟩ := hobj
  obtain ⟨hq, hwhole, rfl⟩ := Json.eq_of_loads_append hp hpre hms hkvs
  refine ⟨hq, hwhole, ?_⟩
  rw [parseRecord_congr (hkvs.trans (Json.loads_dumps _).symm), SyncResult.parseRecord_dumps hr] at h
  exact (Option.some.inj h).symm

/-! ### The records of any log -/

/-- The records of the log meet a condition. -/
def Recorded (P : SyncResult → Prop) (store : Option (List Char)) : Prop :=
  ∀ text, store = some text → ∀ l ∈ splitlines text, ∀ r, SyncResult.parseRecord l = some r → P r

variable {P : SyncResult → Prop} {store : Option (List Char)}

theorem Recorded.loadLatest (h : Recorded P store) (hr : loadLatest store = some r) : P r := by
  obtain ⟨l, hl, hparse⟩ := Option.bind_eq_some_iff.1 hr
  obtain ⟨text, rfl, hlast⟩ := Option.bind_eq_some_iff.1 hl
  exact h text rfl l (mem_of_lastLine hlast) r hparse

theorem recorded_nil : Recorded P (some []) := by
  rintro text ⟨⟩ l hl r hr
  obtain rfl : l = [] := by simpa [splitlines, List.splitOnP_nil] using hl
  cases hr

/-- **Appending to any log** adds no other record, however much of the line is written. -/
theorem Recorded.append (h : Recorded P store) (hr : r.encode = some j) (hP : P r.reload)
    {p : List Char} (hp : p <+: recordLine j) : Recorded P (store.map (· ++ p)) := by
  rintro text' htext'
  obtain ⟨text, rfl, rfl⟩ := Option.map_eq_some_iff.1 htext'
  -- the text of the record without its line end
  have hpart {p : List Char} (hp : p <+: Json.dumps j) : ∀ l ∈ splitlines (text ++ p), ∀ r',
      SyncResult.parseRecord l = some r' → P r' := by
    obtain ⟨ls, q, hq, hqp⟩ := splitlines_append (not_isLineBreak_of_isPrefix hp) text
    intro l hl r' hr'
    rw [hqp, List.mem_append, List.mem_singleton] at hl
    rcases hl with hl | rfl
    · exact h text rfl l (hq ▸ List.mem_append_left _ hl) r' hr'
    · by_cases hnil : p = []
      · rw [hnil, List.append_nil] at hr'
        exact h text rfl q (hq ▸ List.mem_append_right _ (List.mem_singleton_self q)) r' hr'
      · obtain ⟨-, -, rfl⟩ := parseRecord_append hr hnil hp hr'
        exact hP
  rcases isPrefix_recordLine hp with hp | rfl
  · exact hpart hp
  · intro l hl r' hr'
    rw [recordLine, ← List.append_assoc, splitlines_newline, List.mem_append,
      List.mem_singleton] at hl
    rcases hl with hl | rfl
    · exact hpart (List.prefix_refl _) l hl r' hr'
    · cases hr'

/-! ### A log that only the service wrote -/

/-- The log of a service that started with an empty one and completely wrote a record last. -/
structure Journal (last : Option Json) (text : List Char) : Prop where
  /-- Its lines are blank, or start with a brace. -/
  lines : ∀ l ∈ splitlines text, l = [] ∨ l.head? = some '\x7b'
  /-- Its last line is that record, or none. -/
  last : ∀ l, lastLine text = some l →
    (∃ j, last = some j ∧ l = Json.dumps j) ∨ SyncResult.parseRecord l = none

variable {last : Option Json} {text : List Char}

theorem journal_nil : Journal none [] where
  lines l hl := Or.inl (by simpa [splitlines, List.splitOnP_nil] using hl)
  last l hl := by cases hl

theorem head?_of_isPrefix (hr : r.encode = some j) {p : List Char} (hp : p ≠ [])
    (hpre : p <+: Json.dumps j) : p.head? = some '\x7b' := by
  obtain ⟨ms, rfl, -⟩ := SyncResult.startsWithLetter_of_encode hr
  rw [Json.dumps] at hpre
  obtain ⟨c, t, rfl⟩ := List.exists_cons_of_ne_nil hp
  obtain ⟨rfl, -⟩ := List.cons_prefix_cons.1 hpre
  rfl

theorem strip_ne_nil {l : List Char} (h : l.head? = some '\x7b') : strip l ≠ [] := by
  obtain ⟨t, rfl⟩ := List.head?_eq_some_iff.1 h
  have hbrace : isSpace '\x7b' = false := by decide
  rw [strip, List.dropWhile_cons_of_neg (by rw [hbrace]; exact Bool.false_ne_true),
    List.reverse_cons]
  intro hnil
  rw [List.reverse_eq_nil_iff, List.dropWhile_eq_nil_iff] at hnil
  have hspace := hnil '\x7b' (List.mem_append_right _ (List.mem_singleton_self _))
  rw [hbrace] at hspace
  cases hspace

theorem skipWs_ne_nil {l : List Char} (h : l.head? = some '\x7b') : Json.skipWs l ≠ [] := by
  obtain ⟨t, rfl⟩ := List.head?_eq_some_iff.1 h
  rw [Json.skipWs_cons rfl]
  exact List.cons_ne_nil _ _

theorem dumps_ne_nil (hr : r.encode = some j) : Json.dumps j ≠ [] := by
  obtain ⟨ms, rfl, -⟩ := SyncResult.startsWithLetter_of_encode hr
  rw [Json.dumps]
  exact List.cons_ne_nil _ _

theorem lastLine_concat {ls : List (List Char)} {l : List Char} (h : splitlines text = ls ++ [l])
    (hl : strip l ≠ []) : lastLine text = some l := by
  rw [lastLine, h, List.reverse_append, List.reverse_singleton, List.singleton_append,
    List.find?_cons_of_pos (by simpa using hl)]

/-- The record that was completely written last, once the beginning of the line of another one is
appended. -/
def lastWritten (last : Option Json) (j : Json) (p : List Char) : Option Json :=
  if Json.dumps j <+: p then some j else last

/-- A beginning without the line end. -/
theorem Journal.append_part (h : Journal last text) (hr : r.encode = some j) {p : List Char}
    (hp : p <+: Json.dumps j) : Journal (lastWritten last j p) (text ++ p) := by
  by_cases hnil : p = []
  · have hnot : ¬ Json.dumps j <+: p := by
      rw [hnil, List.prefix_nil]
      exact dumps_ne_nil hr
    rw [lastWritten, if_neg hnot, hnil, List.append_nil]
    exact h
  · obtain ⟨ls, q, hq, hqp⟩ := splitlines_append (not_isLineBreak_of_isPrefix hp) text
    have hhead : (q ++ p).head? = some '\x7b' := by
      rcases h.lines q (hq ▸ List.mem_append_right _ (List.mem_singleton_self q)) with rfl | hbrace
      · exact head?_of_isPrefix hr hnil hp
      · rw [List.head?_append, hbrace, Option.some_or]
    refine ⟨fun l hl => ?_, fun l hl => ?_⟩
    · rw [hqp, List.mem_append, List.mem_singleton] at hl
      rcases hl with hl | rfl
      · exact h.lines l (hq ▸ List.mem_append_left _ hl)
      · exact Or.inr hhead
    · obtain rfl : q ++ p = l :=
        Option.some.inj ((lastLine_concat hqp (strip_ne_nil hhead)).symm.trans hl)
      rw [or_iff_not_imp_right]
      intro hparse
      obtain ⟨r', hr'⟩ := Option.ne_none_iff_exists'.1 hparse
      -- the line is read, so that the record is whole and alone on it
      obtain ⟨hblank, rfl, -⟩ := parseRecord_append hr hnil hp hr'
      rcases h.lines q (hq ▸ List.mem_append_right _ (List.mem_singleton_self q)) with rfl | hbrace
      · exact ⟨j, if_pos (List.prefix_refl _), rfl⟩
      · exact absurd hblank (skipWs_ne_nil hbrace)

/-- **Appending to the service's own log.**  However much of the line is written, the last line is
the record that was completely written last, or none. -/
theorem Journal.append (h : Journal last text) (hr : r.encode = some j) {p : List Char}
    (hp : p <+: recordLine j) : Journal (lastWritten last j p) (text ++ p) := by
  rcases isPrefix_recordLine hp with hp | rfl
  · exact h.append_part hr hp
  · have hpart := h.append_part hr (List.prefix_refl (Json.dumps j))
    have hlast : lastWritten last j (recordLine j) = lastWritten last j (Json.dumps j) := by
      have hwhole : Json.dumps j <+: recordLine j := List.prefix_append _ _
      rw [lastWritten, lastWritten, if_pos hwhole, if_pos (List.prefix_refl _)]
    rw [hlast, recordLine, ← List.append_assoc]
    refine ⟨fun l hl => ?_, fun l hl => hpart.last l (lastLine_newline _ ▸ hl)⟩
    rw [splitlines_newline, List.mem_append, List.mem_singleton] at hl
    rcases hl with hl | rfl
    · exact hpart.lines l hl
    · exact Or.inl rfl

end Sync

end AnnyRuntime
