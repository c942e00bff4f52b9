import AnnyRuntime.Telemetry.States

/-!
# The matrix of any log

A log is any list of lines, of which some may not be UTF-8; one line of it is added, changed or
removed.  The matrix should be returned for both logs, and what the executions contribute to it that
neither line is about should be the same (`Survives`).

* `survives_iff` : **this holds exactly when the envelopes that are read are `Countable` in both
  logs, and the line `Spares` the others**: it does not make the log unreadable, and what it pushes
  out of the window of 10000 envelopes is dispensable.
* `not_survives_unhashable` : one line whose execution id is a list, and no matrix is returned.
-/

namespace AnnyRuntime

namespace Telemetry

/-! ### Lines -/

/-- A line of the log, unless its bytes are not UTF-8. -/
abbrev RawLine := Option (List Char)

/-- The log has these lines: it cannot be read when one of them is not UTF-8, and there is none when
it is missing. -/
def HasLines (log : Option (List Char)) (ls : List RawLine) : Prop :=
  match log with
  | none => ls = [] ∨ none ∈ ls
  | some text => (Text.lines text).map some = ls

/-- The envelope of a line. -/
def lineEnvelope (l : RawLine) : Option (TelemetryEnvelope Json) :=
  l.bind fun text => if Text.strip text = [] then none else parseLine [] text

/-- The envelopes that are read, in the order of the log. -/
def considered (ls : List RawLine) : List (TelemetryEnvelope Json) :=
  if none ∈ ls then [] else window (ls.filterMap lineEnvelope)

section Survives

variable (L : Library)

/-- The line is about an execution. -/
def IsAbout (l : Option RawLine) (k : DictKey) : Prop :=
  ∃ x, l.bind lineEnvelope = some x ∧ ∃ e, stamp L x = some e ∧ e.isOf L k = true

/-- What an execution contributes to the matrix of a log. -/
def contributes (log : Option (List Char)) (k : DictKey) : Option ExecutionState :=
  (executionStates L (query log [] aggregationLimit)).bind fun d => d.get? k

/-- A matrix is returned for both logs, which differ in one line, and the other executions
contribute the same. -/
structure Survives (log log' : Option (List Char)) (l l' : Option RawLine) : Prop where
  returned : (getMatrix L log []).isSome = true
  returned' : (getMatrix L log' []).isSome = true
  others : ∀ k, ¬ IsAbout L l k → ¬ IsAbout L l' k → contributes L log k = contributes L log' k

/-! ### What a line can do to the others -/

/-- The other envelopes that are read together with the one of a line. -/
def besides (before after : List (TelemetryEnvelope Json)) : List (TelemetryEnvelope Json) :=
  before.drop (before.length + after.length + 1 - aggregationLimit) ++
    after.drop (after.length - aggregationLimit)

/-- The envelope that is no longer read when a line has one more. -/
def pushedOut (before after : List (TelemetryEnvelope Json)) : Option (TelemetryEnvelope Json) :=
  if aggregationLimit ≤ before.length + after.length then
    before[before.length + after.length - aggregationLimit]?
  else none

/-- A line, or what it is changed to, does nothing to the executions that neither is about. -/
structure Spares (before after : List RawLine) (l l' : Option RawLine) : Prop where
  /-- If only one of the two logs can be read, there is nothing else in it. -/
  decodes : none ∉ before ++ after → (l = some none ↔ l' ≠ some none) →
    ∀ k, ¬ IsAbout L l k → ¬ IsAbout L l' k →
      eventsAt L k (considered (before ++ l.toList ++ after)) = [] ∧
        eventsAt L k (considered (before ++ l'.toList ++ after)) = []
  /-- If only one of the two has an envelope, the one that is pushed out is dispensable. -/
  pushes : none ∉ before ++ after → l ≠ some none → l' ≠ some none →
    (l.bind lineEnvelope).isSome ≠ (l'.bind lineEnvelope).isSome →
    ∀ x, pushedOut (before.filterMap lineEnvelope) (after.filterMap lineEnvelope) = some x →
      ∀ e k, stamp L x = some e → e.isOf L k = true → ¬ IsAbout L l k → ¬ IsAbout L l' k →
        Dispensable L e (eventsAt L k
          (besides (before.filterMap lineEnvelope) (after.filterMap lineEnvelope)))

end Survives

variable {L : Library} {log log' : Option (List Char)} {ls before after : List RawLine}
  {l l' : Option RawLine} {k : DictKey}

/-! ### What is read -/

theorem considered_nil : considered [] = [] := by
  rw [considered, if_neg List.not_mem_nil, List.filterMap_nil, window, List.drop_nil]

theorem considered_of_mem (h : none ∈ ls) : considered ls = [] := by
  rw [considered, if_pos h]

theorem max_aggregationLimit : max aggregationLimit 1 = aggregationLimit :=
  Nat.max_eq_left (by decide)

/-- The lines of a text are read from behind. -/
theorem query_some (text : List Char) : query (some text) [] aggregationLimit =
    (window (((Text.lines text).map some).filterMap lineEnvelope)).reverse := by
  rw [query, max_aggregationLimit, window, ← List.take_reverse, ← List.filterMap_reverse,
    ← List.map_reverse, List.filterMap_map, List.filterMap_filter]
  refine congrArg (List.take aggregationLimit) (List.filterMap_congr fun l _ => ?_)
  by_cases hstrip : Text.strip l = [] <;> simp [lineEnvelope, hstrip]

/-- The lines of a log are read from behind. -/
theorem query_of_hasLines (h : HasLines log ls) :
    query log [] aggregationLimit = (considered ls).reverse := by
  cases log with
  | none =>
    have hempty : considered ls = [] := by
      rcases h with rfl | hnone
      · exact considered_nil
      · exact considered_of_mem hnone
    rw [query, hempty, List.reverse_nil]
  | some text =>
    obtain rfl : (Text.lines text).map some = ls := h
    rw [query_some, considered, if_neg (by simp)]

theorem getMatrix_of_hasLines (h : HasLines log ls) :
    (getMatrix L log []).isSome = true ↔ Countable L (considered ls) := by
  rw [getMatrix, query_of_hasLines h, isSome_matrix_iff]

/-- What the executions contribute. -/
theorem contributes_of_hasLines (h : HasLines log ls) (hc : Countable L (considered ls)) :
    contributes L log k = contribution L (eventsAt L k (considered ls)) := by
  obtain ⟨d, hd⟩ := Option.isSome_iff_exists.1 (isSome_executionStates_iff.2 ⟨hc.caught, hc.ids⟩)
  rw [contributes, query_of_hasLines h, hd, Option.bind_some, get?_executionStates hd]

/-! ### The window -/

/-- The last elements of two lists are the one before, and those that are left when another one
comes in between. -/
theorem drop_append_eq {α : Type} (n : ℕ) (xs ys : List α) :
    (xs ++ ys).drop (xs.length + ys.length - n) =
      (if n ≤ xs.length + ys.length then xs[xs.length + ys.length - n]? else none).toList ++
        (xs.drop (xs.length + ys.length + 1 - n) ++ ys.drop (ys.length - n)) := by
  have hlen : xs.length + ys.length - n - xs.length = ys.length - n := by omega
  rw [List.drop_append, hlen, ← List.append_assoc]
  refine congrArg (· ++ ys.drop (ys.length - n)) ?_
  split_ifs with hle
  · have hnext : xs.length + ys.length + 1 - n = xs.length + ys.length - n + 1 := by omega
    rw [hnext]
    cases hx : xs[xs.length + ys.length - n]? with
    | none =>
      rw [List.getElem?_eq_none_iff] at hx
      rw [List.drop_eq_nil_of_le hx, List.drop_eq_nil_of_le (by omega)]
      rfl
    | some x =>
      obtain ⟨hlt, rfl⟩ := List.getElem?_eq_some_iff.1 hx
      exact List.drop_eq_getElem_cons hlt
  · have hsame : xs.length + ys.length + 1 - n = xs.length + ys.length - n := by omega
    rw [hsame]
    rfl

/-- Without the line, one envelope more is read. -/
theorem window_append (xs ys : List (TelemetryEnvelope Json)) :
    window (xs ++ ys) = (pushedOut xs ys).toList ++ besides xs ys := by
  rw [window, List.length_append, drop_append_eq, pushedOut, besides]

/-- With the envelope of the line. -/
theorem eventsAt_window_cons {x : TelemetryEnvelope Json} (hx : eventsAt L k [x] = [])
    (xs ys : List (TelemetryEnvelope Json)) :
    eventsAt L k (window (xs ++ x :: ys)) = eventsAt L k (besides xs ys) := by
  rw [window, List.length_append, List.length_cons, ← Nat.add_assoc, List.drop_append, besides,
    eventsAt_append, eventsAt_append]
  generalize aggregationLimit = n
  refine congrArg (eventsAt L k (xs.drop (xs.length + ys.length + 1 - n)) ++ ·) ?_
  by_cases hle : xs.length + ys.length + 1 - n ≤ xs.length
  · have hys : ys.length - n = 0 := by omega
    rw [Nat.sub_eq_zero_of_le hle, hys, List.drop_zero, List.drop_zero, ← List.singleton_append,
      eventsAt_append, hx, List.nil_append]
  · have hnext : xs.length + ys.length + 1 - n - xs.length = ys.length - n + 1 := by omega
    rw [hnext, List.drop_succ_cons]

/-- A line that is not about an execution has no event of it. -/
theorem eventsAt_of_not_isAbout {x : TelemetryEnvelope Json} (hx : l.bind lineEnvelope = some x)
    (hk : ¬ IsAbout L l k) : eventsAt L k [x] = [] := by
  rw [List.eq_nil_iff_forall_not_mem]
  intro e he
  obtain ⟨⟨y, hy, hstamp⟩, hof⟩ := mem_eventsAt.1 he
  obtain rfl := List.mem_singleton.1 hy
  exact hk ⟨y, hx, e, hstamp, hof⟩

theorem not_mem_lines (hmid : none ∉ before ++ after) (hl : l ≠ some none) :
    none ∉ before ++ l.toList ++ after := by
  rw [List.mem_append, not_or] at hmid
  simp only [List.mem_append, not_or]
  exact ⟨⟨hmid.1, fun h => hl (by simpa using h)⟩, hmid.2⟩

/-- The events of another execution that are read together with a line that has an envelope. -/
theorem eventsAt_considered_some (hmid : none ∉ before ++ after) (hl : l ≠ some none)
    (hk : ¬ IsAbout L l k) (hx : (l.bind lineEnvelope).isSome = true) :
    eventsAt L k (considered (before ++ l.toList ++ after)) =
      eventsAt L k (besides (before.filterMap lineEnvelope) (after.filterMap lineEnvelope)) := by
  obtain ⟨x, hx⟩ := Option.isSome_iff_exists.1 hx
  have hone : l.toList.filterMap lineEnvelope = [x] := by
    cases l with
    | none => cases hx
    | some raw => exact List.filterMap_cons_some hx
  rw [considered, if_neg (not_mem_lines hmid hl), List.filterMap_append, List.filterMap_append,
    hone, List.append_assoc, List.singleton_append,
    eventsAt_window_cons (eventsAt_of_not_isAbout hx hk)]

/-- And with any other line. -/
theorem eventsAt_considered_none (hmid : none ∉ before ++ after) (hl : l ≠ some none)
    (hx : (l.bind lineEnvelope).isSome = false) :
    eventsAt L k (considered (before ++ l.toList ++ after)) =
      eventsAt L k
        ((pushedOut (before.filterMap lineEnvelope) (after.filterMap lineEnvelope)).toList ++
          besides (before.filterMap lineEnvelope) (after.filterMap lineEnvelope)) := by
  have hnone : l.toList.filterMap lineEnvelope = [] := by
    cases l with
    | none => rfl
    | some raw =>
      refine List.filterMap_cons_none (Option.not_isSome_iff_eq_none.1 ?_)
      simpa using hx
  rw [considered, if_neg (not_mem_lines hmid hl), List.filterMap_append, List.filterMap_append,
    hnone, List.append_nil, window_append]

/-- An execution does not notice that an envelope is pushed out. -/
theorem contribution_pushed_iff {x : Option (TelemetryEnvelope Json)}
    {rest : List (TelemetryEnvelope Json)} :
    contribution L (eventsAt L k (x.toList ++ rest)) = contribution L (eventsAt L k rest) ↔
      ∀ y, x = some y → ∀ e, stamp L y = some e → e.isOf L k = true →
        Dispensable L e (eventsAt L k rest) := by
  cases x with
  | none => simp
  | some y =>
    rw [eventsAt_append, Option.toList_some]
    cases hs : stamp L y with
    | none =>
      have hnil : eventsAt L k [y] = [] := by
        rw [eventsAt, List.filterMap_cons_none hs]
        rfl
      simp [hnil, hs]
    | some e =>
      have hone : [y].filterMap (stamp L) = [e] := List.filterMap_cons_some hs
      by_cases hof : e.isOf L k = true
      · have hcons : eventsAt L k [y] = [e] := by
          rw [eventsAt, hone, List.filter_cons_of_pos hof]
          rfl
        rw [hcons, List.singleton_append, contribution_cons_iff]
        simp [hs, hof]
      · have hnil : eventsAt L k [y] = [] := by
          rw [eventsAt, hone, List.filter_cons_of_neg hof]
          rfl
        simp [hnil, hs, hof]

/-! ### When the others survive -/

/-- What the others contribute to two logs of which one cannot be read. -/
theorem contribution_eq_of_unread {es : List (TelemetryEnvelope Json)} :
    contribution L (eventsAt L k []) = contribution L (eventsAt L k es) ↔ eventsAt L k es = [] := by
  have hnil : eventsAt L k [] = [] := rfl
  rw [hnil, contribution_nil, eq_comm, contribution_eq_none]

/-- The executions that neither line is about contribute the same to both logs. -/
def SameOthers (L : Library) (before after : List RawLine) (l l' : Option RawLine) : Prop :=
  ∀ k, ¬ IsAbout L l k → ¬ IsAbout L l' k →
    contribution L (eventsAt L k (considered (before ++ l.toList ++ after))) =
      contribution L (eventsAt L k (considered (before ++ l'.toList ++ after)))

theorem SameOthers.symm (h : SameOthers L before after l l') : SameOthers L before after l' l :=
  fun k hk hk' => (h k hk' hk).symm

theorem Spares.symm (h : Spares L before after l l') : Spares L before after l' l where
  decodes hmid hone k hk hk' := by
    have hother : l = some none ↔ l' ≠ some none := by tauto
    exact (h.decodes hmid hother k hk' hk).symm
  pushes hmid hl hl' hne x hpush e k hs hof hk hk' :=
    h.pushes hmid hl' hl hne.symm x hpush e k hs hof hk' hk

theorem considered_unread :
    considered (before ++ (some none : Option RawLine).toList ++ after) = [] :=
  considered_of_mem (by simp)

/-- If the rest of the log cannot be read, no line changes anything. -/
theorem sameOthers_of_mem (hmid : none ∈ before ++ after) : SameOthers L before after l l' := by
  have hall (l : Option RawLine) : considered (before ++ l.toList ++ after) = [] := by
    refine considered_of_mem ?_
    rcases List.mem_append.1 hmid with h | h <;> simp [h]
  intro k _ _
  rw [hall, hall]

/-- A line that cannot be read takes the log with it. -/
theorem sameOthers_unread_iff (hmid : none ∉ before ++ after) (hl' : l' ≠ some none) :
    SameOthers L before after (some none) l' ↔ Spares L before after (some none) l' := by
  simp only [SameOthers, considered_unread, contribution_eq_of_unread]
  constructor
  · intro h
    refine ⟨fun _ _ k hk hk' => ⟨?_, h k hk hk'⟩, fun _ h => absurd rfl h⟩
    rw [considered_unread]
    rfl
  · exact fun h k hk hk' => (h.decodes hmid (iff_of_true rfl hl') k hk hk').2

/-- A line with an envelope pushes one out that is read without it. -/
theorem sameOthers_pushed_iff (hmid : none ∉ before ++ after) (hl : l ≠ some none)
    (hl' : l' ≠ some none) (hx : (l.bind lineEnvelope).isSome = false)
    (hx' : (l'.bind lineEnvelope).isSome = true) :
    SameOthers L before after l l' ↔ Spares L before after l l' := by
  have hne : (l.bind lineEnvelope).isSome ≠ (l'.bind lineEnvelope).isSome := by simp [hx, hx']
  have hstep (k : DictKey) (hk' : ¬ IsAbout L l' k) :=
    (congrArg₂ (contribution L · = contribution L ·)
      (eventsAt_considered_none (L := L) (k := k) hmid hl hx)
      (eventsAt_considered_some hmid hl' hk' hx')).to_iff.trans contribution_pushed_iff
  constructor
  · intro h
    refine ⟨fun _ hone => absurd (hone.2 hl') hl, fun _ _ _ _ x hpush e k hs hof hk hk' => ?_⟩
    exact (hstep k hk').1 (h k hk hk') x hpush e hs hof
  · intro h k hk hk'
    exact (hstep k hk').2 fun x hpush e hs hof =>
      h.pushes hmid hl hl' hne x hpush e k hs hof hk hk'

/-- If both lines have an envelope, or neither has, the others are read with both. -/
theorem sameOthers_of_isSome_eq (hmid : none ∉ before ++ after) (hl : l ≠ some none)
    (hl' : l' ≠ some none)
    (hx : (l.bind lineEnvelope).isSome = (l'.bind lineEnvelope).isSome) :
    SameOthers L before after l l' := by
  intro k hk hk'
  cases hx' : (l'.bind lineEnvelope).isSome with
  | false =>
    rw [eventsAt_considered_none hmid hl (hx.trans hx'), eventsAt_considered_none hmid hl' hx']
  | true =>
    rw [eventsAt_considered_some hmid hl hk (hx.trans hx'),
      eventsAt_considered_some hmid hl' hk' hx']

/-- **When the other executions contribute the same.** -/
theorem sameOthers_iff : SameOthers L before after l l' ↔ Spares L before after l l' := by
  by_cases hmid : none ∈ before ++ after
  · exact iff_of_true (sameOthers_of_mem hmid)
      ⟨fun h => absurd hmid h, fun h => absurd hmid h⟩
  by_cases hl : l = some none <;> by_cases hl' : l' = some none
  · subst hl hl'
    exact iff_of_true (fun k _ _ => rfl) ⟨fun _ h => absurd rfl (h.1 rfl), fun _ h => absurd rfl h⟩
  · subst hl
    exact sameOthers_unread_iff hmid hl'
  · subst hl'
    have hswap := sameOthers_unread_iff (L := L) hmid hl
    exact ⟨fun h => (hswap.1 h.symm).symm, fun h => (hswap.2 h.symm).symm⟩
  -- both logs can be read
  cases hx : (l.bind lineEnvelope).isSome <;> cases hx' : (l'.bind lineEnvelope).isSome
  case false.true => exact sameOthers_pushed_iff hmid hl hl' hx hx'
  case true.false =>
    have hswap := sameOthers_pushed_iff (L := L) hmid hl' hl hx' hx
    exact ⟨fun h => (hswap.1 h.symm).symm, fun h => (hswap.2 h.symm).symm⟩
  all_goals
    have hsame := hx.trans hx'.symm
    exact iff_of_true (sameOthers_of_isSome_eq hmid hl hl' hsame)
      ⟨fun _ h => absurd (h.2 hl') hl, fun _ _ _ h => absurd hsame h⟩

/-- **When the matrix survives a line.** -/
theorem survives_iff (L : Library) {log log' : Option (List Char)} {before after : List RawLine}
    {l l' : Option RawLine} (h : HasLines log (before ++ l.toList ++ after))
    (h' : HasLines log' (before ++ l'.toList ++ after)) :
    Survives L log log' l l' ↔ Countable L (considered (before ++ l.toList ++ after)) ∧
      Countable L (considered (before ++ l'.toList ++ after)) ∧ Spares L before after l l' := by
  rw [← sameOthers_iff]
  constructor
  · intro hs
    have hc := (getMatrix_of_hasLines h).1 hs.returned
    have hc' := (getMatrix_of_hasLines h').1 hs.returned'
    refine ⟨hc, hc', fun k hk hk' => ?_⟩
    rw [← contributes_of_hasLines h hc, ← contributes_of_hasLines h' hc']
    exact hs.others k hk hk'
  · rintro ⟨hc, hc', hothers⟩
    refine ⟨(getMatrix_of_hasLines h).2 hc, (getMatrix_of_hasLines h').2 hc', fun k hk hk' => ?_⟩
    rw [contributes_of_hasLines h hc, contributes_of_hasLines h' hc']
    exact hothers k hk hk'

/-! ### Lines that are added -/

/-- The lines of a log that was written. -/
theorem hasLines_written (es : List (TelemetryEnvelope Json)) :
    HasLines (some (LineLog.written (es.map TelemetryEnvelope.line)))
      (es.map fun e => some e.line) := by
  have hsolid : ∀ t ∈ es.map TelemetryEnvelope.line, Text.Solid t := by
    intro t ht
    obtain ⟨e, -, rfl⟩ := List.mem_map.1 ht
    exact Json.solid_dumps_obj _
  change (Text.lines _).map some = _
  rw [LineLog.lines_written hsolid, List.map_map]
  rfl

/-- A line without an envelope spares the others. -/
theorem spares_of_no_envelope {raw : List Char} (h : lineEnvelope (some raw) = none) :
    Spares L before after none (some (some raw)) where
  decodes _ hl := by
    have hno : (none : Option RawLine) ≠ some none := by simp
    exact absurd (hl.2 (by simp)) hno
  pushes _ _ _ hne := by
    have hnone : ((some (some raw) : Option RawLine).bind lineEnvelope).isSome = false := by
      rw [Option.bind_some, h]
      rfl
    exact absurd hnone.symm hne

/-- A line that is no JSON, at the end of a log, changes nothing. -/
theorem survives_torn : Survives .still (some oneEvent) (some (oneEvent ++ ['\x7b'])) none
    (some (some ['\x7b'])) := by
  have hone : HasLines (some oneEvent)
      ([some (tick "SUCCEEDED").line] ++ (none : Option RawLine).toList ++ []) :=
    hasLines_written [tick "SUCCEEDED"]
  have htwo : HasLines (some (oneEvent ++ ['\x7b']))
      ([some (tick "SUCCEEDED").line] ++ (some (some ['\x7b']) : Option RawLine).toList ++ []) := by
    have hstart : Text.AtLineStart oneEvent := by
      rw [oneEvent, List.map_singleton, LineLog.written_cons, LineLog.written_nil]
      intro c hc
      rw [List.getLast?_concat] at hc
      exact Or.inl (Option.some.inj hc).symm
    change (Text.lines _).map some = _
    rw [Text.lines_append hstart (by simp [Text.NoBreak]), List.map_append]
    exact congrArg (· ++ [some ['\x7b']]) hone
  have hnone : lineEnvelope (some ['\x7b']) = none := by decide
  have hcount : Countable .still (considered
      ([some (tick "SUCCEEDED").line] ++ (none : Option RawLine).toList ++ [])) := by
    rw [← getMatrix_of_hasLines hone, getMatrix, oneEvent, query_written]
    decide
  have hsame : considered
      ([some (tick "SUCCEEDED").line] ++ (some (some ['\x7b']) : Option RawLine).toList ++ []) =
        considered ([some (tick "SUCCEEDED").line] ++ (none : Option RawLine).toList ++ []) := by
    simp [considered, hnone, List.filterMap_cons]
  exact (survives_iff .still hone htwo).2 ⟨hcount, hsame ▸ hcount, spares_of_no_envelope hnone⟩

/-- An event whose execution id is a list. -/
def unhashable : TelemetryEnvelope Json where
  field
    | "timestamp" => .str "1970-01-01T00:00:00Z"
    | "execution_id" => .arr [.str "exec-2"]
    | _ => .null
  metadata := .obj []

/-- **One such line is added to the log of an event, and no matrix is returned.** -/
theorem not_survives_unhashable :
    let log := LineLog.written ([tick "SUCCEEDED"].map TelemetryEnvelope.line)
    let log' := LineLog.written ([tick "SUCCEEDED", unhashable].map TelemetryEnvelope.line)
    HasLines (some log) ([some (tick "SUCCEEDED").line] ++ (none : Option RawLine).toList ++ []) ∧
      HasLines (some log') ([some (tick "SUCCEEDED").line] ++
        (some (some unhashable.line) : Option RawLine).toList ++ []) ∧
      getMatrix .still (some log') [] = none ∧
      ¬ Survives .still (some log) (some log') none (some (some unhashable.line)) := by
  intro log log'
  have hnone : getMatrix .still (some log') [] = none := by
    rw [getMatrix, query_written]
    decide
  refine ⟨hasLines_written [tick "SUCCEEDED"], hasLines_written [tick "SUCCEEDED", unhashable],
    hnone, fun h => ?_⟩
  have hreturned := h.returned'
  rw [hnone] at hreturned
  cases hreturned

end Telemetry

end AnnyRuntime
