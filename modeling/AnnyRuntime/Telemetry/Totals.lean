import AnnyRuntime.Telemetry.Conservation

/-!
# What an event adds to the totals

`totals` is what the matrices count, under any filters.  A text that is appended to the log is
`Counted` when one of them changes.

* `found_line` : a line that is no envelope is not found.
* `counted_take_iff` : of the line of a new execution, at the start of a line, what is written is
  counted exactly when the line is whole.
-/

namespace AnnyRuntime

namespace Telemetry

open Text

/-- What is counted under some filters, of all executions and of those of each department, unless
it raises. -/
def totals (L : Library) (log : List Char) (filters : List Filter) :
    Option ((Counter → ℕ) × Dict DictKey (Counter → ℕ)) :=
  (getMatrix L (some log) filters).map fun m => (m.global.count, m.departments.map Row.count)

/-- The text changes what is counted. -/
def Counted (L : Library) (log text : List Char) : Prop :=
  ∃ filters, totals L (log ++ text) filters ≠ totals L log filters

/-- The envelopes that are found, the newest first. -/
def found (log : List Char) (filters : List Filter) : List (TelemetryEnvelope Json) :=
  ((lines log).reverse.filter fun l => !(strip l = [])).filterMap (parseLine filters)

/-- The events of an execution. -/
def ofExecution (executionId : String) : Filter :=
  ("execution_id", fun v => v = .str executionId)

variable {L : Library} {u t : List Char} {filters : List Filter} {e : TelemetryEnvelope Json}

theorem query_eq_found (limit : ℕ) :
    query (some u) filters limit = (found u filters).take (max limit 1) := rfl

theorem totals_congr (h : found u filters = found t filters) :
    totals L u filters = totals L t filters := by
  simp only [totals, getMatrix, query_eq_found, h]

/-! ### One more line -/

/-- One more line, with its end or without it. -/
theorem lines_concat (hu : AtLineStart u) (ht : ∀ c ∈ t, NoBreak c) (hne : t ≠ [])
    {tail : List Char} (htail : tail = [] ∨ tail = ['\n']) :
    lines (u ++ (t ++ tail)) = lines u ++ [t] := by
  have hhead : ∀ c ∈ (t ++ tail).head?, NoBreak c := by
    intro c hc
    rw [List.head?_append_of_ne_nil _ hne] at hc
    exact ht c (List.mem_of_mem_head? hc)
  rw [lines_append hu hhead]
  rcases htail with rfl | rfl
  · rw [List.append_nil, lines_last ht hne]
  · rw [lines_line ht]
    rfl

/-- **A line that is no envelope is not found**, and another one is found first. -/
theorem found_line (hu : AtLineStart u) (ht : ∀ c ∈ t, NoBreak c) (hne : t ≠ [])
    {tail : List Char} (htail : tail = [] ∨ tail = ['\n']) :
    found (u ++ (t ++ tail)) filters =
      (if strip t = [] then [] else (parseLine filters t).toList) ++ found u filters := by
  rw [found, lines_concat hu ht hne htail, List.reverse_concat, List.filter_cons]
  by_cases hs : strip t = []
  · simp [hs, found]
  · simp only [hs, decide_false, Bool.not_false, if_true, if_false, List.filterMap_cons]
    cases parseLine filters t <;> rfl

/-- The line of an envelope is read back when the envelope passes the filters. -/
theorem parseLine_of_all
    (h : (filters.all fun f => f.2 ((Json.lookup f.1 e.toDict).getD .null)) = true) :
    parseLine filters e.line = some e.reload := by
  have hread := parseLine_line e
  rw [parseLine, TelemetryEnvelope.line, Json.loads_dumps] at hread ⊢
  simp only [List.all_nil, if_true] at hread
  simp only [h, if_true, hread]

/-- A line that was cut is no envelope. -/
theorem parseLine_torn {p q : List Char} (hq : q ≠ []) (h : p ++ q = e.line) :
    parseLine filters p = none := by
  rw [parseLine, Json.loads_torn hq h]

/-! ### One execution -/

/-- An event of an execution that no event has been about, whose time is one. -/
structure NewExecution (L : Library) (u : List Char) (e : TelemetryEnvelope Json)
    (id now department : String) : Prop where
  executionId : e.field "execution_id" = .str id
  timestamp : e.field "timestamp" = .str now
  departmentId : e.field "department_id" = .str department
  durationMs : e.field "duration_ms" = .null
  named : id ≠ ""
  /-- No event has the id. -/
  new : found u [ofExecution id] = []
  /-- The time is one. -/
  dated : now ≠ ""
  time : ∃ d t, L.isoparse (.str now) = .time d ∧ d.utc? = some t

theorem truthy_str (A : FloatArith) {x : String} (h : x ≠ "") : truthy A (.str x) = true := by
  simp [truthy, Json.truthy, h]

/-- Nothing is counted of no event. -/
theorem total_of_nil {u : List Char} (h : found u filters = []) :
    (totals L u filters).map (fun x => x.1 .total) = some 0 := by
  simp only [totals, getMatrix, query_eq_found, h, List.take_nil]
  rfl

/-- One state is counted once. -/
theorem matrixOf_singleton {s : ExecutionState} {k : DictKey}
    (hkey : dictKey L.arith s.departmentId = some k) (hduration : s.durationMs = .null)
    (k' : DictKey) :
    ∃ m, matrixOf L (Dict.empty.set k' s) = some m ∧ m.global.count .total = 1 := by
  have hdurations : (Stats.new.add L s).durations = [] := by
    simp [Stats.add, Stats.new, hduration]
  have haverage : ((Stats.new.add L s).average? L).isSome = true := by
    simp [Stats.average?, hdurations]
  have hvalues : ∀ {ν : Type} (k : DictKey) (v : ν), (Dict.empty.set k v).values = [v] :=
    fun k v => Dict.values_set_of_get?_eq_none (Dict.get?_empty k) v
  have htabulate : tabulate L (Dict.empty.set k' s).values (.new, .empty) =
      some (Stats.new.add L s, Dict.empty.set k (Stats.new.add L s)) := by
    simp only [hvalues, tabulate, hkey, Option.bind_some, Dict.get?_empty, Option.getD_none]
  refine ⟨⟨(Stats.new.add L s).finish L,
    (Dict.empty.set k (Stats.new.add L s)).map (Stats.finish L)⟩, ?_, ?_⟩
  · rw [matrixOf, htabulate, Option.bind_some, if_pos]
    simp only [haverage, hvalues, List.all_cons, List.all_nil, Bool.and_true]
  · change (Stats.new.add L s).count .total = 1
    rw [count_add]
    rfl

/-- One execution is counted of one event. -/
theorem total_of_singleton {u : List Char} {id now department : String} {d : DateTime} {t : ℤ}
    (h : found u filters = [e]) (hid : e.field "execution_id" = .str id) (hne : id ≠ "")
    (hnow : e.field "timestamp" = .str now) (hdated : now ≠ "")
    (hparse : L.isoparse (.str now) = .time d) (hutc : d.utc? = some t)
    (hdepartment : e.field "department_id" = .str department)
    (hduration : e.field "duration_ms" = .null) :
    (totals L u filters).map (fun x => x.1 .total) = some 1 := by
  have hvalid : validEvents L [e] = some [Event.of e t] := by
    simp [validEvents, hnow, truthy_str L.arith hdated, hparse, hutc]
  have hstates : executionStates L [e] =
      some (Dict.empty.set (.str id) (advance L none (Event.of e t))) := by
    rw [executionStates, hvalid]
    have htruthy : truthy L.arith (Event.of e t).executionId = true := by
      rw [Event.of, hid]
      exact truthy_str L.arith hne
    have hkey : dictKey L.arith (Event.of e t).executionId = some (.str id) := by
      rw [Event.of, hid]
      rfl
    have hsort : Ranking.sortAsc Event.parsed [Event.of e t] = [Event.of e t] := rfl
    simp only [Option.bind_some, hsort, foldEvents, htruthy, hkey, Bool.not_true,
      Bool.false_eq_true, if_false]
    rfl
  have hdept : ∃ x, (advance L none (Event.of e t)).departmentId = .str x := by
    simp only [advance, ExecutionState.update, Option.getD_none, ExecutionState.start, Event.of,
      hdepartment, orElse]
    split_ifs
    · exact ⟨_, rfl⟩
    · exact ⟨_, rfl⟩
  have hnone : (advance L none (Event.of e t)).durationMs = .null := by
    simp [advance, ExecutionState.update, ExecutionState.start, Event.of, hduration]
  obtain ⟨x, hx⟩ := hdept
  have hkey : dictKey L.arith (advance L none (Event.of e t)).departmentId = some (.str x) := by
    rw [hx]
    rfl
  obtain ⟨m, hm, htotal⟩ := matrixOf_singleton hkey hnone (.str id)
  simp only [totals, getMatrix, query_eq_found, h]
  rw [List.take_of_length_le (by simp [aggregationLimit]), hstates, Option.bind_some, hm]
  simp [htotal]

/-- The envelope that is read back is about the execution. -/
theorem NewExecution.reload {id now department : String}
    (h : NewExecution L u e id now department) : NewExecution L u e.reload id now department where
  executionId := (TelemetryEnvelope.field_reload (by decide)).trans h.executionId
  timestamp := (TelemetryEnvelope.field_reload (by decide)).trans h.timestamp
  departmentId := (TelemetryEnvelope.field_reload (by decide)).trans h.departmentId
  durationMs := (TelemetryEnvelope.field_reload (by decide)).trans h.durationMs
  named := h.named
  new := h.new
  dated := h.dated
  time := h.time

theorem lookup_executionId {id : String} (h : e.field "execution_id" = .str id) :
    Json.lookup "execution_id" e.toDict = some (.str id) := by
  refine Json.lookup_of_mem TelemetryEnvelope.nodup_toDict (List.mem_filter.2 ⟨?_, by simp⟩)
  exact List.mem_append_left _ (List.mem_map.2 ⟨("execution_id", .null), by decide, by rw [h]⟩)

/-- A part of the line is not found. -/
theorem found_torn (hu : AtLineStart u) {n : ℕ} (hn : n < e.line.length) :
    found (u ++ e.line.take n) filters = found u filters := by
  have hsolid : Solid e.line := Json.solid_dumps_obj _
  obtain ⟨q, hq⟩ := List.take_prefix n e.line
  have hlength : (e.line.take n).length = n := by
    rw [List.length_take]
    omega
  have hq' : q ≠ [] := by
    rintro rfl
    rw [List.append_nil] at hq
    rw [hq] at hlength
    omega
  by_cases hnil : e.line.take n = []
  · rw [hnil, List.append_nil]
  · have hbreak : ∀ c ∈ e.line.take n, NoBreak c := fun c hc =>
      hsolid.noBreak c (List.mem_of_mem_take hc)
    have hfound : found (u ++ (e.line.take n ++ [])) filters = _ :=
      found_line hu hbreak hnil (.inl rfl)
    rw [List.append_nil] at hfound
    rw [hfound, parseLine_torn hq' hq]
    simp

/-- The whole line is found, with its end or without it. -/
theorem found_whole {id now department : String} (hu : AtLineStart u)
    (h : NewExecution L u e id now department) {tail : List Char}
    (htail : tail = [] ∨ tail = ['\n']) :
    found (u ++ (e.line ++ tail)) [ofExecution id] = [e.reload] := by
  have hsolid : Solid e.line := Json.solid_dumps_obj _
  have hparse : parseLine [ofExecution id] e.line = some e.reload :=
    parseLine_of_all (by simp [ofExecution, lookup_executionId h.executionId])
  rw [found_line hu hsolid.noBreak hsolid.ne_nil htail, h.new, hparse, hsolid.strip_eq]
  simp [hsolid.ne_nil]

/-- **What is counted of a line**, at the start of a line: the event of a new execution is counted
exactly when its line is written whole. -/
theorem counted_take_iff {id now department : String} (hu : AtLineStart u)
    (h : NewExecution L u e id now department) (n : ℕ) :
    Counted L u ((e.line ++ ['\n']).take n) ↔ e.line.length ≤ n := by
  constructor
  · intro hc
    by_contra hn
    obtain ⟨filters, hne⟩ := hc
    refine hne (totals_congr ?_)
    rw [List.take_append_of_le_length (by omega)]
    exact found_torn hu (by omega)
  · intro hn
    have htail : ∃ tail, (e.line ++ ['\n']).take n = e.line ++ tail ∧
        (tail = [] ∨ tail = ['\n']) := by
      refine ⟨['\n'].take (n - e.line.length), ?_, ?_⟩
      · rw [List.take_append, List.take_of_length_le hn]
      · cases n - e.line.length with
        | zero => exact .inl rfl
        | succ k => exact .inr (by simp)
    obtain ⟨tail, heq, htail⟩ := htail
    refine ⟨[ofExecution id], fun hsame => ?_⟩
    obtain ⟨d, t, hparse, hutc⟩ := h.time
    have hread := h.reload
    have hone := total_of_singleton (found_whole hu h htail) hread.executionId h.named
      hread.timestamp h.dated hparse hutc hread.departmentId hread.durationMs
    rw [heq] at hsame
    rw [hsame, total_of_nil h.new] at hone
    exact absurd (Option.some.inj hone) (by decide)

end Telemetry

end AnnyRuntime
