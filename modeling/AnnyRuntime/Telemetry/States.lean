import AnnyRuntime.Telemetry.Chronology

/-!
# The states behind the matrix

For any envelopes that are read, the state of each execution in closed form (`contribution`), the
order of the executions, and when a matrix is returned at all.

* `contribution_cons_iff` : what an execution contributes does not depend on the oldest of its
  events exactly when this one is `Dispensable`.
* `isSome_matrix_iff` : **a matrix is returned exactly when the envelopes are `Countable`**: no
  timestamp raises, no execution id and no department that counts is a list or an object, and the
  durations have averages.
-/

namespace AnnyRuntime

namespace Telemetry

open Ranking

/-! ### One execution -/

section Definitions

variable (L : Library)

/-- The events of an execution that have a valid timestamp, in the order of the log. -/
def eventsAt (k : DictKey) (es : List (TelemetryEnvelope Json)) : List Event :=
  (es.filterMap (stamp L)).filter (Event.isOf L k)

/-- The state that some events of an execution make, unless there are none. -/
def contribution (l : List Event) : Option ExecutionState :=
  (sortAsc Event.parsed l.reverse).foldl (fun s e => some (advance L s e)) none

/-- Another event decides the field, or this one says the same. -/
def Overridden (f : Event → Json) (has : Json → Bool) (default : Json) (e : Event)
    (rest : List Event) : Prop :=
  has (f e) = true →
    (∃ r ∈ rest, has (f r) = true ∧ e.parsed < r.parsed) ∨ f e = decided f has default rest

/-- The state of an execution does not depend on the oldest of its events: another one is as late,
and what it has values for is decided by the others, or the same. -/
structure Dispensable (e : Event) (rest : List Event) : Prop where
  time : ∃ r ∈ rest, e.parsed ≤ r.parsed
  department : Overridden Event.departmentId (truthy L.arith) (.str "UNKNOWN") e rest
  routing : Overridden Event.routingClass (truthy L.arith) (.str "UNKNOWN") e rest
  duration : Overridden Event.durationMs notNull .null e rest
  status : succeededIn rest = true ∨ e.status ≠ .str "SUCCEEDED" ∧
    Overridden Event.status (truthy L.arith) (.str "UNKNOWN") e rest

end Definitions

variable {L : Library} {k : DictKey} {l : List Event} {e : Event} {rest : List Event}

theorem eventsAt_append (es es' : List (TelemetryEnvelope Json)) :
    eventsAt L k (es ++ es') = eventsAt L k es ++ eventsAt L k es' := by
  rw [eventsAt, List.filterMap_append, List.filter_append, eventsAt, eventsAt]

theorem mem_eventsAt {es : List (TelemetryEnvelope Json)} :
    e ∈ eventsAt L k es ↔ (∃ x ∈ es, stamp L x = some e) ∧ e.isOf L k = true := by
  rw [eventsAt, List.mem_filter, List.mem_filterMap]

/-- **The states in closed form**, when the envelopes are read from the newest to the oldest. -/
theorem get?_executionStates {es : List (TelemetryEnvelope Json)} {d : Dict DictKey ExecutionState}
    (h : executionStates L es.reverse = some d) (k : DictKey) :
    d.get? k = contribution L (eventsAt L k es) := by
  obtain ⟨evs, hevs, h⟩ := Option.bind_eq_some_iff.1 h
  have hfilter : evs.filter (Event.isOf L k) = (eventsAt L k es).reverse := by
    rw [validEvents_eq hevs, List.filterMap_reverse, List.filter_reverse, eventsAt]
  rw [get?_foldEvents h, filter_sortAsc, hfilter, Dict.get?_empty, contribution]

@[simp] theorem contribution_nil : contribution L [] = none := rfl

/-- The fields that are counted. -/
theorem summary_contribution (l : List Event) :
    (contribution L l).map ExecutionState.summary = summaryOf L l := by
  cases l with
  | nil => rfl
  | cons e l =>
    have hne : (e :: l).reverse ≠ [] := by simp
    rw [← List.reverse_reverse (e :: l), ← foldl_apply_eq hne, List.reverse_reverse, contribution]
    cases hs : sortAsc Event.parsed (e :: l).reverse with
    | nil =>
      have hmem : e ∈ sortAsc Event.parsed (e :: l).reverse := mem_sortAsc.2 (by simp)
      rw [hs] at hmem
      cases hmem
    | cons a t =>
      rw [List.foldl_cons, List.foldl_cons, advance, Option.getD_none, summary_foldl,
        summary_start_update]

theorem contribution_eq_none : contribution L l = none ↔ l = [] := by
  rw [← Option.map_eq_none_iff (f := ExecutionState.summary), summary_contribution, summaryOf]
  split_ifs with h <;> simp [h]

/-- The time of a state. -/
def ExecutionState.stamped (s : ExecutionState) : Json × ℤ := (s.timestamp, s.parsedTimestamp)

theorem stamped_foldl {m : List Event} {x : Event} (h : FirstBest Event.parsed m x) :
    (m.foldl (fun s e => some (advance L s e)) none).map ExecutionState.stamped =
      some (x.timestamp, x.parsed) := by
  induction m using List.reverseRecOn generalizing x with
  | nil => exact absurd h.mem (by simp)
  | append_singleton m a ih =>
    rw [List.foldl_append, List.foldl_cons, List.foldl_nil, Option.map_some, Option.some_inj]
    by_cases hm : m = []
    · subst hm
      have ha : FirstBest Event.parsed ([] ++ [a]) a := firstBest_cons (by simp)
      obtain rfl := h.unique ha
      simp [advance, ExecutionState.start, ExecutionState.update, ExecutionState.stamped]
    · obtain ⟨y, hy⟩ : ∃ y, FirstBest Event.parsed m y := exists_firstBest hm
      obtain ⟨s, hs, hstamped⟩ := Option.map_eq_some_iff.1 (ih hy)
      obtain ⟨htimestamp, hparsed⟩ := Prod.mk.inj hstamped
      obtain rfl := (firstBest_concat (a := a) hy).unique h
      rw [hs, advance, Option.getD_some]
      -- only a later event is taken over
      by_cases hlt : y.parsed < a.parsed
      · simp [ExecutionState.stamped, ExecutionState.update, hparsed, hlt, not_le.2 hlt]
      · simp [ExecutionState.stamped, ExecutionState.update, hparsed, htimestamp, hlt, not_lt.1 hlt]

/-- The time of an execution is that of the last emitted of its latest events. -/
theorem stamped_contribution {x : Event} (h : FirstBest Event.parsed l.reverse x) :
    (contribution L l).map ExecutionState.stamped = some (x.timestamp, x.parsed) :=
  stamped_foldl (firstBest_sortAsc.2 h)

/-- A state is its summary and its time. -/
theorem contribution_eq_iff {l m : List Event} : contribution L l = contribution L m ↔
    summaryOf L l = summaryOf L m ∧ (contribution L l).map ExecutionState.stamped =
      (contribution L m).map ExecutionState.stamped := by
  rw [← summary_contribution, ← summary_contribution]
  constructor
  · intro h
    rw [h]
    exact ⟨rfl, rfl⟩
  · rintro ⟨hsummary, hstamped⟩
    cases hl : contribution L l with
    | none => cases hm : contribution L m with
      | none => rfl
      | some t => rw [hl, hm] at hsummary; cases hsummary
    | some s => cases hm : contribution L m with
      | none => rw [hl, hm] at hsummary; cases hsummary
      | some t =>
        rw [hl, hm, Option.map_some, Option.map_some, Option.some_inj] at hsummary hstamped
        obtain ⟨hd, hr, hs, hdur⟩ := Summary.mk.inj hsummary
        obtain ⟨htimestamp, hparsed⟩ := Prod.mk.inj hstamped
        cases s
        cases t
        cases hd
        cases hr
        cases hs
        cases hdur
        cases htimestamp
        cases hparsed
        rfl

/-! ### The oldest event of an execution -/

theorem decided_cons (f : Event → Json) (has : Json → Bool) (default : Json) (e : Event)
    (rest : List Event) :
    decided f has default (e :: rest) =
      if has (f e) = true ∧ ∀ r ∈ rest, has (f r) = true → r.parsed ≤ e.parsed then f e
      else decided f has default rest := by
  unfold decided
  rw [List.filter_cons]
  by_cases he : has (f e) = true
  · rw [if_pos he, head?_sortDesc_cons]
    cases hr : (sortDesc Event.parsed (rest.filter fun r => has (f r))).head? with
    | none =>
      have hnone : rest.filter (fun r => has (f r)) = [] := by
        by_contra hne
        obtain ⟨x, hx⟩ : ∃ x, (sortDesc Event.parsed _).head? = some x := head?_sortDesc_isSome hne
        rw [hr] at hx
        cases hx
      have hall : ∀ r ∈ rest, has (f r) = true → r.parsed ≤ e.parsed := fun r hmem hhas =>
        absurd (List.mem_filter.2 ⟨hmem, hhas⟩) (by rw [hnone]; simp)
      rw [if_pos ⟨he, hall⟩]
      rfl
    | some b =>
      have hb := head?_sortDesc_eq_some_iff.1 hr
      by_cases hle : b.parsed ≤ e.parsed
      · simp only [if_pos hle]
        rw [if_pos ⟨he, fun r hmem hhas => le_trans (hb.le (List.mem_filter.2 ⟨hmem, hhas⟩)) hle⟩]
        rfl
      · simp only [if_neg hle]
        obtain ⟨hmem, hhas⟩ := List.mem_filter.1 hb.mem
        rw [if_neg fun h => hle (h.2 b hmem hhas)]
  · rw [if_neg he, if_neg fun h => he h.1]

/-- The oldest event does not decide the field. -/
theorem decided_cons_eq_iff {f : Event → Json} {has : Json → Bool} {default : Json} :
    decided f has default (e :: rest) = decided f has default rest ↔
      Overridden f has default e rest := by
  rw [decided_cons, Overridden]
  split_ifs with h
  · refine ⟨fun heq _ => Or.inr heq, fun hover => (hover h.1).resolve_left ?_⟩
    rintro ⟨r, hmem, hhas, hlt⟩
    exact absurd (h.2 r hmem hhas) (not_le.2 hlt)
  · refine iff_of_true rfl fun hhas => Or.inl ?_
    by_contra hno
    refine h ⟨hhas, fun r hmem hr => ?_⟩
    by_contra hle
    exact hno ⟨r, hmem, hr, not_le.1 hle⟩

theorem status_cons_eq_iff :
    (decidedBy L (e :: rest)).status = (decidedBy L rest).status ↔
      succeededIn rest = true ∨ e.status ≠ .str "SUCCEEDED" ∧
        Overridden Event.status (truthy L.arith) (.str "UNKNOWN") e rest := by
  have hcons : succeededIn (e :: rest) =
      (decide (e.status = .str "SUCCEEDED") || succeededIn rest) := rfl
  rw [decidedBy, decidedBy, hcons]
  cases hrest : succeededIn rest with
  | true => simp
  | false =>
    by_cases he : e.status = .str "SUCCEEDED"
    · simpa [he] using fun h : Json.str "SUCCEEDED" = _ => decided_status_ne hrest h.symm
    · simp [he, decided_cons_eq_iff]

/-- **When the oldest event of an execution does not count.** -/
theorem contribution_cons_iff :
    contribution L (e :: rest) = contribution L rest ↔ Dispensable L e rest := by
  by_cases hnil : rest = []
  · subst hnil
    refine iff_of_false (fun h => ?_) fun h => ?_
    · exact absurd (contribution_eq_none.1 (h.trans contribution_nil)) (by simp)
    · obtain ⟨r, hr, -⟩ := h.time
      cases hr
  obtain ⟨x, hx⟩ : ∃ x, FirstBest Event.parsed rest.reverse x :=
    exists_firstBest (by simpa using hnil)
  have hcons := firstBest_concat (a := e) hx
  rw [← List.reverse_cons] at hcons
  rw [contribution_eq_iff, stamped_contribution hx, stamped_contribution hcons, summaryOf,
    if_neg (by simp), summaryOf, if_neg hnil, Option.some_inj, Option.some_inj]
  have htime : (∃ r ∈ rest, e.parsed ≤ r.parsed) ↔ e.parsed ≤ x.parsed := by
    constructor
    · rintro ⟨r, hr, hle⟩
      exact le_trans hle (hx.le (List.mem_reverse.2 hr))
    · exact fun hle => ⟨x, List.mem_reverse.1 hx.mem, hle⟩
  constructor
  · rintro ⟨hsummary, hstamped⟩
    refine ⟨htime.2 ?_, decided_cons_eq_iff.1 (congrArg Summary.departmentId hsummary),
      decided_cons_eq_iff.1 (congrArg Summary.routingClass hsummary),
      decided_cons_eq_iff.1 (congrArg Summary.durationMs hsummary),
      status_cons_eq_iff.1 (congrArg Summary.status hsummary)⟩
    split_ifs at hstamped with hle
    · exact hle
    · exact le_of_eq (Prod.mk.inj hstamped).2
  · intro h
    refine ⟨Summary.ext (decided_cons_eq_iff.2 h.department) (decided_cons_eq_iff.2 h.routing)
      (status_cons_eq_iff.2 h.status) (decided_cons_eq_iff.2 h.duration), ?_⟩
    rw [if_pos (htime.1 h.time)]

/-! ### All executions -/

section Countable

variable (L : Library) (es : List (TelemetryEnvelope Json))

/-- The execution that an event is of. -/
def Event.key? (e : Event) : Option DictKey :=
  if truthy L.arith e.executionId then dictKey L.arith e.executionId else none

/-- A key is added, unless it is there. -/
def insertKey (ks : List DictKey) (k : DictKey) : List DictKey := if k ∈ ks then ks else ks ++ [k]

/-- The executions, in the order of their first events. -/
def executions : List DictKey :=
  ((sortAsc Event.parsed (es.reverse.filterMap (stamp L))).filterMap (Event.key? L)).foldl
    insertKey []

/-- The department that counts. -/
def departmentAt (k : DictKey) : Json :=
  decided Event.departmentId (truthy L.arith) (.str "UNKNOWN") (eventsAt L k es)

/-- The durations of some executions. -/
def durationsAt (ks : List DictKey) : List Json :=
  (ks.map fun k => decided Event.durationMs notNull .null (eventsAt L k es)).filter notNull

/-- The durations have an average, or there are none. -/
def Averages (l : List Json) : Prop := l = [] ∨ (L.average l).isSome = true

/-- The envelopes can be counted. -/
structure Countable : Prop where
  /-- No timestamp raises. -/
  caught : ∀ e ∈ es, ¬ Raises L e
  /-- An execution id is no list and no object. -/
  ids : ∀ x ∈ es, ∀ e, stamp L x = some e → truthy L.arith e.executionId = true →
    (dictKey L.arith e.executionId).isSome = true
  /-- Nor is the department of an execution. -/
  departments : ∀ k ∈ executions L es, (dictKey L.arith (departmentAt L es k)).isSome = true
  average : Averages L (durationsAt L es (executions L es))
  averages : ∀ q, Averages L (durationsAt L es
    ((executions L es).filter fun k => dictKey L.arith (departmentAt L es k) = some q))

end Countable

variable {es : List (TelemetryEnvelope Json)} {d : Dict DictKey ExecutionState}

theorem keys_foldEvents {evs : List Event} {d d' : Dict DictKey ExecutionState}
    (h : foldEvents L evs d = some d') :
    d'.keys = (evs.filterMap (Event.key? L)).foldl insertKey d.keys := by
  induction evs generalizing d with
  | nil =>
    obtain rfl := Option.some.inj h
    rfl
  | cons e evs ih =>
    rw [foldEvents] at h
    split_ifs at h with ht
    · have hkey : Event.key? L e = none := by
        rw [Event.key?, if_neg (by simpa using ht)]
      rw [List.filterMap_cons_none hkey]
      exact ih h
    · obtain ⟨k, hk, h⟩ := Option.bind_eq_some_iff.1 h
      have hkey : Event.key? L e = some k := by
        rw [Event.key?, if_pos (by simpa using ht), hk]
      rw [List.filterMap_cons_some hkey, List.foldl_cons, ih h, Dict.keys_set, insertKey]

theorem keys_executionStates (h : executionStates L es.reverse = some d) :
    d.keys = executions L es := by
  obtain ⟨evs, hevs, h⟩ := Option.bind_eq_some_iff.1 h
  rw [keys_foldEvents h, validEvents_eq hevs, executions, Dict.keys_empty]

theorem isSome_foldEvents_iff {evs : List Event} {d : Dict DictKey ExecutionState} :
    (foldEvents L evs d).isSome = true ↔ ∀ e ∈ evs, truthy L.arith e.executionId = true →
      (dictKey L.arith e.executionId).isSome = true := by
  induction evs generalizing d with
  | nil => simp [foldEvents]
  | cons e evs ih =>
    rw [foldEvents, List.forall_mem_cons]
    cases ht : truthy L.arith e.executionId with
    | false => simp [ih]
    | true => cases hk : dictKey L.arith e.executionId <;> simp [ih]

/-- When there are states. -/
theorem isSome_executionStates_iff : (executionStates L es.reverse).isSome = true ↔
    (∀ e ∈ es, ¬ Raises L e) ∧ ∀ x ∈ es, ∀ e, stamp L x = some e →
      truthy L.arith e.executionId = true → (dictKey L.arith e.executionId).isSome = true := by
  have hcaught : (validEvents L es.reverse).isSome = true ↔ ∀ e ∈ es, ¬ Raises L e := by
    simp [isSome_validEvents]
  rw [executionStates, ← hcaught]
  cases hevs : validEvents L es.reverse with
  | none => simp
  | some evs =>
    rw [Option.bind_some, isSome_foldEvents_iff]
    simp only [mem_sortAsc, validEvents_eq hevs, List.mem_filterMap, List.mem_reverse,
      Option.isSome_some, true_and]
    exact ⟨fun h x hx e he => h e ⟨x, hx, he⟩, fun h e ⟨x, hx, he⟩ => h x hx e he⟩

/-! ### Counting -/

/-- The durations of some states. -/
def durationsIn (ss : List ExecutionState) : List Json :=
  (ss.map ExecutionState.durationMs).filter notNull

theorem durations_add (r : Stats) (s : ExecutionState) :
    (r.add L s).durations = r.durations ++ durationsIn [s] := by
  by_cases h : s.durationMs = .null <;> simp [Stats.add, durationsIn, notNull, h]

theorem durationsIn_append (ss ss' : List ExecutionState) :
    durationsIn (ss ++ ss') = durationsIn ss ++ durationsIn ss' := by
  rw [durationsIn, List.map_append, List.filter_append, durationsIn, durationsIn]

/-- The states of a department. -/
def inDepartment (L : Library) (q : DictKey) (ss : List ExecutionState) : List ExecutionState :=
  ss.filter fun s => dictKey L.arith s.departmentId = some q

/-- The durations in the rows are those of the states that were counted in them. -/
theorem durations_tabulate {ss : List ExecutionState} {t t' : Stats × Dict DictKey Stats}
    (h : tabulate L ss t = some t') :
    t'.1.durations = t.1.durations ++ durationsIn ss ∧
      ∀ q, ((t'.2.get? q).getD .new).durations =
        ((t.2.get? q).getD .new).durations ++ durationsIn (inDepartment L q ss) := by
  induction ss generalizing t with
  | nil =>
    obtain rfl := Option.some.inj h
    simp [durationsIn, inDepartment]
  | cons s ss ih =>
    obtain ⟨k, hk, h⟩ := Option.bind_eq_some_iff.1 h
    obtain ⟨hglobal, hrows⟩ := ih h
    rw [hglobal, durations_add, List.append_assoc, ← durationsIn_append]
    refine ⟨rfl, fun q => ?_⟩
    rw [hrows, Dict.get?_set, inDepartment, inDepartment, List.filter_cons]
    by_cases hq : q = k
    · subst hq
      rw [if_pos rfl, Option.getD_some, durations_add, if_pos (by simpa using hk),
        List.append_assoc, ← durationsIn_append]
      rfl
    · rw [if_neg hq, if_neg (by simpa [hk] using fun h : k = q => hq h.symm)]

theorem isSome_tabulate {ss : List ExecutionState} {t : Stats × Dict DictKey Stats} :
    (tabulate L ss t).isSome = true ↔
      ∀ s ∈ ss, (dictKey L.arith s.departmentId).isSome = true := by
  induction ss generalizing t with
  | nil => simp [tabulate]
  | cons s ss ih =>
    rw [tabulate, List.forall_mem_cons]
    cases hk : dictKey L.arith s.departmentId <;> simp [ih]

theorem isSome_average? (r : Stats) : (r.average? L).isSome = true ↔ Averages L r.durations := by
  rw [Stats.average?, Averages]
  split_ifs with h <;> simp [h]

/-- When the states make a matrix. -/
theorem isSome_matrixOf : (matrixOf L d).isSome = true ↔
    (∀ s ∈ d.values, (dictKey L.arith s.departmentId).isSome = true) ∧
      Averages L (durationsIn d.values) ∧
        ∀ q, Averages L (durationsIn (inDepartment L q d.values)) := by
  rw [← isSome_tabulate (L := L) (t := (.new, .empty)), matrixOf]
  cases ht : tabulate L d.values (.new, .empty) with
  | none => simp
  | some t =>
    obtain ⟨hglobal, hrows⟩ := durations_tabulate ht
    have hall : (t.2.values.all fun r => (r.average? L).isSome) = true ↔
        ∀ q, Averages L ((t.2.get? q).getD .new).durations := by
      simp only [List.all_eq_true, isSome_average?]
      constructor
      · intro h q
        cases hq : t.2.get? q with
        | none => exact Or.inl rfl
        | some r => exact h r (Dict.mem_values_of_get? hq)
      · intro h r hr
        obtain ⟨q, hq⟩ := Dict.exists_get?_of_mem_values hr
        have := h q
        rwa [hq] at this
    have hnew : (Stats.new).durations = [] := rfl
    rw [hnew, List.nil_append] at hglobal
    simp only [Dict.get?_empty, Option.getD_none, hnew, List.nil_append] at hrows
    simp only [hrows] at hall
    rw [Option.bind_some, ← hglobal, ← hall, ← isSome_average?]
    split_ifs with hif
    · exact iff_of_true rfl ⟨rfl, Bool.and_eq_true_iff.1 hif⟩
    · exact iff_of_false (by simp) fun h => hif (Bool.and_eq_true_iff.2 h.2)

/-! ### When a matrix is returned -/

/-- What the states say is what the executions say. -/
theorem map_values {β : Type} {g : ExecutionState → β} {f : DictKey → β}
    (h : ∀ k s, d.get? k = some s → g s = f k) : d.values.map g = d.keys.map f := by
  rw [Dict.values, Dict.keys, List.map_map, List.map_map]
  exact List.map_congr_left fun m hm => h m.1 m.2 (Dict.get?_of_mem_entries hm)

theorem filter_values {p : ExecutionState → Bool} {q : DictKey → Bool} {β : Type}
    {g : ExecutionState → β} {f : DictKey → β} (hp : ∀ k s, d.get? k = some s → p s = q k)
    (h : ∀ k s, d.get? k = some s → g s = f k) :
    (d.values.filter p).map g = (d.keys.filter q).map f := by
  rw [Dict.values, Dict.keys, List.filter_map, List.filter_map, List.map_map, List.map_map]
  have hfilter : d.entries.filter (p ∘ Prod.snd) = d.entries.filter (q ∘ Prod.fst) :=
    List.filter_congr fun m hm => hp m.1 m.2 (Dict.get?_of_mem_entries hm)
  rw [hfilter]
  exact List.map_congr_left fun m hm =>
    h m.1 m.2 (Dict.get?_of_mem_entries (List.mem_of_mem_filter hm))

/-- The fields of a state. -/
theorem fields_of_get? (h : executionStates L es.reverse = some d) {k : DictKey}
    {s : ExecutionState} (hs : d.get? k = some s) : s.summary = decidedBy L (eventsAt L k es) := by
  have hsummary := summary_contribution (L := L) (eventsAt L k es)
  rw [← get?_executionStates h, hs, Option.map_some, summaryOf] at hsummary
  split_ifs at hsummary
  exact Option.some.inj hsummary

/-- **When a matrix is returned.** -/
theorem isSome_matrix_iff :
    ((executionStates L es.reverse).bind (matrixOf L)).isSome = true ↔ Countable L es := by
  cases hd : executionStates L es.reverse with
  | none =>
    refine iff_of_false (by simp) fun h => ?_
    have hsome := isSome_executionStates_iff.2 ⟨h.caught, h.ids⟩
    rw [hd] at hsome
    cases hsome
  | some d =>
    have hstates := isSome_executionStates_iff.1 (by rw [hd]; rfl)
    have hdept (k : DictKey) (s : ExecutionState) (hs : d.get? k = some s) :
        s.departmentId = departmentAt L es k := congrArg Summary.departmentId (fields_of_get? hd hs)
    have hdur (k : DictKey) (s : ExecutionState) (hs : d.get? k = some s) :
        s.durationMs = decided Event.durationMs notNull .null (eventsAt L k es) :=
      congrArg Summary.durationMs (fields_of_get? hd hs)
    have hall : (∀ s ∈ d.values, (dictKey L.arith s.departmentId).isSome = true) ↔
        ∀ k ∈ executions L es, (dictKey L.arith (departmentAt L es k)).isSome = true := by
      have hmap := map_values (d := d)
        (g := fun s => (dictKey L.arith s.departmentId).isSome)
        (f := fun k => (dictKey L.arith (departmentAt L es k)).isSome)
        fun k s hs => by rw [hdept k s hs]
      rw [← keys_executionStates hd, ← List.forall_mem_map (P := fun b => b = true) (l := d.values),
        hmap, List.forall_mem_map]
    have hglobal : durationsIn d.values = durationsAt L es (executions L es) := by
      rw [durationsIn, durationsAt, ← keys_executionStates hd, map_values hdur]
    have hrows (q : DictKey) : durationsIn (inDepartment L q d.values) = durationsAt L es
        ((executions L es).filter fun k => dictKey L.arith (departmentAt L es k) = some q) := by
      rw [durationsIn, durationsAt, ← keys_executionStates hd, inDepartment,
        filter_values (fun k s hs => by rw [hdept k s hs]) hdur]
    rw [Option.bind_some, isSome_matrixOf, hall, hglobal]
    simp only [hrows]
    exact ⟨fun ⟨hdepts, hglobal, hrows⟩ => ⟨hstates.1, hstates.2, hdepts, hglobal, hrows⟩,
      fun h => ⟨h.departments, h.average, h.averages⟩⟩

end Telemetry

end AnnyRuntime
