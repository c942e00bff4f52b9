import AnnyRuntime.Telemetry.Conservation

/-!
# The matrix and the order of events

What the state of an execution should be: its events in the order of their times, and in the order
of the log where the times are equal, each overriding what came before it, except that success stays
(`reference`).

The aggregator reads the newest events first, no more than a limit, and sorts what it read by time;
the sort is stable, so events with equal times stay in the order in which they were read, the
newest first.  `agree_iff_decided` says for which logs both give one state: where the *first*
emitted of the latest events that were read says the same as the *last* emitted of the latest events
of the log.
-/

namespace AnnyRuntime

namespace Telemetry

open Ranking

/-! ### The reference -/

/-- What the matrix uses of the state of an execution. -/
@[ext]
structure Summary where
  departmentId : Json
  routingClass : Json
  status : Json
  durationMs : Json
  deriving DecidableEq

/-- What the matrix uses of a state. -/
def ExecutionState.summary (s : ExecutionState) : Summary :=
  ⟨s.departmentId, s.routingClass, s.status, s.durationMs⟩

/-- Before any event. -/
def Summary.initial : Summary := ⟨.str "UNKNOWN", .str "UNKNOWN", .str "UNKNOWN", .null⟩

section Reference

variable (L : Library)

/-- A later event overrides what it has a value for, except success. -/
def Summary.apply (s : Summary) (e : Event) : Summary where
  departmentId := orElse L e.departmentId s.departmentId
  routingClass := orElse L e.routingClass s.routingClass
  status := if s.status = .str "SUCCEEDED" then s.status else orElse L e.status s.status
  durationMs := if e.durationMs = .null then s.durationMs else e.durationMs

/-- The events of an execution that have a valid timestamp, in the order of the log. -/
def eventsOf (x : String) (log : List (TelemetryEnvelope Json)) : List Event :=
  (log.filterMap (stamp L)).filter (Event.isOf L (.str x))

/-- The events are folded in the order of their times; equal times keep the order of the log. -/
def reference (x : String) (log : List (TelemetryEnvelope Json)) : Option Summary :=
  if eventsOf L x log = [] then none
  else some ((sortAsc Event.parsed (eventsOf L x log)).foldl (Summary.apply L) .initial)

/-- The states that the matrix is computed from, for the log of some envelopes, are those of the
reference. -/
def Agrees (log : List (TelemetryEnvelope Json)) : Prop :=
  ∃ d, executionStates L (query (some (LineLog.written (log.map TelemetryEnvelope.line))) []
      aggregationLimit) = some d ∧
    ∀ x, (d.get? (.str x)).map ExecutionState.summary = reference L x log

end Reference

/-- The fields of an envelope have the types they are declared with. -/
structure WellFormed (e : TelemetryEnvelope Json) : Prop where
  texts : ∀ name ∈ ["timestamp", "execution_id", "department_id", "routing_class", "status"],
    e.field name = .null ∨ ∃ s, e.field name = .str s
  duration : e.field "duration_ms" = .null ∨ ∃ n, e.field "duration_ms" = .int n

/-! ### Which events decide -/

section Decided

variable (L : Library)

/-- The value of a field in the first of the latest events that have one. -/
def decided (f : Event → Json) (has : Json → Bool) (default : Json) (l : List Event) : Json :=
  ((sortDesc Event.parsed (l.filter fun e => has (f e))).head?.map f).getD default

/-- A value is not `None`. -/
def notNull (j : Json) : Bool := !(j = .null)

/-- An event says that the execution succeeded. -/
def succeededIn (l : List Event) : Bool := l.any fun e => e.status = .str "SUCCEEDED"

/-- The summary that the latest events decide. -/
def decidedBy (l : List Event) : Summary where
  departmentId := decided Event.departmentId (truthy L.arith) (.str "UNKNOWN") l
  routingClass := decided Event.routingClass (truthy L.arith) (.str "UNKNOWN") l
  status :=
    if succeededIn l then .str "SUCCEEDED"
    else decided Event.status (truthy L.arith) (.str "UNKNOWN") l
  durationMs := decided Event.durationMs notNull .null l

/-- The summary of some events, unless there are none. -/
def summaryOf (l : List Event) : Option Summary := if l = [] then none else some (decidedBy L l)

/-- The envelopes that are read. -/
def window (log : List (TelemetryEnvelope Json)) : List (TelemetryEnvelope Json) :=
  log.drop (log.length - aggregationLimit)

/-- The timestamp raises an error that is not caught. -/
def Raises (e : TelemetryEnvelope Json) : Prop :=
  truthy L.arith (e.field "timestamp") = true ∧
    (L.isoparse (e.field "timestamp") = .raised ∨
      ∃ d, L.isoparse (e.field "timestamp") = .time d ∧ d.utc? = none)

/-- No timestamp that is read raises; every execution has an event that is read; and for each
execution, of the latest events that have a value for a field, the first emitted one that is read
and the last emitted one of the log have the same value; for the status this is only needed where no
event says `SUCCEEDED`, and otherwise such an event has to be read. -/
structure Decided (log : List (TelemetryEnvelope Json)) : Prop where
  caught : ∀ e ∈ window log, ¬ Raises L e
  present : ∀ x, eventsOf L x (window log) = [] → eventsOf L x log = []
  department : ∀ x,
    decided Event.departmentId (truthy L.arith) (.str "UNKNOWN") (eventsOf L x (window log)) =
      decided Event.departmentId (truthy L.arith) (.str "UNKNOWN") (eventsOf L x log).reverse
  routing : ∀ x,
    decided Event.routingClass (truthy L.arith) (.str "UNKNOWN") (eventsOf L x (window log)) =
      decided Event.routingClass (truthy L.arith) (.str "UNKNOWN") (eventsOf L x log).reverse
  duration : ∀ x,
    decided Event.durationMs notNull .null (eventsOf L x (window log)) =
      decided Event.durationMs notNull .null (eventsOf L x log).reverse
  status : ∀ x, if succeededIn (eventsOf L x log) then
      succeededIn (eventsOf L x (window log)) = true
    else
      decided Event.status (truthy L.arith) (.str "UNKNOWN") (eventsOf L x (window log)) =
        decided Event.status (truthy L.arith) (.str "UNKNOWN") (eventsOf L x log).reverse

end Decided

variable {L : Library}

/-! ### What a fold comes to -/

/-- A value that is overridden is in the end that of the last event that has one. -/
theorem foldl_override (f : Event → Json) (has : Json → Bool) (l : List Event) (v : Json) :
    l.foldl (fun v e => if has (f e) then f e else v) v =
      ((l.filter fun e => has (f e)).getLast?.map f).getD v := by
  induction l generalizing v with
  | nil => rfl
  | cons e l ih =>
    rw [List.foldl_cons, ih, List.filter_cons]
    split_ifs with he
    · rw [List.getLast?_cons]
      cases (l.filter fun e => has (f e)).getLast? <;> rfl
    · rfl

/-- Folding the events in the order of their times. -/
theorem foldl_override_sortAsc (f : Event → Json) (has : Json → Bool) (l : List Event) (v : Json) :
    (sortAsc Event.parsed l).foldl (fun v e => if has (f e) then f e else v) v =
      decided f has v l.reverse := by
  rw [foldl_override, filter_sortAsc, getLast?_sortAsc, decided, List.filter_reverse]

theorem foldl_status (l : List Event) (s : Summary) :
    (l.foldl (Summary.apply L) s).status =
      if s.status = .str "SUCCEEDED" ∨ succeededIn l = true then .str "SUCCEEDED"
      else l.foldl (fun v e => if truthy L.arith e.status then e.status else v) s.status := by
  induction l generalizing s with
  | nil =>
    simp only [succeededIn, List.any_nil, Bool.false_eq_true, or_false, List.foldl_nil]
    split_ifs with hs <;> simp [hs]
  | cons e l ih =>
    have hcons : succeededIn (e :: l) =
        (decide (e.status = .str "SUCCEEDED") || succeededIn l) := rfl
    rw [List.foldl_cons, ih, hcons, List.foldl_cons]
    by_cases hs : s.status = .str "SUCCEEDED"
    · simp [Summary.apply, hs]
    · by_cases he : e.status = .str "SUCCEEDED"
      · have ht : truthy L.arith (.str "SUCCEEDED") = true := by
          simp [truthy, Json.truthy]
        simp [Summary.apply, hs, orElse, he, ht]
      · have happly : (s.apply L e).status =
            if truthy L.arith e.status then e.status else s.status := by
          simp only [Summary.apply, if_neg hs, orElse]
        have hne : ¬ (s.apply L e).status = .str "SUCCEEDED" := by
          rw [happly]
          split_ifs
          · exact he
          · exact hs
        cases hl : succeededIn l with
        | true => simp
        | false => rw [if_neg (by simpa using hne), if_neg (by simp [hs, he]), happly]

/-- A field that nothing else overrides is folded by itself. -/
theorem foldl_field (g : Summary → Json) (f : Event → Json) (has : Json → Bool)
    (h : ∀ s e, g (Summary.apply L s e) = if has (f e) then f e else g s) (l : List Event)
    (s : Summary) :
    g (l.foldl (Summary.apply L) s) = l.foldl (fun v e => if has (f e) then f e else v) (g s) := by
  induction l generalizing s with
  | nil => rfl
  | cons e l ih => rw [List.foldl_cons, ih, h, List.foldl_cons]

theorem succeededIn_sortAsc (l : List Event) :
    succeededIn (sortAsc Event.parsed l) = succeededIn l := by
  rw [Bool.eq_iff_iff, succeededIn, succeededIn, List.any_eq_true, List.any_eq_true]
  simp only [mem_sortAsc]

theorem succeededIn_reverse (l : List Event) : succeededIn l.reverse = succeededIn l :=
  List.any_reverse

/-- **A fold in closed form.** -/
theorem foldl_apply_eq {l : List Event} (hl : l ≠ []) :
    some ((sortAsc Event.parsed l).foldl (Summary.apply L) .initial) = summaryOf L l.reverse := by
  rw [summaryOf, if_neg (by simpa using hl), Option.some_inj]
  have hdept := (foldl_field (L := L) Summary.departmentId Event.departmentId (truthy L.arith)
    (fun _ _ => rfl) (sortAsc Event.parsed l) .initial).trans (foldl_override_sortAsc _ _ _ _)
  have hroute := (foldl_field (L := L) Summary.routingClass Event.routingClass (truthy L.arith)
    (fun _ _ => rfl) (sortAsc Event.parsed l) .initial).trans (foldl_override_sortAsc _ _ _ _)
  have hdur := (foldl_field (L := L) Summary.durationMs Event.durationMs notNull
    (fun s e => by simp only [Summary.apply, notNull]; split_ifs <;> simp_all)
    (sortAsc Event.parsed l) .initial).trans (foldl_override_sortAsc _ _ _ _)
  have hstatus := foldl_status (L := L) (sortAsc Event.parsed l) .initial
  rw [foldl_override_sortAsc Event.status, succeededIn_sortAsc] at hstatus
  refine Summary.ext hdept hroute (hstatus.trans ?_) hdur
  rw [decidedBy, succeededIn_reverse]
  cases succeededIn l <;> simp [Summary.initial]

/-- **The reference in closed form.** -/
theorem reference_eq (x : String) (log : List (TelemetryEnvelope Json)) :
    reference L x log = summaryOf L (eventsOf L x log).reverse := by
  rw [reference]
  split_ifs with h
  · rw [h]
    rfl
  · exact foldl_apply_eq h

/-! ### What the aggregator computes -/

/-- The state of an execution after some events. -/
theorem get?_foldEvents {es : List Event} {d d' : Dict DictKey ExecutionState}
    (h : foldEvents L es d = some d') (k : DictKey) :
    d'.get? k =
      (es.filter (Event.isOf L k)).foldl (fun s e => some (advance L s e)) (d.get? k) := by
  induction es generalizing d with
  | nil =>
    obtain rfl := Option.some.inj h
    rfl
  | cons e es ih =>
    rw [foldEvents] at h
    rw [List.filter_cons]
    split_ifs at h with ht
    · have hno : ¬ e.isOf L k = true := by
        simpa [Event.isOf] using fun h' => absurd h' (by simpa using ht)
      rw [if_neg hno, ih h]
    · obtain ⟨k', hk', h⟩ := Option.bind_eq_some_iff.1 h
      have ht' : truthy L.arith e.executionId = true := by simpa using ht
      rw [ih h, Dict.get?_set]
      by_cases hk : k = k'
      · subst hk
        rw [if_pos rfl, if_pos (by simp [Event.isOf, ht', hk']), List.foldl_cons]
      · have hno : ¬ e.isOf L k = true := by
          simpa [Event.isOf, ht', hk'] using fun heq : k' = k => hk heq.symm
        rw [if_neg hk, if_neg hno]

theorem summary_start_update (e : Event) :
    ((ExecutionState.start L e).update L e).summary = Summary.apply L .initial e := by
  simp only [ExecutionState.summary, ExecutionState.update, ExecutionState.start, Summary.apply,
    Summary.initial, orElse, Summary.mk.injEq]
  refine ⟨?_, ?_, ?_, ?_⟩ <;> split_ifs <;> simp_all

theorem summary_update (s : ExecutionState) (e : Event) :
    (s.update L e).summary = Summary.apply L s.summary e := by
  simp only [ExecutionState.summary, ExecutionState.update, Summary.apply, orElse,
    Summary.mk.injEq, true_and]
  constructor <;> split_ifs <;> simp_all

theorem summary_foldl (l : List Event) (s : ExecutionState) :
    (l.foldl (fun s e => some (advance L s e)) (some s)).map ExecutionState.summary =
      some (l.foldl (Summary.apply L) s.summary) := by
  induction l generalizing s with
  | nil => rfl
  | cons e l ih =>
    rw [List.foldl_cons, List.foldl_cons, advance, Option.getD_some, ih, summary_update]

/-- **The state in closed form**, when the events are read from the newest to the oldest. -/
theorem summary_executionStates {es : List (TelemetryEnvelope Json)}
    {d : Dict DictKey ExecutionState} (h : executionStates L es.reverse = some d) (x : String) :
    (d.get? (.str x)).map ExecutionState.summary = summaryOf L (eventsOf L x es) := by
  obtain ⟨evs, hevs, h⟩ := Option.bind_eq_some_iff.1 h
  have hfilter : evs.filter (Event.isOf L (.str x)) = (eventsOf L x es).reverse := by
    rw [validEvents_eq hevs, List.filterMap_reverse, List.filter_reverse, eventsOf]
  rw [get?_foldEvents h, filter_sortAsc, hfilter]
  cases hes : eventsOf L x es with
  | nil => rfl
  | cons e l =>
    have hne : (e :: l).reverse ≠ [] := by simp
    rw [← List.reverse_reverse (e :: l), ← foldl_apply_eq hne, List.reverse_reverse]
    cases hs : sortAsc Event.parsed (e :: l).reverse with
    | nil =>
      have hmem : e ∈ sortAsc Event.parsed (e :: l).reverse := mem_sortAsc.2 (by simp)
      rw [hs] at hmem
      cases hmem
    | cons a t =>
      rw [List.foldl_cons, List.foldl_cons, Dict.get?_empty, advance, Option.getD_none,
        summary_foldl, summary_start_update]

/-! ### When there are states at all -/

/-- The timestamps can be read when none of them raises. -/
theorem isSome_validEvents {es : List (TelemetryEnvelope Json)} :
    (validEvents L es).isSome = true ↔ ∀ e ∈ es, ¬ Raises L e := by
  induction es with
  | nil => simp [validEvents]
  | cons e es ih =>
    rw [validEvents, List.forall_mem_cons, ← ih, Raises]
    cases ht : truthy L.arith (e.field "timestamp") with
    | false => simp
    | true =>
      cases hp : L.isoparse (e.field "timestamp") with
      | rejected => simp
      | raised => simp
      | time d => cases hd : d.utc? <;> simp [hd]

/-- The execution id of a well-formed envelope can be a key. -/
theorem WellFormed.dictKey {e : TelemetryEnvelope Json} (h : WellFormed e) :
    (Telemetry.dictKey L.arith (e.field "execution_id")).isSome = true := by
  rcases h.texts "execution_id" (by decide) with hid | ⟨x, hid⟩ <;> rw [hid] <;> rfl

theorem isSome_foldEvents {es : List Event} {d : Dict DictKey ExecutionState}
    (h : ∀ e ∈ es, (Telemetry.dictKey L.arith e.executionId).isSome = true) :
    (foldEvents L es d).isSome = true := by
  induction es generalizing d with
  | nil => rfl
  | cons e es ih =>
    obtain ⟨he, hes⟩ := List.forall_mem_cons.1 h
    rw [foldEvents]
    split_ifs
    · exact ih hes
    · obtain ⟨k, hk⟩ := Option.isSome_iff_exists.1 he
      rw [hk]
      exact ih hes

theorem isSome_executionStates {es : List (TelemetryEnvelope Json)} (h : ∀ e ∈ es, WellFormed e) :
    (executionStates L es).isSome = true ↔ ∀ e ∈ es, ¬ Raises L e := by
  rw [executionStates, ← isSome_validEvents]
  cases hevs : validEvents L es with
  | none => simp
  | some evs =>
    refine iff_of_true (isSome_foldEvents fun e he => ?_) rfl
    rw [mem_sortAsc, validEvents_eq hevs] at he
    obtain ⟨envelope, henv, hstamp⟩ := List.mem_filterMap.1 he
    rw [stamp] at hstamp
    split_ifs at hstamp
    split at hstamp
    · obtain ⟨t, -, rfl⟩ := Option.map_eq_some_iff.1 hstamp
      exact (h envelope henv).dictKey
    · cases hstamp

/-! ### Reading the log -/

/-- What the aggregator reads of an envelope is not changed by writing and reading it. -/
theorem validEvents_reload (es : List (TelemetryEnvelope Json)) :
    validEvents L (es.map TelemetryEnvelope.reload) = validEvents L es := by
  have hof : ∀ e : TelemetryEnvelope Json, Event.of e.reload = Event.of e := by
    intro e
    funext t
    simp only [Event.of]
    rw [e.field_reload (by decide), e.field_reload (by decide), e.field_reload (by decide),
      e.field_reload (by decide), e.field_reload (by decide), e.field_reload (by decide)]
  induction es with
  | nil => rfl
  | cons e es ih =>
    rw [List.map_cons, validEvents, validEvents, e.field_reload (by decide), ih, hof]

theorem executionStates_written (log : List (TelemetryEnvelope Json)) :
    executionStates L (query (some (LineLog.written (log.map TelemetryEnvelope.line))) []
      aggregationLimit) = executionStates L (window log).reverse := by
  have hwindow : log.reverse.take (max aggregationLimit 1) = (window log).reverse := by
    rw [window, List.take_reverse]
    rfl
  rw [query_written, ← List.map_take, hwindow, executionStates, validEvents_reload, executionStates]

/-- The events that are read are events of the log. -/
theorem eventsOf_window (x : String) (log : List (TelemetryEnvelope Json)) :
    (eventsOf L x (window log)).Sublist (eventsOf L x log) :=
  ((List.drop_sublist _ log).filterMap _).filter _

/-- **Agreement, state by state.** -/
theorem agrees_iff {log : List (TelemetryEnvelope Json)} (h : ∀ e ∈ log, WellFormed e) :
    Agrees L log ↔ (∀ e ∈ window log, ¬ Raises L e) ∧
      ∀ x, summaryOf L (eventsOf L x (window log)) = summaryOf L (eventsOf L x log).reverse := by
  have hwf : ∀ e ∈ (window log).reverse, WellFormed e := fun e he =>
    h e (List.mem_of_mem_drop (List.mem_reverse.1 he))
  have hsome := isSome_executionStates (L := L) hwf
  simp only [List.mem_reverse] at hsome
  rw [Agrees, executionStates_written, ← hsome]
  simp only [reference_eq]
  constructor
  · rintro ⟨d, hd, hx⟩
    refine ⟨by rw [hd]; rfl, fun x => ?_⟩
    rw [← summary_executionStates hd x, hx x]
  · rintro ⟨hd, hx⟩
    obtain ⟨d, hd⟩ := Option.isSome_iff_exists.1 hd
    exact ⟨d, hd, fun x => by rw [summary_executionStates hd x, hx x]⟩

/-! ### When the two summaries are one -/

/-- A status that is decided by events of which none says `SUCCEEDED` is not `SUCCEEDED`. -/
theorem decided_status_ne {l : List Event} (h : succeededIn l = false) :
    decided Event.status (truthy L.arith) (.str "UNKNOWN") l ≠ .str "SUCCEEDED" := by
  unfold decided
  cases hl : (sortDesc Event.parsed (l.filter fun e => truthy L.arith e.status)).head? with
  | none => simp
  | some e =>
    intro he
    have hmem := List.mem_of_mem_filter (head?_sortDesc_eq_some_iff.1 hl).mem
    have hany : succeededIn l = true := List.any_eq_true.2 ⟨e, hmem, by simpa using he⟩
    rw [h] at hany
    cases hany

theorem succeededIn_mono {l m : List Event} (h : l.Sublist m) (hl : succeededIn l = true) :
    succeededIn m = true := by
  obtain ⟨e, he, hs⟩ := List.any_eq_true.1 hl
  exact List.any_eq_true.2 ⟨e, h.subset he, hs⟩

/-- The status of some events, read and in the log, is one. -/
theorem status_eq_iff {l m : List Event} (h : l.Sublist m) :
    ((if succeededIn l then Json.str "SUCCEEDED"
      else decided Event.status (truthy L.arith) (.str "UNKNOWN") l) =
      if succeededIn m.reverse then Json.str "SUCCEEDED"
      else decided Event.status (truthy L.arith) (.str "UNKNOWN") m.reverse) ↔
    if succeededIn m then succeededIn l = true
    else decided Event.status (truthy L.arith) (.str "UNKNOWN") l =
      decided Event.status (truthy L.arith) (.str "UNKNOWN") m.reverse := by
  rw [succeededIn_reverse]
  cases hm : succeededIn m with
  | true =>
    cases hl : succeededIn l with
    | true => simp
    | false => simpa using decided_status_ne hl
  | false =>
    have hl : succeededIn l = false := by
      by_contra hl
      rw [succeededIn_mono h (by simpa using hl)] at hm
      cases hm
    simp [hl]

/-- The summaries of the events that are read and of those of the log are one. -/
theorem decidedBy_eq_iff {l m : List Event} (h : l.Sublist m) :
    decidedBy L l = decidedBy L m.reverse ↔
      decided Event.departmentId (truthy L.arith) (.str "UNKNOWN") l =
          decided Event.departmentId (truthy L.arith) (.str "UNKNOWN") m.reverse ∧
        decided Event.routingClass (truthy L.arith) (.str "UNKNOWN") l =
          decided Event.routingClass (truthy L.arith) (.str "UNKNOWN") m.reverse ∧
        (if succeededIn m then succeededIn l = true
          else decided Event.status (truthy L.arith) (.str "UNKNOWN") l =
            decided Event.status (truthy L.arith) (.str "UNKNOWN") m.reverse) ∧
        decided Event.durationMs notNull .null l =
          decided Event.durationMs notNull .null m.reverse := by
  rw [← status_eq_iff h, decidedBy, decidedBy, Summary.mk.injEq]

/-- **The order of events.**  For a log of well-formed envelopes, the states that the matrix is
computed from are those of the reference exactly when the events that decide agree. -/
theorem agree_iff_decided (L : Library) (log : List (TelemetryEnvelope Json))
    (h : ∀ e ∈ log, WellFormed e) : Agrees L log ↔ Decided L log := by
  have hsub := fun x => eventsOf_window (L := L) x log
  have hempty : ∀ x, eventsOf L x log = [] → eventsOf L x (window log) = [] := fun x hall =>
    List.sublist_nil.1 (hall ▸ hsub x)
  rw [agrees_iff h]
  constructor
  · rintro ⟨hcaught, hx⟩
    have hpresent : ∀ x, eventsOf L x (window log) = [] → eventsOf L x log = [] := by
      intro x hwin
      have hnone := hx x
      rw [hwin, summaryOf, if_pos rfl, summaryOf] at hnone
      split_ifs at hnone with hall
      exact List.reverse_eq_nil_iff.1 hall
    have hfields : ∀ x, decidedBy L (eventsOf L x (window log)) =
        decidedBy L (eventsOf L x log).reverse := by
      intro x
      by_cases hall : eventsOf L x log = []
      · rw [hempty x hall, hall, List.reverse_nil]
      · have hne : (eventsOf L x log).reverse ≠ [] := by simpa using hall
        have hsome := hx x
        rwa [summaryOf, if_neg fun hwin => hall (hpresent x hwin), summaryOf, if_neg hne,
          Option.some_inj] at hsome
    have hparts := fun x => (decidedBy_eq_iff (hsub x)).1 (hfields x)
    exact ⟨hcaught, hpresent, fun x => (hparts x).1, fun x => (hparts x).2.1,
      fun x => (hparts x).2.2.2, fun x => (hparts x).2.2.1⟩
  · intro hd
    refine ⟨hd.caught, fun x => ?_⟩
    have hfields := (decidedBy_eq_iff (hsub x)).2
      ⟨hd.department x, hd.routing x, hd.status x, hd.duration x⟩
    by_cases hwin : eventsOf L x (window log) = []
    · rw [hwin, hd.present x hwin, List.reverse_nil]
    · have hne : (eventsOf L x log).reverse ≠ [] := fun hall =>
        hwin (hempty x (List.reverse_eq_nil_iff.1 hall))
      rw [summaryOf, if_neg hwin, summaryOf, if_neg hne, hfields]

/-- A field of events at different times is decided by one event, from both ends. -/
theorem decided_reverse {l : List Event} (h : l.Pairwise fun a b => a.parsed ≠ b.parsed)
    (f : Event → Json) (has : Json → Bool) (default : Json) :
    decided f has default l.reverse = decided f has default l := by
  unfold decided
  rw [List.filter_reverse]
  cases hl : l.filter (fun e => has (f e)) with
  | nil => rfl
  | cons a t =>
    obtain ⟨x, hx⟩ : ∃ x, FirstBest Event.parsed (a :: t) x :=
      exists_firstBest (List.cons_ne_nil a t)
    have hpair : (a :: t).Pairwise fun a b => a.parsed ≠ b.parsed := hl ▸ h.filter _
    rw [head?_sortDesc_eq_some_iff.2 hx, head?_sortDesc_eq_some_iff.2 (hx.reverse hpair)]

/-- **Short logs of events at different times.**  A log that is not longer than what is read, in
which no timestamp raises and an execution has no two events at one time, agrees with the
reference. -/
theorem agrees_of_distinct_times {log : List (TelemetryEnvelope Json)}
    (h : ∀ e ∈ log, WellFormed e) (hlen : log.length ≤ aggregationLimit)
    (hraise : ∀ e ∈ log, ¬ Raises L e)
    (htimes : ∀ x, (eventsOf L x log).Pairwise fun a b => a.parsed ≠ b.parsed) : Agrees L log := by
  have hwindow : window log = log := by rw [window, Nat.sub_eq_zero_of_le hlen, List.drop_zero]
  rw [agrees_iff h, hwindow]
  refine ⟨hraise, fun x => ?_⟩
  simp only [summaryOf, List.reverse_eq_nil_iff]
  split_ifs
  · rfl
  · simp only [decidedBy, succeededIn_reverse, decided_reverse (htimes x)]

theorem wellFormed_tick (status : String) : WellFormed (tick status) where
  texts name hname := by
    simp only [List.mem_cons, List.not_mem_nil, or_false] at hname
    rcases hname with rfl | rfl | rfl | rfl | rfl <;> simp [tick]
  duration := .inl rfl

theorem agree_iff_decided_tick :
    Agrees .still [tick "RUNNING", tick "FAILED"] ↔
      Decided .still [tick "RUNNING", tick "FAILED"] :=
  agree_iff_decided .still _ fun e he => by
    simp only [List.mem_cons, List.not_mem_nil, or_false] at he
    rcases he with rfl | rfl <;> exact wellFormed_tick _

/-- Of two events at one time the one that was emitted first decides. -/
theorem first_emitted_decides : ¬ ∀ (L : Library) (log : List (TelemetryEnvelope Json)),
    (∀ e ∈ log, WellFormed e) → Agrees L log := by
  intro h
  have hwf : ∀ e ∈ [tick "RUNNING", tick "FAILED"], WellFormed e := fun e he => by
    simp only [List.mem_cons, List.not_mem_nil, or_false] at he
    rcases he with rfl | rfl <;> exact wellFormed_tick _
  have hx := ((agrees_iff hwf).1 (h .still _ hwf)).2 "exec-1"
  exact absurd hx (by decide)

end Telemetry

end AnnyRuntime
