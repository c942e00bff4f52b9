import AnnyRuntime.Execution.Observed

/-!
# The matrix of a run

The events of a run are written with the times of a clock that goes forward, into a log that the
aggregator reads whole.  Then the matrix counts, in every row, the executions as the events say
(`Execution.ObservedRun.expected`).
-/

namespace AnnyRuntime

namespace Telemetry

open Execution Ranking

/-- What is written into the envelopes, apart from the events: ids, times and metadata.  The
library reads the times back, and each is later than the one before. -/
structure Clock (L : Library) where
  eventId : ℕ → Json
  timestamp : ℕ → String
  metadata : ℕ → Json
  time : ℕ → ℤ
  written : ∀ n < aggregationLimit, timestamp n ≠ ""
  parses : ∀ n < aggregationLimit,
    ∃ d, L.isoparse (.str (timestamp n)) = .time d ∧ d.utc? = some (time n)
  increasing : ∀ m n, m < n → n < aggregationLimit → time m < time n

namespace Clock

variable {L : Library} (k : Clock L)

/-- The envelope of an event. -/
def envelope (n : ℕ) (r : Report) : TelemetryEnvelope Json :=
  r.envelope (k.eventId n) (.str (k.timestamp n)) (k.metadata n)

/-- The envelopes of some events, from the `n`-th on. -/
def envelopes : ℕ → List Report → List (TelemetryEnvelope Json)
  | _, [] => []
  | n, r :: rs => k.envelope n r :: envelopes (n + 1) rs

/-- The log of some events. -/
def log (rs : List Report) : List Char :=
  LineLog.written ((k.envelopes 0 rs).map TelemetryEnvelope.line)

/-! ### Reading the envelopes -/

variable {k} {n : ℕ} {r : Report} {rs : List Report} {x : String}

theorem field_envelope {name : String} (htime : name ≠ "timestamp") (hid : name ≠ "event_id")
    (hdefault : (envelopeFields.lookup name).getD .null = .null) :
    (k.envelope n r).field name = r.get name := by
  have htime' : (name == "timestamp") = false := beq_false_of_ne htime
  have hid' : (name == "event_id") = false := beq_false_of_ne hid
  show (Json.lookup name (r.fields ++ _)).getD ((envelopeFields.lookup name).getD .null) = _
  rw [hdefault, Report.get, Json.lookup, Json.lookup, List.reverse_append]
  simp [List.lookup_cons, htime', hid']

theorem timestamp_envelope : (k.envelope n r).field "timestamp" = .str (k.timestamp n) := by
  show (Json.lookup "timestamp" (r.fields ++ _)).getD _ = _
  rw [Json.lookup, List.reverse_append]
  rfl

/-- The event of an envelope. -/
def eventAt (k : Clock L) (n : ℕ) (r : Report) : Event := Event.of (k.envelope n r) (k.time n)

theorem apply_eventAt (s : Summary) : s.apply L (k.eventAt n r) = s.apply L r.event := by
  have hdept : (k.eventAt n r).departmentId = r.event.departmentId :=
    field_envelope (by decide) (by decide) rfl
  have hroute : (k.eventAt n r).routingClass = r.event.routingClass :=
    field_envelope (by decide) (by decide) rfl
  have hstatus : (k.eventAt n r).status = r.event.status :=
    field_envelope (by decide) (by decide) rfl
  have hduration : (k.eventAt n r).durationMs = r.event.durationMs :=
    field_envelope (by decide) (by decide) rfl
  rw [Summary.apply, Summary.apply, hdept, hroute, hstatus, hduration]

theorem executionId_eventAt : (k.eventAt n r).executionId = r.get "execution_id" :=
  field_envelope (by decide) (by decide) rfl

theorem stamp_envelope (hn : n < aggregationLimit) :
    stamp L (k.envelope n r) = some (k.eventAt n r) := by
  obtain ⟨d, hd, hutc⟩ := k.parses n hn
  rw [stamp, timestamp_envelope, if_pos (truthy_str L.arith (k.written n hn)), hd]
  simp only [hutc, Option.map_some, eventAt]

theorem not_raises_envelope (hn : n < aggregationLimit) : ¬ Raises L (k.envelope n r) := by
  obtain ⟨d, hd, hutc⟩ := k.parses n hn
  rintro ⟨-, hraised⟩
  rw [timestamp_envelope, hd] at hraised
  rcases hraised with h | ⟨d', h, hnone⟩
  · cases h
  · obtain rfl := Parsed.time.inj h
    rw [hutc] at hnone
    cases hnone

theorem mem_envelopes {e : TelemetryEnvelope Json} (h : e ∈ k.envelopes n rs) :
    ∃ i r, n ≤ i ∧ i < n + rs.length ∧ r ∈ rs ∧ e = k.envelope i r := by
  induction rs generalizing n with
  | nil => cases h
  | cons r rs ih =>
    rcases List.mem_cons.1 h with rfl | h
    · exact ⟨n, r, le_refl n, by rw [List.length_cons]; omega, List.mem_cons_self, rfl⟩
    · obtain ⟨i, r', hni, hi, hr', rfl⟩ := ih h
      exact ⟨i, r', by omega, by rw [List.length_cons]; omega, List.mem_cons_of_mem _ hr', rfl⟩

theorem length_envelopes : (k.envelopes n rs).length = rs.length := by
  induction rs generalizing n with
  | nil => rfl
  | cons r rs ih => rw [envelopes, List.length_cons, ih, List.length_cons]

/-- The events of an execution in the log. -/
theorem eventsOf_cons (hn : n < aggregationLimit) (hx : x ≠ "")
    (hr : ∃ y, r.get "execution_id" = .str y) :
    eventsOf L x (k.envelopes n (r :: rs)) =
      if r.isOf x then k.eventAt n r :: eventsOf L x (k.envelopes (n + 1) rs)
      else eventsOf L x (k.envelopes (n + 1) rs) := by
  obtain ⟨y, hy⟩ := hr
  have hid : (k.eventAt n r).executionId = .str y := executionId_eventAt.trans hy
  have hof : Event.isOf L (.str x) (k.eventAt n r) = r.isOf x := by
    rw [Event.isOf, hid, ObservedRun.isOf_of_get hy, dictKey]
    by_cases hxy : y = x
    · subst hxy
      simp [truthy_str L.arith hx]
    · simp [hxy]
  rw [eventsOf, envelopes, List.filterMap_cons_some (stamp_envelope hn), List.filter_cons, hof,
    eventsOf]

/-- Folding the events of an execution. -/
theorem foldl_eventsOf (hlen : n + rs.length ≤ aggregationLimit) (hx : x ≠ "")
    (hrs : ∀ r ∈ rs, ∃ y, r.get "execution_id" = .str y) (s : Option Summary) :
    (eventsOf L x (k.envelopes n rs)).foldl (fun s e => some ((s.getD .initial).apply L e)) s =
      (rs.filter fun r => r.isOf x).foldl
        (fun s r => some ((s.getD .initial).apply L r.event)) s := by
  induction rs generalizing n s with
  | nil => rfl
  | cons r rs ih =>
    obtain ⟨hr, hrs⟩ := List.forall_mem_cons.1 hrs
    rw [List.length_cons] at hlen
    rw [eventsOf_cons (by omega) hx hr, List.filter_cons]
    by_cases hof : r.isOf x = true
    · rw [if_pos hof, if_pos hof, List.foldl_cons, List.foldl_cons, apply_eventAt]
      exact ih (by omega) hrs _
    · rw [if_neg hof, if_neg hof]
      exact ih (by omega) hrs s

/-- The events are in the order of their times. -/
theorem pairwise_eventsOf (n : ℕ) (rs : List Report) (x : String)
    (hlen : n + rs.length ≤ aggregationLimit) :
    (eventsOf L x (k.envelopes n rs)).Pairwise fun a b => a.parsed < b.parsed := by
  refine List.Pairwise.filter _ ?_
  induction rs generalizing n with
  | nil => exact List.Pairwise.nil
  | cons r rs ih =>
    rw [List.length_cons] at hlen
    rw [envelopes, List.filterMap_cons_some (stamp_envelope (by omega)), List.pairwise_cons]
    refine ⟨fun e he => ?_, ih _ (by omega)⟩
    obtain ⟨envelope, henv, hstamp⟩ := List.mem_filterMap.1 he
    obtain ⟨i, r', hni, hi, -, rfl⟩ := mem_envelopes henv
    rw [stamp_envelope (by omega), Option.some_inj] at hstamp
    rw [← hstamp]
    exact k.increasing n i (by omega) (by omega)

/-- What the reference makes of the log is what the events say. -/
theorem reference_envelopes (hlen : rs.length ≤ aggregationLimit) (hx : x ≠ "")
    (hrs : ∀ r ∈ rs, ∃ y, r.get "execution_id" = .str y) :
    reference L x (k.envelopes 0 rs) = Report.told L rs x := by
  have hpair := pairwise_eventsOf (k := k) 0 rs x (by omega)
  have hsorted : sortAsc Event.parsed (eventsOf L x (k.envelopes 0 rs)) =
      eventsOf L x (k.envelopes 0 rs) :=
    List.Pairwise.insertionSort_eq (hpair.imp fun h => le_of_lt h)
  have hfold : ∀ (l : List Event) (s : Summary),
      l.foldl (fun s e => some ((s.getD .initial).apply L e)) (some s) =
        some (l.foldl (Summary.apply L) s) := by
    intro l
    induction l with
    | nil => exact fun _ => rfl
    | cons e l ih => exact fun s => ih (s.apply L e)
  rw [Report.told, ← foldl_eventsOf (k := k) (n := 0) (by omega) hx hrs, reference, hsorted]
  cases eventsOf L x (k.envelopes 0 rs) with
  | nil => rfl
  | cons e l =>
    rw [if_neg (List.cons_ne_nil e l), List.foldl_cons, List.foldl_cons]
    exact (hfold l _).symm

end Clock

/-! ### The matrix -/

open ObservedRun

variable {L : Library} {millis : ℕ → ℕ → ℤ} {s : ObservedRun} {k : Clock L}
  {d : Dict DictKey ExecutionState} {x : String}

theorem texts_of_consistent (h : Consistent L millis s) :
    ∀ r ∈ s.reports, ∃ y, r.get "execution_id" = .str y := fun r hr =>
  let ⟨y, _, hget⟩ := h.known r hr
  ⟨y, hget⟩

/-- The events of an execution that was submitted say what has to be shown of it. -/
theorem told_of_mem_ids (h : Consistent L millis s) (hx : x ∈ s.ids) :
    ∃ y, Report.told L s.reports x = some y ∧ (∃ department, y.departmentId = .str department) ∧
      (y.durationMs = .null ∨ ∃ n, y.durationMs = .int n) := by
  rcases List.mem_append.1 hx with hx | hx
  · obtain ⟨r, hr, rfl⟩ := List.mem_map.1 hx
    exact ⟨_, h.refusals r hr, ⟨r.2, rfl⟩, .inl rfl⟩
  · obtain ⟨w, hw, rfl⟩ := List.mem_map.1 hx
    refine ⟨_, (h.workers w hw).told, ⟨_, rfl⟩, ?_⟩
    have hduration : Report.durationMs millis w = .null ∨
        ∃ n, Report.durationMs millis w = .int n := by
      unfold Report.durationMs
      split
      · exact .inr ⟨_, rfl⟩
      · exact .inl rfl
    exact hduration

/-- The state of an execution is what its events say. -/
theorem summary_of_run (h : Consistent L millis s) (hlen : s.reports.length ≤ aggregationLimit)
    (hd : executionStates L (k.envelopes 0 s.reports).reverse = some d) (hx : x ≠ "") :
    (d.get? (.str x)).map ExecutionState.summary = Report.told L s.reports x := by
  have hpair : (eventsOf L x (k.envelopes 0 s.reports)).Pairwise fun a b => a.parsed ≠ b.parsed :=
    (Clock.pairwise_eventsOf _ _ _ (by omega)).imp fun h => ne_of_lt h
  have hreverse : summaryOf L (eventsOf L x (k.envelopes 0 s.reports)).reverse =
      summaryOf L (eventsOf L x (k.envelopes 0 s.reports)) := by
    simp only [summaryOf, List.reverse_eq_nil_iff, decidedBy, succeededIn_reverse,
      decided_reverse hpair]
  rw [summary_executionStates hd x, ← hreverse, ← reference_eq,
    Clock.reference_envelopes hlen hx (texts_of_consistent h)]

/-- The executions that have a state are those that were submitted. -/
theorem keys_of_run (h : Consistent L millis s) (hlen : s.reports.length ≤ aggregationLimit)
    (hd : executionStates L (k.envelopes 0 s.reports).reverse = some d) :
    d.keys.Perm (s.ids.map DictKey.str) := by
  refine (List.perm_ext_iff_of_nodup d.nodup
    (h.distinct.map fun a b hab => DictKey.str.inj hab)).2 fun key => ?_
  constructor
  · intro hkey
    obtain ⟨envelope, henv, e, hstamp, hof⟩ := (mem_keys_executionStates hd key).1 hkey
    obtain ⟨i, r, -, hi, hr, rfl⟩ := Clock.mem_envelopes (List.mem_reverse.1 henv)
    obtain ⟨y, hy, hget⟩ := h.known r hr
    rw [Clock.stamp_envelope (by omega), Option.some_inj] at hstamp
    subst hstamp
    have hid : (k.eventAt i r).executionId = .str y := Clock.executionId_eventAt.trans hget
    rw [Event.isOf, hid, Bool.and_eq_true, decide_eq_true_eq] at hof
    exact List.mem_map.2 ⟨y, hy, Option.some.inj hof.2⟩
  · intro hkey
    obtain ⟨y, hy, rfl⟩ := List.mem_map.1 hkey
    obtain ⟨z, hz, -⟩ := told_of_mem_ids h hy
    by_contra hnot
    have hsummary := summary_of_run h hlen hd (h.named y hy)
    rw [Dict.get?_eq_none_iff.2 hnot, hz] at hsummary
    cases hsummary

/-- What has to be shown of the executions is what their events say. -/
theorem expected_eq (h : Consistent L millis s) :
    s.expected millis = s.ids.map fun x => (Report.told L s.reports x).getD .initial := by
  rw [expected, ids, List.map_append, List.map_map, List.map_map]
  congr 1
  · refine List.map_congr_left fun r hr => ?_
    rw [Function.comp_apply, h.refusals r hr]
    rfl
  · refine List.map_congr_left fun w hw => ?_
    rw [Function.comp_apply, (h.workers w hw).told]
    rfl

/-- The envelopes of a run can be counted. -/
theorem countable_of_run (h : Consistent L millis s) (hlen : s.reports.length ≤ aggregationLimit)
    (haverage : ∀ l, (∀ j ∈ l, ∃ n, j = Json.int n) → Averages L l) :
    Countable L (k.envelopes 0 s.reports) := by
  have hcaught : ∀ e ∈ k.envelopes 0 s.reports, ¬ Raises L e := by
    intro e he
    obtain ⟨i, r, -, hi, -, rfl⟩ := Clock.mem_envelopes he
    exact Clock.not_raises_envelope (by omega)
  have hids : ∀ y ∈ k.envelopes 0 s.reports, ∀ e, stamp L y = some e →
      truthy L.arith e.executionId = true → (dictKey L.arith e.executionId).isSome = true := by
    intro y hy e hstamp _
    obtain ⟨i, r, -, hi, hr, rfl⟩ := Clock.mem_envelopes hy
    obtain ⟨z, hz⟩ := texts_of_consistent h r hr
    rw [Clock.stamp_envelope (by omega), Option.some_inj] at hstamp
    rw [← hstamp, Clock.executionId_eventAt, hz]
    rfl
  obtain ⟨d, hd⟩ := Option.isSome_iff_exists.1 (isSome_executionStates_iff.2 ⟨hcaught, hids⟩)
  -- the fields that decide are those of what is shown
  have hfields : ∀ key ∈ executions L (k.envelopes 0 s.reports), ∃ y : Summary,
      decidedBy L (eventsAt L key (k.envelopes 0 s.reports)) = y ∧
        (∃ department, y.departmentId = .str department) ∧
        (y.durationMs = .null ∨ ∃ n, y.durationMs = .int n) := by
    intro key hkey
    rw [← keys_executionStates hd, (keys_of_run h hlen hd).mem_iff, List.mem_map] at hkey
    obtain ⟨z, hz, rfl⟩ := hkey
    obtain ⟨y, hy, hdept, hduration⟩ := told_of_mem_ids h hz
    have hsummary := summary_of_run h hlen hd (h.named z hz)
    rw [hy] at hsummary
    obtain ⟨st, hst, rfl⟩ := Option.map_eq_some_iff.1 hsummary
    exact ⟨_, (fields_of_get? hd hst).symm, hdept, hduration⟩
  have hints : ∀ keys : List DictKey, (∀ key ∈ keys, key ∈ executions L (k.envelopes 0 s.reports)) →
      ∀ j ∈ durationsAt L (k.envelopes 0 s.reports) keys, ∃ n, j = .int n := by
    intro keys hkeys j hj
    rw [durationsAt, List.mem_filter, List.mem_map] at hj
    obtain ⟨⟨key, hkey, rfl⟩, hnull⟩ := hj
    obtain ⟨y, hy, -, hduration⟩ := hfields key (hkeys key hkey)
    have hdecided : decided Event.durationMs notNull .null
        (eventsAt L key (k.envelopes 0 s.reports)) = y.durationMs := by rw [← hy]; rfl
    rw [hdecided] at hnull ⊢
    rcases hduration with hn | hn
    · rw [hn] at hnull
      exact absurd hnull (by decide)
    · exact hn
  refine ⟨hcaught, hids, fun key hkey => ?_, haverage _ (hints _ fun _ h => h), fun q =>
    haverage _ (hints _ fun _ h => List.mem_of_mem_filter h)⟩
  obtain ⟨y, hy, ⟨department, hdept⟩, -⟩ := hfields key hkey
  have hdecided : departmentAt L (k.envelopes 0 s.reports) key = y.departmentId := by rw [← hy]; rfl
  rw [hdecided, hdept]
  rfl

/-- A library that takes a timestamp for as late as it is long. -/
def Library.counting : Library where
  arith := .overflowing
  isoparse j := match j with
    | .str t => .time ⟨t.length, some 0⟩
    | _ => .rejected
  average _ := some (.int 0)

/-- A clock whose timestamps become longer. -/
def Clock.counting : Clock Library.counting where
  eventId _ := .null
  timestamp n := String.ofList (List.replicate (n + 1) '0')
  metadata _ := .obj []
  time n := n + 1
  written n _ := by
    intro h
    have hlength := congrArg String.length h
    rw [String.length_ofList, List.length_replicate] at hlength
    exact Nat.succ_ne_zero n hlength
  parses n hn := by
    have hlimit : n < 10000 := hn
    refine ⟨⟨(n : ℤ) + 1, some 0⟩, ?_, ?_⟩
    · simp [Library.counting]
    · rw [DateTime.utc?]
      simp only [Int.sub_zero, minTime, maxTime]
      rw [if_pos (by omega)]
  increasing m n hmn _ := by
    show (m : ℤ) + 1 < n + 1
    omega

/-- One task is submitted and executed. -/
def executedRun : ObservedRun :=
  (({ run := WorkerRun.unused } : ObservedRun).next (fun s f => f - s)
    WorkerRun.submitPlain).next (fun s f => f - s) WorkerRun.executePlain

theorem reachable_executedRun :
    (ObservedRun.system fun s f => f - s).Reachable executedRun := by
  have hinit : (ObservedRun.system fun s f => f - s).Reachable { run := WorkerRun.unused } :=
    .init ⟨⟨rfl, rfl, rfl⟩, rfl, rfl, rfl⟩
  have hsubmit : ({ run := WorkerRun.unused } : ObservedRun).Legal WorkerRun.submitPlain := by
    refine ⟨⟨rfl, rfl⟩, trivial, fun sub task hop => ?_⟩
    obtain ⟨rfl, rfl⟩ := WorkerOp.submit.inj hop
    exact ⟨by decide, by decide⟩
  have hexecute (s : ObservedRun) : s.Legal WorkerRun.executePlain :=
    ⟨trivial, trivial, fun sub task hop => by cases hop⟩
  exact .step (.step hinit ⟨hsubmit, rfl⟩) ⟨hexecute _, rfl⟩

end Telemetry

end AnnyRuntime
