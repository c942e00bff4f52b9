import AnnyRuntime.Telemetry.Filtered

/-!
# Logs with the same fields in all events

The events of an execution are `Uniform` when every one that is read under some filter says of the
department, the routing class and the status what the final state says.

* `filter_agrees_iff` : **all filtered matrices of a log agree exactly when its executions are
  `Uniform`**, and all matrices are returned; and when one of them does.
* `not_filter_agrees_queued` : an execution that was `QUEUED` and `SUCCEEDED` counts as `QUEUED`.
-/

namespace AnnyRuntime

namespace Telemetry

open Ranking

/-! ### The three fields -/

/-- The fields of an event that are filtered by. -/
def Event.triple (e : Event) : Json × Json × Json := (e.departmentId, e.routingClass, e.status)

/-- Those of a final state. -/
def Summary.triple (s : Summary) : Json × Json × Json := (s.departmentId, s.routingClass, s.status)

/-- The filter on all three fields. -/
def exactly (t : Json × Json × Json) : Conditions :=
  [(.departmentId, fun j => j = t.1), (.routingClass, fun j => j = t.2.1),
    (.status, fun j => j = t.2.2)]

/-- Every event that is read says what the final state of its execution says. -/
def Uniform (L : Library) (log : Option (List Char)) : Prop :=
  ∀ fs k, ∀ e ∈ eventsAt L k (readEnvelopes log fs), k ∈ executions L (readEnvelopes log []) ∧
    e.triple = (decidedBy L (eventsAt L k (readEnvelopes log []))).triple

variable {L : Library} {log : Option (List Char)} {fs : Conditions} {k : DictKey} {e : Event}
  {t : Json × Json × Json}

theorem admits_exactly_iff : (exactly t).admits e = true ↔ e.triple = t := by
  obtain ⟨d, r, s⟩ := t
  simp [exactly, Conditions.admits, FilterField.ofEvent, Event.triple]

theorem matched_exactly_iff {s : Summary} : (exactly t).matched s = true ↔ s.triple = t := by
  obtain ⟨d, r, st⟩ := t
  simp [exactly, Conditions.matched, FilterField.ofSummary, Summary.triple]

theorem ofEvent_eq {s : Summary} (h : e.triple = s.triple) (f : FilterField) :
    f.ofEvent e = f.ofSummary s := by
  obtain ⟨hd, h⟩ := Prod.mk.inj h
  obtain ⟨hr, hs⟩ := Prod.mk.inj h
  cases f
  · exact hd
  · exact hr
  · exact hs

/-! ### Final states -/

theorem truthy_unknown : truthy L.arith (.str "UNKNOWN") = true := truthy_str _ (by decide)

/-- A value that decides is no empty one. -/
theorem truthy_decided (f : Event → Json) (l : List Event) :
    truthy L.arith (decided f (truthy L.arith) (.str "UNKNOWN") l) = true := by
  unfold decided
  cases hl : (sortDesc Event.parsed (l.filter fun e => truthy L.arith (f e))).head? with
  | none => exact truthy_unknown
  | some e => exact (List.mem_filter.1 (head?_sortDesc_eq_some_iff.1 hl).mem).2

/-- When all events say the same, that is what decides. -/
theorem decided_of_forall {f : Event → Json} {v : Json} {l : List Event} (hne : l ≠ [])
    (hv : truthy L.arith v = true) (h : ∀ e ∈ l, f e = v) :
    decided f (truthy L.arith) (.str "UNKNOWN") l = v := by
  have hfilter : l.filter (fun e => truthy L.arith (f e)) = l :=
    List.filter_eq_self.2 fun e he => by rw [h e he, hv]
  obtain ⟨x, hx⟩ : ∃ x, (sortDesc Event.parsed l).head? = some x := head?_sortDesc_isSome hne
  rw [decided, hfilter, hx, Option.map_some, Option.getD_some]
  exact h x (head?_sortDesc_eq_some_iff.1 hx).mem

/-- No value of the three is an empty one. -/
def Filled (L : Library) (t : Json × Json × Json) : Prop :=
  truthy L.arith t.1 = true ∧ truthy L.arith t.2.1 = true ∧ truthy L.arith t.2.2 = true

theorem filled_decidedBy (l : List Event) : Filled L (decidedBy L l).triple := by
  refine ⟨truthy_decided _ l, truthy_decided _ l, ?_⟩
  simp only [Summary.triple, decidedBy]
  split_ifs
  · exact truthy_str _ (by decide)
  · exact truthy_decided _ l

/-- When all events say the same, so does the final state. -/
theorem triple_decidedBy {l : List Event} (hne : l ≠ []) (ht : Filled L t)
    (h : ∀ e ∈ l, e.triple = t) : (decidedBy L l).triple = t := by
  obtain ⟨d, r, s⟩ := t
  have hfields (e : Event) (he : e ∈ l) :
      e.departmentId = d ∧ e.routingClass = r ∧ e.status = s := by
    obtain ⟨hd, hrest⟩ := Prod.mk.inj (h e he)
    exact ⟨hd, Prod.mk.inj hrest⟩
  have hstatus : (decidedBy L l).status = s := by
    simp only [decidedBy]
    split_ifs with hsucceeded
    · obtain ⟨e, he, hs⟩ := List.any_eq_true.1 hsucceeded
      exact (of_decide_eq_true hs).symm.trans (hfields e he).2.2
    · exact decided_of_forall hne ht.2.2 fun e he => (hfields e he).2.2
  have hdepartment : (decidedBy L l).departmentId = d :=
    decided_of_forall hne ht.1 fun e he => (hfields e he).1
  have hrouting : (decidedBy L l).routingClass = r :=
    decided_of_forall hne ht.2.1 fun e he => (hfields e he).2.1
  exact Prod.ext hdepartment (Prod.ext hrouting hstatus)

/-- What is counted depends on the three fields. -/
theorem counted_congr {s s' : Summary} (h : s.triple = s'.triple) (q : Option DictKey)
    (c : Counter) : s.inRow L q = s'.inRow L q ∧ s.counted c = s'.counted c := by
  obtain ⟨hd, h⟩ := Prod.mk.inj h
  obtain ⟨hr, hs⟩ := Prod.mk.inj h
  rw [Summary.inRow, Summary.inRow, Summary.counted, Summary.counted, hd, hr, hs]
  exact ⟨rfl, rfl⟩

/-! ### Uniform logs agree -/

theorem Uniform.matched (h : Uniform L log) (he : e ∈ eventsAt L k (readEnvelopes log fs)) :
    fs.matched (decidedBy L (eventsAt L k (readEnvelopes log []))) = true := by
  have hadmits := admits_of_mem_eventsAt he
  have hfields := ofEvent_eq (h fs k e he).2
  simpa only [Conditions.matched, Conditions.admits, hfields] using hadmits

/-- **In a uniform log the matching events are faithful.** -/
theorem Uniform.faithful (h : Uniform L log) (hfull : Stated L (readEnvelopes log []))
    (hfs : Stated L (readEnvelopes log fs)) : Faithful L log fs where
  present k := by
    rw [mem_executions hfs]
    constructor
    · rintro ⟨e, he⟩
      exact ⟨(h fs k e he).1, h.matched he⟩
    · rintro ⟨hk, hmatched⟩
      obtain ⟨e, he⟩ := (mem_executions hfull k).1 hk
      have hfields := ofEvent_eq (h [] k e he).2
      refine ⟨e, mem_eventsAt_readEnvelopes he ?_⟩
      simpa only [Conditions.matched, Conditions.admits, hfields] using hmatched
  alike k hk q c := by
    obtain ⟨e, he⟩ := (mem_executions hfs k).1 hk
    refine counted_congr ?_ q c
    exact triple_decidedBy (List.ne_nil_of_mem he) (filled_decidedBy _)
      fun e he => (h fs k e he).2

/-! ### Only uniform logs agree -/

/-- An event is read under the filter on its own fields. -/
theorem mem_eventsAt_exactly (h : e ∈ eventsAt L k (readEnvelopes log fs)) :
    e ∈ eventsAt L k (readEnvelopes log (exactly e.triple)) := by
  obtain ⟨⟨x, hx, hstamp⟩, hof⟩ := mem_eventsAt.1 h
  have hadmits : (exactly e.triple).passes x = true :=
    (passes_of_stamp hstamp).trans (admits_exactly_iff.2 rfl)
  refine mem_eventsAt.2 ⟨⟨x, mem_readEnvelopes hx (fun y hy => ?_) hadmits, hstamp⟩, hof⟩
  -- an envelope with the same fields passes the same filters
  have hfields (f : FilterField) : y.field f.name = x.field f.name := by
    simp only [exactly, Conditions.passes, List.all_cons, List.all_nil, Bool.and_true,
      Bool.and_eq_true, decide_eq_true_eq] at hy hadmits
    cases f
    · exact hy.1.trans hadmits.1.symm
    · exact hy.2.1.trans hadmits.2.1.symm
    · exact hy.2.2.trans hadmits.2.2.symm
  have hpasses := passes_of_mem_readEnvelopes hx
  simpa only [Conditions.passes, hfields] using hpasses

/-- Fields and an execution. -/
abbrev Reading := Σ _ : Json × Json × Json, DictKey

/-- The executions, with the fields that they are read with. -/
def readWith (L : Library) (log : Option (List Char)) (ts : Finset (Json × Json × Json)) :
    Finset Reading :=
  ts.sigma fun t => countedIn L (readEnvelopes log (exactly t)) none .total

/-- The fields of the events that are read without a filter, of the final states, and some more. -/
def occurring (L : Library) (log : Option (List Char)) (t : Json × Json × Json) :
    Finset (Json × Json × Json) :=
  insert t ((((readEnvelopes log []).filterMap (stamp L)).map Event.triple).toFinset ∪
    ((executions L (readEnvelopes log [])).map fun k =>
      (decidedBy L (eventsAt L k (readEnvelopes log []))).triple).toFinset)

/-- The totals say that the executions are read with as many fields as there are executions. -/
theorem card_readWith
    (h : ∀ t, (countedIn L (readEnvelopes log (exactly t)) none .total).card =
      (expectedIn L log (exactly t) none .total).card) (t : Json × Json × Json) :
    (readWith L log (occurring L log t)).card =
      (executions L (readEnvelopes log [])).toFinset.card := by
  have hfinal : ∀ k ∈ (executions L (readEnvelopes log [])).toFinset,
      (decidedBy L (eventsAt L k (readEnvelopes log []))).triple ∈ occurring L log t := by
    intro k hk
    refine Finset.mem_insert_of_mem (Finset.mem_union_right _ ?_)
    exact List.mem_toFinset.2 (List.mem_map.2 ⟨k, List.mem_toFinset.1 hk, rfl⟩)
  rw [readWith, Finset.card_sigma, Finset.card_eq_sum_card_fiberwise hfinal]
  refine Finset.sum_congr rfl fun u _ => (h u).trans (congrArg Finset.card (Finset.ext fun k => ?_))
  rw [mem_expectedIn_total, Finset.mem_filter, List.mem_toFinset, matched_exactly_iff]

theorem mem_readWith {ts : Finset (Json × Json × Json)} (ht : t ∈ ts)
    (hstated : Stated L (readEnvelopes log (exactly t)))
    (he : e ∈ eventsAt L k (readEnvelopes log (exactly t))) :
    (⟨t, k⟩ : Reading) ∈ readWith L log ts :=
  Finset.mem_sigma.2 ⟨ht, mem_countedIn_total.2 ((mem_executions hstated k).2 ⟨e, he⟩)⟩

/-- **Only uniform logs agree.**  No execution is read with two different fields, since every one is
read with some, and there are no more of them than executions. -/
theorem uniform_of_card (hfull : Stated L (readEnvelopes log []))
    (hstated : ∀ t, Stated L (readEnvelopes log (exactly t)))
    (h : ∀ t, (countedIn L (readEnvelopes log (exactly t)) none .total).card =
      (expectedIn L log (exactly t) none .total).card) : Uniform L log := by
  intro fs k e he
  have hcard := card_readWith h e.triple
  have hread : ∀ k', ∀ e' ∈ eventsAt L k' (readEnvelopes log []),
      (⟨e'.triple, k'⟩ : Reading) ∈
        readWith L log (occurring L log e.triple) := by
    intro k' e' he'
    obtain ⟨⟨x, hx, hstamp⟩, -⟩ := mem_eventsAt.1 he'
    refine mem_readWith ?_ (hstated _) (mem_eventsAt_exactly he')
    refine Finset.mem_insert_of_mem (Finset.mem_union_left _ (List.mem_toFinset.2 ?_))
    exact List.mem_map.2 ⟨e', List.mem_filterMap.2 ⟨x, hx, hstamp⟩, rfl⟩
  have hthis : (⟨e.triple, k⟩ : Reading) ∈
      readWith L log (occurring L log e.triple) :=
    mem_readWith (Finset.mem_insert_self _ _) (hstated _) (mem_eventsAt_exactly he)
  have hsub : (executions L (readEnvelopes log [])).toFinset ⊆
      (readWith L log (occurring L log e.triple)).image Sigma.snd := by
    intro k' hk'
    obtain ⟨e', he'⟩ := (mem_executions hfull k').1 (List.mem_toFinset.1 hk')
    exact Finset.mem_image.2 ⟨_, hread k' e' he', rfl⟩
  have himage := Finset.eq_of_subset_of_card_le hsub (Finset.card_image_le.trans hcard.le)
  have hinj := Finset.card_image_iff.1 ((congrArg Finset.card himage).symm.trans hcard.symm)
  have hk : k ∈ executions L (readEnvelopes log []) := by
    rw [← List.mem_toFinset, himage]
    exact Finset.mem_image.2 ⟨_, hthis, rfl⟩
  have hsame : ∀ e' ∈ eventsAt L k (readEnvelopes log []), e'.triple = e.triple := fun e' he' =>
    congrArg Sigma.fst (hinj (hread k e' he') hthis rfl)
  have hne : eventsAt L k (readEnvelopes log []) ≠ [] := by
    obtain ⟨e', he'⟩ := (mem_executions hfull k).1 hk
    exact List.ne_nil_of_mem he'
  by_cases hfilled : Filled L e.triple
  · exact ⟨hk, (triple_decidedBy hne hfilled hsame).symm⟩
  · -- no final state has an empty field, so that none is expected
    have hnone : expectedIn L log (exactly e.triple) none .total = ∅ := by
      refine Finset.eq_empty_of_forall_notMem fun k' hk' => hfilled ?_
      rw [← matched_exactly_iff.1 (mem_expectedIn_total.1 hk').2]
      exact filled_decidedBy _
    have hzero := h e.triple
    rw [hnone, Finset.card_empty, Finset.card_eq_zero] at hzero
    have hmem := (Finset.mem_sigma.1 hthis).2
    rw [hzero] at hmem
    cases hmem

/-- **When all filtered matrices of a log agree.** -/
theorem all_filters_agree_iff : (∀ fs, FilterAgrees L log fs) ↔
    (∀ fs, Countable L (readEnvelopes log fs)) ∧ Uniform L log := by
  constructor
  · intro h
    have hcount (fs : Conditions) : Countable L (readEnvelopes log fs) :=
      (agrees_iff_card.1 (h fs)).2.1
    refine ⟨hcount, uniform_of_card (agrees_iff_card.1 (h [])).1
      (fun t => ⟨(hcount _).caught, (hcount _).ids⟩) fun t => ?_⟩
    exact (card_eq_iff _ _).2 ((agrees_iff_card.1 (h (exactly t))).2.2 none .total)
  · rintro ⟨hcount, huniform⟩ fs
    have hstated (fs : Conditions) : Stated L (readEnvelopes log fs) :=
      ⟨(hcount fs).caught, (hcount fs).ids⟩
    refine agrees_iff_card.2 ⟨hstated [], hcount fs, fun q c => ?_⟩
    rw [surplus, missed, (huniform.faithful (hstated []) (hstated fs)).expectedIn_eq,
      Finset.sdiff_self]

/-! ### Filtered matrices -/

/-- **When filtered matrices agree.**  All of a log; one; the total of a filter on one field; the
totals of some routing classes. -/
theorem filter_agrees_iff (L : Library) (log : Option (List Char)) :
    ((∀ fs, FilterAgrees L log fs) ↔
      (∀ fs, Countable L (readEnvelopes log fs)) ∧ Uniform L log) ∧
      (∀ fs, FilterAgrees L log fs ↔ Stated L (readEnvelopes log []) ∧
        Countable L (readEnvelopes log fs) ∧
          ∀ q c, (surplus L log fs q c).card = (missed L log fs q c).card) ∧
      (∀ fs, Faithful L log fs → ∀ q c, surplus L log fs q c = ∅ ∧ missed L log fs q c = ∅) ∧
      (∀ (f : FilterField) (p : Json → Bool) d m, p (.str "UNKNOWN") = false →
        executionStates L (query log [] aggregationLimit) = some d →
          getMatrix L log (Conditions.filters [(f, p)]) = some m →
            (m.global.count .total = (d.values.countP fun s => p (f.ofSummary s.summary)) ↔
              Settled L log f p)) ∧
      ∀ (vs : List String) m₀ (ms : String → Matrix), vs.Nodup → Classified L log vs →
        getMatrix L log [] = some m₀ →
        (∀ v ∈ vs, getMatrix L log (ofClass v).filters = some (ms v)) →
          ((vs.map fun v => (ms v).global.count .total).sum = m₀.global.count .total ↔
            (vs.map fun v => (surplus L log (ofClass v) none .total).card).sum =
              (vs.map fun v => (missed L log (ofClass v) none .total).card).sum) ∧
          ("UNKNOWN" ∉ vs →
            ((vs.map fun v => (ms v).global.count .total).sum = m₀.global.count .total ↔
              ∀ v ∈ vs, Settled L log .routingClass fun j => j = .str v)) := by
  refine ⟨all_filters_agree_iff, fun fs => agrees_iff_card, fun fs h q c => ?_,
    fun f p d m hunknown hd hm => ?_, fun vs m₀ ms hnodup hclass hm₀ hms => ?_⟩
  · rw [surplus, missed, h.expectedIn_eq, Finset.sdiff_self]
    exact ⟨rfl, rfl⟩
  · rw [← total_iff hunknown (stated_iff.2 ⟨d, hd⟩) (stated_of_getMatrix hm), surplus, missed,
      ← card_eq_iff, ← countIn_getMatrix hm, ← countP_expected hd]
    simp [Matrix.countIn, Conditions.matched, Summary.inRow, Summary.counted]
  · have hsum := sum_total_iff hnodup hclass hm₀ hms
    have hfull : getMatrix L log (Conditions.filters []) = some m₀ := hm₀
    exact ⟨hsum, fun hunknown => hsum.trans (sum_surplus_iff hunknown
      (stated_of_getMatrix hfull) fun v hv => stated_of_getMatrix (hms v hv))⟩

/-! ### An execution that was queued -/

theorem found_written (es : List (TelemetryEnvelope Json)) :
    found (LineLog.written (es.map TelemetryEnvelope.line)) [] =
      es.reverse.map TelemetryEnvelope.reload := by
  generalize hfound : found (LineLog.written (es.map TelemetryEnvelope.line)) [] = xs
  have hquery := query_written es (max xs.length es.length)
  rw [query_eq_found, hfound, List.take_of_length_le (by omega),
    List.take_of_length_le (by simp)] at hquery
  exact hquery

/-- What is read under a filter of a log that was written. -/
theorem query_filters_written (es : List (TelemetryEnvelope Json)) (fs : Conditions) (limit : ℕ) :
    query (some (LineLog.written (es.map TelemetryEnvelope.line))) fs.filters limit =
      ((es.reverse.map TelemetryEnvelope.reload).filter fs.passes).take (max limit 1) := by
  rw [query_eq_found, found_filters, found_written]

/-- The filter on a status. -/
def ofStatus (v : String) : Conditions := [(.status, fun j => j = .str v)]

/-- With its only event, an execution that succeeded is counted as such. -/
theorem filter_agrees_succeeded : FilterAgrees .still (some oneEvent) (ofStatus "SUCCEEDED") := by
  have hfull : readEnvelopes (some oneEvent) [] = [(tick "SUCCEEDED").reload] := by
    rw [readEnvelopes, oneEvent, query_filters_written]
    rfl
  have hfiltered : readEnvelopes (some oneEvent) (ofStatus "SUCCEEDED") =
      [(tick "SUCCEEDED").reload] := by
    rw [readEnvelopes, oneEvent, query_filters_written]
    rfl
  have hmatrix : (getMatrix .still (some oneEvent) []).isSome = true := by
    rw [getMatrix, oneEvent, query_written]
    decide
  obtain ⟨m, hm⟩ := Option.isSome_iff_exists.1 hmatrix
  have hcount : Countable .still (readEnvelopes (some oneEvent) []) := countable_iff.2 ⟨m, hm⟩
  have hfaithful : Faithful .still (some oneEvent) (ofStatus "SUCCEEDED") := by
    have hone : executions .still [(tick "SUCCEEDED").reload] = [.str "exec-1"] := by decide
    constructor
    · intro k
      rw [hfiltered, hfull, hone, List.mem_singleton]
      refine (and_iff_left_of_imp ?_).symm
      rintro rfl
      decide
    · intro k _ q c
      rw [hfiltered, hfull]
      exact ⟨rfl, rfl⟩
  obtain ⟨-, hiff, hempty, -⟩ := filter_agrees_iff .still (some oneEvent)
  refine (hiff _).2 ⟨⟨hcount.caught, hcount.ids⟩, ?_, fun q c => ?_⟩
  · rw [hfiltered, ← hfull]
    exact hcount
  · obtain ⟨hsurplus, hmissed⟩ := hempty _ hfaithful q c
    rw [hsurplus, hmissed]

/-- **An execution that was queued, and succeeded, is counted as queued.** -/
theorem not_filter_agrees_queued :
    let log := LineLog.written ([tick "QUEUED", tick "SUCCEEDED"].map TelemetryEnvelope.line)
    ((getMatrix .still (some log) (ofStatus "QUEUED").filters).map fun m =>
        m.global.count .total) = some 1 ∧
      ((executionStates .still (query (some log) [] aggregationLimit)).map fun d =>
        d.values.countP fun s => s.status = .str "QUEUED") = some 0 ∧
      ¬ FilterAgrees .still (some log) (ofStatus "QUEUED") := by
  intro log
  have hfiltered : ((getMatrix .still (some log) (ofStatus "QUEUED").filters).map fun m =>
      m.global.count .total) = some 1 := by
    rw [getMatrix, query_filters_written]
    decide
  have hfull : ((executionStates .still (query (some log) [] aggregationLimit)).map fun d =>
      d.values.countP fun s => s.status = .str "QUEUED") = some 0 := by
    rw [query_written]
    decide
  refine ⟨hfiltered, hfull, ?_⟩
  rintro ⟨d, m, hd, hm, hrows⟩
  rw [hd, Option.map_some, Option.some_inj] at hfull
  rw [hm, Option.map_some, Option.some_inj] at hfiltered
  have hcount := hrows none .total
  rw [Matrix.countIn, hfiltered] at hcount
  have hzero : (d.values.countP fun s => (ofStatus "QUEUED").matched s.summary &&
      s.summary.inRow .still none && s.summary.counted .total) = 0 := by
    rw [← hfull]
    refine List.countP_congr fun s _ => ?_
    simp [ofStatus, Conditions.matched, FilterField.ofSummary, Summary.inRow, Summary.counted,
      ExecutionState.summary]
  rw [hzero] at hcount
  cases hcount

end Telemetry

end AnnyRuntime
