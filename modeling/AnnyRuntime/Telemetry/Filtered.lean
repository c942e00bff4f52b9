import AnnyRuntime.Telemetry.States
import AnnyRuntime.Telemetry.Totals
import Mathlib.Data.Finset.Card

/-!
# Filtered matrices

A filter on the department, the routing class or the status picks the *events* that match it, and
these are folded into states.  A filtered matrix should count the executions whose *final state*, of
all their events, matches (`FilterAgrees`).

* `agrees_iff_card` : this holds exactly when, in every row and for every counter, as many
  executions are counted wrongly (`surplus`) as are missed (`missed`), and so when the matching
  events of the executions are `Faithful`.
* `total_iff`, `sum_total_iff` : for a filter on one field the total is right exactly when the
  executions are `Settled`: one with an event that matches matches in the end.  The totals of the
  routing classes add up exactly when as many are counted wrongly as are missed, in all classes.
-/

namespace AnnyRuntime

namespace Telemetry

open Ranking

/-! ### Filters -/

/-- A field that a matrix is filtered by. -/
inductive FilterField where
  | departmentId
  | routingClass
  | status
  deriving DecidableEq

namespace FilterField

/-- Its name. -/
def name : FilterField → String
  | departmentId => "department_id"
  | routingClass => "routing_class"
  | status => "status"

/-- Its value in an event. -/
def ofEvent (e : Event) : FilterField → Json
  | departmentId => e.departmentId
  | routingClass => e.routingClass
  | status => e.status

/-- Its value in a final state. -/
def ofSummary (s : Summary) : FilterField → Json
  | departmentId => s.departmentId
  | routingClass => s.routingClass
  | status => s.status

end FilterField

/-- Fields with what is asked for in them. -/
abbrev Conditions := List (FilterField × (Json → Bool))

/-- The filters of the collector. -/
def Conditions.filters (fs : Conditions) : List Filter := fs.map fun f => (f.1.name, f.2)

/-- The envelope passes. -/
def Conditions.passes (fs : Conditions) (x : TelemetryEnvelope Json) : Bool :=
  fs.all fun f => f.2 (x.field f.1.name)

/-- The event passes. -/
def Conditions.admits (fs : Conditions) (e : Event) : Bool := fs.all fun f => f.2 (f.1.ofEvent e)

/-- The final state matches. -/
def Conditions.matched (fs : Conditions) (s : Summary) : Bool :=
  fs.all fun f => f.2 (f.1.ofSummary s)

/-- The envelopes that are read, in the order of the log. -/
def readEnvelopes (log : Option (List Char)) (fs : Conditions) : List (TelemetryEnvelope Json) :=
  (query log fs.filters aggregationLimit).reverse

/-! ### Rows -/

/-- The state of this summary is counted by a counter. -/
def Summary.counted (s : Summary) (c : Counter) : Bool :=
  c = .total || c = routingCounter s.routingClass || some c = statusCounter s.status

section Rows

variable (L : Library)

/-- The state is counted in a row: that of its department, or the one for all. -/
def Summary.inRow (q : Option DictKey) (s : Summary) : Bool :=
  q.all fun q => dictKey L.arith s.departmentId = some q

/-- A counter of a row of a matrix. -/
def Matrix.countIn (m : Matrix) (c : Counter) : Option DictKey → ℕ
  | none => m.global.count c
  | some q => ((m.departments.get? q).map fun r => r.count c).getD 0

/-- **A filtered matrix agrees with the full states.**  It is returned, and counts in every row the
executions of the full states that match. -/
def FilterAgrees (log : Option (List Char)) (fs : Conditions) : Prop :=
  ∃ d m, executionStates L (query log [] aggregationLimit) = some d ∧
    getMatrix L log fs.filters = some m ∧ ∀ q c, m.countIn c q = d.values.countP fun s =>
      fs.matched s.summary && s.summary.inRow L q && s.summary.counted c

/-! ### What is wrong -/

/-- The executions that the matrix of some envelopes counts. -/
def countedIn (es : List (TelemetryEnvelope Json)) (q : Option DictKey) (c : Counter) :
    Finset DictKey :=
  ((executions L es).filter fun k => (decidedBy L (eventsAt L k es)).inRow L q &&
    (decidedBy L (eventsAt L k es)).counted c).toFinset

/-- The executions that a filtered matrix should count. -/
def expectedIn (log : Option (List Char)) (fs : Conditions) (q : Option DictKey) (c : Counter) :
    Finset DictKey :=
  ((executions L (readEnvelopes log [])).filter fun k =>
    fs.matched (decidedBy L (eventsAt L k (readEnvelopes log []))) &&
      (decidedBy L (eventsAt L k (readEnvelopes log []))).inRow L q &&
        (decidedBy L (eventsAt L k (readEnvelopes log []))).counted c).toFinset

/-- The executions that are counted by their matching events, and not by their final states. -/
def surplus (log : Option (List Char)) (fs : Conditions) (q : Option DictKey) (c : Counter) :
    Finset DictKey := countedIn L (readEnvelopes log fs) q c \ expectedIn L log fs q c

/-- The executions that should be counted by their final states, and are not by their matching
events. -/
def missed (log : Option (List Char)) (fs : Conditions) (q : Option DictKey) (c : Counter) :
    Finset DictKey := expectedIn L log fs q c \ countedIn L (readEnvelopes log fs) q c

/-- The matching events of an execution decide the department and the counters that its final state
has, and an execution has such events exactly when its final state matches. -/
structure Faithful (log : Option (List Char)) (fs : Conditions) : Prop where
  present : ∀ k, k ∈ executions L (readEnvelopes log fs) ↔
    k ∈ executions L (readEnvelopes log []) ∧
      fs.matched (decidedBy L (eventsAt L k (readEnvelopes log []))) = true
  alike : ∀ k ∈ executions L (readEnvelopes log fs), ∀ q c,
    (decidedBy L (eventsAt L k (readEnvelopes log fs))).inRow L q =
        (decidedBy L (eventsAt L k (readEnvelopes log []))).inRow L q ∧
      (decidedBy L (eventsAt L k (readEnvelopes log fs))).counted c =
        (decidedBy L (eventsAt L k (readEnvelopes log []))).counted c

/-- The envelopes have states. -/
structure Stated (es : List (TelemetryEnvelope Json)) : Prop where
  caught : ∀ x ∈ es, ¬ Raises L x
  ids : ∀ x ∈ es, ∀ e, stamp L x = some e → truthy L.arith e.executionId = true →
    (dictKey L.arith e.executionId).isSome = true

end Rows

variable {L : Library} {log : Option (List Char)} {fs : Conditions}
  {es : List (TelemetryEnvelope Json)} {d : Dict DictKey ExecutionState} {m : Matrix}

theorem counted_eq (s : ExecutionState) (c : Counter) : s.counted c = s.summary.counted c := rfl

/-! ### Counting the executions -/

/-- The rows count the states. -/
theorem count_tabulate {ss : List ExecutionState} {t t' : Stats × Dict DictKey Stats}
    (h : tabulate L ss t = some t') (c : Counter) :
    t'.1.count c = t.1.count c + ss.countP (·.counted c) ∧
      ∀ q, ((t'.2.get? q).getD .new).count c =
        ((t.2.get? q).getD .new).count c + (inDepartment L q ss).countP (·.counted c) := by
  induction ss generalizing t with
  | nil =>
    obtain rfl := Option.some.inj h
    simp [inDepartment]
  | cons s ss ih =>
    obtain ⟨k, hk, h⟩ := Option.bind_eq_some_iff.1 h
    obtain ⟨hglobal, hrows⟩ := ih h
    rw [hglobal, count_add, List.countP_cons]
    refine ⟨by omega, fun q => ?_⟩
    rw [hrows, Dict.get?_set, inDepartment, inDepartment, List.filter_cons]
    by_cases hq : q = k
    · subst hq
      have hin : decide (dictKey L.arith s.departmentId = some q) = true := decide_eq_true hk
      rw [if_pos rfl, Option.getD_some, count_add, if_pos hin, List.countP_cons]
      omega
    · rw [if_neg hq, if_neg (by simpa [hk] using fun h : k = q => hq h.symm)]

/-- The rows of the matrix of some states. -/
theorem countIn_matrixOf (h : matrixOf L d = some m) (q : Option DictKey) (c : Counter) :
    m.countIn c q = d.values.countP fun s => s.summary.inRow L q && s.summary.counted c := by
  obtain ⟨t, ht, h⟩ := Option.bind_eq_some_iff.1 h
  split_ifs at h
  obtain rfl := Option.some.inj h
  obtain ⟨hglobal, hrows⟩ := count_tabulate ht c
  cases q with
  | none =>
    refine hglobal.trans ((Nat.zero_add _).trans (List.countP_congr fun s _ => ?_))
    simp [Summary.inRow, counted_eq]
  | some q =>
    have hrow : (Matrix.countIn ⟨t.1.finish L, t.2.map (Stats.finish L)⟩ c (some q)) =
        ((t.2.get? q).getD .new).count c := by
      rw [Matrix.countIn, Dict.get?_map]
      cases t.2.get? q <;> rfl
    rw [hrow, hrows q]
    refine (Nat.zero_add _).trans ?_
    rw [inDepartment, List.countP_filter]
    refine List.countP_congr fun s _ => ?_
    have hdept : s.summary.departmentId = s.departmentId := rfl
    rw [Summary.inRow, Option.all_some, hdept, counted_eq, Bool.and_comm]

/-! ### What a filter reads -/

/-- The fields that are filtered by have no default. -/
theorem parseLine_filters (fs : Conditions) (line : List Char) :
    parseLine fs.filters line = (parseLine [] line).filter fs.passes := by
  have hdefault (f : FilterField) : (envelopeFields.lookup f.name).getD .null = .null := by
    cases f <;> rfl
  unfold parseLine
  split
  · rename_i data _
    rw [List.all_nil, if_pos rfl]
    cases he : TelemetryEnvelope.ofMembers data with
    | none => simp
    | some e =>
      have hfield (f : FilterField) : e.field f.name = (Json.lookup f.name data).getD .null := by
        rw [TelemetryEnvelope.ofMembers] at he
        split_ifs at he
        obtain rfl := Option.some.inj he
        exact congrArg ((Json.lookup f.name data).getD ·) (hdefault f)
      have hpasses : fs.passes e =
          fs.filters.all fun f => f.2 ((Json.lookup f.1 data).getD .null) := by
        simp only [Conditions.passes, Conditions.filters, List.all_map, Function.comp_def, hfield]
      rw [Option.filter_some, hpasses]
  · rfl

/-- What is found under a filter. -/
theorem found_filters (text : List Char) (fs : Conditions) :
    found text fs.filters = (found text []).filter fs.passes := by
  rw [found, found, List.filter_filterMap]
  exact List.filterMap_congr fun line _ => parseLine_filters fs line

/-- What matches among the first elements is among the first that match. -/
theorem mem_take_filter {α : Type} {p : α → Bool} {x : α} {l : List α} {n : ℕ}
    (h : x ∈ l.take n) (hp : p x = true) : x ∈ (l.filter p).take n := by
  induction l generalizing n with
  | nil => simp at h
  | cons a l ih =>
    cases n with
    | zero => simp at h
    | succ n =>
      rw [List.take_succ_cons, List.mem_cons] at h
      rw [List.filter_cons]
      split_ifs with ha
      · rw [List.take_succ_cons, List.mem_cons]
        exact h.imp id ih
      · rcases h with rfl | h
        · exact absurd hp ha
        · exact List.take_subset_take_left _ (Nat.le_succ n) (ih h)

/-- What is read under a filter passes it. -/
theorem passes_of_mem_readEnvelopes {x : TelemetryEnvelope Json} (h : x ∈ readEnvelopes log fs) :
    fs.passes x = true := by
  rw [readEnvelopes, List.mem_reverse] at h
  cases log with
  | none => cases h
  | some text =>
    rw [query_eq_found, found_filters] at h
    exact (List.mem_filter.1 (List.mem_of_mem_take h)).2

/-- What is read under a filter, and passes a narrower one, is read under that one. -/
theorem mem_readEnvelopes {gs : Conditions} {x : TelemetryEnvelope Json}
    (h : x ∈ readEnvelopes log fs) (hle : ∀ y, gs.passes y = true → fs.passes y = true)
    (hpasses : gs.passes x = true) : x ∈ readEnvelopes log gs := by
  rw [readEnvelopes, List.mem_reverse] at h ⊢
  cases log with
  | none => cases h
  | some text =>
    rw [query_eq_found, found_filters] at h ⊢
    have hfilter : (found text []).filter gs.passes =
        ((found text []).filter fs.passes).filter gs.passes := by
      rw [List.filter_filter]
      refine List.filter_congr fun y _ => ?_
      cases hy : gs.passes y with
      | false => rfl
      | true => rw [hle y hy, Bool.and_true]
    rw [hfilter]
    exact mem_take_filter h hpasses

/-- The executions are counted once. -/
theorem countP_values (h : executionStates L es.reverse = some d) (p : Summary → Bool) :
    (d.values.countP fun s => p s.summary) =
      ((executions L es).filter fun k => p (decidedBy L (eventsAt L k es))).toFinset.card := by
  have hnodup : (executions L es).Nodup := keys_executionStates h ▸ d.nodup
  rw [List.toFinset_card_of_nodup (hnodup.filter _), ← keys_executionStates h,
    List.countP_eq_length_filter]
  have hfilter := filter_values (d := d) (p := fun s => p s.summary)
    (q := fun k => p (decidedBy L (eventsAt L k es))) (g := fun _ => ()) (f := fun _ => ())
    (fun k s hs => by rw [fields_of_get? h hs]) fun _ _ _ => rfl
  simpa using congrArg List.length hfilter

theorem reverse_readEnvelopes (log : Option (List Char)) (fs : Conditions) :
    (readEnvelopes log fs).reverse = query log fs.filters aggregationLimit :=
  List.reverse_reverse _

/-- The rows of a filtered matrix. -/
theorem countIn_getMatrix (h : getMatrix L log fs.filters = some m) (q : Option DictKey)
    (c : Counter) : m.countIn c q = (countedIn L (readEnvelopes log fs) q c).card := by
  obtain ⟨d, hd, hm⟩ := Option.bind_eq_some_iff.1 h
  rw [← reverse_readEnvelopes] at hd
  exact (countIn_matrixOf hm q c).trans (countP_values hd fun s => s.inRow L q && s.counted c)

/-- What should be counted in them. -/
theorem countP_expected (h : executionStates L (query log [] aggregationLimit) = some d)
    (q : Option DictKey) (c : Counter) :
    (d.values.countP fun s => fs.matched s.summary && s.summary.inRow L q && s.summary.counted c) =
      (expectedIn L log fs q c).card := by
  have hd : executionStates L (readEnvelopes log []).reverse = some d := by
    rw [reverse_readEnvelopes]
    exact h
  exact countP_values hd fun s => fs.matched s && s.inRow L q && s.counted c

theorem card_eq_iff (s t : Finset DictKey) : s.card = t.card ↔ (s \ t).card = (t \ s).card := by
  have hs := Finset.card_sdiff_add_card_inter s t
  have ht := Finset.card_sdiff_add_card_inter t s
  rw [Finset.inter_comm] at ht
  omega

theorem stated_iff : Stated L (readEnvelopes log []) ↔
    ∃ d, executionStates L (query log [] aggregationLimit) = some d := by
  rw [← Option.isSome_iff_exists]
  have hread : (readEnvelopes log []).reverse = query log [] aggregationLimit :=
    reverse_readEnvelopes log []
  rw [← hread, isSome_executionStates_iff]
  exact ⟨fun h => ⟨h.caught, h.ids⟩, fun h => ⟨h.1, h.2⟩⟩

theorem countable_iff : Countable L (readEnvelopes log fs) ↔
    ∃ m, getMatrix L log fs.filters = some m := by
  rw [← Option.isSome_iff_exists, ← isSome_matrix_iff, reverse_readEnvelopes, getMatrix]

/-- **When a filtered matrix agrees**, row by row and counter by counter. -/
theorem agrees_iff_card : FilterAgrees L log fs ↔
    Stated L (readEnvelopes log []) ∧ Countable L (readEnvelopes log fs) ∧
      ∀ q c, (surplus L log fs q c).card = (missed L log fs q c).card := by
  rw [stated_iff, countable_iff]
  constructor
  · rintro ⟨d, m, hd, hm, hrows⟩
    refine ⟨⟨d, hd⟩, ⟨m, hm⟩, fun q c => (card_eq_iff _ _).1 ?_⟩
    rw [← countIn_getMatrix hm, ← countP_expected hd]
    exact hrows q c
  · rintro ⟨⟨d, hd⟩, ⟨m, hm⟩, hrows⟩
    refine ⟨d, m, hd, hm, fun q c => ?_⟩
    rw [countIn_getMatrix hm, countP_expected hd]
    exact (card_eq_iff _ _).2 (hrows q c)

/-- Nothing is counted wrongly and nothing is missed. -/
theorem Faithful.expectedIn_eq (h : Faithful L log fs) (q : Option DictKey) (c : Counter) :
    expectedIn L log fs q c = countedIn L (readEnvelopes log fs) q c := by
  ext k
  simp only [expectedIn, countedIn, List.mem_toFinset, List.mem_filter, Bool.and_eq_true]
  constructor
  · rintro ⟨hk, ⟨hmatched, hrow⟩, hcounted⟩
    have hmem := (h.present k).2 ⟨hk, hmatched⟩
    obtain ⟨hrow', hcounted'⟩ := h.alike k hmem q c
    exact ⟨hmem, hrow'.trans hrow, hcounted'.trans hcounted⟩
  · rintro ⟨hmem, hrow, hcounted⟩
    obtain ⟨hk, hmatched⟩ := (h.present k).1 hmem
    obtain ⟨hrow', hcounted'⟩ := h.alike k hmem q c
    exact ⟨hk, ⟨hmatched, hrow'.symm.trans hrow⟩, hcounted'.symm.trans hcounted⟩

/-! ### Totals of a filter on one field -/

/-- The executions of some envelopes are those that have an event. -/
theorem mem_executions (h : Stated L es) (k : DictKey) :
    k ∈ executions L es ↔ ∃ e, e ∈ eventsAt L k es := by
  obtain ⟨d, hd⟩ := Option.isSome_iff_exists.1 (isSome_executionStates_iff.2 ⟨h.caught, h.ids⟩)
  rw [← keys_executionStates hd, mem_keys_executionStates hd, IsExecution]
  simp only [mem_eventsAt, List.mem_reverse]
  constructor
  · rintro ⟨x, hx, e, hstamp, hof⟩
    exact ⟨e, ⟨x, hx, hstamp⟩, hof⟩
  · rintro ⟨e, ⟨x, hx, hstamp⟩, hof⟩
    exact ⟨x, hx, e, hstamp, hof⟩

/-- A value that decides is that of an event, or the default. -/
theorem exists_of_decided {f : Event → Json} {has : Json → Bool} {default : Json} {l : List Event}
    {p : Json → Bool} (h : p (decided f has default l) = true) (hdefault : p default = false) :
    ∃ e ∈ l, p (f e) = true := by
  unfold decided at h
  cases hl : (sortDesc Event.parsed (l.filter fun e => has (f e))).head? with
  | none =>
    rw [hl, Option.map_none, Option.getD_none, hdefault] at h
    cases h
  | some e =>
    rw [hl] at h
    exact ⟨e, List.mem_of_mem_filter (head?_sortDesc_eq_some_iff.1 hl).mem, h⟩

/-- A final value is that of an event. -/
theorem exists_of_final {f : FilterField} {p : Json → Bool} {l : List Event}
    (h : p (f.ofSummary (decidedBy L l)) = true) (hunknown : p (.str "UNKNOWN") = false) :
    ∃ e ∈ l, p (f.ofEvent e) = true := by
  cases f with
  | departmentId => exact exists_of_decided (f := Event.departmentId) h hunknown
  | routingClass => exact exists_of_decided (f := Event.routingClass) h hunknown
  | status =>
    simp only [FilterField.ofSummary, decidedBy] at h
    split_ifs at h with hsucceeded
    · obtain ⟨e, he, hstatus⟩ := List.any_eq_true.1 hsucceeded
      refine ⟨e, he, ?_⟩
      rw [FilterField.ofEvent, of_decide_eq_true hstatus]
      exact h
    · exact exists_of_decided (f := Event.status) h hunknown

/-- An event has the fields of its envelope. -/
theorem passes_of_stamp {x : TelemetryEnvelope Json} {e : Event} (h : stamp L x = some e) :
    fs.passes x = fs.admits e := by
  have hfield (f : FilterField) : x.field f.name = f.ofEvent e := by
    rw [stamp] at h
    split_ifs at h
    split at h
    · obtain ⟨t, -, rfl⟩ := Option.map_eq_some_iff.1 h
      cases f <;> rfl
    · cases h
  simp only [Conditions.passes, Conditions.admits, hfield]

/-- What is read under a filter admits it. -/
theorem admits_of_mem_eventsAt {k : DictKey} {e : Event}
    (h : e ∈ eventsAt L k (readEnvelopes log fs)) : fs.admits e = true := by
  obtain ⟨⟨x, hx, hstamp⟩, -⟩ := mem_eventsAt.1 h
  exact (passes_of_stamp hstamp).symm.trans (passes_of_mem_readEnvelopes hx)

/-- The matching events of an execution are read. -/
theorem mem_eventsAt_readEnvelopes {k : DictKey} {e : Event}
    (h : e ∈ eventsAt L k (readEnvelopes log [])) (hadmits : fs.admits e = true) :
    e ∈ eventsAt L k (readEnvelopes log fs) := by
  obtain ⟨⟨x, hx, hstamp⟩, hof⟩ := mem_eventsAt.1 h
  have hread := mem_readEnvelopes hx (fun _ _ => rfl) ((passes_of_stamp hstamp).trans hadmits)
  exact mem_eventsAt.2 ⟨⟨x, hread, hstamp⟩, hof⟩

/-- An execution with an event that is read under the filter matches in the end. -/
def Settled (L : Library) (log : Option (List Char)) (f : FilterField) (p : Json → Bool) : Prop :=
  ∀ k ∈ executions L (readEnvelopes log [(f, p)]),
    p (f.ofSummary (decidedBy L (eventsAt L k (readEnvelopes log [])))) = true

theorem mem_countedIn_total {k : DictKey} :
    k ∈ countedIn L es none .total ↔ k ∈ executions L es := by
  simp [countedIn, Summary.inRow, Summary.counted]

theorem mem_expectedIn_total {k : DictKey} :
    k ∈ expectedIn L log fs none .total ↔ k ∈ executions L (readEnvelopes log []) ∧
      fs.matched (decidedBy L (eventsAt L k (readEnvelopes log []))) = true := by
  simp [expectedIn, Summary.inRow, Summary.counted]

theorem matched_singleton {f : FilterField} {p : Json → Bool} {s : Summary} :
    Conditions.matched [(f, p)] s = p (f.ofSummary s) := by
  simp [Conditions.matched]

/-- Under a filter on one field no execution is missed. -/
theorem missed_total {f : FilterField} {p : Json → Bool} (hunknown : p (.str "UNKNOWN") = false)
    (hf : Stated L (readEnvelopes log [(f, p)])) :
    missed L log [(f, p)] none .total = ∅ := by
  rw [missed, Finset.sdiff_eq_empty_iff_subset]
  intro k hk
  obtain ⟨-, hfinal⟩ := mem_expectedIn_total.1 hk
  obtain ⟨e, he, hp⟩ := exists_of_final (matched_singleton.symm.trans hfinal) hunknown
  have hadmits : Conditions.admits [(f, p)] e = true := by simp [Conditions.admits, hp]
  exact mem_countedIn_total.2
    ((mem_executions hf k).2 ⟨e, mem_eventsAt_readEnvelopes he hadmits⟩)

/-- When none is counted wrongly. -/
theorem surplus_total_iff {f : FilterField} {p : Json → Bool}
    (hunknown : p (.str "UNKNOWN") = false) (h : Stated L (readEnvelopes log [])) :
    surplus L log [(f, p)] none .total = ∅ ↔ Settled L log f p := by
  rw [surplus, Finset.sdiff_eq_empty_iff_subset]
  constructor
  · intro hsub k hk
    have hmem := mem_expectedIn_total.1 (hsub (mem_countedIn_total.2 hk))
    exact matched_singleton.symm.trans hmem.2
  · intro hsettled k hk
    have hfinal := hsettled k (mem_countedIn_total.1 hk)
    obtain ⟨e, he, -⟩ := exists_of_final hfinal hunknown
    exact mem_expectedIn_total.2
      ⟨(mem_executions h k).2 ⟨e, he⟩, matched_singleton.trans hfinal⟩

/-- **The totals of a filter on one field.**  They are right exactly when every execution with an
event that is read matches in the end. -/
theorem total_iff {f : FilterField} {p : Json → Bool} (hunknown : p (.str "UNKNOWN") = false)
    (h : Stated L (readEnvelopes log [])) (hf : Stated L (readEnvelopes log [(f, p)])) :
    (surplus L log [(f, p)] none .total).card = (missed L log [(f, p)] none .total).card ↔
      Settled L log f p := by
  rw [missed_total hunknown hf, Finset.card_empty, Finset.card_eq_zero,
    surplus_total_iff hunknown h]

/-! ### Adding up the routing classes -/

/-- The filter on a routing class. -/
def ofClass (v : String) : Conditions := [(.routingClass, fun j => j = .str v)]

/-- Every execution has one of the routing classes in the end. -/
def Classified (L : Library) (log : Option (List Char)) (vs : List String) : Prop :=
  ∀ k ∈ executions L (readEnvelopes log []),
    ∃ v ∈ vs, (decidedBy L (eventsAt L k (readEnvelopes log []))).routingClass = .str v

/-- The executions are counted under their routing classes. -/
theorem sum_expectedIn {vs : List String} (hnodup : vs.Nodup) (h : Classified L log vs) :
    (vs.map fun v => (expectedIn L log (ofClass v) none .total).card).sum =
      (executions L (readEnvelopes log [])).toFinset.card := by
  rw [← List.sum_toFinset _ hnodup, ← Finset.card_biUnion]
  · refine congrArg Finset.card (Finset.ext fun k => ?_)
    simp only [Finset.mem_biUnion, List.mem_toFinset]
    constructor
    · rintro ⟨v, -, hk⟩
      exact (mem_expectedIn_total.1 hk).1
    · intro hk
      obtain ⟨v, hv, hclass⟩ := h k hk
      exact ⟨v, hv,
        mem_expectedIn_total.2 ⟨hk, matched_singleton.trans (decide_eq_true hclass)⟩⟩
  · intro v _ w _ hne
    refine Finset.disjoint_left.2 fun k hv hw => hne ?_
    have hclass := of_decide_eq_true (matched_singleton.symm.trans (mem_expectedIn_total.1 hv).2)
    have hclass' := of_decide_eq_true (matched_singleton.symm.trans (mem_expectedIn_total.1 hw).2)
    exact Json.str.inj (hclass.symm.trans hclass')

theorem card_add_missed (fs : Conditions) (q : Option DictKey) (c : Counter) :
    (countedIn L (readEnvelopes log fs) q c).card + (missed L log fs q c).card =
      (expectedIn L log fs q c).card + (surplus L log fs q c).card := by
  have hs := Finset.card_sdiff_add_card_inter (expectedIn L log fs q c)
    (countedIn L (readEnvelopes log fs) q c)
  have ht := Finset.card_sdiff_add_card_inter (countedIn L (readEnvelopes log fs) q c)
    (expectedIn L log fs q c)
  rw [Finset.inter_comm] at ht
  rw [missed, surplus]
  omega

/-- The matrix of some envelopes has states. -/
theorem stated_of_getMatrix (h : getMatrix L log fs.filters = some m) :
    Stated L (readEnvelopes log fs) := by
  have hc := countable_iff.2 ⟨m, h⟩
  exact ⟨hc.caught, hc.ids⟩

/-- **The totals over the routing classes.** -/
theorem sum_total_iff {vs : List String} (hnodup : vs.Nodup) (h : Classified L log vs)
    {m₀ : Matrix} (hm₀ : getMatrix L log [] = some m₀) {ms : String → Matrix}
    (hms : ∀ v ∈ vs, getMatrix L log (ofClass v).filters = some (ms v)) :
    (vs.map fun v => (ms v).global.count .total).sum = m₀.global.count .total ↔
      (vs.map fun v => (surplus L log (ofClass v) none .total).card).sum =
        (vs.map fun v => (missed L log (ofClass v) none .total).card).sum := by
  have hfull : getMatrix L log (Conditions.filters []) = some m₀ := hm₀
  have hall : m₀.global.count .total = (executions L (readEnvelopes log [])).toFinset.card := by
    refine (countIn_getMatrix hfull none .total).trans
      (congrArg Finset.card (Finset.ext fun k => ?_))
    rw [mem_countedIn_total, List.mem_toFinset]
  have hone : (vs.map fun v => (ms v).global.count .total) =
      vs.map fun v => (countedIn L (readEnvelopes log (ofClass v)) none .total).card :=
    List.map_congr_left fun v hv => countIn_getMatrix (hms v hv) none .total
  have hsum : (vs.map fun v => (countedIn L (readEnvelopes log (ofClass v)) none .total).card +
        (missed L log (ofClass v) none .total).card).sum =
      (vs.map fun v => (expectedIn L log (ofClass v) none .total).card +
        (surplus L log (ofClass v) none .total).card).sum :=
    congrArg List.sum (List.map_congr_left fun v _ => card_add_missed (ofClass v) none .total)
  rw [List.sum_map_add, List.sum_map_add, sum_expectedIn hnodup h] at hsum
  rw [hall, hone]
  omega

/-- When no class is `UNKNOWN`. -/
theorem sum_surplus_iff {vs : List String} (hunknown : "UNKNOWN" ∉ vs)
    (h : Stated L (readEnvelopes log []))
    (hvs : ∀ v ∈ vs, Stated L (readEnvelopes log (ofClass v))) :
    (vs.map fun v => (surplus L log (ofClass v) none .total).card).sum =
        (vs.map fun v => (missed L log (ofClass v) none .total).card).sum ↔
      ∀ v ∈ vs, Settled L log .routingClass fun j => j = .str v := by
  have hclass (v : String) (hv : v ∈ vs) : decide (Json.str "UNKNOWN" = .str v) = false :=
    decide_eq_false fun heq => hunknown (Json.str.inj heq ▸ hv)
  have hmissed : (vs.map fun v => (missed L log (ofClass v) none .total).card).sum = 0 := by
    refine List.sum_eq_zero fun n hn => ?_
    obtain ⟨v, hv, rfl⟩ := List.mem_map.1 hn
    exact Finset.card_eq_zero.2 (missed_total (hclass v hv) (hvs v hv))
  rw [hmissed, List.sum_eq_zero_iff_forall_eq_nat, List.forall_mem_map]
  refine forall₂_congr fun v hv => ?_
  rw [Finset.card_eq_zero]
  exact surplus_total_iff (hclass v hv) h

end Telemetry

end AnnyRuntime
