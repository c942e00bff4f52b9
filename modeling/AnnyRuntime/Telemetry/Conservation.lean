import AnnyRuntime.Telemetry.Aggregator

/-!
# What the matrix counts

`Tallied` is what holds of the rows while states are counted: each row adds up, the rows of the
departments add up to the row for all of them, and a row has counted as many states as there were.
`matrix_conserves` follows for every log and filter: the executions that are counted are those of
the events with a valid timestamp, each of them once.
-/

namespace AnnyRuntime

namespace Telemetry

variable {L : Library}

/-! ### One state -/

/-- A row adds up. -/
structure RowOk (count : Counter → ℕ) : Prop where
  /-- Every execution has one routing class. -/
  routed : count .total =
    count .deterministic + count .localModel + count .frontierModel + count .unknown
  /-- It has one outcome at most. -/
  finished : count .success + count .failed + count .timeout + count .blocked ≤ count .total

theorem rowOk_new : RowOk Stats.new.count := ⟨rfl, le_refl 0⟩

theorem routingCounter_mem (rc : Json) : routingCounter rc = .deterministic ∨
    routingCounter rc = .localModel ∨ routingCounter rc = .frontierModel ∨
      routingCounter rc = .unknown := by
  unfold routingCounter
  split_ifs <;> simp

theorem statusCounter_mem (status : Json) : statusCounter status = none ∨
    statusCounter status = some .success ∨ statusCounter status = some .failed ∨
      statusCounter status = some .timeout ∨ statusCounter status = some .blocked := by
  unfold statusCounter
  split_ifs <;> simp

theorem RowOk.add {r : Stats} (h : RowOk r.count) (s : ExecutionState) :
    RowOk (r.add L s).count := by
  obtain ⟨hr, hf⟩ := h
  simp only [Stats.add, ExecutionState.counted]
  -- one routing counter grows, and at most one counter of an outcome
  constructor
  · rcases statusCounter_mem s.status with hs | hs | hs | hs | hs <;>
      rcases routingCounter_mem s.routingClass with hc | hc | hc | hc <;>
        simp [hs, hc] <;> omega
  · rcases statusCounter_mem s.status with hs | hs | hs | hs | hs <;>
      rcases routingCounter_mem s.routingClass with hc | hc | hc | hc <;>
        simp [hs, hc] <;> omega

theorem count_add (r : Stats) (s : ExecutionState) (c : Counter) :
    (r.add L s).count c = r.count c + if s.counted c then 1 else 0 := by
  simp only [Stats.add]
  split_ifs <;> rfl

@[simp] theorem counted_total (s : ExecutionState) : s.counted .total = true := rfl

/-! ### All states -/

/-- What holds of the rows when some states were counted. -/
structure Tallied (L : Library) (done : List ExecutionState) (t : Stats × Dict DictKey Stats) :
    Prop where
  all : RowOk t.1.count
  rows : ∀ k r, t.2.get? k = some r → RowOk r.count
  sums : ∀ c, t.1.count c = (t.2.values.map fun r => r.count c).sum
  total : t.1.count .total = done.length
  /-- The states of a department. -/
  states : ∀ k, ((t.2.get? k).getD .new).count .total =
    done.countP fun s => dictKey L.arith s.departmentId = some k

theorem tallied_new : Tallied L [] (.new, .empty) where
  all := rowOk_new
  rows _ _ h := by cases h
  sums _ := rfl
  total := rfl
  states _ := rfl

/-- Replacing or adding one row changes a sum over the rows by what the row changes. -/
theorem sum_values_set (d : Dict DictKey Stats) (k : DictKey) (r : Stats) (c : Counter) (n : ℕ)
    (h : r.count c = ((d.get? k).getD .new).count c + n) :
    ((d.set k r).values.map fun r => r.count c).sum =
      (d.values.map fun r => r.count c).sum + n := by
  cases hk : d.get? k with
  | none =>
    rw [hk] at h
    rw [Dict.values_set_of_get?_eq_none hk, List.map_append, List.sum_append]
    simp only [List.map_cons, List.map_nil, List.sum_cons, List.sum_nil, h]
    change _ + (0 + n + 0) = _
    omega
  | some w =>
    obtain ⟨l₁, l₂, hd, hset⟩ := Dict.values_set_of_get? hk
    rw [hk] at h
    rw [hset, hd, List.map_append, List.map_append, List.sum_append, List.sum_append, List.map_cons,
      List.map_cons, List.sum_cons, List.sum_cons, h, Option.getD_some]
    omega

/-- **One more state.** -/
theorem Tallied.step {done : List ExecutionState} {g : Stats} {d : Dict DictKey Stats}
    (h : Tallied L done (g, d)) {s : ExecutionState} {k : DictKey}
    (hk : dictKey L.arith s.departmentId = some k) :
    Tallied L (done ++ [s]) (g.add L s, d.set k (((d.get? k).getD .new).add L s)) where
  all := h.all.add s
  rows := by
    have hrow : RowOk ((d.get? k).getD .new).count := by
      cases hd : d.get? k with
      | none => exact rowOk_new
      | some r => exact h.rows k r hd
    exact Dict.forall_get?_set (fun k' r hr => h.rows k' r hr) (hrow.add s)
  sums c := by
    rw [count_add, sum_values_set d k _ c _ (count_add _ s c), h.sums c]
  total := by
    rw [count_add, h.total]
    simp
  states k' := by
    rw [List.countP_append, ← h.states k', Dict.get?_set]
    by_cases hkk : k' = k
    · subst hkk
      simp [count_add, hk]
    · have hne : ¬ dictKey L.arith s.departmentId = some k' := by
        rw [hk]
        exact fun heq => hkk (Option.some.inj heq).symm
      simp [hkk, hne]

/-- Counting a list of states. -/
theorem Tallied.tabulate {ss done : List ExecutionState} {t t' : Stats × Dict DictKey Stats}
    (h : Tallied L done t) (ht : Telemetry.tabulate L ss t = some t') :
    Tallied L (done ++ ss) t' := by
  induction ss generalizing done t with
  | nil =>
    obtain rfl := Option.some.inj ht
    rwa [List.append_nil]
  | cons s ss ih =>
    obtain ⟨k, hk, ht⟩ := Option.bind_eq_some_iff.1 ht
    have := ih (h.step hk) ht
    rwa [List.append_assoc] at this

/-! ### The executions -/

/-- The event has the execution id `k`. -/
def Event.isOf (L : Library) (k : DictKey) (e : Event) : Bool :=
  truthy L.arith e.executionId && decide (dictKey L.arith e.executionId = some k)

/-- **Which executions have a state**: those of the events. -/
theorem mem_keys_foldEvents {es : List Event} {d d' : Dict DictKey ExecutionState}
    (h : foldEvents L es d = some d') (k : DictKey) :
    k ∈ d'.keys ↔ k ∈ d.keys ∨ ∃ e ∈ es, e.isOf L k = true := by
  induction es generalizing d with
  | nil =>
    obtain rfl := Option.some.inj h
    simp
  | cons e es ih =>
    rw [foldEvents] at h
    split_ifs at h with ht
    · have hno : e.isOf L k = false := by
        simpa [Event.isOf] using fun h' => absurd h' (by simpa using ht)
      rw [ih h]
      simp [hno]
    · obtain ⟨k', hk', h⟩ := Option.bind_eq_some_iff.1 h
      have hof : e.isOf L k = true ↔ k = k' := by
        have ht' : truthy L.arith e.executionId = true := by simpa using ht
        simp [Event.isOf, ht', hk', eq_comm]
      rw [ih h, Dict.keys_set]
      split_ifs with hmem
      · constructor
        · rintro (hd | ⟨e', he', hof'⟩)
          · exact .inl hd
          · exact .inr ⟨e', List.mem_cons_of_mem _ he', hof'⟩
        · rintro (hd | ⟨e', he', hof'⟩)
          · exact .inl hd
          · rcases List.mem_cons.1 he' with rfl | he'
            · exact .inl (hof.1 hof' ▸ hmem)
            · exact .inr ⟨e', he', hof'⟩
      · rw [List.mem_append, List.mem_singleton, ← hof]
        simp only [List.mem_cons, exists_eq_or_imp, or_assoc]

/-- An envelope with a valid timestamp, and its time. -/
def stamp (L : Library) (e : TelemetryEnvelope Json) : Option Event :=
  if truthy L.arith (e.field "timestamp") then
    match L.isoparse (e.field "timestamp") with
    | .time d => d.utc?.map (Event.of e)
    | _ => none
  else none

/-- The valid events are those of the envelopes with a valid timestamp. -/
theorem validEvents_eq {envelopes : List (TelemetryEnvelope Json)} {es : List Event}
    (h : validEvents L envelopes = some es) : es = envelopes.filterMap (stamp L) := by
  induction envelopes generalizing es with
  | nil => exact (Option.some.inj h).symm
  | cons e rest ih =>
    rw [validEvents] at h
    rw [List.filterMap_cons, stamp]
    split_ifs at h with ht
    · rw [if_neg (by simpa using ht)]
      exact ih h
    · rw [if_pos (by simpa using ht)]
      split at h <;> rename_i hp <;> rw [hp]
      · exact ih h
      · cases h
      · obtain ⟨t, htime, h⟩ := Option.bind_eq_some_iff.1 h
        obtain ⟨es', hes', rfl⟩ := Option.map_eq_some_iff.1 h
        simp only [htime, Option.map_some, ih hes']

/-- The executions of some envelopes: the ids of those with a valid timestamp. -/
def IsExecution (L : Library) (envelopes : List (TelemetryEnvelope Json)) (k : DictKey) : Prop :=
  ∃ envelope ∈ envelopes, ∃ e, stamp L envelope = some e ∧ e.isOf L k = true

theorem mem_keys_executionStates {envelopes : List (TelemetryEnvelope Json)}
    {d : Dict DictKey ExecutionState} (h : executionStates L envelopes = some d) (k : DictKey) :
    k ∈ d.keys ↔ IsExecution L envelopes k := by
  obtain ⟨es, hes, h⟩ := Option.bind_eq_some_iff.1 h
  rw [mem_keys_foldEvents h, validEvents_eq hes, IsExecution]
  constructor
  · rintro (hempty | ⟨e, he, hof⟩)
    · cases hempty
    · obtain ⟨envelope, henv, hstamp⟩ := List.mem_filterMap.1 (Ranking.mem_sortAsc.1 he)
      exact ⟨envelope, henv, e, hstamp, hof⟩
  · rintro ⟨envelope, henv, e, hstamp, hof⟩
    exact .inr ⟨e, Ranking.mem_sortAsc.2 (List.mem_filterMap.2 ⟨envelope, henv, hstamp⟩), hof⟩

/-- The states that were counted have a department each. -/
theorem dictKey_of_tabulate {ss : List ExecutionState} {t t' : Stats × Dict DictKey Stats}
    (h : tabulate L ss t = some t') : ∀ s ∈ ss, ∃ k, dictKey L.arith s.departmentId = some k := by
  induction ss generalizing t with
  | nil => simp
  | cons s ss ih =>
    obtain ⟨k, hk, h⟩ := Option.bind_eq_some_iff.1 h
    exact List.forall_mem_cons.2 ⟨⟨k, hk⟩, ih h⟩

/-- The department of an execution. -/
def departmentOf (L : Library) (d : Dict DictKey ExecutionState) (k : DictKey) : DictKey :=
  ((d.get? k).bind fun s => dictKey L.arith s.departmentId).getD .none

/-- The states of a department are as many as its executions. -/
theorem countP_departmentOf {d : Dict DictKey ExecutionState}
    (h : ∀ s ∈ d.values, ∃ k, dictKey L.arith s.departmentId = some k) (k : DictKey) :
    (d.values.countP fun s => dictKey L.arith s.departmentId = some k) =
      (d.keys.filter fun x => departmentOf L d x = k).length := by
  rw [← List.countP_eq_length_filter, Dict.values, Dict.keys, List.countP_map, List.countP_map]
  refine List.countP_congr fun e he => ?_
  obtain ⟨k', hk'⟩ := h e.2 (List.mem_map_of_mem he)
  have hget : d.get? e.1 = some e.2 := Dict.get?_of_mem_entries he
  simp [departmentOf, hget, hk']

/-! ### The matrix -/

/-- What is conserved from the envelopes to the matrix. -/
structure Conserves (L : Library) (considered : List (TelemetryEnvelope Json)) (m : Matrix) :
    Prop where
  /-- The row for all executions adds up. -/
  global : RowOk m.global.count
  /-- The rows of the departments add up. -/
  departments : ∀ k r, m.departments.get? k = some r → RowOk r.count
  /-- They add up to the row for all executions. -/
  sums : ∀ c, m.global.count c = (m.departments.values.map fun r => r.count c).sum
  /-- Every execution is counted once, in one department. -/
  once : ∃ ids : List DictKey, ids.Nodup ∧ (∀ k, k ∈ ids ↔ IsExecution L considered k) ∧
    m.global.count .total = ids.length ∧
      ∃ department : DictKey → DictKey, ∀ k r, m.departments.get? k = some r →
        r.count .total = (ids.filter fun x => department x = k).length

/-- **Conservation.**  Whatever the log and the filters are, a matrix that is returned conserves the
executions of the envelopes that were read. -/
theorem matrix_conserves (L : Library) (log : Option (List Char)) (filters : List Filter)
    (m : Matrix) (h : getMatrix L log filters = some m) :
    Conserves L (query log filters aggregationLimit) m := by
  obtain ⟨d, hd, h⟩ := Option.bind_eq_some_iff.1 h
  obtain ⟨⟨g, rows⟩, ht, h⟩ := Option.bind_eq_some_iff.1 h
  split_ifs at h
  obtain rfl := Option.some.inj h
  have htally : Tallied L d.values (g, rows) := tallied_new.tabulate ht
  refine ⟨htally.all, fun k r hr => ?_, fun c => ?_, d.keys, d.nodup,
    mem_keys_executionStates hd, ?_, departmentOf L d, fun k r hr => ?_⟩
  · rw [Dict.get?_map] at hr
    obtain ⟨r', hr', rfl⟩ := Option.map_eq_some_iff.1 hr
    exact htally.rows k r' hr'
  · rw [Dict.values_map, List.map_map]
    exact htally.sums c
  · exact htally.total.trans (by simp [Dict.values, Dict.keys])
  · rw [Dict.get?_map] at hr
    obtain ⟨r', hr', rfl⟩ := Option.map_eq_some_iff.1 hr
    have hcount := htally.states k
    rw [hr', Option.getD_some] at hcount
    exact hcount.trans (countP_departmentOf (dictKey_of_tabulate ht) k)

/-- A library that takes every timestamp for the time zero. -/
def Library.still : Library where
  arith := .overflowing
  isoparse _ := .time ⟨0, some 0⟩
  average _ := some (.int 0)

/-- An event of one execution. -/
def tick (status : String) : TelemetryEnvelope Json where
  field
    | "timestamp" => .str "1970-01-01T00:00:00Z"
    | "execution_id" => .str "exec-1"
    | "status" => .str status
    | _ => .null
  metadata := .obj []

/-- The log of one event. -/
def oneEvent : List Char := LineLog.written ([tick "SUCCEEDED"].map TelemetryEnvelope.line)

theorem matrix_conserves_oneEvent : ∃ m, getMatrix .still (some oneEvent) [] = some m ∧
    Conserves .still (query (some oneEvent) [] aggregationLimit) m := by
  have hsome : (getMatrix .still (some oneEvent) []).isSome = true := by
    rw [getMatrix, oneEvent, query_written]
    decide
  obtain ⟨m, hm⟩ := Option.isSome_iff_exists.1 hsome
  exact ⟨m, hm, matrix_conserves .still (some oneEvent) [] m hm⟩

end Telemetry

end AnnyRuntime
