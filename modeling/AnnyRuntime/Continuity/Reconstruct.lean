import AnnyRuntime.Continuity.Replay

/-!
# What is reconstructed of an execution

The status that `reconstructExecution` gives is decided by the last event and the last record of
the execution (`status_reconstructExecution`).  The lemmas say how saving a record and appending an
event change them, and that a restart does not.
-/

namespace AnnyRuntime

namespace Continuity

namespace ContinuityEngine

variable {e : ContinuityEngine} {x : String}

/-- The records of an execution. -/
def ownRecords (e : ContinuityEngine) (x : String) : List ContinuityRecord :=
  e.records.values.filter (relevantRecord x)

/-- The events of an execution. -/
def ownEvents (e : ContinuityEngine) (x : String) : List EventRecord :=
  e.events.filter (relevantEvent x)

/-- The status that is reconstructed, when anything is known. -/
def reconstructedStatus (e : ContinuityEngine) (x : String) : Option Json :=
  (e.reconstructExecution x).map (·.status)

/-- Sorting the events of a log by their numbers changes nothing. -/
theorem sortedEvents_eq (h : Durable e) : e.sortedEvents x = e.ownEvents x := by
  have hsorted : (e.ownEvents x).Pairwise fun a b => a.sequence ≤ b.sequence :=
    (h.numbered.sorted.sublist List.filter_sublist).imp le_of_lt
  exact hsorted.insertionSort_eq

/-- **The status that is reconstructed.** -/
theorem status_reconstructExecution (h : Durable e) {ev : EventRecord}
    (hev : (e.ownEvents x).getLast? = some ev) :
    e.reconstructedStatus x =
      some (reconstructStatus (some ev) (e.ownRecords x).getLast?) := by
  have hne : ¬ (e.ownRecords x = [] ∧ e.ownEvents x = []) := by
    rintro ⟨-, hnil⟩
    rw [hnil] at hev
    exact absurd hev (by simp)
  have hlast : (e.sortedEvents x).getLast? = some ev := by rw [sortedEvents_eq h, hev]
  rw [ownRecords, ownEvents] at hne
  unfold reconstructedStatus reconstructExecution
  dsimp only
  rw [if_neg hne, Option.map_some, hlast]
  rfl

/-- What is reconstructed depends on the memory alone. -/
theorem reconstructExecution_congr {e' : ContinuityEngine} (hr : e'.records = e.records)
    (he : e'.events = e.events) : e'.reconstructExecution x = e.reconstructExecution x := by
  unfold reconstructExecution sortedEvents
  rw [hr, he]

/-! ### Events -/

theorem ownEvents_appendEvent (ev : EventRecord) :
    (e.appendEvent ev).ownEvents x =
      e.ownEvents x ++
        if relevantEvent x ev then [{ ev with sequence := e.eventSequence + 1 }] else [] := by
  change (e.events ++ [{ ev with sequence := e.eventSequence + 1 }]).filter _ = _
  rw [List.filter_append, List.filter_singleton, cond_eq_ite]
  rfl

/-! ### Records -/

theorem ownRecords_saveRecord_new {r : ContinuityRecord}
    (h : e.records.get? r.continuityId.norm = none) :
    (e.saveRecord r).ownRecords x = e.ownRecords x ++ if relevantRecord x r then [r] else [] := by
  change (e.records.set r.continuityId.norm r).values.filter _ = _
  rw [Dict.values_set_of_get?_eq_none h, List.filter_append, List.filter_singleton, cond_eq_ite]
  rfl

/-- Replacing a record by one of the same executions. -/
theorem ownRecords_saveRecord {r w : ContinuityRecord}
    (h : e.records.get? r.continuityId.norm = some w)
    (hrel : relevantRecord x r = relevantRecord x w) :
    (relevantRecord x w = false → (e.saveRecord r).ownRecords x = e.ownRecords x) ∧
      (e.ownRecords x = [w] → (e.saveRecord r).ownRecords x = [r]) := by
  obtain ⟨l₁, l₂, hv, hset⟩ := Dict.values_set_of_get? h
  have hnew : (e.saveRecord r).ownRecords x = (l₁ ++ r :: l₂).filter (relevantRecord x) := by
    rw [← hset r]
    rfl
  have hold : e.ownRecords x = (l₁ ++ w :: l₂).filter (relevantRecord x) := by
    rw [← hv]
    rfl
  rw [List.filter_append, List.filter_cons] at hnew hold
  rw [hnew, hold, hrel]
  refine ⟨fun hw => by simp [hw], fun hone => ?_⟩
  -- the old record is among the own ones, and so the only one of them
  have hw : relevantRecord x w = true := by
    have hmem : w ∈ l₁.filter (relevantRecord x) ++
        if relevantRecord x w = true then w :: l₂.filter (relevantRecord x)
        else l₂.filter (relevantRecord x) := by
      rw [hone]
      exact List.mem_singleton_self w
    rw [← List.filter_cons, ← List.filter_append] at hmem
    exact (List.mem_filter.1 hmem).2
  rw [if_pos hw] at hone ⊢
  have hlen := congrArg List.length hone
  simp only [List.length_append, List.length_cons, List.length_nil] at hlen
  have h₁ : l₁.filter (relevantRecord x) = [] := List.length_eq_zero_iff.1 (by omega)
  have h₂ : l₂.filter (relevantRecord x) = [] := List.length_eq_zero_iff.1 (by omega)
  rw [h₁, h₂]
  rfl

end ContinuityEngine

/-! ### Keys -/

/-- A dictionary that has every record under its id. -/
def Keyed (d : Dict Json.Key ContinuityRecord) : Prop :=
  ∀ k r, d.get? k = some r → r.continuityId.norm = k

theorem Keyed.put {d : Dict Json.Key ContinuityRecord} (h : Keyed d) (r : ContinuityRecord) :
    Keyed (putRecord d r) := by
  intro k x hx
  rw [putRecord, Dict.get?_set] at hx
  split_ifs at hx with hk
  · rw [← Option.some.inj hx, hk]
  · exact h k x hx

theorem keyed_replayRecords (rs : List ContinuityRecord) : Keyed (replayRecords rs) := by
  have key : ∀ d, Keyed d → Keyed (rs.foldl putRecord d) := by
    induction rs with
    | nil => exact fun d hd => hd
    | cons r rs ih => exact fun d hd => ih _ (hd.put r)
  exact key _ fun k r h => absurd h (by simp)

theorem Durable.keyed {e : ContinuityEngine} (h : Durable e) : Keyed e.records := by
  obtain ⟨t, -, -, hr⟩ := h.records
  rw [hr]
  exact keyed_replayRecords _

/-- A record of a durable engine is the one under its id. -/
theorem Durable.get?_norm {e : ContinuityEngine} (h : Durable e) {r : ContinuityRecord}
    (hr : r ∈ e.records.values) : e.records.get? r.continuityId.norm = some r := by
  obtain ⟨k, hk⟩ := Dict.exists_get?_of_mem_values hr
  rw [h.keyed k r hk]
  exact hk

end Continuity

end AnnyRuntime
