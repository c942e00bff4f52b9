import Mathlib.Data.List.Induction
import AnnyRuntime.Intelligence.Layer

/-!
# Benchmark evidence

The layer keeps the benchmark results about all implementations and capabilities in one dictionary,
under the id of the benchmark.  What it knows about an implementation and a capability is the list
of the results there that are about them.

* `evidence_isolated_iff` : **evidence is isolated exactly when every benchmark id is recorded
  once.** The same benchmark, run against a second implementation, takes the place of the result of
  the first one.
-/

namespace AnnyRuntime

namespace Intelligence

/-- The result is about an implementation and a capability. -/
def BenchmarkResult.About (b : BenchmarkResult) (implId capabilityId : String) : Prop :=
  b.implementationId = implId ∧ b.capabilityId = capabilityId

instance (b : BenchmarkResult) (implId capabilityId : String) :
    Decidable (b.About implId capabilityId) := inferInstanceAs (Decidable (_ ∧ _))

namespace LocalIntelligenceLayer

/-- A call that changes what the layer knows. -/
inductive Call where
  | registerImplementation (p : ImplementationProfile)
  | removeImplementation (implementationId : String)
  | addBenchmarkResult (b : BenchmarkResult)

/-- What a call does. -/
def call (layer : LocalIntelligenceLayer) : Call → LocalIntelligenceLayer
  | .registerImplementation p => layer.registerImplementation p
  | .removeImplementation implementationId => layer.removeImplementation implementationId
  | .addBenchmarkResult b => layer.addBenchmarkResult b

/-- A new layer after some calls. -/
def run (cs : List Call) : LocalIntelligenceLayer := cs.foldl call init

/-- The result that a call records. -/
def Call.result? : Call → Option BenchmarkResult
  | addBenchmarkResult b => some b
  | _ => none

/-- The results that were recorded, in their order. -/
def recorded (cs : List Call) : List BenchmarkResult := cs.filterMap Call.result?

/-- Two layers make the same of an implementation for a capability. -/
structure SameEvidence (layer layer' : LocalIntelligenceLayer) (implId capabilityId : String) :
    Prop where
  stats : layer'.getBenchmarkStats implId capabilityId = layer.getBenchmarkStats implId capabilityId
  /-- It is eligible for the same requests. -/
  eligible : ∀ request impl, request.capabilityId = capabilityId → impl.implementationId = implId →
    layer'.checkImplementation request impl = layer.checkImplementation request impl
  /-- It has the same value in the selection. -/
  rank : ∀ impl, impl.implementationId = implId →
    layer'.rankOf capabilityId impl = layer.rankOf capabilityId impl

/-- In a sequence of calls evidence is isolated. -/
structure EvidenceIsolated (cs : List Call) : Prop where
  /-- Recording a result changes nothing for what it is not about. -/
  others : ∀ before b after, cs = before ++ .addBenchmarkResult b :: after →
    ∀ implId capabilityId, ¬ b.About implId capabilityId →
      SameEvidence (run before) (run (before ++ [.addBenchmarkResult b])) implId capabilityId
  /-- At every time the statistics are taken of all the results that were recorded. -/
  counts : ∀ before after, cs = before ++ after → ∀ implId capabilityId,
    (run before).relevantBenchmarks implId capabilityId =
      (recorded before).filter fun b => b.About implId capabilityId

/-! ### What the dictionary holds -/

variable {cs : List Call} {b : BenchmarkResult} {layer layer' : LocalIntelligenceLayer}
  {implId capabilityId : String}

theorem run_concat (cs : List Call) (c : Call) : run (cs ++ [c]) = (run cs).call c := by
  rw [run, List.foldl_append]
  rfl

theorem recorded_concat (cs : List Call) (c : Call) :
    recorded (cs ++ [c]) = recorded cs ++ c.result?.toList := by
  rw [recorded, List.filterMap_append]
  cases h : c.result? <;> simp [recorded, h]

/-- A result is under its own id. -/
theorem benchmarks_keyed (cs : List Call) {k : String}
    (h : (run cs).benchmarks.get? k = some b) : b.benchmarkId = k := by
  induction cs using List.reverseRecOn generalizing k b with
  | nil => cases h
  | append_singleton cs c ih =>
    rw [run_concat] at h
    cases c with
    | addBenchmarkResult b' =>
      rcases Dict.of_get?_set h with ⟨rfl, rfl⟩ | ⟨-, h⟩
      · rfl
      · exact ih h
    | registerImplementation p | removeImplementation i => exact ih h

theorem map_benchmarkId_values (cs : List Call) :
    (run cs).benchmarks.values.map (·.benchmarkId) = (run cs).benchmarks.keys := by
  rw [Dict.values, Dict.keys, List.map_map]
  exact List.map_congr_left fun e he => benchmarks_keyed cs (Dict.get?_of_mem_entries he)

/-- While every id is recorded once, the dictionary holds all that was recorded. -/
theorem values_run (h : ((recorded cs).map (·.benchmarkId)).Nodup) :
    (run cs).benchmarks.values = recorded cs := by
  induction cs using List.reverseRecOn with
  | nil => rfl
  | append_singleton cs c ih =>
    rw [run_concat]
    rw [recorded_concat] at h ⊢
    cases c with
    | addBenchmarkResult b =>
      simp only [Call.result?, Option.toList_some, List.map_append, List.map_cons,
        List.map_nil] at h
      obtain ⟨hbefore, -, hnew⟩ := List.nodup_append.1 h
      have hvalues := ih hbefore
      have hfresh : (run cs).benchmarks.get? b.benchmarkId = none := by
        rw [Dict.get?_eq_none_iff, ← map_benchmarkId_values, hvalues]
        exact fun hmem => hnew _ hmem _ (List.mem_singleton_self _) rfl
      change ((run cs).benchmarks.set b.benchmarkId b).values = _
      rw [Dict.values_set_of_get?_eq_none hfresh, hvalues]
      rfl
    | registerImplementation p | removeImplementation i =>
      simp only [Call.result?, Option.toList_none, List.append_nil] at h ⊢
      exact ih h

theorem relevantBenchmarks_eq (layer : LocalIntelligenceLayer) (implId capabilityId : String) :
    layer.relevantBenchmarks implId capabilityId =
      layer.benchmarks.values.filter fun b => b.About implId capabilityId :=
  List.filter_congr fun _ _ => (Bool.decide_and _ _).symm

/-! ### Isolation -/

/-- The evidence decides everything. -/
theorem SameEvidence.of_relevant (h : layer'.relevantBenchmarks implId capabilityId =
    layer.relevantBenchmarks implId capabilityId) :
    SameEvidence layer layer' implId capabilityId := by
  have hstats : layer'.getBenchmarkStats implId capabilityId =
      layer.getBenchmarkStats implId capabilityId := by
    simp only [getBenchmarkStats, h]
  refine ⟨hstats, ?_, ?_⟩
  · rintro request impl rfl rfl
    simp only [checkImplementation, hstats]
  · rintro impl rfl
    simp only [rankOf, toCandidate, hstats]

/-- When the statistics are taken of all results, no id was recorded twice. -/
theorem nodup_of_counts
    (h : ∀ implId capabilityId, (run cs).relevantBenchmarks implId capabilityId =
      (recorded cs).filter fun b => b.About implId capabilityId) :
    ((recorded cs).map (·.benchmarkId)).Nodup := by
  have hvalues : (run cs).benchmarks.values.Nodup := by
    refine List.Nodup.of_map (·.benchmarkId) ?_
    rw [map_benchmarkId_values]
    exact (run cs).benchmarks.nodup
  have hcount : ∀ b, (recorded cs).count b = (run cs).benchmarks.values.count b := by
    intro b
    have hself : ∀ l : List BenchmarkResult,
        (l.filter fun b' => b'.About b.implementationId b.capabilityId).count b = l.count b :=
      fun l => List.count_filter (decide_eq_true ⟨rfl, rfl⟩)
    have hfilter := congrArg (List.count b) (h b.implementationId b.capabilityId)
    rw [relevantBenchmarks_eq, hself, hself] at hfilter
    exact hfilter.symm
  have hmem : ∀ b ∈ recorded cs, (run cs).benchmarks.get? b.benchmarkId = some b := by
    intro b hb
    have hin : b ∈ (run cs).benchmarks.values := by
      rw [← List.count_pos_iff, ← hcount, List.count_pos_iff]
      exact hb
    obtain ⟨k, hk⟩ := Dict.exists_get?_of_mem_values hin
    rw [benchmarks_keyed cs hk]
    exact hk
  refine List.Nodup.map_on (fun b hb b' hb' hid => ?_) ?_
  · -- two results under one id are one
    have hget := hmem b hb
    rw [hid, hmem b' hb'] at hget
    exact (Option.some.inj hget).symm
  · rw [List.nodup_iff_count_le_one]
    intro b
    rw [hcount]
    exact List.nodup_iff_count_le_one.1 hvalues b

/-- **When evidence is isolated**: when every benchmark id is recorded once. -/
theorem evidence_isolated_iff (cs : List Call) :
    EvidenceIsolated cs ↔ ((recorded cs).map (·.benchmarkId)).Nodup := by
  constructor
  · intro h
    exact nodup_of_counts (h.counts cs [] (List.append_nil cs).symm)
  · intro h
    have hpart : ∀ before after, cs = before ++ after →
        ((recorded before).map (·.benchmarkId)).Nodup := by
      rintro before after rfl
      rw [recorded, List.filterMap_append, List.map_append] at h
      exact (List.nodup_append.1 h).1
    have hcounts : ∀ before after, cs = before ++ after → ∀ implId capabilityId,
        (run before).relevantBenchmarks implId capabilityId =
          (recorded before).filter fun b => b.About implId capabilityId := by
      intro before after hcs implId capabilityId
      rw [relevantBenchmarks_eq, values_run (hpart before after hcs)]
    refine ⟨fun before b after hcs implId capabilityId hb => .of_relevant ?_, hcounts⟩
    have hcs' : cs = (before ++ [.addBenchmarkResult b]) ++ after := by
      rw [hcs, List.append_assoc]
      rfl
    rw [hcounts _ _ hcs', hcounts _ _ hcs, recorded_concat, List.filter_append]
    simp [Call.result?, hb]

/-- A result of one benchmark. -/
def benchmarked (implementationId : String) (score : ℚ) : BenchmarkResult :=
  ⟨"sum_blind_001", implementationId, "text.summarization", score, 9 / 10, 1⟩

/-- The benchmark is run against a second implementation. -/
def secondRun : List Call :=
  [.addBenchmarkResult (benchmarked "qwen3-8b" (9 / 10)),
    .addBenchmarkResult (benchmarked "luna" (1 / 2))]

/-- What was known of the first one is gone. -/
theorem not_evidence_isolated :
    ¬ EvidenceIsolated secondRun ∧
      (run (secondRun.take 1)).getBenchmarkStats "qwen3-8b" "text.summarization" =
        (9 / 10, 9 / 10, 1) ∧
      (run secondRun).getBenchmarkStats "qwen3-8b" "text.summarization" = (0, 0, 0) := by
  refine ⟨fun h => ?_, ?_, ?_⟩
  · have hnodup : ((recorded secondRun).map (·.benchmarkId)).Nodup :=
      nodup_of_counts (h.counts secondRun [] rfl)
    exact absurd hnodup (by decide)
  · decide +kernel
  · decide +kernel

end LocalIntelligenceLayer

end Intelligence

end AnnyRuntime
