import AnnyRuntime.Execution.Models
import AnnyRuntime.Lib.Dict
import AnnyRuntime.Lib.Ranking
import Mathlib.Algebra.Order.Ring.Rat
import Mathlib.Data.Prod.Lex

/-!
# The local intelligence layer

The layer knows implementations of capabilities and benchmark results about them.
`assessCapability` looks for the best implementation of a capability: every known implementation
is examined by a list of checks, the ones that pass are ranked by the means of their benchmark
scores and confidences, and the best one is selected if its score reaches the required quality.

Scores, confidences and latencies are rational numbers here.
-/

namespace AnnyRuntime

namespace Intelligence

open Execution

/-- How capable the best implementation is. -/
inductive CapabilityTier where
  | l0
  | l1
  | l2
  | l3
  | l4
  deriving DecidableEq

/-- What the layer advises. -/
inductive DelegationDecision where
  | delegate
  | selfExecute
  | escalate
  | defer
  | failCapabilityInsufficient
  deriving DecidableEq

/-- How the resources fit. -/
inductive ResourceFit where
  | fit
  | partialFit
  | insufficient
  | unknown
  deriving DecidableEq

/-- An implementation that the layer knows. -/
structure ImplementationProfile where
  /-- Its id. -/
  implementationId : String
  /-- The capabilities it supports. -/
  capabilityIds : List String
  qualityProfile : String
  /-- The resources it has and needs. -/
  resourceProfile : List (String × Json)
  /-- It can be used. -/
  availability : Bool
  /-- What the evidence says about it. -/
  certification : CertificationStatus
  /-- What runs it. -/
  executionClass : String := "LOCAL_MODEL"
  deriving DecidableEq

/-- The result of a benchmark. -/
structure BenchmarkResult where
  benchmarkId : String
  implementationId : String
  capabilityId : String
  score : ℚ
  confidence : ℚ
  latency : ℚ
  deriving DecidableEq

/-- An implementation that passed the checks. -/
structure ImplementationCandidate where
  implementationId : String
  executionClass : String
  availability : Bool
  quality : ℚ
  confidence : ℚ
  latency : ℚ
  resourceFit : ResourceFit
  policyFit : Bool
  deriving DecidableEq

/-- What is asked of the layer. -/
structure CapabilityAssessmentRequest where
  capabilityId : String
  /-- The least mean score. -/
  qualityRequired : ℚ
  /-- What the task demands. -/
  resourceConstraints : Option (List (String × Json)) := none
  /-- What the capability allows. -/
  policyConstraints : Option (List (String × String)) := none
  deriving DecidableEq

/-- Why an implementation is not a candidate. -/
inductive Rejection where
  | notAvailable
  | unsupported (capabilityId : String)
  | certificationInvalid (s : CertificationStatus)
  | noEvidence
  | missingGpu
  | networkDenied
  | belowThreshold
  deriving DecidableEq

/-- The text of a rejection. -/
def Rejection.text : Rejection → String
  | notAvailable => "Not available"
  | unsupported capabilityId => "Unsupported capability '" ++ capabilityId ++ "'"
  | certificationInvalid s => "Certification status invalid: " ++ s.value
  | noEvidence => "No valid benchmark evidence found"
  | missingGpu => "Resource fit incompatible: missing GPU"
  | networkDenied =>
    "Policy denial: Implementation requires network access but policy forbids it"
  | belowThreshold => "No candidate met required quality threshold"

/-- The reason of an assessment. -/
inductive AssessmentReason where
  | noImplementation
  | meets (implementationId : String) (quality required : ℚ)
  | below (implementationId : String) (quality required : ℚ)
  deriving DecidableEq

/-- The text of a reason; `num` writes a number. -/
def AssessmentReason.text (num : ℚ → String) : AssessmentReason → String
  | noImplementation => "No available implementations for capability met constraints"
  | meets i q r =>
    "Candidate " ++ i ++ " meets required quality (" ++ num q ++ " >= " ++ num r ++ ")"
  | below i q r =>
    "Best candidate " ++ i ++ " below required quality (" ++ num q ++ " < " ++ num r ++ ")"

/-- What the layer answers. -/
structure CapabilityAssessmentResponse where
  decision : DelegationDecision
  selectedImplementation : Option ImplementationCandidate
  qualityScore : ℚ
  confidence : ℚ
  tier : CapabilityTier
  reason : AssessmentReason
  /-- The implementations that passed the checks. -/
  eligibleCandidates : List String
  /-- Why the others did not. -/
  rejectionReasons : List (String × Rejection)
  deriving DecidableEq

/-- The layer. -/
structure LocalIntelligenceLayer where
  /-- The implementations by their id. -/
  implementations : Dict String ImplementationProfile
  /-- The benchmark results by their id. -/
  benchmarks : Dict String BenchmarkResult
  /-- An implementation is under its own id. -/
  keyed : ∀ k p, implementations.get? k = some p → p.implementationId = k

namespace LocalIntelligenceLayer

/-- A layer that knows only benchmark results. -/
def ofBenchmarks (bs : Dict String BenchmarkResult) : LocalIntelligenceLayer :=
  ⟨Dict.empty, bs, fun _ _ h => absurd h (by simp)⟩

/-- `LocalIntelligenceLayer()`. -/
def init : LocalIntelligenceLayer := ofBenchmarks Dict.empty

/-- `register_implementation`. -/
def registerImplementation (layer : LocalIntelligenceLayer) (p : ImplementationProfile) :
    LocalIntelligenceLayer where
  implementations := layer.implementations.set p.implementationId p
  benchmarks := layer.benchmarks
  keyed k p' h := by
    rw [Dict.get?_set] at h
    split_ifs at h with hk
    · rw [← Option.some.inj h, hk]
    · exact layer.keyed k p' h

/-- `remove_implementation`. -/
def removeImplementation (layer : LocalIntelligenceLayer) (implementationId : String) :
    LocalIntelligenceLayer where
  implementations := layer.implementations.erase implementationId
  benchmarks := layer.benchmarks
  keyed k p h := by
    rw [Dict.get?_erase] at h
    split_ifs at h with hk
    exact layer.keyed k p h

/-- `add_benchmark_result`. -/
def addBenchmarkResult (layer : LocalIntelligenceLayer) (b : BenchmarkResult) :
    LocalIntelligenceLayer where
  implementations := layer.implementations
  benchmarks := layer.benchmarks.set b.benchmarkId b
  keyed := layer.keyed

/-- The benchmark results about an implementation and a capability. -/
def relevantBenchmarks (layer : LocalIntelligenceLayer) (implId capabilityId : String) :
    List BenchmarkResult :=
  layer.benchmarks.values.filter fun b =>
    b.implementationId = implId && b.capabilityId = capabilityId

/-- The mean of a list that is not empty. -/
def mean (l : List ℚ) : ℚ := l.sum / l.length

/-- `_get_benchmark_stats`: the mean score, the mean confidence and the median latency. -/
def getBenchmarkStats (layer : LocalIntelligenceLayer) (implId capabilityId : String) :
    ℚ × ℚ × ℚ :=
  let relevant := layer.relevantBenchmarks implId capabilityId
  if relevant = [] then (0, 0, 0)
  else
    let latencies := (relevant.map (·.latency)).insertionSort (· ≤ ·)
    (mean (relevant.map (·.score)), mean (relevant.map (·.confidence)),
      latencies.getD (latencies.length / 2) 0)

/-- `_determine_tier`. -/
def determineTier (score : ℚ) : CapabilityTier :=
  if 19 / 20 ≤ score then .l4
  else if 9 / 10 ≤ score then .l3
  else if 17 / 20 ≤ score then .l2
  else if 3 / 4 ≤ score then .l1
  else .l0

/-- The certifications that rule an implementation out. -/
def invalidCertifications : List CertificationStatus := [.stale, .requiresRebenchmark, .revoked]

/-- Python's truth value of the value of a key. -/
def truthyKey (k : String) (ms : List (String × Json)) : Bool :=
  ((Json.lookup k ms).map Json.truthy).getD false

/-- The task demands a GPU and the implementation has none. -/
def missesGpu (constraints : Option (List (String × Json))) (resources : List (String × Json)) :
    Bool :=
  truthyKey "requires_gpu" (constraints.getD []) && !truthyKey "gpu_present" resources

/-- The capability forbids the network and the implementation needs it. -/
def needsNetwork (policy : Option (List (String × String))) (resources : List (String × Json)) :
    Bool :=
  (policy.getD []).lookup "network" = some "disabled" && truthyKey "requires_network" resources

/-- The checks of one implementation, in the order of the source. -/
def checkImplementation (layer : LocalIntelligenceLayer) (request : CapabilityAssessmentRequest)
    (impl : ImplementationProfile) : Except Rejection ImplementationCandidate :=
  if !impl.availability then .error .notAvailable
  else if request.capabilityId ∉ impl.capabilityIds then
    .error (.unsupported request.capabilityId)
  else if impl.certification ∈ invalidCertifications then
    .error (.certificationInvalid impl.certification)
  else
    let stats := layer.getBenchmarkStats impl.implementationId request.capabilityId
    if stats.1 = 0 ∧ stats.2.1 = 0 then .error .noEvidence
    else if missesGpu request.resourceConstraints impl.resourceProfile then .error .missingGpu
    else if needsNetwork request.policyConstraints impl.resourceProfile then
      .error .networkDenied
    else
      .ok
        { implementationId := impl.implementationId
          executionClass := impl.executionClass
          availability := impl.availability
          quality := stats.1
          confidence := stats.2.1
          latency := stats.2.2
          resourceFit := .fit
          policyFit := true }

/-- The candidate that a check gives. -/
def candidate? : Except Rejection ImplementationCandidate → Option ImplementationCandidate
  | .ok c => some c
  | .error _ => none

/-- The rejection that a check gives. -/
def rejection? (implId : String) :
    Except Rejection ImplementationCandidate → Option (String × Rejection)
  | .ok _ => none
  | .error e => some (implId, e)

/-- How candidates are ranked. -/
def rank (c : ImplementationCandidate) : ℚ ×ₗ ℚ := toLex (c.quality, c.confidence)

/-- `assess_capability`, over the given implementations, or all. -/
def assessCapability (layer : LocalIntelligenceLayer) (request : CapabilityAssessmentRequest)
    (availableImplementations : Option (List String)) : CapabilityAssessmentResponse :=
  let impls := match availableImplementations with
    | none => layer.implementations.values
    | some ids => layer.implementations.values.filter fun i => i.implementationId ∈ ids
  let candidates := impls.filterMap fun i => candidate? (layer.checkImplementation request i)
  let rejections := impls.filterMap fun i =>
    rejection? i.implementationId (layer.checkImplementation request i)
  let eligible := candidates.map (·.implementationId)
  let validCandidates := candidates.filter fun c =>
    c.policyFit && (c.resourceFit = .fit || c.resourceFit = .partialFit)
  match (Ranking.sortDesc rank validCandidates).head? with
  | none =>
    { decision := .failCapabilityInsufficient
      selectedImplementation := none
      qualityScore := 0
      confidence := 0
      tier := .l0
      reason := .noImplementation
      eligibleCandidates := eligible
      rejectionReasons := rejections }
  | some best =>
    if request.qualityRequired ≤ best.quality then
      { decision := .delegate
        selectedImplementation := some best
        qualityScore := best.quality
        confidence := best.confidence
        tier := determineTier best.quality
        reason := .meets best.implementationId best.quality request.qualityRequired
        eligibleCandidates := eligible
        rejectionReasons := rejections }
    else
      { decision := .escalate
        selectedImplementation := none
        qualityScore := best.quality
        confidence := best.confidence
        tier := determineTier best.quality
        reason := .below best.implementationId best.quality request.qualityRequired
        eligibleCandidates := eligible
        rejectionReasons := Dict.setEntries "all" .belowThreshold rejections }

/-! ### What is selected -/

/-- The implementation passes all checks and its mean score reaches the required quality. -/
structure Qualified (layer : LocalIntelligenceLayer) (request : CapabilityAssessmentRequest)
    (impl : ImplementationProfile) : Prop where
  available : impl.availability = true
  supports : request.capabilityId ∈ impl.capabilityIds
  certified : impl.certification ∉ invalidCertifications
  gpu : missesGpu request.resourceConstraints impl.resourceProfile = false
  network : needsNetwork request.policyConstraints impl.resourceProfile = false
  quality : request.qualityRequired ≤
    (layer.getBenchmarkStats impl.implementationId request.capabilityId).1

/-- The candidate that an implementation becomes. -/
def toCandidate (layer : LocalIntelligenceLayer) (capabilityId : String)
    (impl : ImplementationProfile) : ImplementationCandidate :=
  let stats := layer.getBenchmarkStats impl.implementationId capabilityId
  { implementationId := impl.implementationId
    executionClass := impl.executionClass
    availability := true
    quality := stats.1
    confidence := stats.2.1
    latency := stats.2.2
    resourceFit := .fit
    policyFit := true }

variable {layer : LocalIntelligenceLayer} {request : CapabilityAssessmentRequest}
  {impl : ImplementationProfile} {c : ImplementationCandidate}

theorem checkImplementation_ok (h : layer.checkImplementation request impl = .ok c) :
    c = layer.toCandidate request.capabilityId impl ∧ impl.availability = true ∧
      request.capabilityId ∈ impl.capabilityIds ∧ impl.certification ∉ invalidCertifications ∧
      missesGpu request.resourceConstraints impl.resourceProfile = false ∧
      needsNetwork request.policyConstraints impl.resourceProfile = false := by
  simp only [checkImplementation] at h
  split_ifs at h with h1 h2 h3 h4 h5 h6
  simp only [Bool.not_eq_true', Bool.not_eq_false] at h1
  rw [Bool.not_eq_true] at h5 h6
  refine ⟨?_, h1, h2, h3, h5, h6⟩
  rw [← Except.ok.inj h, h1]
  rfl

theorem checkImplementation_of_qualified (hq : 0 < request.qualityRequired)
    (h : Qualified layer request impl) :
    layer.checkImplementation request impl = .ok (layer.toCandidate request.capabilityId impl) := by
  have hne : ¬ ((layer.getBenchmarkStats impl.implementationId request.capabilityId).1 = 0 ∧
      (layer.getBenchmarkStats impl.implementationId request.capabilityId).2.1 = 0) :=
    fun h0 => absurd h.quality (by rw [h0.1]; exact not_le.2 hq)
  simp only [checkImplementation, h.available, h.supports, h.certified, h.gpu, h.network, hne,
    Bool.not_true, Bool.false_eq_true, not_true_eq_false, ↓reduceIte]
  rfl

theorem qualified_iff_check (hq : 0 < request.qualityRequired) :
    Qualified layer request impl ↔
      ∃ c, layer.checkImplementation request impl = .ok c ∧ request.qualityRequired ≤ c.quality := by
  refine ⟨fun h => ⟨_, checkImplementation_of_qualified hq h, h.quality⟩, ?_⟩
  rintro ⟨c, hc, hqc⟩
  obtain ⟨rfl, h1, h2, h3, h4, h5⟩ := checkImplementation_ok hc
  exact ⟨h1, h2, h3, h4, h5, hqc⟩

instance : Decidable (Qualified layer request impl) :=
  decidable_of_iff (impl.availability = true ∧ request.capabilityId ∈ impl.capabilityIds ∧
    impl.certification ∉ invalidCertifications ∧
    missesGpu request.resourceConstraints impl.resourceProfile = false ∧
    needsNetwork request.policyConstraints impl.resourceProfile = false ∧
    request.qualityRequired ≤
      (layer.getBenchmarkStats impl.implementationId request.capabilityId).1)
    ⟨fun ⟨h1, h2, h3, h4, h5, h6⟩ => ⟨h1, h2, h3, h4, h5, h6⟩,
      fun ⟨h1, h2, h3, h4, h5, h6⟩ => ⟨h1, h2, h3, h4, h5, h6⟩⟩

/-- How the layer ranks an implementation. -/
def rankOf (layer : LocalIntelligenceLayer) (capabilityId : String) (impl : ImplementationProfile) :
    ℚ ×ₗ ℚ := rank (layer.toCandidate capabilityId impl)

/-- The implementations that an assessment looks at. -/
def assessed (layer : LocalIntelligenceLayer) : Option (List String) → List ImplementationProfile
  | none => layer.implementations.values
  | some ids => layer.implementations.values.filter fun i => i.implementationId ∈ ids

/-- The implementation passes the checks. -/
def Passes (layer : LocalIntelligenceLayer) (request : CapabilityAssessmentRequest)
    (impl : ImplementationProfile) : Prop :=
  layer.checkImplementation request impl = .ok (layer.toCandidate request.capabilityId impl)

instance : DecidablePred (Passes layer request) := fun _ =>
  inferInstanceAs (Decidable (_ = _))

theorem candidates_eq (impls : List ImplementationProfile) :
    impls.filterMap (fun i => candidate? (layer.checkImplementation request i)) =
      (impls.filter (Passes layer request)).map (layer.toCandidate request.capabilityId) := by
  induction impls with
  | nil => rfl
  | cons i impls ih =>
    cases hi : layer.checkImplementation request i with
    | ok c =>
      have hc := (checkImplementation_ok hi).1
      rw [hc] at hi
      have hpass : Passes layer request i := hi
      rw [List.filterMap_cons, hi, List.filter_cons_of_pos (by simpa using hpass), ih]
      rfl
    | error e =>
      rw [List.filterMap_cons, hi, List.filter_cons_of_neg (by simp [Passes, hi]), ih]
      rfl

theorem quality_of_rank_le {a b : ImplementationCandidate} (h : rank a ≤ rank b) :
    a.quality ≤ b.quality := by
  rcases Prod.Lex.le_iff.1 h with h | h
  · exact le_of_lt h
  · exact le_of_eq h.1

theorem filter_qualified (hq : 0 < request.qualityRequired) (impls : List ImplementationProfile) :
    impls.filter (Qualified layer request) =
      (impls.filter (Passes layer request)).filter fun i =>
        request.qualityRequired ≤ (layer.toCandidate request.capabilityId i).quality := by
  rw [List.filter_filter]
  refine List.filter_congr fun i _ => decide_eq_decide.2 ?_ |>.trans (Bool.decide_and _ _)
  rw [qualified_iff_check hq]
  constructor
  · rintro ⟨c, hc, hqc⟩
    obtain rfl := (checkImplementation_ok hc).1
    exact ⟨hqc, hc⟩
  · rintro ⟨hqc, hc⟩
    exact ⟨_, hc, hqc⟩

/-- **What an assessment selects.**  A candidate is selected exactly when it is the best ranked of
the implementations that pass all checks and reach the required quality, the first one of several
equals. -/
theorem assessCapability_selects (hq : 0 < request.qualityRequired) {ids : Option (List String)} :
    ((layer.assessCapability request ids).decision = .delegate ∧
        (layer.assessCapability request ids).selectedImplementation = some c) ↔
      ∃ impl, c = layer.toCandidate request.capabilityId impl ∧
        Ranking.FirstBest (layer.rankOf request.capabilityId)
          ((layer.assessed ids).filter (Qualified layer request)) impl := by
  have himpls : (match ids with
      | none => layer.implementations.values
      | some ids => layer.implementations.values.filter fun i => i.implementationId ∈ ids) =
      layer.assessed ids := by cases ids <;> rfl
  have hvalid : ((layer.assessed ids).filterMap fun i =>
        candidate? (layer.checkImplementation request i)).filter (fun c =>
          c.policyFit && (c.resourceFit = .fit || c.resourceFit = .partialFit)) =
      ((layer.assessed ids).filter (Passes layer request)).map
        (layer.toCandidate request.capabilityId) := by
    rw [candidates_eq]
    refine List.filter_eq_self.2 fun c hc => ?_
    obtain ⟨i, -, rfl⟩ := List.mem_map.1 hc
    rfl
  -- the first best of the qualified is the first best candidate, if that one is good enough
  have key : (∃ impl, c = layer.toCandidate request.capabilityId impl ∧
        Ranking.FirstBest (layer.rankOf request.capabilityId)
          ((layer.assessed ids).filter (Qualified layer request)) impl) ↔
      Ranking.FirstBest rank (((layer.assessed ids).filter (Passes layer request)).map
        (layer.toCandidate request.capabilityId)) c ∧ request.qualityRequired ≤ c.quality := by
    rw [filter_qualified hq, Ranking.firstBest_map]
    constructor
    · rintro ⟨impl, rfl, h⟩
      obtain ⟨h, hge⟩ := (Ranking.firstBest_filter fun x y hxy hx =>
        le_trans hx (quality_of_rank_le hxy)).1 h
      exact ⟨⟨impl, rfl, h⟩, hge⟩
    · rintro ⟨⟨impl, rfl, h⟩, hge⟩
      exact ⟨impl, rfl, (Ranking.firstBest_filter fun x y hxy hx =>
        le_trans hx (quality_of_rank_le hxy)).2 ⟨h, hge⟩⟩
  rw [key, ← Ranking.head?_sortDesc_eq_some_iff]
  simp only [assessCapability, himpls, hvalid]
  cases hb : (Ranking.sortDesc rank (((layer.assessed ids).filter (Passes layer request)).map
      (layer.toCandidate request.capabilityId))).head? with
  | none => simp
  | some best =>
    by_cases hle : request.qualityRequired ≤ best.quality
    · simp only [hle, ↓reduceIte, Option.some.injEq, true_and]
      exact ⟨fun h => ⟨h, h ▸ hle⟩, fun h => h.1⟩
    · simp only [hle, ↓reduceIte, Option.some.injEq, reduceCtorEq, false_and, false_iff, not_and]
      rintro rfl
      exact hle

end LocalIntelligenceLayer

end Intelligence

end AnnyRuntime
