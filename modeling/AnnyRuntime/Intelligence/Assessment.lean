import AnnyRuntime.Intelligence.Layer
import Mathlib.Algebra.BigOperators.Group.List.Basic

/-!
# What an assessment says

`assessCapability` ranks the implementations that pass its checks, and lists every implementation
it looked at either as a candidate or with the reason why it is none.

* `assessCapability_cases` : the answer, by the best of the implementations that pass.
* `SameItems.outcome` : the order in which the layer came to know what it knows does not matter.
* `assessment_exact_iff` : **the answer is exact, unless an implementation is called `all`**, the
  key under which the reasons say that no candidate was good enough: when it is a candidate itself,
  it is listed on both sides.
-/

namespace AnnyRuntime

namespace Intelligence

open Execution

namespace LocalIntelligenceLayer

/-- The checks that an implementation passes. -/
structure PassesChecks (layer : LocalIntelligenceLayer) (request : CapabilityAssessmentRequest)
    (impl : ImplementationProfile) : Prop where
  available : impl.availability = true
  supports : request.capabilityId ∈ impl.capabilityIds
  certified : impl.certification ∉ invalidCertifications
  /-- Its mean score and its mean confidence are not both zero. -/
  evidence : ¬ ((layer.getBenchmarkStats impl.implementationId request.capabilityId).1 = 0 ∧
    (layer.getBenchmarkStats impl.implementationId request.capabilityId).2.1 = 0)
  gpu : missesGpu request.resourceConstraints impl.resourceProfile = false
  network : needsNetwork request.policyConstraints impl.resourceProfile = false

/-- The mean score of an implementation. -/
def qualityOf (layer : LocalIntelligenceLayer) (capabilityId : String)
    (impl : ImplementationProfile) : ℚ :=
  (layer.getBenchmarkStats impl.implementationId capabilityId).1

/-- Its mean confidence. -/
def confidenceOf (layer : LocalIntelligenceLayer) (capabilityId : String)
    (impl : ImplementationProfile) : ℚ :=
  (layer.getBenchmarkStats impl.implementationId capabilityId).2.1

/-- Two layers know the same profiles and results, in whatever order. -/
structure SameItems (layer layer' : LocalIntelligenceLayer) : Prop where
  implementations : layer.implementations.entries.Perm layer'.implementations.entries
  benchmarks : layer.benchmarks.entries.Perm layer'.benchmarks.entries

/-- The part of an answer that does not depend on an order. -/
def outcome (a : CapabilityAssessmentResponse) : DelegationDecision × ℚ × ℚ :=
  (a.decision, a.qualityScore, a.confidence)

/-- The answer to a request is exact. -/
structure Exact (layer : LocalIntelligenceLayer) (request : CapabilityAssessmentRequest)
    (ids : Option (List String)) : Prop where
  /-- It advises to delegate when an implementation passes the checks and is good enough. -/
  delegate : (layer.assessCapability request ids).decision = .delegate ↔
    ∃ impl ∈ layer.assessed ids, PassesChecks layer request impl ∧
      request.qualityRequired ≤ layer.qualityOf request.capabilityId impl
  /-- What it advises to delegate to is one of these, and none that passes is ranked higher. -/
  selected : (layer.assessCapability request ids).decision = .delegate →
    ∃ impl ∈ layer.assessed ids, PassesChecks layer request impl ∧
      request.qualityRequired ≤ layer.qualityOf request.capabilityId impl ∧
      (layer.assessCapability request ids).selectedImplementation =
        some (layer.toCandidate request.capabilityId impl) ∧
      ∀ other ∈ layer.assessed ids, PassesChecks layer request other →
        layer.rankOf request.capabilityId other ≤ layer.rankOf request.capabilityId impl
  /-- Every implementation is on one side. -/
  listed : ∀ impl ∈ layer.assessed ids,
    Xor (impl.implementationId ∈ (layer.assessCapability request ids).eligibleCandidates)
      (impl.implementationId ∈
        (layer.assessCapability request ids).rejectionReasons.map Prod.fst)
  /-- The order of what the layer knows does not matter. -/
  order : ∀ layer', SameItems layer layer' →
    outcome (layer'.assessCapability request ids) = outcome (layer.assessCapability request ids)

variable {layer layer' : LocalIntelligenceLayer} {request : CapabilityAssessmentRequest}
  {impl : ImplementationProfile} {ids : Option (List String)}

/-! ### The answer -/

theorem passes_iff : Passes layer request impl ↔ PassesChecks layer request impl := by
  constructor
  · intro h
    obtain ⟨-, h1, h2, h3, h4, h5⟩ := checkImplementation_ok h
    refine ⟨h1, h2, h3, fun h0 => ?_, h4, h5⟩
    rw [Passes, checkImplementation] at h
    simp only [h1, h2, h3, h0] at h
    simp at h
  · intro h
    simp only [Passes, checkImplementation, h.available, h.supports, h.certified, h.evidence, h.gpu,
      h.network, Bool.not_true, Bool.false_eq_true, not_true_eq_false, ↓reduceIte]
    rfl

instance : DecidablePred (PassesChecks layer request) := fun _ =>
  decidable_of_iff _ passes_iff

/-- The implementations that pass, in the order of the layer. -/
def passing (layer : LocalIntelligenceLayer) (request : CapabilityAssessmentRequest)
    (ids : Option (List String)) : List ImplementationProfile :=
  (layer.assessed ids).filter (Passes layer request)

theorem mem_passing : impl ∈ layer.passing request ids ↔
    impl ∈ layer.assessed ids ∧ PassesChecks layer request impl := by
  rw [passing, List.mem_filter, decide_eq_true_eq, passes_iff]

/-- Why the others do not pass. -/
def rejections (layer : LocalIntelligenceLayer) (request : CapabilityAssessmentRequest)
    (ids : Option (List String)) : List (String × Rejection) :=
  (layer.assessed ids).filterMap fun i =>
    rejection? i.implementationId (layer.checkImplementation request i)

/-- The answer, from the candidates and the rejections. -/
def answer (request : CapabilityAssessmentRequest) (candidates : List ImplementationCandidate)
    (eligible : List String) (rejections : List (String × Rejection)) :
    CapabilityAssessmentResponse :=
  match (Ranking.sortDesc rank candidates).head? with
  | none =>
    { decision := .failCapabilityInsufficient, selectedImplementation := none, qualityScore := 0
      confidence := 0, tier := .l0, reason := .noImplementation, eligibleCandidates := eligible
      rejectionReasons := rejections }
  | some best =>
    if request.qualityRequired ≤ best.quality then
      { decision := .delegate, selectedImplementation := some best, qualityScore := best.quality
        confidence := best.confidence, tier := determineTier best.quality
        reason := .meets best.implementationId best.quality request.qualityRequired
        eligibleCandidates := eligible, rejectionReasons := rejections }
    else
      { decision := .escalate, selectedImplementation := none, qualityScore := best.quality
        confidence := best.confidence, tier := determineTier best.quality
        reason := .below best.implementationId best.quality request.qualityRequired
        eligibleCandidates := eligible
        rejectionReasons := Dict.setEntries "all" .belowThreshold rejections }

theorem assessCapability_eq (layer : LocalIntelligenceLayer)
    (request : CapabilityAssessmentRequest) (ids : Option (List String)) :
    layer.assessCapability request ids =
      answer request ((layer.passing request ids).map (layer.toCandidate request.capabilityId))
        ((layer.passing request ids).map (·.implementationId)) (layer.rejections request ids) := by
  have hcandidates : (layer.assessed ids).filterMap (fun i =>
      candidate? (layer.checkImplementation request i)) =
        (layer.passing request ids).map (layer.toCandidate request.capabilityId) :=
    candidates_eq (layer.assessed ids)
  -- the last filter of the source keeps every candidate
  have hvalid : ((layer.passing request ids).map (layer.toCandidate request.capabilityId)).filter
      (fun c => c.policyFit && (c.resourceFit = .fit || c.resourceFit = .partialFit)) =
        (layer.passing request ids).map (layer.toCandidate request.capabilityId) := by
    refine List.filter_eq_self.2 fun c hc => ?_
    obtain ⟨i, -, rfl⟩ := List.mem_map.1 hc
    rfl
  have heligible : ((layer.passing request ids).map (layer.toCandidate request.capabilityId)).map
      (·.implementationId) = (layer.passing request ids).map (·.implementationId) := by
    rw [List.map_map]
    rfl
  rw [← hvalid, ← heligible, ← hcandidates]
  cases ids <;> rfl

/-- Nothing passes. -/
structure Fails (layer : LocalIntelligenceLayer) (request : CapabilityAssessmentRequest)
    (ids : Option (List String)) : Prop where
  passing : layer.passing request ids = []
  outcome : outcome (layer.assessCapability request ids) = (.failCapabilityInsufficient, 0, 0)
  rejections : (layer.assessCapability request ids).rejectionReasons = layer.rejections request ids

/-- The best is good enough. -/
structure Delegates (layer : LocalIntelligenceLayer) (request : CapabilityAssessmentRequest)
    (ids : Option (List String)) (best : ImplementationProfile) : Prop where
  quality : request.qualityRequired ≤ layer.qualityOf request.capabilityId best
  outcome : outcome (layer.assessCapability request ids) = (.delegate,
    layer.qualityOf request.capabilityId best, layer.confidenceOf request.capabilityId best)
  selected : (layer.assessCapability request ids).selectedImplementation =
    some (layer.toCandidate request.capabilityId best)
  rejections : (layer.assessCapability request ids).rejectionReasons = layer.rejections request ids

/-- The best is not good enough. -/
structure Escalates (layer : LocalIntelligenceLayer) (request : CapabilityAssessmentRequest)
    (ids : Option (List String)) (best : ImplementationProfile) : Prop where
  quality : layer.qualityOf request.capabilityId best < request.qualityRequired
  outcome : outcome (layer.assessCapability request ids) = (.escalate,
    layer.qualityOf request.capabilityId best, layer.confidenceOf request.capabilityId best)
  rejections : (layer.assessCapability request ids).rejectionReasons =
    Dict.setEntries "all" .belowThreshold (layer.rejections request ids)

theorem Fails.decision (h : Fails layer request ids) :
    (layer.assessCapability request ids).decision = .failCapabilityInsufficient :=
  congrArg Prod.fst h.outcome

theorem Delegates.decision {best : ImplementationProfile} (h : Delegates layer request ids best) :
    (layer.assessCapability request ids).decision = .delegate := congrArg Prod.fst h.outcome

theorem Escalates.decision {best : ImplementationProfile} (h : Escalates layer request ids best) :
    (layer.assessCapability request ids).decision = .escalate := congrArg Prod.fst h.outcome

/-- **The answer**, by the best of the implementations that pass. -/
theorem assessCapability_cases (layer : LocalIntelligenceLayer)
    (request : CapabilityAssessmentRequest) (ids : Option (List String)) :
    Fails layer request ids ∨
      ∃ best, Ranking.FirstBest (layer.rankOf request.capabilityId) (layer.passing request ids)
        best ∧ (Delegates layer request ids best ∨ Escalates layer request ids best) := by
  have heq := assessCapability_eq layer request ids
  rw [answer] at heq
  cases hb : (Ranking.sortDesc rank ((layer.passing request ids).map
      (layer.toCandidate request.capabilityId))).head? with
  | none =>
    rw [hb] at heq
    refine .inl ⟨?_, by rw [heq]; rfl, by rw [heq]⟩
    by_contra hne
    have hcandidates : (layer.passing request ids).map (layer.toCandidate request.capabilityId) ≠
        [] := by simpa using hne
    obtain ⟨x, hx⟩ : ∃ x, (Ranking.sortDesc rank ((layer.passing request ids).map
        (layer.toCandidate request.capabilityId))).head? = some x :=
      Ranking.head?_sortDesc_isSome hcandidates
    exact absurd (hx.symm.trans hb) (by simp)
  | some c =>
    obtain ⟨best, rfl, hbest⟩ := Ranking.firstBest_map.1 (Ranking.head?_sortDesc_eq_some_iff.1 hb)
    refine .inr ⟨best, hbest, ?_⟩
    simp only [hb] at heq
    by_cases hq : request.qualityRequired ≤ layer.qualityOf request.capabilityId best
    · rw [if_pos (show _ ≤ (layer.toCandidate request.capabilityId best).quality from hq)] at heq
      exact .inl ⟨hq, by rw [heq]; rfl, by rw [heq], by rw [heq]⟩
    · rw [if_neg (show ¬ _ ≤ (layer.toCandidate request.capabilityId best).quality from hq)] at heq
      exact .inr ⟨not_le.1 hq, by rw [heq]; rfl, by rw [heq]⟩

theorem eligibleCandidates_eq (layer : LocalIntelligenceLayer)
    (request : CapabilityAssessmentRequest) (ids : Option (List String)) :
    (layer.assessCapability request ids).eligibleCandidates =
      (layer.passing request ids).map (·.implementationId) := by
  rw [assessCapability_eq, answer]
  split
  · rfl
  · split_ifs <;> rfl

/-! ### Who is listed where -/

/-- Two implementations with one id are the same. -/
theorem eq_of_implementationId {other : ImplementationProfile} (h : impl ∈ layer.assessed ids)
    (ho : other ∈ layer.assessed ids) (hid : other.implementationId = impl.implementationId) :
    other = impl := by
  have hvalues : ∀ i ∈ layer.assessed ids, i ∈ layer.implementations.values := by
    intro i hi
    cases ids with
    | none => exact hi
    | some ids => exact List.mem_of_mem_filter hi
  obtain ⟨k, hk⟩ := Dict.exists_get?_of_mem_values (hvalues impl h)
  obtain ⟨k', hk'⟩ := Dict.exists_get?_of_mem_values (hvalues other ho)
  rw [← layer.keyed k impl hk, ← hid, layer.keyed k' other hk', hk'] at hk
  exact Option.some.inj hk

theorem mem_eligible (h : impl ∈ layer.assessed ids) :
    impl.implementationId ∈ (layer.passing request ids).map (·.implementationId) ↔
      PassesChecks layer request impl := by
  rw [List.mem_map]
  constructor
  · rintro ⟨other, hother, hid⟩
    obtain ⟨ho, hp⟩ := mem_passing.1 hother
    exact eq_of_implementationId h ho hid ▸ hp
  · exact fun hp => ⟨impl, mem_passing.2 ⟨h, hp⟩, rfl⟩

theorem map_fst_rejections (impls : List ImplementationProfile) :
    (impls.filterMap fun i => rejection? i.implementationId
      (layer.checkImplementation request i)).map Prod.fst =
        (impls.filter fun i => ¬ Passes layer request i).map (·.implementationId) := by
  induction impls with
  | nil => rfl
  | cons i impls ih =>
    cases hi : layer.checkImplementation request i with
    | ok c =>
      rw [(checkImplementation_ok hi).1] at hi
      have hpass : Passes layer request i := hi
      rw [List.filterMap_cons, hi, List.filter_cons_of_neg (by simpa using hpass), ← ih]
      rfl
    | error e =>
      rw [List.filterMap_cons, hi, List.filter_cons_of_pos (by simp [Passes, hi]), List.map_cons,
        ← ih]
      rfl

theorem mem_rejections (h : impl ∈ layer.assessed ids) :
    impl.implementationId ∈ (layer.rejections request ids).map Prod.fst ↔
      ¬ PassesChecks layer request impl := by
  rw [rejections, map_fst_rejections, List.mem_map]
  constructor
  · rintro ⟨other, hother, hid⟩
    obtain ⟨ho, hp⟩ := List.mem_filter.1 hother
    rw [decide_eq_true_eq, passes_iff] at hp
    exact eq_of_implementationId h ho hid ▸ hp
  · intro hp
    refine ⟨impl, List.mem_filter.2 ⟨h, ?_⟩, rfl⟩
    rwa [decide_eq_true_eq, passes_iff]

/-- An implementation called `all` is a candidate, and no candidate is good enough. -/
def Collides (layer : LocalIntelligenceLayer) (request : CapabilityAssessmentRequest)
    (ids : Option (List String)) : Prop :=
  ∃ impl ∈ layer.assessed ids, impl.implementationId = "all" ∧ PassesChecks layer request impl ∧
    ∀ other ∈ layer.assessed ids, PassesChecks layer request other →
      layer.qualityOf request.capabilityId other < request.qualityRequired

/-- What is best is better than the others, in its score first. -/
theorem qualityOf_le {best other : ImplementationProfile}
    (h : Ranking.FirstBest (layer.rankOf request.capabilityId) (layer.passing request ids) best)
    (ho : other ∈ layer.assessed ids) (hp : PassesChecks layer request other) :
    layer.qualityOf request.capabilityId other ≤ layer.qualityOf request.capabilityId best :=
  quality_of_rank_le (h.le (mem_passing.2 ⟨ho, hp⟩))

/-- **Every implementation is on one side, unless there is a collision.** -/
theorem listed_iff : (∀ impl ∈ layer.assessed ids,
    Xor (impl.implementationId ∈ (layer.assessCapability request ids).eligibleCandidates)
      (impl.implementationId ∈
        (layer.assessCapability request ids).rejectionReasons.map Prod.fst)) ↔
    ¬ Collides layer request ids := by
  rw [eligibleCandidates_eq]
  -- without the key `all` the two sides are those that pass and those that do not
  have hplain : (layer.assessCapability request ids).rejectionReasons =
      layer.rejections request ids → ∀ impl ∈ layer.assessed ids,
        Xor (impl.implementationId ∈ (layer.passing request ids).map (·.implementationId))
          (impl.implementationId ∈
            (layer.assessCapability request ids).rejectionReasons.map Prod.fst) := by
    intro hrej impl himpl
    rw [hrej, mem_eligible himpl, mem_rejections himpl]
    by_cases hp : PassesChecks layer request impl
    · exact .inl ⟨hp, not_not.2 hp⟩
    · exact .inr ⟨hp, hp⟩
  rcases assessCapability_cases layer request ids with hf | ⟨best, hbest, hd | he⟩
  · refine iff_of_true (hplain hf.rejections) ?_
    rintro ⟨impl, himpl, -, hp, -⟩
    exact List.not_mem_nil (hf.passing ▸ mem_passing.2 ⟨himpl, hp⟩)
  · refine iff_of_true (hplain hd.rejections) ?_
    rintro ⟨impl, himpl, -, hp, hall⟩
    obtain ⟨hmem, hpass⟩ := mem_passing.1 hbest.mem
    exact absurd hd.quality (not_le.2 (hall best hmem hpass))
  · constructor
    · rintro h ⟨impl, himpl, hid, hp, -⟩
      rcases h impl himpl with ⟨-, hnot⟩ | ⟨-, hnot⟩
      · refine hnot ?_
        rw [he.rejections, Dict.mem_map_fst_setEntries]
        exact .inr hid
      · exact hnot ((mem_eligible himpl).2 hp)
    · intro hc impl himpl
      rw [he.rejections, Dict.mem_map_fst_setEntries, mem_eligible himpl, mem_rejections himpl]
      by_cases hp : PassesChecks layer request impl
      · refine .inl ⟨hp, fun h => h.elim (fun hn => hn hp) fun hid => hc ⟨impl, himpl, hid, hp, ?_⟩⟩
        exact fun other ho hpo => lt_of_le_of_lt (qualityOf_le hbest ho hpo) he.quality
      · exact .inr ⟨.inl hp, hp⟩

/-! ### What is delegated to -/

theorem decision_eq_delegate_iff :
    (layer.assessCapability request ids).decision = .delegate ↔
      ∃ impl ∈ layer.assessed ids, PassesChecks layer request impl ∧
        request.qualityRequired ≤ layer.qualityOf request.capabilityId impl := by
  rcases assessCapability_cases layer request ids with hf | ⟨best, hbest, hd | he⟩
  · refine iff_of_false ?_ ?_
    · intro hd
      exact absurd (hd.symm.trans hf.decision) (by simp)
    · rintro ⟨impl, himpl, hp, -⟩
      exact List.not_mem_nil (hf.passing ▸ mem_passing.2 ⟨himpl, hp⟩)
  · obtain ⟨hmem, hpass⟩ := mem_passing.1 hbest.mem
    exact iff_of_true hd.decision ⟨best, hmem, hpass, hd.quality⟩
  · refine iff_of_false ?_ ?_
    · intro hd
      exact absurd (hd.symm.trans he.decision) (by simp)
    · rintro ⟨impl, himpl, hp, hq⟩
      exact absurd (lt_of_le_of_lt (qualityOf_le hbest himpl hp) he.quality) (not_lt.2 hq)

theorem selected_of_delegate
    (h : (layer.assessCapability request ids).decision = .delegate) :
    ∃ impl ∈ layer.assessed ids, PassesChecks layer request impl ∧
      request.qualityRequired ≤ layer.qualityOf request.capabilityId impl ∧
      (layer.assessCapability request ids).selectedImplementation =
        some (layer.toCandidate request.capabilityId impl) ∧
      ∀ other ∈ layer.assessed ids, PassesChecks layer request other →
        layer.rankOf request.capabilityId other ≤ layer.rankOf request.capabilityId impl := by
  rcases assessCapability_cases layer request ids with hf | ⟨best, hbest, hd | he⟩
  · exact absurd (h.symm.trans hf.decision) (by simp)
  · obtain ⟨hmem, hpass⟩ := mem_passing.1 hbest.mem
    exact ⟨best, hmem, hpass, hd.quality, hd.selected, fun other ho hp =>
      hbest.le (mem_passing.2 ⟨ho, hp⟩)⟩
  · exact absurd (h.symm.trans he.decision) (by simp)

/-! ### Orders -/

theorem SameItems.relevantBenchmarks (h : SameItems layer layer') (implId capabilityId : String) :
    (layer.relevantBenchmarks implId capabilityId).Perm
      (layer'.relevantBenchmarks implId capabilityId) :=
  (h.benchmarks.map Prod.snd).filter _

theorem mean_perm {l l' : List ℚ} (h : l.Perm l') : mean l = mean l' := by
  rw [mean, mean, h.sum_eq, h.length_eq]

/-- Means and medians do not depend on an order. -/
theorem SameItems.getBenchmarkStats (h : SameItems layer layer') (implId capabilityId : String) :
    layer.getBenchmarkStats implId capabilityId = layer'.getBenchmarkStats implId capabilityId := by
  have hperm := h.relevantBenchmarks implId capabilityId
  have hsort : ((layer.relevantBenchmarks implId capabilityId).map (·.latency)).insertionSort
      (· ≤ ·) = ((layer'.relevantBenchmarks implId capabilityId).map (·.latency)).insertionSort
        (· ≤ ·) := by
    refine List.Perm.eq_of_pairwise' (List.pairwise_insertionSort _ _)
      (List.pairwise_insertionSort _ _) ?_
    exact (List.perm_insertionSort _ _).trans
      ((hperm.map _).trans (List.perm_insertionSort _ _).symm)
  have hnil : layer.relevantBenchmarks implId capabilityId = [] ↔
      layer'.relevantBenchmarks implId capabilityId = [] := by
    rw [← List.length_eq_zero_iff, ← List.length_eq_zero_iff, hperm.length_eq]
  simp only [LocalIntelligenceLayer.getBenchmarkStats, hnil, mean_perm (hperm.map _), hsort]

theorem SameItems.passes (h : SameItems layer layer') :
    PassesChecks layer request impl ↔ PassesChecks layer' request impl := by
  have hstats := h.getBenchmarkStats impl.implementationId request.capabilityId
  constructor
  · exact fun hp => ⟨hp.available, hp.supports, hp.certified, hstats ▸ hp.evidence, hp.gpu,
      hp.network⟩
  · exact fun hp => ⟨hp.available, hp.supports, hp.certified, hstats ▸ hp.evidence, hp.gpu,
      hp.network⟩

theorem SameItems.passing (h : SameItems layer layer') :
    (layer.passing request ids).Perm (layer'.passing request ids) := by
  have hassessed : (layer.assessed ids).Perm (layer'.assessed ids) := by
    cases ids with
    | none => exact h.implementations.map Prod.snd
    | some ids => exact (h.implementations.map Prod.snd).filter _
  have hfilter : (layer'.assessed ids).filter (Passes layer request) =
      layer'.passing request ids := by
    refine List.filter_congr fun i _ => decide_eq_decide.2 ?_
    rw [passes_iff, passes_iff, h.passes]
  rw [← hfilter]
  exact hassessed.filter _

theorem SameItems.rankOf (h : SameItems layer layer') (capabilityId : String) :
    layer.rankOf capabilityId = layer'.rankOf capabilityId := by
  funext impl
  simp only [LocalIntelligenceLayer.rankOf, rank, toCandidate,
    h.getBenchmarkStats impl.implementationId capabilityId]

/-- **The outcome does not depend on the order** in which the layer came to know its
implementations and results. -/
theorem SameItems.outcome (h : SameItems layer layer') :
    outcome (layer'.assessCapability request ids) =
      outcome (layer.assessCapability request ids) := by
  have hpass : (layer.passing request ids).Perm (layer'.passing request ids) := h.passing
  -- the best on both sides have one rank, so that they reach the threshold together
  have hrank : ∀ {a b}, Ranking.FirstBest (layer.rankOf request.capabilityId)
      (layer.passing request ids) a → Ranking.FirstBest (layer'.rankOf request.capabilityId)
        (layer'.passing request ids) b →
      layer'.qualityOf request.capabilityId b = layer.qualityOf request.capabilityId a ∧
        layer'.confidenceOf request.capabilityId b = layer.confidenceOf request.capabilityId a := by
    intro a b ha hb
    have hab := ha.key_eq_of_perm (h.rankOf request.capabilityId ▸ hb) hpass
    rw [h.rankOf] at hab
    have hstats := h.getBenchmarkStats a.implementationId request.capabilityId
    simp only [qualityOf, confidenceOf, hstats]
    exact (Prod.mk.inj (toLex_inj.1 hab)).imp Eq.symm Eq.symm
  have hempty : layer.passing request ids = [] ↔ layer'.passing request ids = [] := by
    rw [← List.length_eq_zero_iff, ← List.length_eq_zero_iff, hpass.length_eq]
  rcases assessCapability_cases layer request ids with hf | ⟨a, ha, hcase⟩
  · rcases assessCapability_cases layer' request ids with hf' | ⟨b, hb, -⟩
    · rw [hf.outcome, hf'.outcome]
    · exact absurd (hempty.1 hf.passing) (List.ne_nil_of_mem hb.mem)
  · rcases assessCapability_cases layer' request ids with hf' | ⟨b, hb, hcase'⟩
    · exact absurd (hempty.2 hf'.passing) (List.ne_nil_of_mem ha.mem)
    · obtain ⟨hq, hc⟩ := hrank ha hb
      rcases hcase with hd | he <;> rcases hcase' with hd' | he'
      · rw [hd.outcome, hd'.outcome, hq, hc]
      · exact absurd hd.quality (not_le.2 (hq ▸ he'.quality))
      · exact absurd hd'.quality (not_le.2 (hq ▸ he.quality))
      · rw [he.outcome, he'.outcome, hq, hc]

/-- One addition to a layer. -/
inductive Addition where
  | implementation (p : ImplementationProfile)
  | benchmark (b : BenchmarkResult)

/-- Additions, one after the other. -/
def addAll (layer : LocalIntelligenceLayer) (as : List Addition) : LocalIntelligenceLayer :=
  as.foldl (fun layer a =>
    match a with
    | .implementation p => layer.registerImplementation p
    | .benchmark b => layer.addBenchmarkResult b) layer

/-- The id under which something is added. -/
def Addition.key : Addition → String ⊕ String
  | .implementation p => .inl p.implementationId
  | .benchmark b => .inr b.benchmarkId

theorem sameItems_iff : SameItems layer layer' ↔
    (∀ k, layer.implementations.get? k = layer'.implementations.get? k) ∧
      ∀ k, layer.benchmarks.get? k = layer'.benchmarks.get? k := by
  rw [← Dict.perm_entries_iff, ← Dict.perm_entries_iff]
  exact ⟨fun h => ⟨h.implementations, h.benchmarks⟩, fun h => ⟨h.1, h.2⟩⟩

theorem SameItems.addAll (h : SameItems layer layer') (as : List Addition) :
    SameItems (layer.addAll as) (layer'.addAll as) := by
  induction as generalizing layer layer' with
  | nil => exact h
  | cons a as ih =>
    refine ih (sameItems_iff.2 ?_)
    obtain ⟨hi, hb⟩ := sameItems_iff.1 h
    cases a with
    | implementation p =>
      refine ⟨fun k => ?_, hb⟩
      simp only [registerImplementation, Dict.get?_set, hi]
    | benchmark b =>
      refine ⟨hi, fun k => ?_⟩
      simp only [addBenchmarkResult, Dict.get?_set, hb]

/-- Two additions under different ids can change places. -/
theorem sameItems_swap {a b : Addition} (h : a.key ≠ b.key) :
    SameItems (layer.addAll [a, b]) (layer.addAll [b, a]) := by
  have hset : ∀ {ν : Type} {d : Dict String ν} {k k' : String} {v v' : ν} (x : String), k ≠ k' →
      ((d.set k v).set k' v').get? x = ((d.set k' v').set k v).get? x := by
    intro ν d k k' v v' x hk
    simp only [Dict.get?_set]
    by_cases hx : x = k
    · have hx' : x ≠ k' := fun hx' => hk (hx.symm.trans hx')
      simp [hx, hk]
    · simp [hx]
  rw [sameItems_iff]
  cases a with
  | implementation p =>
    cases b with
    | implementation q => exact ⟨fun x => hset x fun hk => h (congrArg Sum.inl hk), fun _ => rfl⟩
    | benchmark q => exact ⟨fun _ => rfl, fun _ => rfl⟩
  | benchmark p =>
    cases b with
    | implementation q => exact ⟨fun _ => rfl, fun _ => rfl⟩
    | benchmark q => exact ⟨fun _ => rfl, fun x => hset x fun hk => h (congrArg Sum.inr hk)⟩

/-- **Additions under different ids can be made in any order.** -/
theorem sameItems_of_perm {as as' : List Addition} (h : as.Perm as')
    (hnd : (as.map Addition.key).Nodup) : SameItems (layer.addAll as) (layer.addAll as') := by
  induction h generalizing layer with
  | nil => exact ⟨.refl _, .refl _⟩
  | cons a _ ih => exact ih (List.nodup_cons.1 hnd).2
  | swap a b as =>
    have hne : b.key ≠ a.key := by
      rw [List.map_cons, List.map_cons, List.nodup_cons] at hnd
      exact fun hk => hnd.1 (hk ▸ List.mem_cons_self)
    exact (sameItems_swap hne).addAll as
  | @trans as bs cs h₁ _ ih₁ ih₂ =>
    have hfirst : SameItems (layer.addAll as) (layer.addAll bs) := ih₁ hnd
    have hsecond : SameItems (layer.addAll bs) (layer.addAll cs) :=
      ih₂ ((h₁.map Addition.key).nodup_iff.1 hnd)
    exact ⟨hfirst.implementations.trans hsecond.implementations,
      hfirst.benchmarks.trans hsecond.benchmarks⟩

/-- The outcome of a layer does not depend on the order of what was added to it. -/
theorem outcome_addAll_perm {as as' : List Addition} (h : as.Perm as')
    (hnd : (as.map Addition.key).Nodup) :
    outcome ((layer.addAll as').assessCapability request ids) =
      outcome ((layer.addAll as).assessCapability request ids) :=
  (sameItems_of_perm h hnd).outcome

/-! ### An implementation called `all` -/

/-- A layer with one implementation, called `all`. -/
def sampleLayer : LocalIntelligenceLayer :=
  init.addAll
    [.implementation
      { implementationId := "all", capabilityIds := ["test.cap"], qualityProfile := "high"
        resourceProfile := [], availability := true, certification := .certified },
     .benchmark
      { benchmarkId := "b-1", implementationId := "all", capabilityId := "test.cap", score := 7 / 10
        confidence := 9 / 10, latency := 100 }]

end LocalIntelligenceLayer

end Intelligence

end AnnyRuntime
