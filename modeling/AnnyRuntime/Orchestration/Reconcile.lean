import AnnyRuntime.Orchestration.Kernel

/-!
# What reconciling the registries gives

After `reconcileLayer` the layer knows exactly the registered models.  The profile of a model is
`profileOf`, whatever the loops did on the way (`get?_reconcileLayer`), and the profiles come in
the order `rankedModels`: the models that the layer already knew, in its order, and then the
others, in the order of the registry (`values_reconcileLayer`).
-/

namespace AnnyRuntime

namespace Orchestration

namespace Orchestrator

open Execution Intelligence LocalIntelligenceLayer

variable {reg : ModelRegistry} {fe : FrontierExecutor} {layer : LocalIntelligenceLayer}

theorem implementationId_syncProfile (m : ModelDefinition) :
    (syncProfile reg fe m (layer.implementations.get? m.modelId)).implementationId = m.modelId := by
  cases h : layer.implementations.get? m.modelId with
  | none => rfl
  | some p =>
    have hp : p.implementationId = m.modelId := layer.keyed _ _ h
    exact hp

theorem implementations_reconcileModel (m : ModelDefinition) :
    (reconcileModel reg fe layer m).implementations =
      layer.implementations.set m.modelId
        (syncProfile reg fe m (layer.implementations.get? m.modelId)) := by
  change layer.implementations.set _ _ = _
  rw [implementationId_syncProfile]

/-! ### The loop over the models -/

theorem get?_foldl_reconcileModel {ms : List ModelDefinition}
    (hnd : (ms.map ModelDefinition.modelId).Nodup) (id : String) :
    (ms.foldl (reconcileModel reg fe) layer).implementations.get? id =
      match ms.find? fun m => m.modelId = id with
      | some m => some (syncProfile reg fe m (layer.implementations.get? id))
      | none => layer.implementations.get? id := by
  induction ms generalizing layer with
  | nil => rfl
  | cons m ms ih =>
    rw [List.map_cons, List.nodup_cons] at hnd
    rw [List.foldl_cons, ih hnd.2, implementations_reconcileModel, Dict.get?_set]
    by_cases hid : m.modelId = id
    · have hnone : ms.find? (fun m => m.modelId = id) = none :=
        List.find?_eq_none.2 fun m' hm' => by
          rw [decide_eq_true_eq]
          rintro heq
          exact hnd.1 (List.mem_map.2 ⟨m', hm', heq.trans hid.symm⟩)
      rw [hnone, List.find?_cons_of_pos (by simpa using hid)]
      simp only [hid.symm, ↓reduceIte]
    · rw [List.find?_cons_of_neg (by simpa using hid), if_neg (Ne.symm hid)]

theorem find?_listModels (id : String) :
    (reg.listModels.find? fun m => m.modelId = id) = reg.getModel id := by
  cases h : reg.getModel id with
  | some m =>
    have hid := reg.keyed id m h
    have hmem : m ∈ reg.listModels := Dict.mem_values_of_get? h
    cases hf : reg.listModels.find? fun m => m.modelId = id with
    | none => exact absurd hid (by simpa using List.find?_eq_none.1 hf m hmem)
    | some m' =>
      have hid' : m'.modelId = id := by simpa using List.find?_some hf
      have hm' := ModelRegistry.mem_listModels.1 (List.mem_of_find?_eq_some hf)
      rw [hid', h] at hm'
      exact hm'.symm
  | none =>
    refine List.find?_eq_none.2 fun m hm => ?_
    rw [decide_eq_true_eq]
    rintro rfl
    rw [ModelRegistry.mem_listModels, h] at hm
    exact absurd hm (by simp)

theorem nodup_modelIds (reg : ModelRegistry) :
    (reg.listModels.map ModelDefinition.modelId).Nodup := by
  rw [ModelRegistry.map_modelId_listModels]
  exact reg.models.nodup

/-! ### The loop over the profiles -/

theorem get?_foldl_dropUnregistered (ids : List String) (id : String) :
    (ids.foldl (dropUnregistered reg) layer).implementations.get? id =
      if id ∈ ids ∧ reg.models.contains id = false then none
      else layer.implementations.get? id := by
  induction ids generalizing layer with
  | nil => simp
  | cons i ids ih =>
    have hi : (dropUnregistered reg layer i).implementations.get? id =
        if id = i ∧ reg.models.contains id = false then none
        else layer.implementations.get? id := by
      unfold dropUnregistered
      split_ifs with hc heq heq
      · rw [heq.1, hc] at heq
        exact absurd heq.2 (by decide)
      · rfl
      · exact (Dict.get?_erase _ _).trans (if_pos heq.1)
      · refine (Dict.get?_erase _ _).trans (if_neg fun h => heq ⟨h, ?_⟩)
        rw [h]
        simpa using hc
    rw [List.foldl_cons, ih, hi]
    by_cases h1 : reg.models.contains id = false
    · rcases eq_or_ne id i with rfl | h2
      · simp [h1]
      · by_cases h3 : id ∈ ids <;> simp [h1, h2, h3]
    · simp [h1]

/-- The profile of a registered model after the registries are reconciled. -/
def profileOf (reg : ModelRegistry) (fe : FrontierExecutor) (layer : LocalIntelligenceLayer)
    (m : ModelDefinition) : ImplementationProfile :=
  syncProfile reg fe m (layer.implementations.get? m.modelId)

/-- **The reconciled layer**: the registered models, each with its profile, and nothing else. -/
theorem get?_reconcileLayer (id : String) :
    (reconcileLayer reg fe layer).implementations.get? id =
      (reg.getModel id).map (profileOf reg fe layer) := by
  rw [reconcileLayer, get?_foldl_dropUnregistered, get?_foldl_reconcileModel (nodup_modelIds reg),
    find?_listModels]
  cases h : reg.getModel id with
  | some m =>
    have hc : reg.models.contains id = true := by
      change (reg.getModel id).isSome = true
      rw [h]; rfl
    rw [if_neg (by simp [hc])]
    simp only [Option.map_some, profileOf, reg.keyed id m h]
  | none =>
    have hc : reg.models.contains id = false := by
      change (reg.getModel id).isSome = false
      rw [h]; rfl
    simp only [hc, and_true, Option.map_none]
    split_ifs with hk
    · rfl
    · rw [← Dict.get?_eq_none_iff, get?_foldl_reconcileModel (nodup_modelIds reg),
        find?_listModels, h] at hk
      exact hk

theorem benchmarks_reconcileLayer :
    (reconcileLayer reg fe layer).benchmarks = layer.benchmarks := by
  have h1 : ∀ (ms : List ModelDefinition) (l : LocalIntelligenceLayer),
      (ms.foldl (reconcileModel reg fe) l).benchmarks = l.benchmarks := by
    intro ms
    induction ms with
    | nil => intro l; rfl
    | cons m ms ih => intro l; rw [List.foldl_cons, ih]; rfl
  have h2 : ∀ (ids : List String) (l : LocalIntelligenceLayer),
      (ids.foldl (dropUnregistered reg) l).benchmarks = l.benchmarks := by
    intro ids
    induction ids with
    | nil => intro l; rfl
    | cons i ids ih =>
      intro l
      rw [List.foldl_cons, ih]
      unfold dropUnregistered
      split_ifs <;> rfl
  rw [reconcileLayer, h2, h1]

theorem getBenchmarkStats_reconcileLayer (i c : String) :
    (reconcileLayer reg fe layer).getBenchmarkStats i c = layer.getBenchmarkStats i c := by
  unfold getBenchmarkStats relevantBenchmarks
  rw [benchmarks_reconcileLayer]

/-! ### The order of the profiles -/

theorem keys_foldl_reconcileModel {ms : List ModelDefinition}
    (hnd : (ms.map ModelDefinition.modelId).Nodup) :
    (ms.foldl (reconcileModel reg fe) layer).implementations.keys =
      layer.implementations.keys ++
        (ms.map ModelDefinition.modelId).filter (· ∉ layer.implementations.keys) := by
  induction ms generalizing layer with
  | nil => simp
  | cons m ms ih =>
    rw [List.map_cons, List.nodup_cons] at hnd
    rw [List.foldl_cons, ih hnd.2, implementations_reconcileModel, Dict.keys_set, List.map_cons]
    have hne : ∀ i ∈ ms.map ModelDefinition.modelId, i ≠ m.modelId := fun i hi heq =>
      hnd.1 (heq ▸ hi)
    split_ifs with hk
    · rw [List.filter_cons_of_neg (by simpa using hk)]
    · rw [List.filter_cons_of_pos (by simpa using hk), List.append_assoc, List.singleton_append]
      congr 2
      refine List.filter_congr fun i hi => ?_
      simp [hne i hi]

theorem keys_foldl_dropUnregistered (ids : List String) :
    (ids.foldl (dropUnregistered reg) layer).implementations.keys =
      layer.implementations.keys.filter fun i => i ∉ ids ∨ reg.models.contains i = true := by
  induction ids generalizing layer with
  | nil => simp
  | cons i ids ih =>
    rw [List.foldl_cons, ih]
    unfold dropUnregistered
    split_ifs with hc
    · refine List.filter_congr fun j _ => ?_
      by_cases hj : j = i
      · simp [hj, hc]
      · simp [hj]
    · rw [removeImplementation, Dict.keys_erase, List.filter_filter]
      refine List.filter_congr fun j _ => ?_
      by_cases hj : j = i
      · simp [hj, hc]
      · simp [hj]

/-- The registered models in the order of the reconciled layer. -/
def rankedModels (reg : ModelRegistry) (layer : LocalIntelligenceLayer) : List ModelDefinition :=
  ((layer.implementations.keys ++ reg.models.keys.filter (· ∉ layer.implementations.keys)).filterMap
    reg.getModel)

theorem mem_rankedModels {m : ModelDefinition} :
    m ∈ rankedModels reg layer ↔ reg.getModel m.modelId = some m := by
  rw [rankedModels, List.mem_filterMap]
  constructor
  · rintro ⟨i, -, hi⟩
    rw [reg.keyed i m hi]
    exact hi
  · intro h
    refine ⟨m.modelId, ?_, h⟩
    have hk : m.modelId ∈ reg.models.keys := by
      by_contra hk
      rw [← Dict.get?_eq_none_iff] at hk
      exact absurd (h.symm.trans hk) (by simp)
    by_cases hl : m.modelId ∈ layer.implementations.keys
    · exact List.mem_append_left _ hl
    · exact List.mem_append_right _ (List.mem_filter.2 ⟨hk, by simpa using hl⟩)

/-- **The order of the reconciled layer.** -/
theorem values_reconcileLayer :
    (reconcileLayer reg fe layer).implementations.values =
      (rankedModels reg layer).map (profileOf reg fe layer) := by
  have hkeys : (reconcileLayer reg fe layer).implementations.keys =
      (layer.implementations.keys ++
        reg.models.keys.filter (· ∉ layer.implementations.keys)).filter
          fun i => reg.models.contains i = true := by
    rw [reconcileLayer, keys_foldl_dropUnregistered, keys_foldl_reconcileModel (nodup_modelIds reg),
      ModelRegistry.map_modelId_listModels]
    exact List.filter_congr fun i hi =>
      decide_eq_decide.2 ⟨fun h => h.resolve_left (not_not.2 hi), Or.inr⟩
  rw [Dict.values_eq_filterMap, hkeys, rankedModels, List.filterMap_filter, List.map_filterMap]
  refine List.filterMap_congr fun i _ => ?_
  rw [get?_reconcileLayer]
  cases h : reg.getModel i with
  | some m => split_ifs <;> simp_all [Dict.contains, ModelRegistry.getModel]
  | none => split_ifs <;> rfl

end Orchestrator

end Orchestration

end AnnyRuntime
