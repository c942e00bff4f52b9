import AnnyRuntime.Execution.RegistryFile

/-!
# The durability of the model registry

A registry that was constructed over a storage path writes all its data after every change.  The ids
of the models are strings and their states are those that there are; every other field holds any
JSON value.

* `RegistryData.load_build` : what is built from well-formed data is loaded as that data.
* `OpenRegistry.construct_run` : after any changes, another construction over the same path loads
  the data in memory.
-/

namespace AnnyRuntime

namespace Json

theorem length_of_construct {fs : List Field} {j : Json} {vs : List Json}
    (h : construct fs j = some vs) : vs.length = fs.length := by
  unfold construct at h
  split at h
  · exact length_of_bindKwargs h
  · exact absurd h (by simp)

theorem construct_zip {fs : List Field} (hnd : (fs.map Field.name).Nodup) {vs : List Json}
    (hlen : vs.length = fs.length) : construct fs (.obj (zipFields fs vs)) = some vs :=
  bindKwargs_zip hnd hlen.symm

end Json

namespace Execution

/-! ### Well-formed data -/

/-- The values of a model that is under a key. -/
structure LoadableModel (k : Json.Key) (vs : List Json) : Prop where
  full : vs.length = modelFields.length
  key : ∃ id : Json.Key, vs.head? = some id.1 ∧ id.norm = k
  /-- The sixth field is the state. -/
  state : ∃ status, vs[5]? = some status ∧ (ModelState.ofValue? status).isSome = true

/-- The data that a registry holds. -/
structure RegistryData.WellFormed (r : RegistryData) : Prop where
  models : ∀ k vs, r.models.get? k = some vs → LoadableModel k vs
  bindings : ∀ vs ∈ r.bindings, vs.length = bindingFields.length
  hardware : r.hardware.length = hardwareFields.length
  performance : ∀ k vs, r.performance.get? k = some vs → vs.length = performanceFields.length

namespace RegistryData

/-- A model that was built is loaded. -/
theorem loadModel_zip {k : Json.Key} {vs : List Json} (h : LoadableModel k vs)
    (models : Dict Json.Key (List Json)) :
    loadModel models (.obj (Json.zipFields modelFields vs)) = some (models.set k vs) := by
  obtain ⟨id, hid, rfl⟩ := h.key
  obtain ⟨status, hstatus, hstate⟩ := h.state
  obtain ⟨state, hstate⟩ := Option.isSome_iff_exists.1 hstate
  have hlookup : Json.lookup "status" (Json.zipFields modelFields vs) = some status :=
    Json.lookup_zipFields (by decide) h.full.symm (i := 5) rfl hstatus
  have hbind : Json.bindKwargs modelFields (Json.zipFields modelFields vs) = some vs :=
    Json.bindKwargs_zip (by decide) h.full.symm
  simp only [loadModel, Json.pyDict, hlookup, hstate, hbind, hid, Option.bind_eq_bind,
    Option.bind_some, Option.pure_def]
  exact dif_pos id.2

/-- What is loaded as a model can be built and loaded again. -/
theorem loadable_of_loadModel {models models' : Dict Json.Key (List Json)} {d : Json}
    (h : loadModel models d = some models') :
    ∃ k vs, LoadableModel k vs ∧ models' = models.set k vs := by
  simp only [loadModel, Option.bind_eq_bind, Option.bind_eq_some_iff] at h
  obtain ⟨ms, -, status, hstatus, state, hstate, vs, hvs, id, hid, h⟩ := h
  split_ifs at h with hhash
  obtain rfl := Option.some.inj h
  refine ⟨_, vs, ⟨Json.length_of_bindKwargs hvs, ⟨⟨id, hhash⟩, hid, rfl⟩, status, ?_, ?_⟩, rfl⟩
  · rw [Json.getElem?_of_bindKwargs hvs (i := 5) rfl rfl]
    exact hstatus
  · rw [hstate]
    rfl

theorem foldlM_loadModel {es : List (Json.Key × List Json)}
    (h : ∀ e ∈ es, LoadableModel e.1 e.2) (models : Dict Json.Key (List Json)) :
    (es.map fun e => Json.obj (Json.zipFields modelFields e.2)).foldlM loadModel models =
      some (es.foldl (fun d e => d.set e.1 e.2) models) := by
  induction es generalizing models with
  | nil => rfl
  | cons e es ih =>
    rw [List.map_cons, List.foldlM_cons, loadModel_zip (h e List.mem_cons_self)]
    exact ih (fun e' he' => h e' (List.mem_cons_of_mem e he')) _

/-- The members of the data of a registry. -/
theorem lookup_dataMembers (models bindings hardware performance : Json) :
    let ms := [("version", .str "1.0"), ("models", models), ("bindings", bindings),
      ("hardware", hardware), ("performance", performance)]
    Json.lookup "version" ms = some (.str "1.0") ∧ Json.lookup "models" ms = some models ∧
      Json.lookup "bindings" ms = some bindings ∧ Json.lookup "hardware" ms = some hardware ∧
      Json.lookup "performance" ms = some performance := ⟨rfl, rfl, rfl, rfl, rfl⟩

/-- **Round trip.**  What is built is loaded. -/
theorem load_build {r : RegistryData} (h : r.WellFormed) : load r.build = some r := by
  have hmodels : (r.models.values.map fun vs =>
      Json.obj (Json.zipFields modelFields vs)).foldlM loadModel Dict.empty = some r.models := by
    rw [Dict.values, List.map_map]
    refine (foldlM_loadModel (fun e he => h.models e.1 e.2 (Dict.get?_of_mem_entries he)) _).trans ?_
    exact congrArg some (Dict.ofList_entries r.models)
  have hbindings : (r.bindings.map fun vs =>
      Json.obj (Json.zipFields bindingFields vs)).mapM (Json.construct bindingFields) =
        some r.bindings :=
    Json.mapM_map_eq_some fun vs hvs => Json.construct_zip (by decide) (h.bindings vs hvs)
  have hperformance : (r.performance.entries.map fun e =>
      (e.1, Json.obj (Json.zipFields performanceFields e.2))).mapM (fun p =>
        (Json.construct performanceFields p.2).map (p.1, ·)) = some r.performance.entries :=
    Json.mapM_map_eq_some fun e he => by
      rw [Json.construct_zip (by decide) (h.performance e.1 e.2 (Dict.get?_of_mem_entries he))]
      rfl
  have hhardware : Json.construct hardwareFields (.obj (Json.zipFields hardwareFields r.hardware)) =
      some r.hardware := Json.construct_zip (by decide) h.hardware
  simp only [build, load, lookup_dataMembers, Option.getD_some, Json.pyIter, hmodels, hbindings,
    hhardware, hperformance, Dict.ofList_entries, Option.bind_eq_bind, Option.bind_some,
    Option.pure_def, ne_eq, not_true_eq_false, if_false]

/-- All models are loadable. -/
def LoadableModels (models : Dict Json.Key (List Json)) : Prop :=
  ∀ k vs, models.get? k = some vs → LoadableModel k vs

theorem LoadableModels.set {models : Dict Json.Key (List Json)} (h : LoadableModels models)
    {k : Json.Key} {vs : List Json} (hvs : LoadableModel k vs) :
    LoadableModels (models.set k vs) := by
  intro k' vs' hget
  rw [Dict.get?_set] at hget
  split_ifs at hget with hk
  · obtain rfl := Option.some.inj hget
    exact hk ▸ hvs
  · exact h k' vs' hget

theorem loadableModels_of_foldlM {ds : List Json} {models models' : Dict Json.Key (List Json)}
    (hmodels : LoadableModels models) (h : ds.foldlM loadModel models = some models') :
    LoadableModels models' := by
  induction ds generalizing models with
  | nil =>
    obtain rfl := Option.some.inj h
    exact hmodels
  | cons d ds ih =>
    obtain ⟨next, hnext, hrest⟩ := Option.bind_eq_some_iff.1 h
    obtain ⟨k, vs, hvs, rfl⟩ := loadable_of_loadModel hnext
    exact ih (hmodels.set hvs) hrest

/-- What a mapping that succeeds gives comes from an element. -/
theorem exists_of_mem_mapM {α β : Type*} {f : α → Option β} {l : List α} {r : List β}
    (h : l.mapM f = some r) {b : β} (hb : b ∈ r) : ∃ a ∈ l, f a = some b := by
  rw [Json.mapM_eq_some_iff] at h
  have hmem : some b ∈ l.map f := h ▸ List.mem_map_of_mem hb
  exact List.mem_map.1 hmem

/-- The performance profiles that were loaded. -/
theorem exists_construct_performance {ps : List (String × Json)}
    {performance : List (String × List Json)}
    (h : ps.mapM (fun p => (Json.construct performanceFields p.2).map (p.1, ·)) =
      some performance) :
    ∀ e ∈ performance, ∃ j, Json.construct performanceFields j = some e.2 := by
  intro e he
  obtain ⟨p, -, hp⟩ := exists_of_mem_mapM h he
  obtain ⟨vs, hvs, rfl⟩ := Option.map_eq_some_iff.1 hp
  exact ⟨p.2, hvs⟩

/-- Where the data that was loaded comes from. -/
theorem load_eq_some {d : Json} {r : RegistryData} (h : load d = some r) :
    ∃ models bindings performance,
      List.foldlM loadModel Dict.empty models = some r.models ∧
      List.mapM (Json.construct bindingFields) bindings = some r.bindings ∧
      (r.hardware = unknownHardware ∨ ∃ j, Json.construct hardwareFields j = some r.hardware) ∧
      r.performance = Dict.ofList performance ∧
      ∀ e ∈ performance, ∃ j, Json.construct performanceFields j = some e.2 := by
  unfold load at h
  split at h
  swap
  · exact absurd h (by simp)
  rename_i ms
  simp only [Option.bind_eq_bind] at h
  split_ifs at h
  · exact absurd h (by simp)
  simp only [Option.bind_eq_some_iff] at h
  obtain ⟨ds, -, models, hmodels, bs, -, bindings, hbindings, h⟩ := h
  cases hhardware : Json.lookup "hardware" ms with
  | none =>
    simp only [hhardware, Option.bind_some] at h
    split at h
    · rename_i ps _
      obtain ⟨performance, hperformance, h⟩ := Option.bind_eq_some_iff.1 h
      obtain rfl := Option.some.inj h
      exact ⟨ds, bs, performance, hmodels, hbindings, .inl rfl, rfl,
        exists_construct_performance hperformance⟩
    · exact absurd h (by simp)
  | some j =>
    simp only [hhardware, Option.bind_eq_some_iff] at h
    obtain ⟨hardware, hj, h⟩ := h
    split at h
    · rename_i ps _
      obtain ⟨performance, hperformance, h⟩ := Option.bind_eq_some_iff.1 h
      obtain rfl := Option.some.inj h
      exact ⟨ds, bs, performance, hmodels, hbindings, .inr ⟨j, hj⟩, rfl,
        exists_construct_performance hperformance⟩
    · exact absurd h (by simp)

/-- What is loaded is well formed. -/
theorem wellFormed_of_load {d : Json} {r : RegistryData} (h : load d = some r) : r.WellFormed := by
  obtain ⟨models, bindings, performance, hmodels, hbindings, hhardware, hperformance, hvalues⟩ :=
    load_eq_some h
  constructor
  · exact loadableModels_of_foldlM (fun k vs hget => absurd hget (by simp)) hmodels
  · intro vs hvs
    obtain ⟨j, -, hj⟩ := exists_of_mem_mapM hbindings hvs
    exact Json.length_of_construct hj
  · rcases hhardware with hhardware | ⟨j, hj⟩
    · rw [hhardware]
      rfl
    · exact Json.length_of_construct hj
  · intro k vs hget
    rw [hperformance] at hget
    obtain ⟨j, hj⟩ := hvalues (k, vs) (Dict.mem_of_get?_ofList hget)
    exact Json.length_of_construct hj

/-- A registry in which nothing ran is well formed. -/
theorem wellFormed_ofRegistry (r : ModelRegistry) : (ofRegistry r).WellFormed := by
  constructor
  · intro k vs hget
    obtain ⟨m, -, hm⟩ := List.mem_map.1 (Dict.mem_of_get?_ofList hget)
    obtain ⟨rfl, rfl⟩ := Prod.mk.inj hm
    exact ⟨rfl, ⟨.str m.modelId, rfl, rfl⟩, _, rfl, by rw [ModelState.ofValue?_value]; rfl⟩
  · intro vs hvs
    obtain ⟨b, -, rfl⟩ := List.mem_map.1 hvs
    rfl
  · rfl
  · intro k vs hget
    obtain ⟨m, -, hm⟩ := List.mem_map.1 (Dict.mem_of_get?_ofList hget)
    obtain ⟨rfl, rfl⟩ := Prod.mk.inj hm
    rfl

end RegistryData

/-! ### What a registry is given -/

/-- The values of a model: its id is a string, and its state one that there is. -/
structure ModelValues where
  modelId : String
  values : List Json
  loadable : LoadableModel (.str modelId) values

/-- The values of a model of the declared types. -/
def ModelDefinition.toValues (m : ModelDefinition) : ModelValues where
  modelId := m.modelId
  values := m.values
  loadable := ⟨rfl, ⟨.str m.modelId, rfl, rfl⟩, _, rfl, by rw [ModelState.ofValue?_value]; rfl⟩

/-- The values of a binding. -/
abbrev BindingValues := {vs : List Json // vs.length = bindingFields.length}

/-- The values of a hardware profile. -/
abbrev HardwareValues := {vs : List Json // vs.length = hardwareFields.length}

/-- A call that changes a registry. -/
inductive RegistryChange where
  | registerModel (m : ModelValues)
  | unregister (modelId : String)
  | setAvailability (modelId : String) (available : Bool)
  | addBinding (b : BindingValues)
  | updateHardwareProfile (profile : HardwareValues)

/-! ### A registry with its files -/

/-- A registry that was constructed: its memory and its files. -/
structure OpenRegistry where
  data : RegistryData
  files : RegistryFiles

namespace OpenRegistry

/-- The registry that a construction returns. -/
def construct? (p : Platform) (fs : RegistryFiles) (c : Corruption) : Option OpenRegistry :=
  match construct p fs c with
  | (.loaded data, ops) => some ⟨data, fs.applyAll ops⟩
  | (.bootstrapped, ops) => some ⟨.ofRegistry .bootstrap, fs.applyAll ops⟩
  | (.recoveryRequired, _) => none

/-- `_save_to_disk`, with new data in memory. -/
def save (r : OpenRegistry) (data : RegistryData) : OpenRegistry where
  data := data
  files := r.files.apply (.replaceStorage (serializeData data.build))

/-- `register_model`, or a `ValueError`. -/
def registerModel (r : OpenRegistry) (m : ModelValues) : Option OpenRegistry :=
  if r.data.models.contains (.str m.modelId) then none
  else some (r.save { r.data with
    models := r.data.models.set (.str m.modelId) m.values
    performance := r.data.performance.set m.modelId (newPerformance m.modelId) })

/-- `unregister`. -/
def unregister (r : OpenRegistry) (modelId : String) : OpenRegistry :=
  if r.data.models.contains (.str modelId) then
    r.save { r.data with
      models := r.data.models.erase (.str modelId)
      performance := r.data.performance.erase modelId }
  else r

/-- `set_availability`. -/
def setAvailability (r : OpenRegistry) (modelId : String) (available : Bool) : OpenRegistry :=
  match r.data.models.get? (.str modelId) with
  | some vs =>
    let status : ModelState := if available then .available else .unavailable
    r.save { r.data with
      -- the model is changed in place
      models := r.data.models.set (.str modelId) (vs.set 5 (.str status.value)) }
  | none => r

/-- `add_binding`. -/
def addBinding (r : OpenRegistry) (b : BindingValues) : OpenRegistry :=
  r.save { r.data with bindings := r.data.bindings ++ [b.1] }

/-- `update_hardware_profile`. -/
def updateHardwareProfile (r : OpenRegistry) (profile : HardwareValues) : OpenRegistry :=
  r.save { r.data with hardware := profile.1 }

/-- A change, when it succeeds. -/
def change (r : OpenRegistry) : RegistryChange → Option OpenRegistry
  | .registerModel m => r.registerModel m
  | .unregister modelId => some (r.unregister modelId)
  | .setAvailability modelId available => some (r.setAvailability modelId available)
  | .addBinding b => some (r.addBinding b)
  | .updateHardwareProfile profile => some (r.updateHardwareProfile profile)

/-! ### The invariant -/

/-- The file holds what is built from the memory, and nothing blocks a construction. -/
structure Synced (r : OpenRegistry) : Prop where
  wellFormed : r.data.WellFormed
  marker : r.files.marker = none
  storage : ∃ content, r.files.storage = some content ∧ loadRegistry content = some r.data

/-- What was serialized is loaded. -/
theorem loadRegistry_serializeData (d : Json) :
    loadRegistry (serializeData d) = RegistryData.load d := by
  simp only [loadRegistry, serializeData, Text.decode_encode, Json.loads_dumpsIndent,
    Option.bind_eq_bind, Option.bind_some]

variable {r : OpenRegistry} {data : RegistryData}

theorem synced_save (hmarker : r.files.marker = none) (h : data.WellFormed) :
    Synced (r.save data) where
  wellFormed := h
  marker := hmarker
  storage := ⟨_, rfl, (loadRegistry_serializeData _).trans (RegistryData.load_build h)⟩

/-- **Another construction.**  It loads what is in memory. -/
theorem Synced.construct (h : Synced r) (p : Platform) (c : Corruption) :
    Execution.construct p r.files c = (.loaded r.data, []) := by
  obtain ⟨content, hstorage, hload⟩ := h.storage
  simp [Execution.construct, h.marker, hstorage, hload]

/-- A state takes the place of another one. -/
theorem loadableModel_set {k : Json.Key} {vs : List Json} (h : LoadableModel k vs)
    (status : ModelState) : LoadableModel k (vs.set 5 (.str status.value)) where
  full := by rw [List.length_set]; exact h.full
  key := by
    obtain ⟨id, hid, hk⟩ := h.key
    refine ⟨id, ?_, hk⟩
    cases vs with
    | nil => exact hid
    | cons v vs => exact hid
  state := by
    refine ⟨.str status.value, ?_, by rw [ModelState.ofValue?_value]; rfl⟩
    have hlen : 5 < vs.length := by rw [h.full]; decide
    simp [hlen]

theorem Synced.registerModel (h : Synced r) {m : ModelValues} {r' : OpenRegistry}
    (hr : r.registerModel m = some r') : Synced r' := by
  unfold OpenRegistry.registerModel at hr
  split_ifs at hr
  obtain rfl := Option.some.inj hr
  refine synced_save h.marker ⟨?_, h.wellFormed.bindings, h.wellFormed.hardware, ?_⟩
  · exact RegistryData.LoadableModels.set h.wellFormed.models m.loadable
  · intro k vs hget
    rw [Dict.get?_set] at hget
    split_ifs at hget with hk
    · obtain rfl := Option.some.inj hget
      rfl
    · exact h.wellFormed.performance k vs hget

theorem Synced.unregister (h : Synced r) (modelId : String) : Synced (r.unregister modelId) := by
  unfold OpenRegistry.unregister
  split_ifs
  · refine synced_save h.marker ⟨?_, h.wellFormed.bindings, h.wellFormed.hardware, ?_⟩
    · exact fun k vs hget => h.wellFormed.models k vs (Dict.of_get?_erase hget).2
    · exact fun k vs hget => h.wellFormed.performance k vs (Dict.of_get?_erase hget).2
  · exact h

theorem Synced.setAvailability (h : Synced r) (modelId : String) (available : Bool) :
    Synced (r.setAvailability modelId available) := by
  unfold OpenRegistry.setAvailability
  split
  · rename_i vs hget
    have hvs := loadableModel_set (h.wellFormed.models _ vs hget)
      (if available then .available else .unavailable)
    exact synced_save h.marker ⟨RegistryData.LoadableModels.set h.wellFormed.models hvs,
      h.wellFormed.bindings, h.wellFormed.hardware, h.wellFormed.performance⟩
  · exact h

theorem Synced.addBinding (h : Synced r) (b : BindingValues) : Synced (r.addBinding b) := by
  refine synced_save h.marker ⟨h.wellFormed.models, ?_, h.wellFormed.hardware,
    h.wellFormed.performance⟩
  intro vs hvs
  rcases List.mem_append.1 hvs with hvs | hvs
  · exact h.wellFormed.bindings vs hvs
  · exact List.mem_singleton.1 hvs ▸ b.2

theorem Synced.change (h : Synced r) {a : RegistryChange} {r' : OpenRegistry}
    (hr : r.change a = some r') : Synced r' := by
  cases a with
  | registerModel m => exact h.registerModel hr
  | unregister modelId => exact Option.some.inj hr ▸ h.unregister modelId
  | setAvailability modelId available =>
    exact Option.some.inj hr ▸ h.setAvailability modelId available
  | addBinding b => exact Option.some.inj hr ▸ h.addBinding b
  | updateHardwareProfile profile =>
    obtain rfl := Option.some.inj hr
    exact synced_save h.marker
      ⟨h.wellFormed.models, h.wellFormed.bindings, profile.2, h.wellFormed.performance⟩

theorem Synced.run (h : Synced r) {as : List RegistryChange} {r' : OpenRegistry}
    (hr : System.runFn OpenRegistry.change r as = some r') : Synced r' := by
  induction as generalizing r with
  | nil => exact Option.some.inj hr ▸ h
  | cons a as ih =>
    obtain ⟨next, hnext, hrest⟩ := Option.bind_eq_some_iff.1 hr
    exact ih (h.change hnext) hrest

theorem wellFormed_of_loadRegistry {content : ByteArray} {data : RegistryData}
    (h : loadRegistry content = some data) : data.WellFormed := by
  simp only [loadRegistry, Option.bind_eq_bind, Option.bind_eq_some_iff] at h
  obtain ⟨text, -, d, -, hload⟩ := h
  exact RegistryData.wellFormed_of_load hload

/-- Saving leaves the marker alone. -/
theorem marker_applyAll_replace (fs : RegistryFiles) (contents : List ByteArray) :
    (fs.applyAll (contents.map .replaceStorage)).marker = fs.marker := by
  induction contents generalizing fs with
  | nil => rfl
  | cons content contents ih => exact ih (fs.apply (.replaceStorage content))

/-- A bootstrap saves the registry it ends with at last. -/
theorem synced_bootstrap {fs : RegistryFiles} (hmarker : fs.marker = none) :
    Synced ⟨.ofRegistry .bootstrap, fs.applyAll bootstrapOps⟩ := by
  have hops : bootstrapOps = (bootstrapRegistries.map fun r =>
      serializeData (RegistryData.ofRegistry r).build).map .replaceStorage := by
    rw [bootstrapOps, List.map_map]
    rfl
  refine ⟨RegistryData.wellFormed_ofRegistry _, ?_, ?_⟩
  · rw [hops, marker_applyAll_replace]
    exact hmarker
  · refine ⟨serializeData (RegistryData.ofRegistry .bootstrap).build, ?_, ?_⟩
    · rw [bootstrapOps, bootstrapRegistries, List.map_append, RegistryFiles.applyAll,
        List.foldl_append]
      rfl
    · exact (loadRegistry_serializeData _).trans
        (RegistryData.load_build (RegistryData.wellFormed_ofRegistry _))

/-- A registry that was constructed is in step with its file. -/
theorem synced_of_construct {p : Platform} {fs : RegistryFiles} {c : Corruption}
    (h : construct? p fs c = some r) : Synced r := by
  unfold construct? Execution.construct at h
  cases hmarker : fs.marker with
  | some m => simp [hmarker] at h
  | none =>
    simp only [hmarker, Option.isSome_none, Bool.false_eq_true, if_false] at h
    cases hstorage : fs.storage with
    | some content =>
      cases hload : loadRegistry content with
      | none => simp [hstorage, hload] at h
      | some data =>
        simp only [hstorage, hload, Option.some.injEq] at h
        subst h
        exact ⟨wellFormed_of_loadRegistry hload, hmarker, content, hstorage, hload⟩
    | none =>
      simp only [hstorage, Option.some.injEq] at h
      subst h
      exact synced_bootstrap hmarker

/-- **Durability.**  After any changes that succeed, on a registry that was constructed over any
files, another construction loads the models, the bindings, the hardware profile and the performance
profiles that are in memory, and writes nothing. -/
theorem construct_run (p : Platform) (fs : RegistryFiles) (c c' : Corruption) (r r' : OpenRegistry)
    (changes : List RegistryChange) (h : construct? p fs c = some r)
    (hrun : System.runFn change r changes = some r') :
    Execution.construct p r'.files c' = (.loaded r'.data, []) :=
  ((synced_of_construct h).run hrun).construct p c'

/-- Over an empty directory: a model is added and made available, and another one is removed. -/
theorem construct_run_bootstrapped :
    ∃ r r', construct? plainPlatform {} sampleCorruption = some r ∧
      System.runFn change r [.registerModel { ModelRegistry.qwen with modelId := "qwen" }.toValues,
        .setAvailability "qwen" true, .unregister "luna"] = some r' ∧
      Execution.construct plainPlatform r'.files sampleCorruption = (.loaded r'.data, []) := by
  have hrun : (System.runFn change ⟨.ofRegistry .bootstrap, RegistryFiles.applyAll {} bootstrapOps⟩
      [.registerModel { ModelRegistry.qwen with modelId := "qwen" }.toValues,
        .setAvailability "qwen" true, .unregister "luna"]).isSome = true := by decide +kernel
  obtain ⟨r', hr'⟩ := Option.isSome_iff_exists.1 hrun
  exact ⟨_, r', rfl, hr', construct_run plainPlatform {} sampleCorruption sampleCorruption _ r' _
    rfl hr'⟩

end OpenRegistry

end Execution

end AnnyRuntime
