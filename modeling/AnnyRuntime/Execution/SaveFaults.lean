import AnnyRuntime.Execution.Durability

/-!
# Saves that fail

A call that changes the registry changes its memory first and saves it then.  Saving writes a
temporary file and puts it in the place of the registry, and every step of it can fail; the
exception leaves the file, and the memory as the call had changed it.

* `attempt_eq_change` : a call that does not fail is the one of a registry with its file.
* `storage_attempt` : when a call raises, the file is the one from before.
* `failed_save_iff` : **the memory is the one from before exactly when the call changes nothing or
  its save does not fail.**
* `synced_of_reachable` : in a run whose calls are such, the file holds the memory at every moment.
* `not_allOrNothing_addBinding` : a binding whose save failed is in memory, and not in the file.
-/

namespace AnnyRuntime

namespace Execution

/-- The step of a save that raises. -/
inductive SaveFault where
  /-- A value cannot be written as JSON. -/
  | serialize
  | makedirs
  | mkstemp
  /-- Writing the temporary file, after so many bytes. -/
  | write (n : ℕ)
  | fsync
  | replace
  deriving DecidableEq

/-- What the temporary file holds by then, when it exists. -/
def SaveFault.temp (content : ByteArray) : SaveFault → Option ByteArray
  | .serialize | .makedirs | .mkstemp => none
  | .write n => some (content.extract 0 n)
  | .fsync | .replace => some content

/-- What can go wrong in a save. -/
structure SaveWorld where
  fault : Option SaveFault := none
  /-- The temporary file cannot be removed either. -/
  unlinkFails : Bool := false
  deriving DecidableEq

/-- A registry with its files, and what its failed saves left. -/
structure LiveRegistry where
  registry : OpenRegistry
  /-- It has a storage path. -/
  durable : Bool := true
  /-- The temporary files that are left. -/
  temps : List ByteArray := []

/-- What a call does to the memory before it saves. -/
inductive MemoryEffect where
  /-- It raises. -/
  | refuses
  /-- It does nothing, and saves nothing. -/
  | ignores
  | changes (data : RegistryData)

/-! ### The calls -/

namespace RegistryData

/-- `register_model`. -/
def registerModel (data : RegistryData) (m : ModelValues) : MemoryEffect :=
  if data.models.contains (.str m.modelId) then .refuses
  else .changes { data with
    models := data.models.set (.str m.modelId) m.values
    performance := data.performance.set m.modelId (newPerformance m.modelId) }

/-- `unregister`. -/
def unregister (data : RegistryData) (modelId : String) : MemoryEffect :=
  if data.models.contains (.str modelId) then
    .changes { data with
      models := data.models.erase (.str modelId)
      performance := data.performance.erase modelId }
  else .ignores

/-- The state that `set_availability` gives a model. -/
def availability (available : Bool) : ModelState := if available then .available else .unavailable

/-- `set_availability`. -/
def setAvailability (data : RegistryData) (modelId : String) (available : Bool) : MemoryEffect :=
  match data.models.get? (.str modelId) with
  | some vs =>
    .changes { data with
      models := data.models.set (.str modelId) (vs.set 5 (.str (availability available).value)) }
  | none => .ignores

/-- `add_binding`. -/
def addBinding (data : RegistryData) (b : BindingValues) : MemoryEffect :=
  .changes { data with bindings := data.bindings ++ [b.1] }

/-- `update_hardware_profile`. -/
def updateHardwareProfile (data : RegistryData) (profile : HardwareValues) : MemoryEffect :=
  .changes { data with hardware := profile.1 }

/-- What a call does to the memory. -/
def effect (data : RegistryData) : RegistryChange → MemoryEffect
  | .registerModel m => data.registerModel m
  | .unregister modelId => data.unregister modelId
  | .setAvailability modelId available => data.setAvailability modelId available
  | .addBinding b => data.addBinding b
  | .updateHardwareProfile profile => data.updateHardwareProfile profile

end RegistryData

namespace LiveRegistry

/-- `_save_to_disk`, with new data in memory; the flag says that it raises. -/
def save (r : LiveRegistry) (data : RegistryData) (w : SaveWorld) : LiveRegistry × Bool :=
  if r.durable then
    match w.fault with
    | none => ({ r with registry := r.registry.save data }, false)
    | some fault =>
      let left := if w.unlinkFails then (fault.temp (serializeData data.build)).toList else []
      ({ r with registry := { r.registry with data := data }, temps := r.temps ++ left }, true)
  else ({ r with registry := { r.registry with data := data } }, false)

/-- A call; the flag says that it raises. -/
def attempt (r : LiveRegistry) (a : RegistryChange) (w : SaveWorld) : LiveRegistry × Bool :=
  match r.registry.data.effect a with
  | .refuses => (r, true)
  | .ignores => (r, false)
  | .changes data => r.save data w

/-- When the call raises, the memory and the file are the ones from before. -/
def AllOrNothing (r : LiveRegistry) (a : RegistryChange) (w : SaveWorld) : Prop :=
  (r.attempt a w).2 = true → (r.attempt a w).1.registry = r.registry

/-- The call changes nothing in memory. -/
def Changeless (data : RegistryData) : RegistryChange → Prop
  -- it is refused
  | .registerModel m => data.models.contains (.str m.modelId) = true
  -- there is no such model
  | .unregister modelId => data.models.contains (.str modelId) = false
  -- the model is in that state
  | .setAvailability modelId available => ∀ vs, data.models.get? (.str modelId) = some vs →
      vs.set 5 (.str (RegistryData.availability available).value) = vs
  | .addBinding _ => False
  -- it is the profile of the registry
  | .updateHardwareProfile profile => profile.1 = data.hardware

variable {r : LiveRegistry} {a : RegistryChange} {w : SaveWorld} {data : RegistryData}

/-! ### What a call changes -/

/-- **A call that changes the memory**, and one that does not. -/
theorem effect_changes (h : r.registry.data.effect a = .changes data) :
    data = r.registry.data ↔ Changeless r.registry.data a := by
  cases a with
  | registerModel m =>
    simp only [RegistryData.effect, RegistryData.registerModel] at h
    split_ifs at h with hc
    obtain rfl := MemoryEffect.changes.inj h
    refine iff_of_false (fun heq => hc ?_) hc
    -- the model has its id afterwards
    rw [← congrArg RegistryData.models heq, Dict.contains, Dict.get?_set_self]
    rfl
  | unregister modelId =>
    simp only [RegistryData.effect, RegistryData.unregister] at h
    split_ifs at h with hc
    obtain rfl := MemoryEffect.changes.inj h
    refine iff_of_false (fun heq => ?_) (fun hnot => absurd (hnot.symm.trans hc) (by simp))
    rw [← congrArg RegistryData.models heq, Dict.contains, Dict.get?_erase, if_pos rfl] at hc
    exact absurd hc (by simp)
  | setAvailability modelId available =>
    simp only [RegistryData.effect, RegistryData.setAvailability] at h
    split at h
    · rename_i vs hget
      obtain rfl := MemoryEffect.changes.inj h
      constructor
      · intro heq vs' hget'
        obtain rfl := Option.some.inj (hget.symm.trans hget')
        have hmodels := congrArg (fun d => d.models.get? (.str modelId)) heq
        simp only [Dict.get?_set_self, hget] at hmodels
        exact Option.some.inj hmodels
      · intro hsame
        rw [hsame vs hget, Dict.set_of_get? hget]
    · exact absurd h (by simp)
  | addBinding b =>
    obtain rfl := MemoryEffect.changes.inj h
    refine iff_of_false (fun heq => ?_) not_false
    exact absurd (congrArg RegistryData.bindings heq) (by simp)
  | updateHardwareProfile profile =>
    obtain rfl := MemoryEffect.changes.inj h
    exact ⟨fun heq => congrArg RegistryData.hardware heq, fun heq => by rw [heq]⟩

theorem changeless_of_refuses (h : r.registry.data.effect a = .refuses) :
    Changeless r.registry.data a := by
  cases a with
  | registerModel m =>
    simp only [RegistryData.effect, RegistryData.registerModel] at h
    split_ifs at h with hc
    exact hc
  | unregister modelId =>
    simp only [RegistryData.effect, RegistryData.unregister] at h
    split_ifs at h
  | setAvailability modelId available =>
    simp only [RegistryData.effect, RegistryData.setAvailability] at h
    split at h <;> exact absurd h (by simp)
  | addBinding b => cases h
  | updateHardwareProfile profile => cases h

theorem changeless_of_ignores (h : r.registry.data.effect a = .ignores) :
    Changeless r.registry.data a := by
  cases a with
  | registerModel m =>
    simp only [RegistryData.effect, RegistryData.registerModel] at h
    split_ifs at h
  | unregister modelId =>
    simp only [RegistryData.effect, RegistryData.unregister] at h
    split_ifs at h with hc
    exact Bool.eq_false_of_not_eq_true hc
  | setAvailability modelId available =>
    simp only [RegistryData.effect, RegistryData.setAvailability] at h
    split at h
    · exact absurd h (by simp)
    · rename_i hget
      exact fun vs hvs => absurd (hget.symm.trans hvs) (by simp)
  | addBinding b => cases h
  | updateHardwareProfile profile => cases h

/-! ### What a call leaves -/

theorem data_save : (r.save data w).1.registry.data = data := by
  unfold save
  split
  · split <;> rfl
  · rfl

theorem save_raises : (r.save data w).2 = true ↔ r.durable = true ∧ w.fault ≠ none := by
  unfold save
  cases r.durable
  · simp
  · cases w.fault <;> simp

theorem files_save_of_raises (h : (r.save data w).2 = true) :
    (r.save data w).1.registry = { r.registry with data := data } := by
  obtain ⟨hd, hf⟩ := save_raises.1 h
  obtain ⟨fault, hfault⟩ := Option.ne_none_iff_exists'.1 hf
  unfold save
  rw [if_pos hd, hfault]

/-- **The file.**  When a call raises, it is the one from before. -/
theorem storage_attempt (h : (r.attempt a w).2 = true) :
    (r.attempt a w).1.registry.files = r.registry.files := by
  unfold attempt at h ⊢
  cases he : r.registry.data.effect a with
  | refuses => rfl
  | ignores => rfl
  | changes data =>
    rw [he] at h
    change (r.save data w).1.registry.files = r.registry.files
    rw [files_save_of_raises h]

/-- **When a failed call leaves nothing.** -/
theorem failed_save_iff (r : LiveRegistry) (a : RegistryChange) (w : SaveWorld) :
    AllOrNothing r a w ↔
      Changeless r.registry.data a ∨ r.durable = false ∨ w.fault = none := by
  unfold AllOrNothing attempt
  cases he : r.registry.data.effect a with
  | refuses => exact iff_of_true (fun _ => rfl) (.inl (changeless_of_refuses he))
  | ignores => exact iff_of_true (fun _ => rfl) (.inl (changeless_of_ignores he))
  | changes data =>
    rw [← effect_changes he]
    constructor
    · intro h
      by_contra hnot
      obtain ⟨hdata, hd, hf⟩ : data ≠ r.registry.data ∧ r.durable ≠ false ∧ w.fault ≠ none := by
        simpa only [not_or] using hnot
      have hraises : (r.save data w).2 = true :=
        save_raises.2 ⟨Bool.eq_true_of_not_eq_false hd, hf⟩
      exact hdata (data_save.symm.trans (congrArg OpenRegistry.data (h hraises)))
    · intro h hraises
      obtain ⟨hd, hf⟩ := save_raises.1 hraises
      rcases h with hdata | hd' | hf'
      · have hsave := files_save_of_raises hraises
        rw [hdata] at hsave ⊢
        exact hsave
      · exact absurd (hd'.symm.trans hd) (by simp)
      · exact absurd hf' hf

/-- A call looks at nothing but the registry, and whether it has a path. -/
theorem attempt_congr {r' : LiveRegistry} (hreg : r'.registry = r.registry)
    (hd : r'.durable = r.durable) (a : RegistryChange) (w : SaveWorld) :
    (r'.attempt a w).2 = (r.attempt a w).2 ∧
      (r'.attempt a w).1.registry = (r.attempt a w).1.registry := by
  unfold attempt
  rw [hreg]
  cases r.registry.data.effect a with
  | refuses => exact ⟨rfl, hreg⟩
  | ignores => exact ⟨rfl, hreg⟩
  | changes data =>
    unfold save
    rw [hreg, hd]
    cases r.durable with
    | false => exact ⟨rfl, rfl⟩
    | true => cases w.fault <;> exact ⟨rfl, rfl⟩

theorem durable_attempt : (r.attempt a w).1.durable = r.durable := by
  unfold attempt
  cases r.registry.data.effect a with
  | refuses => rfl
  | ignores => rfl
  | changes data =>
    change (r.save data w).1.durable = r.durable
    unfold save
    split
    · split <;> rfl
    · rfl

/-- **A retry** of such a call behaves as the first attempt would have. -/
theorem AllOrNothing.retry (h : AllOrNothing r a w) (hraises : (r.attempt a w).2 = true)
    (w' : SaveWorld) :
    ((r.attempt a w).1.attempt a w').2 = (r.attempt a w').2 ∧
      ((r.attempt a w).1.attempt a w').1.registry = (r.attempt a w').1.registry :=
  attempt_congr (h hraises) durable_attempt a w'

/-! ### Runs -/

/-- **A call that does not raise** is the one of a registry with its file. -/
theorem attempt_eq_change (hd : r.durable = true) (h : (r.attempt a w).2 = false) :
    r.registry.change a = some (r.attempt a w).1.registry := by
  have hsave : ∀ {data}, (r.save data w).2 = false →
      (r.save data w).1.registry = r.registry.save data := by
    intro data hraises
    have hf : w.fault = none := by
      by_contra hf
      exact absurd (hraises.symm.trans (save_raises.2 ⟨hd, hf⟩)) (by simp)
    unfold save
    rw [if_pos hd, hf]
  unfold attempt at h ⊢
  cases a with
  | registerModel m =>
    simp only [RegistryData.effect, RegistryData.registerModel] at h ⊢
    split_ifs at h ⊢ with hc
    rw [hsave h]
    exact if_neg hc
  | unregister modelId =>
    simp only [RegistryData.effect, RegistryData.unregister] at h ⊢
    split_ifs at h ⊢ with hc
    · rw [hsave h]
      exact congrArg some (if_pos hc)
    · exact congrArg some (if_neg hc)
  | setAvailability modelId available =>
    simp only [RegistryData.effect, RegistryData.setAvailability, OpenRegistry.change,
      OpenRegistry.setAvailability] at h ⊢
    cases hget : r.registry.data.models.get? (.str modelId) with
    | none => rfl
    | some vs =>
      rw [hget] at h
      exact congrArg some (hsave h).symm
  | addBinding b => exact congrArg some (hsave h).symm
  | updateHardwareProfile profile => exact congrArg some (hsave h).symm

/-- All runs of calls, of which each can fail, on a registry that is in step with its file. -/
def faultySystem : System LiveRegistry (RegistryChange × SaveWorld) where
  init r := r.durable = true ∧ r.registry.Synced
  step r x r' := r' = (r.attempt x.1 x.2).1

/-- What is kept by calls that fail without a trace. -/
theorem synced_invariant :
    (faultySystem.restrict fun r x => AllOrNothing r x.1 x.2).Invariant fun r =>
      r.durable = true ∧ r.registry.Synced where
  init _ h := h
  step r x r' h hstep := by
    obtain ⟨hd, hs⟩ := h
    obtain ⟨hall, rfl⟩ := hstep
    refine ⟨durable_attempt.trans hd, ?_⟩
    cases hraises : (r.attempt x.1 x.2).2 with
    | true => exact hall hraises ▸ hs
    | false => exact hs.change (attempt_eq_change hd hraises)

/-- **The file holds the memory** at every moment of such a run. -/
theorem synced_of_reachable
    (h : (faultySystem.restrict fun r x => AllOrNothing r x.1 x.2).Reachable r) :
    r.registry.Synced := (synced_invariant.holds h).2

/-! ### A binding that is not saved -/

/-- The registry of a first construction. -/
def bootstrapped : LiveRegistry where
  registry := ⟨.ofRegistry .bootstrap, RegistryFiles.applyAll {} bootstrapOps⟩

/-- The first of the initial bindings. -/
def sampleBinding : BindingValues :=
  ⟨(ModelRegistry.initialBindings.map ModelCapabilityBinding.values).headI, rfl⟩

/-- The file cannot be replaced: the binding is in memory, and a restart loses it. -/
theorem not_allOrNothing_addBinding : ¬ ∀ r a w, AllOrNothing r a w := by
  intro h
  have hregistry := h bootstrapped (.addBinding sampleBinding) { fault := some .replace } rfl
  have hbindings := congrArg (fun r => r.data.bindings.length) hregistry
  exact absurd hbindings (by simp [attempt, save, RegistryData.effect, RegistryData.addBinding,
    bootstrapped])

end LiveRegistry

end Execution

end AnnyRuntime
