import AnnyRuntime.Execution.Capability
import AnnyRuntime.Fabric.Contract

/-!
# The capability inventory

Discovery lists the capabilities that are declared, those that are enabled, and those that the
Fabric contract authorizes: not revoked, and granted whenever the grant list is not empty.
-/

namespace AnnyRuntime

namespace Core

open Execution Fabric

/-- What discovery finds of one kind of component. -/
structure ComponentInventory where
  declared : List String := []
  enabled : List String := []
  authorized : List String := []
  deriving DecidableEq

/-- The grants and the revocations that discovery works with; building the sets can raise. -/
def contractSets : Option FabricContract → Option (List Json × List Json)
  | none => some ([], [])
  | some c => do
    let granted ← pySet c.grantedCapabilities
    let revoked ← pySet c.revokedCapabilities
    return (granted, revoked)

/-- The test that discovery makes of an enabled capability. -/
def authorizedBy (sets : List Json × List Json) (cid : String) : Bool :=
  (sets.1 = [] || .str cid ∈ sets.1) && .str cid ∉ sets.2

/-- One step of the loop over the capabilities. -/
def discoverCapability (sets : List Json × List Json) (inv : ComponentInventory)
    (cap : CapabilityDefinition) : ComponentInventory :=
  { declared := inv.declared ++ [cap.capabilityId]
    enabled := if cap.enabled then inv.enabled ++ [cap.capabilityId] else inv.enabled
    authorized :=
      if cap.enabled && authorizedBy sets cap.capabilityId then
        inv.authorized ++ [cap.capabilityId]
      else inv.authorized }

/-- `_discover_capabilities`, or an exception. -/
def discoverCapabilities (registry : CapabilityRegistry) (contract : Option FabricContract) :
    Option ComponentInventory :=
  (contractSets contract).map fun sets =>
    registry.listAll.foldl (discoverCapability sets) {}

/-- The contract authorizes the capability in the sense of discovery. -/
def Authorized (contract : FabricContract) (cid : String) : Prop :=
  ∃ sets, contractSets (some contract) = some sets ∧ authorizedBy sets cid = true

instance (contract : FabricContract) (cid : String) : Decidable (Authorized contract cid) :=
  decidable_of_iff (((contractSets (some contract)).any fun sets => authorizedBy sets cid) = true)
    (by simp [Authorized, Option.any_eq_true_iff_get, Option.eq_some_iff_get_eq])

theorem mem_authorized_foldl {sets : List Json × List Json} {caps : List CapabilityDefinition}
    {inv : ComponentInventory} {cid : String} :
    cid ∈ (caps.foldl (discoverCapability sets) inv).authorized ↔ cid ∈ inv.authorized ∨
      ∃ cap ∈ caps, cap.capabilityId = cid ∧ cap.enabled = true ∧ authorizedBy sets cid = true := by
  induction caps generalizing inv with
  | nil => simp
  | cons cap caps ih =>
    rw [List.foldl_cons, ih]
    simp only [discoverCapability, List.mem_cons, exists_eq_or_imp]
    by_cases hauth : (cap.enabled && authorizedBy sets cap.capabilityId) = true
    · rw [if_pos hauth, List.mem_append, List.mem_singleton]
      rw [Bool.and_eq_true] at hauth
      grind
    · rw [if_neg hauth]
      rw [Bool.and_eq_true] at hauth
      grind

/-- What discovery lists as authorized: the enabled capabilities that the contract authorizes. -/
theorem mem_discoverCapabilities {registry : CapabilityRegistry} {contract : FabricContract}
    {cid : String} :
    (∃ inv, discoverCapabilities registry (some contract) = some inv ∧ cid ∈ inv.authorized) ↔
      (∃ cap ∈ registry.listAll, cap.capabilityId = cid ∧ cap.enabled = true) ∧
        Authorized contract cid := by
  unfold discoverCapabilities Authorized
  cases contractSets (some contract) with
  | none => simp
  | some sets =>
    simp only [Option.map_some, Option.some.injEq, exists_eq_left', mem_authorized_foldl,
      List.not_mem_nil, false_or]
    exact ⟨fun ⟨cap, h, hid, hen, ha⟩ => ⟨⟨cap, h, hid, hen⟩, ha⟩,
      fun ⟨⟨cap, h, hid, hen⟩, ha⟩ => ⟨cap, h, hid, hen, ha⟩⟩

end Core

end AnnyRuntime
