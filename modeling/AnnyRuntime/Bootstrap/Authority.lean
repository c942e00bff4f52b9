import AnnyRuntime.Bootstrap.Verdict

/-!
# Does the inventory respect the contract?

The inventory of phase G works with the member `_contract` of the policy, and the file
`fabric/contract.json` is only read in phase I, for a gate of its own.  So what that file grants and
revokes has no effect on what the report lists as authorized (`mem_authorized_iff`): without a
`_contract` every enabled capability is authorized, and with one none is, because the value of a
JSON file is not a `FabricContract`.
-/

namespace AnnyRuntime

namespace Fabric

/-- The list has the string. -/
def Lists (list : Json) (cid : String) : Prop := ∃ l, list = .arr l ∧ .str cid ∈ l

/-- The contract withholds a capability: it revokes it, or it grants others and not this one. -/
def FabricContract.Withholds (c : FabricContract) (cid : String) : Prop :=
  Lists c.revokedCapabilities cid ∨
    (∃ x l, c.grantedCapabilities = .arr (x :: l)) ∧ ¬ Lists c.grantedCapabilities cid

end Fabric

namespace Bootstrap

open Core Execution Fabric

namespace ThreePlaneBootstrap

variable (b : ThreePlaneBootstrap) (p : Platform) (w : World)

/-- The contract in `fabric/contract.json`, when the file can be read and is a dictionary. -/
def authoritative : Option FabricContract :=
  b.fabric.bind fun fabric =>
    match fabric.readContract p (w.client (.gate .contractsDiscovered)) with
    | .ok raw => FabricContract.fromDict raw
    | .error _ => none

/-- The capabilities that can be asked for. -/
def enabledCapabilities : List CapabilityDefinition :=
  (b.capRegistry.getD .init).listAll.filter (·.enabled)

/-- The policy is read, and has a member `_contract` that counts as true. -/
def PolicyCarries : Prop :=
  b.canReadFabric p w = true ∧
    ∃ fabric ms contract, b.fabric = some fabric ∧
      fabric.readPolicy p (w.client (.gate .policySnapshotFresh)) = .ok (.obj ms) ∧
        Json.lookup "_contract" ms = some contract ∧ contract.truthy = true

/-- The report respects the contract: what the contract withholds is not listed as authorized, and
the gate of the critical capabilities does not count it as authorized. -/
def Respects (r : BootstrapReport) : Prop :=
  ∀ contract, b.authoritative p w = some contract → ∀ cid, contract.Withholds cid →
    cid ∉ r.capabilities.authorized ∧ ¬ (b.verifier p w r.capabilities.authorized).Counts cid

variable {b p w}

/-! ### The contract that the inventory is given -/

theorem fromDict_eq_ok {raw : Json} {policy : FabricPolicy}
    (h : FabricPolicy.fromDict raw = .ok policy) : ∃ ms, raw = .obj ms := by
  rw [FabricPolicy.fromDict, Guard.seq_eq_ok] at h
  obtain ⟨_, hget, -⟩ := h
  obtain ⟨ms, rfl, -⟩ := Json.get_eq_ok_iff.1 hget
  exact ⟨ms, rfl⟩

theorem exists_policySnapshot_iff {contract : Json} :
    (∃ policy, b.policySnapshot p w = .ok (policy, contract)) ↔
      ∃ fabric ms, b.fabric = some fabric ∧
        fabric.readPolicy p (w.client (.gate .policySnapshotFresh)) = .ok (.obj ms) ∧
          (Json.lookup "_contract" ms).getD .null = contract := by
  cases hfabric : b.fabric with
  | none =>
    simp only [policySnapshot, hfabric, Option.elim_none, Guard.seq_eq_ok]
    constructor
    · rintro ⟨_, _, h, -⟩
      cases h
    · rintro ⟨_, _, h, -⟩
      cases h
  | some fabric =>
    simp only [policySnapshot, hfabric, Option.elim_some, Guard.seq_eq_ok, Except.ok.injEq,
      Option.some.injEq, exists_eq_left', Prod.mk.injEq]
    constructor
    · rintro ⟨_, raw, hread, policy, hpolicy, _, hget, rfl, rfl⟩
      obtain ⟨ms, rfl⟩ := fromDict_eq_ok hpolicy
      exact ⟨fabric, ms, rfl, hread, Except.ok.inj hget⟩
    · rintro ⟨_, ms, rfl, hread, rfl⟩
      exact ⟨_, _, hread, _, rfl, _, rfl, rfl, rfl⟩

theorem truthy_inlineContract :
    (b.inlineContract p w).truthy = true ↔ b.canReadFabric p w = true ∧
      ∃ contract, (∃ policy, b.policySnapshot p w = .ok (policy, contract)) ∧
        contract.truthy = true := by
  rw [inlineContract, gatePolicySnapshot]
  cases b.canReadFabric p w with
  | false => simp [Json.truthy]
  | true =>
    cases b.policySnapshot p w with
    | error e => simp [Json.truthy]
    | ok found =>
      obtain ⟨policy, contract⟩ := found
      simp

/-- The inventory is given a contract that counts as true exactly when the policy carries one. -/
theorem truthy_inlineContract_iff : (b.inlineContract p w).truthy = true ↔ b.PolicyCarries p w := by
  rw [truthy_inlineContract, PolicyCarries]
  refine and_congr_right fun _ => ?_
  simp only [exists_policySnapshot_iff]
  constructor
  · rintro ⟨_, ⟨fabric, ms, hf, hread, rfl⟩, htruthy⟩
    cases hlookup : Json.lookup "_contract" ms with
    | none =>
      rw [hlookup] at htruthy
      exact absurd htruthy (by decide)
    | some contract =>
      rw [hlookup] at htruthy
      exact ⟨fabric, ms, contract, hf, hread, hlookup, htruthy⟩
  · rintro ⟨fabric, ms, contract, hf, hread, hlookup, htruthy⟩
    exact ⟨contract, ⟨fabric, ms, hf, hread, by rw [hlookup, Option.getD_some]⟩, htruthy⟩

/-- **What is authorized.**  Every enabled capability, unless the policy carries a contract. -/
theorem mem_authorized_iff {r : BootstrapReport} (h : b.resolve p w = .ok r) {cid : String} :
    cid ∈ r.capabilities.authorized ↔
      ¬ b.PolicyCarries p w ∧ ∃ cap ∈ b.enabledCapabilities, cap.capabilityId = cid := by
  rw [(resolved_of_resolve h).capabilities, ← truthy_inlineContract_iff, discovered, inventory,
    InventoryDiscovery.mem_discover_capabilities, enabledCapabilities]
  simp only [List.mem_filter]
  exact and_congr_right fun _ => exists_congr fun cap => by tauto

/-- **The contract's law.**  The report respects the contract of `fabric/contract.json` exactly when
the policy carries a contract of its own, so that nothing is authorized, or the file withholds none
of the enabled capabilities. -/
theorem respects_iff {r : BootstrapReport} (h : b.resolve p w = .ok r) :
    b.Respects p w r ↔
      b.PolicyCarries p w ∨ ∀ contract, b.authoritative p w = some contract →
        ∀ cap ∈ b.enabledCapabilities, ¬ contract.Withholds cap.capabilityId := by
  constructor
  · intro hr
    by_cases hpolicy : b.PolicyCarries p w
    · exact .inl hpolicy
    · exact .inr fun contract hc cap hcap hw =>
        (hr contract hc cap.capabilityId hw).1 ((mem_authorized_iff h).2 ⟨hpolicy, cap, hcap, rfl⟩)
  · intro hor contract hc cid hw
    have hnot : cid ∉ r.capabilities.authorized := fun hmem => by
      obtain ⟨hpolicy, cap, hcap, rfl⟩ := (mem_authorized_iff h).1 hmem
      exact (hor.resolve_left hpolicy) contract hc cap hcap hw
    exact ⟨hnot, fun hcount => hnot (CriticalAccessVerifier.counts_iff.1 hcount).2⟩

/-! ### A contract that revokes -/

/-- The file `fabric/contract.json` revokes the reading of the fabric; the other is the policy. -/
def revokingFiles : List RepositoryFile :=
  [⟨"fabric/policy.json", "eyJyZXZpc2lvbiI6ICIxIn0=\n", "\x7b\"revision\": \"1\"\x7d"⟩,
    ⟨"fabric/contract.json", "eyJyZXZva2VkX2NhcGFiaWxpdGllcyI6IFsiZmFicmljLnJlYWQiXX0=\n",
      "\x7b\"revoked_capabilities\": [\"fabric.read\"]\x7d"⟩]

/-- The bootstrap completes over these files, and lists the reading of the fabric as authorized. -/
theorem exists_resolve_revokingFiles :
    ∃ r, bound.resolve (platformReading revokingFiles) (.serving revokingFiles) = .ok r ∧
      "fabric.read" ∈ r.capabilities.authorized := by
  have hany : ((bound.resolve (platformReading revokingFiles)
      (.serving revokingFiles)).toOption.any fun r =>
        r.capabilities.authorized.contains "fabric.read") = true := by decide +kernel
  cases hr : bound.resolve (platformReading revokingFiles) (.serving revokingFiles) with
  | error e =>
    rw [hr] at hany
    cases hany
  | ok r =>
    rw [hr] at hany
    exact ⟨r, rfl, List.contains_iff_mem.1 hany⟩

theorem authoritative_revokingFiles :
    bound.authoritative (platformReading revokingFiles) (.serving revokingFiles) =
      some ⟨.str "UNKNOWN", .str "UNKNOWN", .arr [], .arr [.str "fabric.read"]⟩ := by
  decide +kernel

theorem respects_iff_revokingFiles :
    ∃ r, bound.resolve (platformReading revokingFiles) (.serving revokingFiles) = .ok r ∧
      (bound.Respects (platformReading revokingFiles) (.serving revokingFiles) r ↔
        bound.PolicyCarries (platformReading revokingFiles) (.serving revokingFiles) ∨
          ∀ contract, bound.authoritative (platformReading revokingFiles)
            (.serving revokingFiles) = some contract →
              ∀ cap ∈ bound.enabledCapabilities, ¬ contract.Withholds cap.capabilityId) := by
  obtain ⟨r, hr, -⟩ := exists_resolve_revokingFiles
  exact ⟨r, hr, respects_iff hr⟩

/-- The revoked capability is authorized. -/
theorem revoked_authorized :
    ∃ r, bound.resolve (platformReading revokingFiles) (.serving revokingFiles) = .ok r ∧
      ¬ bound.Respects (platformReading revokingFiles) (.serving revokingFiles) r := by
  obtain ⟨r, hr, hmem⟩ := exists_resolve_revokingFiles
  refine ⟨r, hr, fun h => ?_⟩
  have hrevoked : (⟨.str "UNKNOWN", .str "UNKNOWN", .arr [], .arr [.str "fabric.read"]⟩ :
      FabricContract).Withholds "fabric.read" := .inl ⟨_, rfl, List.mem_singleton_self _⟩
  exact (h _ authoritative_revokingFiles _ hrevoked).1 hmem

end ThreePlaneBootstrap

end Bootstrap

end AnnyRuntime
