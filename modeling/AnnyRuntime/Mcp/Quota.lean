import AnnyRuntime.Lib.Transition
import AnnyRuntime.Mcp.Gateway

/-!
# The quota of a tool

A policy bounds how often a tool is run for one execution.  `enforcePolicy` compares the bound with
a count, and the count is advanced last, when the evidence of a run that returned is complete.  A
tool that raises, and one whose output cannot be encoded, has run all the same: such runs are not
counted, and any number of them passes the check.

As long as every run of a tool with a policy returns and leaves evidence (`Counts`), the count is
the number of runs, and the quota holds.
-/

namespace AnnyRuntime

namespace Mcp

namespace MCPGateway

variable {g : MCPGateway} {w : World} {req : ToolRequest}

/-- The evidence of a run can be computed: what it returned and what it left of its input encode
with sorted keys. -/
def Recordable (req : ToolRequest) (output input : PyVal) : Prop :=
  (evidencePayload req.requestId req.toolId .succeeded output).encodable true = true ∧
    input.encodable true = true

/-- A run that returned and can be recorded is counted and audited, and returns its output. -/
theorem succeed_of_recordable (g : MCPGateway) (w : World) (run : Run) {output input : PyVal}
    (h : Recordable req output input) {k : String ⊕ ℕ} (hk : req.executionId.key? = some k) :
    ∃ r details, g.succeed w req run output input =
        { gateway := g.track k run.toolId
          ran := some run
          audits := g.emitAudit w "TOOL_INVOCATION_SUCCESS" req details
          result := some r } ∧
      r.status = .succeeded ∧ r.outputData = output := by
  obtain ⟨payload, hpayload⟩ := Option.isSome_iff_exists.1 h.1
  obtain ⟨j, hj⟩ := Option.isSome_iff_exists.1 h.2
  unfold succeed
  simp only [hpayload, hj, hk]
  exact ⟨_, _, rfl, rfl, rfl⟩

/-- A run that returned and cannot be recorded raises. -/
theorem succeed_of_not_recordable {run : Run} {output input : PyVal}
    (h : ¬ (Recordable req output input ∧ req.executionId.key?.isSome = true)) :
    g.succeed w req run output input = { gateway := g, ran := some run, result := none } := by
  unfold succeed
  dsimp only
  split
  · rename_i payload j k hpayload hj hk
    exact absurd ⟨⟨Option.isSome_iff_exists.2 ⟨_, hpayload⟩,
      Option.isSome_iff_exists.2 ⟨_, hj⟩⟩, Option.isSome_iff_exists.2 ⟨_, hk⟩⟩ h
  · rfl

/-- A run is counted, or leaves the gateway as it is. -/
theorem gateway_conclude (run : Run) (o : Outcome) :
    (g.conclude w req run o).gateway = g ∨
      ∃ k, req.executionId.key? = some k ∧
        (g.conclude w req run o).gateway = g.track k run.toolId := by
  unfold conclude
  split
  · exact Or.inl rfl
  · exact Or.inl rfl
  · exact Or.inl rfl
  · exact Or.inl (gateway_crash _ _)
  · rename_i output input
    by_cases h : Recordable req output input ∧ req.executionId.key?.isSome = true
    · obtain ⟨k, hk⟩ := Option.isSome_iff_exists.1 h.2
      obtain ⟨r, details, hr, -⟩ := succeed_of_recordable g w run h.1 hk
      exact Or.inr ⟨k, hk, by rw [hr]⟩
    · exact Or.inl (by rw [succeed_of_not_recordable h])

end MCPGateway

/-! ### Sequences of requests -/

/-- A gateway, and all runs of implementations so far. -/
structure Session where
  gateway : MCPGateway
  runs : List Run := []

namespace Session

open MCPGateway

/-- The session after a request. -/
def next (s : Session) (a : World × ToolRequest) : Session where
  gateway := (s.gateway.invoke a.1 a.2).gateway
  runs := s.runs ++ (s.gateway.invoke a.1 a.2).ran.toList

/-- Requests to a gateway that starts with no counts. -/
def system : System Session (World × ToolRequest) :=
  .ofFn (fun s => s.gateway.invocationCounts = Dict.empty ∧ s.runs = []) fun s a => some (s.next a)

/-- How often a tool was run for an execution. -/
def invocations (runs : List Run) (k : String ⊕ ℕ) (t : String) : ℕ :=
  runs.countP fun r => r.toolId = t ∧ r.executionId.key? = some k

/-- **The quota.**  No tool was run for an execution more often than its policy says. -/
def WithinQuota (s : Session) : Prop :=
  ∀ t p k, s.gateway.toolRegistry.policies.get? t = some p → invocations s.runs k t ≠ 0 →
    (invocations s.runs k t : ℤ) ≤ p.maxInvocationsPerExecution

/-- If the request is admitted and its tool has a policy, then the implementation returns, and its
evidence can be computed. -/
def Counts (s : Session) (a : World × ToolRequest) : Prop :=
  s.gateway.check a.1.now a.2 = .admitted →
    ∀ p impl cc, s.gateway.toolRegistry.policies.get? a.2.toolId.text = some p →
      a.1.implementations a.2.toolId.text = some impl → a.2.callerContext = .ok cc →
        ∃ output input, impl a.2.inputData (s.gateway.context a.2 cc) = .returned output input ∧
          Recordable a.2 output input

/-! ### The count is the number of runs -/

/-- Every run of a tool with a policy is counted, and the counts are within the policy. -/
def Counted (s : Session) : Prop :=
  ∀ t p k, s.gateway.toolRegistry.policies.get? t = some p →
    s.gateway.count k t = invocations s.runs k t ∧
      (s.gateway.count k t = 0 ∨ (s.gateway.count k t : ℤ) ≤ p.maxInvocationsPerExecution)

theorem Counted.withinQuota {s : Session} (h : s.Counted) : s.WithinQuota := by
  intro t p k hp hne
  obtain ⟨hcount, hle⟩ := h t p k hp
  rw [hcount] at hle
  exact hle.resolve_left hne

theorem toolRegistry_next (s : Session) (a : World × ToolRequest) :
    (s.next a).gateway.toolRegistry = s.gateway.toolRegistry := by
  show (s.gateway.invoke a.1 a.2).gateway.toolRegistry = _
  cases hran : (s.gateway.invoke a.1 a.2).ran with
  | none => rw [gateway_of_ran_eq_none hran]
  | some run =>
    obtain ⟨-, impl, cc, -, -, -, hinvoke⟩ := ran_invoke hran
    rw [hinvoke]
    rcases gateway_conclude run (impl a.2.inputData run.context) with h | ⟨k, -, h⟩ <;> rw [h]
    exact toolRegistry_track k run.toolId

theorem invocations_append (runs : List Run) (run : Run) (k : String ⊕ ℕ) (t : String) :
    invocations (runs ++ [run]) k t =
      invocations runs k t + if run.toolId = t ∧ run.executionId.key? = some k then 1 else 0 := by
  unfold invocations
  rw [List.countP_append, List.countP_singleton]
  simp only [decide_eq_true_eq]

/-- One request keeps the count at the number of runs. -/
theorem Counted.next {s : Session} {a : World × ToolRequest} (h : s.Counted) (ha : s.Counts a) :
    (s.next a).Counted := by
  intro t p k hp
  rw [toolRegistry_next] at hp
  obtain ⟨hcount, hle⟩ := h t p k hp
  cases hran : (s.gateway.invoke a.1 a.2).ran with
  | none =>
    -- nothing ran, and the gateway is the same
    simp only [Session.next, hran, gateway_of_ran_eq_none hran, Option.toList_none,
      List.append_nil]
    exact ⟨hcount, hle⟩
  | some run =>
    obtain ⟨hadmitted, impl, cc, himpl, hcc, hrun, hinvoke⟩ := ran_invoke hran
    obtain ⟨t', tool, ht', -, -, hpolicy⟩ := check_admitted hadmitted
    have hid : run.toolId = t' := by rw [hrun, ht']; rfl
    have hexecution : run.executionId = a.2.executionId := by rw [hrun]
    simp only [Session.next, hinvoke, ran_conclude, Option.toList_some, invocations_append,
      hexecution, hid]
    by_cases ht : t' = t
    · -- the tool that ran: it returned, so that its run is counted
      subst ht
      obtain ⟨k', hk', hlt⟩ := hpolicy p hp
      obtain ⟨output, input, hreturned, hrecordable⟩ :=
        ha hadmitted p impl cc (by rw [ht']; exact hp) himpl hcc
      have hgateway : (s.gateway.conclude a.1 a.2 run (impl a.2.inputData run.context)).gateway =
          s.gateway.track k' t' := by
        obtain ⟨r, details, hr, -⟩ := succeed_of_recordable s.gateway a.1 run hrecordable hk'
        rw [hrun] at hr ⊢
        rw [hreturned, conclude, hr, ht', Field.text]
      rw [hgateway, count_track, hk']
      by_cases hk : k = k'
      · subst hk
        simp only [and_self, if_true]
        exact ⟨by rw [hcount], Or.inr (by push_cast; omega)⟩
      · have hne : ¬ k' = k := fun h => hk h.symm
        simp only [hk, hne, Option.some.injEq, and_true, and_false, if_false, Nat.add_zero]
        exact ⟨hcount, hle⟩
    · -- another tool: its count does not move
      simp only [ht, false_and, if_false, Nat.add_zero]
      rcases gateway_conclude run (impl a.2.inputData run.context) with hg | ⟨k', -, hg⟩
      · rw [hg]
        exact ⟨hcount, hle⟩
      · rw [hg, hid, count_track, if_neg fun h => ht h.2.symm, Nat.add_zero]
        exact ⟨hcount, hle⟩

theorem counted_invariant : (system.restrict Counts).Invariant Counted where
  init s hs := by
    intro t p k _
    have hzero : s.gateway.count k t = 0 := by
      unfold count
      rw [hs.1]
      rfl
    refine ⟨?_, Or.inl hzero⟩
    rw [hzero, hs.2]
    rfl
  step s a t h hstep := by
    obtain ⟨ha, rfl⟩ : s.Counts a ∧ s.next a = t := ⟨hstep.1, Option.some.inj hstep.2⟩
    exact h.next ha

/-- **When the quota holds.**  As long as every run of a tool with a policy returns and can be
recorded, no tool runs for an execution more often than its policy says. -/
theorem withinQuota_of_counts {s : Session} (h : (system.restrict Counts).Reachable s) :
    s.WithinQuota := (counted_invariant.holds h).withinQuota

/-! ### A tool that searches -/

/-- A gateway for one tool, which may run once for an execution. -/
def searchGateway : MCPGateway where
  toolRegistry :=
    (ToolRegistry.empty.registerTool ⟨"repository.search", "repository.search", .available⟩)
      |>.registerPolicy ⟨"repository.search", 1, 4096, 1024 * 1024, ["repository.search"]⟩
  capabilityRegistry := Execution.CapabilityRegistry.init
  auditing := true
  workspacePath := ""
  fabricDataDir := "fabric"
  githubClient := .none
  fabricClient := .none

/-- A request to it. -/
def searchRequest (input : PyVal) : ToolRequest where
  requestId := .str "treq-1"
  toolId := .str "repository.search"
  capabilityId := .str "repository.search"
  workerId := .str "wrk-1"
  executionId := .str "exec-1"
  inputData := input
  deadline := some 100

/-- The tool does this. -/
def searching (o : Outcome) : World where
  startedAt := 10
  now := 10
  completedAt := 12
  implementations := fun t => if t = "repository.search" then some fun _ _ => o else none
  digest := fun _ => "digest"

/-- The tool runs and returns. -/
theorem withinQuota_searching :
    let a := (searching (.returned (.list []) .none), searchRequest .none)
    invocations (Session.next { gateway := searchGateway } a).runs (.inl "exec-1")
        "repository.search" = 1 ∧
      (Session.next { gateway := searchGateway } a).WithinQuota := by
  refine ⟨by decide, withinQuota_of_counts (.step (.init ⟨rfl, rfl⟩) ⟨?_, rfl⟩)⟩
  rintro - p impl cc - himpl -
  obtain rfl := Option.some.inj himpl
  exact ⟨_, _, rfl, by decide, by decide⟩

/-- The tool fails, and is run again: the quota of one run does not hold. -/
theorem not_withinQuota_failing : ¬ ∀ s, system.Reachable s → s.WithinQuota := by
  intro h
  let a := (searching (.failed (some "Failed to search GitHub")), searchRequest .none)
  have hquota := h ((Session.next { gateway := searchGateway } a).next a)
    (.step (.step (.init ⟨rfl, rfl⟩) rfl) rfl) "repository.search"
    ⟨"repository.search", 1, 4096, 1024 * 1024, ["repository.search"]⟩ (.inl "exec-1") rfl
    (by decide)
  revert hquota
  decide

end Session

end Mcp

end AnnyRuntime
