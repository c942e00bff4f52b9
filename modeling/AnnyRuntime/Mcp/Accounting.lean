import AnnyRuntime.Mcp.Quota

/-!
# Accounting for invocations

`invoke` should answer every request with a result, and every run of a tool should leave one audit
record (`Accounted`).  What `invoke` does between its `try` blocks can raise all the same: it looks
ids up, encodes the input for its size, compares the deadline with the time, and encodes the output
and the input again, with sorted keys, for the evidence, when the tool has run already.  `Handled`
says, stage by stage, what a request must be like for none of that to raise.
-/

namespace AnnyRuntime

namespace Mcp

/-- The statuses of results. -/
def terminalStatuses : List ToolInvocationStatus := [.succeeded, .failed, .denied, .timedOut]

/-- **Accounting.**  The invocation returns a result with a terminal status, and a run of the tool
leaves exactly one audit record. -/
structure Accounted (i : Invocation) : Prop where
  returns : ∃ r, i.result = some r ∧ r.status ∈ terminalStatuses
  audited : i.ran.isSome = true → i.audits.length = 1

theorem Accounted.result_ne_none {i : Invocation} (h : Accounted i) : i.result ≠ none := by
  obtain ⟨r, hr, -⟩ := h.returns
  rw [hr]
  simp

namespace MCPGateway

/-- The request may ask for its tool, and the tool is available. -/
def Allowed (g : MCPGateway) (req : ToolRequest) : Prop :=
  validateRequest req = .admitted ∧ g.authorize req = .admitted ∧ g.resolve req = .admitted

/-- An audit record is written. -/
def Audits (g : MCPGateway) (w : World) : Prop := g.auditing = true ∧ w.records = true

/-- How a tool may end: it returns something that can be recorded, or it raises an exception that
has a text. -/
def OutcomeHandled (req : ToolRequest) : Outcome → Prop
  | .returned output input => Recordable req output input ∧ req.executionId.key?.isSome = true
  | .failed text => text.isSome = true
  | .crashed e => e.text.isSome = true
  | .aborted => False

/-- What a request that is admitted does when it is executed. -/
structure RunHandled (g : MCPGateway) (w : World) (req : ToolRequest) : Prop where
  /-- Merging the context of the caller raises an exception that has a text. -/
  merges : (w.implementations req.toolId.text).isSome = true →
    ∀ e, req.callerContext = .error e → e.text.isSome = true
  /-- The tool ends as it may, and somebody writes the audit record. -/
  ends : ∀ impl cc, w.implementations req.toolId.text = some impl → req.callerContext = .ok cc →
    OutcomeHandled req (impl req.inputData (g.context req cc)) ∧ g.Audits w

/-- **When an invocation is accounted for**, stage by stage. -/
structure Handled (g : MCPGateway) (w : World) (req : ToolRequest) : Prop where
  /-- The id of the tool can be looked up. -/
  looksUp : validateRequest req = .admitted → req.toolId.key?.isSome = true
  /-- With a policy, the id of the execution can be looked up, and the input can be encoded unless
  the quota is used up. -/
  measures : g.Allowed req → ∀ p, g.toolRegistry.policies.get? req.toolId.text = some p →
    ∃ k, req.executionId.key? = some k ∧
      ((g.count k req.toolId.text : ℤ) < p.maxInvocationsPerExecution →
        req.inputData.encodable false = true)
  /-- The deadline compares with the time. -/
  compares : g.Allowed req → g.enforcePolicy req = .admitted → req.deadline.isSome = true
  /-- What is run ends as it may. -/
  runs : g.check w.now req = .admitted → g.RunHandled w req

variable {g : MCPGateway} {w : World} {req : ToolRequest}

/-! ### What raises in the checks -/

theorem validateRequest_ne_raises : validateRequest req ≠ .raises := by
  unfold validateRequest
  split_ifs <;> simp

theorem lookup_eq_none {α : Type*} {d : Dict String α} {f : Field} :
    f.lookup d = none ↔ f.key? = none := by
  cases f with
  | str s => simp [Field.lookup, Field.key?]
  | other o =>
    simp only [Field.lookup, Field.key?]
    split_ifs <;> simp

/-- A caller that is admitted is named by a string. -/
theorem checkCaller_admitted {tool : ToolDefinition} {policy : Option ToolPolicy}
    (h : checkCaller tool policy req = .admitted) : ∃ s, req.capabilityId = .str s := by
  unfold checkCaller at h
  cases policy with
  | some p =>
    dsimp only at h
    split_ifs at h with hmem
    · obtain ⟨s, -, hs⟩ := List.mem_map.1 hmem
      exact ⟨s, hs.symm⟩
    · cases h
  | none =>
    dsimp only at h
    split_ifs at h with heq
    · exact ⟨_, heq⟩
    · cases h

theorem checkCaller_ne_raises {tool : ToolDefinition} {policy : Option ToolPolicy} :
    checkCaller tool policy req ≠ .raises := by
  unfold checkCaller unauthorized
  cases policy <;> dsimp only <;> split_ifs <;> simp

theorem checkCapability_ne_raises {s : String} (hs : req.capabilityId = .str s) :
    g.checkCapability req ≠ .raises := by
  unfold checkCapability unauthorized
  rw [hs]
  dsimp only [Field.lookup]
  split
  · rename_i h
    cases h
  · simp
  · split_ifs <;> simp

theorem authorize_eq_raises : g.authorize req = .raises ↔ req.toolId.key? = none := by
  unfold authorize ToolRegistry.getTool ToolRegistry.getPolicy
  cases hf : req.toolId with
  | str t =>
    simp only [Field.lookup, Field.key?]
    cases g.toolRegistry.tools.get? t with
    | none => simp
    | some tool =>
      simp only [Check.andThen_eq_raises, checkCaller_ne_raises, false_or, reduceCtorEq,
        iff_false, not_and]
      intro hcaller
      obtain ⟨s, hs⟩ := checkCaller_admitted hcaller
      exact checkCapability_ne_raises hs
  | other o =>
    simp only [Field.lookup, Field.key?]
    cases o.hashable <;> simp

theorem resolve_ne_raises (h : req.toolId.key?.isSome = true) : g.resolve req ≠ .raises := by
  unfold resolve ToolRegistry.getTool
  split
  · rename_i hnone
    rw [lookup_eq_none.1 hnone] at h
    cases h
  · split_ifs <;> simp

theorem checkInput_eq_raises {p : ToolPolicy} {v : PyVal} :
    checkInput p v = .raises ↔ v.encodable false = false := by
  unfold checkInput PyVal.encodable violation
  cases v.encode false with
  | none => simp
  | some j =>
    dsimp only
    split_ifs <;> simp

/-- Enforcing the policy of a tool raises when the id of the execution cannot be looked up, or when
the input is measured and cannot be encoded. -/
theorem enforcePolicy_ne_raises {t : String} (ht : req.toolId = .str t) :
    g.enforcePolicy req ≠ .raises ↔
      ∀ p, g.toolRegistry.policies.get? req.toolId.text = some p →
        ∃ k, req.executionId.key? = some k ∧
          ((g.count k req.toolId.text : ℤ) < p.maxInvocationsPerExecution →
            req.inputData.encodable false = true) := by
  unfold enforcePolicy ToolRegistry.getPolicy
  rw [ht]
  simp only [Field.lookup, Field.text]
  cases g.toolRegistry.policies.get? t with
  | none => simp
  | some p =>
    cases req.executionId.key? with
    | none => simp
    | some k =>
      by_cases hle : p.maxInvocationsPerExecution ≤ (g.count k t : ℤ)
      · simp [violation, hle]
      · simp [checkInput_eq_raises, hle, not_le.1 hle]

theorem checkDeadline_eq_raises {now : ℕ} :
    checkDeadline now req = .raises ↔ req.deadline = none := by
  unfold checkDeadline
  cases req.deadline with
  | none => simp
  | some d =>
    dsimp only
    split_ifs <;> simp

theorem toolId_of_resolve (h : g.resolve req = .admitted) : ∃ t, req.toolId = .str t := by
  unfold resolve at h
  split at h
  · cases h
  rename_i found hfound
  split_ifs at h with havailable
  obtain ⟨tool, rfl, -⟩ := (Option.any_eq_true _ _).1 havailable
  obtain ⟨t, ht, -⟩ := lookup_eq_some hfound
  exact ⟨t, ht⟩

/-- The checks raise nothing exactly when each stage that is reached raises nothing. -/
theorem check_ne_raises {now : ℕ} :
    g.check now req ≠ .raises ↔
      (validateRequest req = .admitted → req.toolId.key?.isSome = true) ∧
      (g.Allowed req → g.enforcePolicy req ≠ .raises) ∧
      (g.Allowed req → g.enforcePolicy req = .admitted → req.deadline.isSome = true) := by
  have hkey : req.toolId.key?.isSome = true ↔ g.authorize req ≠ .raises := by
    rw [Ne, authorize_eq_raises, ← Option.not_isSome_iff_eq_none, not_not]
  have hdeadline : req.deadline.isSome = true ↔ checkDeadline now req ≠ .raises := by
    rw [Ne, checkDeadline_eq_raises, ← Option.not_isSome_iff_eq_none, not_not]
  have hresolve : g.authorize req = .admitted → g.resolve req ≠ .raises := fun h =>
    resolve_ne_raises (hkey.2 (by rw [h]; simp))
  rw [hkey, hdeadline]
  simp only [Ne, check, Allowed, Check.andThen_eq_raises, validateRequest_ne_raises, false_or]
  constructor
  · intro h
    refine ⟨fun hv ha => h ⟨hv, .inl ha⟩, fun ⟨hv, ha, hr⟩ he => ?_, fun ⟨hv, ha, hr⟩ he hd => ?_⟩
    · exact h ⟨hv, .inr ⟨ha, .inr ⟨hr, .inl he⟩⟩⟩
    · exact h ⟨hv, .inr ⟨ha, .inr ⟨hr, .inr ⟨he, hd⟩⟩⟩⟩
  · -- the tool is looked up before it is resolved, so that resolving cannot raise
    rintro ⟨hlook, hpolicy, htime⟩ ⟨hv, ha | ⟨ha, hr | ⟨hr, he | ⟨he, hd⟩⟩⟩⟩
    · exact hlook hv ha
    · exact hresolve ha hr
    · exact hpolicy ⟨hv, ha, hr⟩ he
    · exact htime ⟨hv, ha, hr⟩ he hd

/-! ### The statuses of refusals -/

/-- The statuses that a request is refused with. -/
def refusalStatuses : List ToolInvocationStatus := [.failed, .denied, .timedOut]

/-- A check refuses with one of them. -/
def RefusesOnly (c : Check) : Prop :=
  ∀ status message audit, c = .refused status message audit → status ∈ refusalStatuses

/-- A check refuses with a terminal status. -/
def RefusesTerminal (c : Check) : Prop :=
  ∀ status message audit, c = .refused status message audit → status ∈ terminalStatuses

theorem RefusesOnly.andThen {a b : Check} (ha : RefusesOnly a) (hb : RefusesOnly b) :
    RefusesOnly (a.andThen b) := by
  cases a with
  | admitted => exact hb
  | refused s m x => exact ha
  | raises => exact ha

theorem refusesOnly_admitted : RefusesOnly .admitted := fun _ _ _ h => by cases h

theorem refusesOnly_raises : RefusesOnly .raises := fun _ _ _ h => by cases h

theorem refusesOnly_refused {status : ToolInvocationStatus} {message : String}
    {audit : Option String} (hs : status ∈ refusalStatuses) :
    RefusesOnly (.refused status message audit) := fun _ _ _ h => by
  cases h
  exact hs

theorem refusesOnly_failed (message : String) :
    RefusesOnly (.refused .failed message none) :=
  refusesOnly_refused (by simp [refusalStatuses])

theorem refusesOnly_unauthorized (message : String) : RefusesOnly (unauthorized message) :=
  refusesOnly_refused (by simp [refusalStatuses])

theorem refusesOnly_violation (message : String) : RefusesOnly (violation message) :=
  refusesOnly_refused (by simp [refusalStatuses])

theorem refusesOnly_validateRequest : RefusesOnly (validateRequest req) := by
  unfold validateRequest
  split_ifs
  iterate 4 exact refusesOnly_failed _
  exact refusesOnly_admitted

theorem refusesOnly_authorize : RefusesOnly (g.authorize req) := by
  unfold authorize
  split
  · exact refusesOnly_failed _
  · refine RefusesOnly.andThen ?_ ?_
    · unfold checkCaller
      split <;> split_ifs
      · exact refusesOnly_admitted
      · exact refusesOnly_unauthorized _
      · exact refusesOnly_admitted
      · exact refusesOnly_unauthorized _
    · unfold checkCapability
      split
      · exact refusesOnly_raises
      · exact refusesOnly_unauthorized _
      · split_ifs
        · exact refusesOnly_admitted
        · exact refusesOnly_unauthorized _
  · exact refusesOnly_raises

theorem refusesOnly_resolve : RefusesOnly (g.resolve req) := by
  unfold resolve
  split
  · exact refusesOnly_raises
  · split_ifs
    · exact refusesOnly_admitted
    · exact refusesOnly_failed _

theorem refusesOnly_enforcePolicy : RefusesOnly (g.enforcePolicy req) := by
  unfold enforcePolicy
  split
  · exact refusesOnly_admitted
  · dsimp only
    split_ifs
    · exact refusesOnly_violation _
    · unfold checkInput
      split
      · exact refusesOnly_raises
      · dsimp only
        split_ifs
        · exact refusesOnly_violation _
        · exact refusesOnly_admitted
  · exact refusesOnly_raises

theorem refusesOnly_checkDeadline {now : ℕ} : RefusesOnly (checkDeadline now req) := by
  unfold checkDeadline
  split
  · exact refusesOnly_raises
  · split_ifs
    · exact refusesOnly_refused (by simp [refusalStatuses])
    · exact refusesOnly_admitted

/-- What a request is refused with. -/
theorem refusesOnly_check {now : ℕ} : RefusesOnly (g.check now req) :=
  refusesOnly_validateRequest.andThen <| refusesOnly_authorize.andThen <|
    refusesOnly_resolve.andThen <| refusesOnly_enforcePolicy.andThen
      refusesOnly_checkDeadline

/-- A request is refused with a terminal status. -/
theorem refusesTerminal_check {now : ℕ} : RefusesTerminal (g.check now req) :=
  fun status message audit h => List.mem_cons_of_mem _ (refusesOnly_check status message audit h)

/-! ### What is accounted for -/

theorem length_emitAudit {eventType details : String} (h : g.Audits w) :
    (g.emitAudit w eventType req details).length = 1 := by
  rw [emitAudit, h.1, h.2]
  rfl

theorem audits_of_length {eventType details : String}
    (h : (g.emitAudit w eventType req details).length = 1) : g.Audits w := by
  unfold emitAudit at h
  split_ifs at h with hboth
  exact Bool.and_eq_true_iff.1 hboth

theorem accounted_crash_run {run : Run} {e : Crash} :
    Accounted (g.crash w req (some run) e) ↔ e.text.isSome = true ∧ g.Audits w := by
  unfold crash
  cases e.text with
  | none =>
    exact ⟨fun h => absurd rfl h.result_ne_none, fun h => absurd h.1 (by simp)⟩
  | some text =>
    refine ⟨fun h => ⟨rfl, audits_of_length (h.audited rfl)⟩, fun h => ⟨⟨_, rfl, ?_⟩, fun _ => ?_⟩⟩
    · simp [makeErrorResult, terminalStatuses]
    · exact length_emitAudit h.2

theorem accounted_crash {e : Crash} :
    Accounted (g.crash w req none e) ↔ e.text.isSome = true := by
  unfold crash
  cases e.text with
  | none =>
    exact ⟨fun h => absurd rfl h.result_ne_none, fun h => absurd h (by simp)⟩
  | some text =>
    exact ⟨fun _ => rfl, fun _ => ⟨⟨_, rfl, by simp [makeErrorResult, terminalStatuses]⟩, nofun⟩⟩

theorem accounted_succeed {run : Run} {output input : PyVal} :
    Accounted (g.succeed w req run output input) ↔
      (Recordable req output input ∧ req.executionId.key?.isSome = true) ∧ g.Audits w := by
  by_cases h : Recordable req output input ∧ req.executionId.key?.isSome = true
  · obtain ⟨k, hk⟩ := Option.isSome_iff_exists.1 h.2
    obtain ⟨r, details, hr, hstatus, -⟩ := succeed_of_recordable g w run h.1 hk
    rw [hr]
    refine ⟨fun ha => ⟨h, audits_of_length (ha.audited rfl)⟩, fun ha =>
      ⟨⟨r, rfl, ?_⟩, fun _ => length_emitAudit ha.2⟩⟩
    rw [hstatus]
    simp [terminalStatuses]
  · rw [succeed_of_not_recordable h]
    exact ⟨fun ha => absurd rfl ha.result_ne_none, fun ha => absurd ha.1 h⟩

theorem accounted_conclude {run : Run} {o : Outcome} :
    Accounted (g.conclude w req run o) ↔ OutcomeHandled req o ∧ g.Audits w := by
  cases o with
  | returned output input => exact accounted_succeed
  | crashed e => exact accounted_crash_run
  | aborted =>
    exact ⟨fun h => absurd rfl h.result_ne_none, fun h => h.1.elim⟩
  | failed text =>
    cases text with
    | none =>
      exact ⟨fun h => absurd rfl h.result_ne_none, fun h =>
        absurd h.1 (by simp [OutcomeHandled])⟩
    | some text =>
      refine ⟨fun h => ⟨rfl, audits_of_length (h.audited rfl)⟩, fun h =>
        ⟨⟨_, rfl, by simp [makeErrorResult, terminalStatuses]⟩, fun _ => length_emitAudit h.2⟩⟩

theorem accounted_execute : Accounted (g.execute w req) ↔ g.RunHandled w req := by
  unfold execute
  -- without an implementation the run crashes at once, and that is handled
  cases himpl : w.implementations req.toolId.text with
  | none =>
    refine ⟨fun _ => ⟨fun h => absurd h (by rw [himpl]; simp), fun impl cc h => ?_⟩, fun _ =>
      accounted_crash.2 rfl⟩
    rw [himpl] at h
    cases h
  | some impl =>
    cases hcc : req.callerContext with
    | error e =>
      rw [accounted_crash]
      refine ⟨fun h => ⟨fun _ e' he' => ?_, fun impl' cc _ h' => ?_⟩, fun h =>
        h.merges (by rw [himpl]; rfl) e hcc⟩
      · rw [hcc] at he'
        exact Except.error.inj he' ▸ h
      · rw [hcc] at h'
        cases h'
    | ok cc =>
      rw [accounted_conclude]
      refine ⟨fun h => ⟨fun _ e he => ?_, fun impl' cc' himpl' hcc' => ?_⟩, fun h =>
        h.ends impl cc himpl hcc⟩
      · rw [hcc] at he
        cases he
      · obtain rfl := Option.some.inj (himpl.symm.trans himpl')
        obtain rfl := Except.ok.inj (hcc.symm.trans hcc')
        exact h

end MCPGateway

end Mcp

end AnnyRuntime
