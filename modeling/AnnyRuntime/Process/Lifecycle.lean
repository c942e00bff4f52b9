import AnnyRuntime.Lib.Settling
import AnnyRuntime.Process.Limit

/-!
# The life of a process record

A record is made by `start` and shown, stopped and waited for by contexts of its owner: its tenant,
its actor, its workspace and its generation.

* `closed_once` : **over every run**, a record stays as it was started until one step closes it, and
  then it never changes again; that step is a `stop` or a `wait` under a context of its owner, or
  the marking of an older generation.
-/

namespace AnnyRuntime

namespace Process

open Pipeline (ExecutionContext)

/-- The context is of the owner of the record. -/
structure FullRecord.OwnedBy (r : FullRecord) (ctx : ExecutionContext) : Prop where
  tenant : r.tenantId = ctx.tenantId
  actor : r.actorId = ctx.actorId
  workspace : r.workspaceId = ctx.workspaceId
  generation : r.runtimeGeneration = ctx.generation

/-- What waiting makes of a record. -/
inductive FullRecord.Ends (r : FullRecord) (now : String) : Waited → FullRecord → Prop
  | exited (code : ℤ) (stdout stderr : String) :
    r.Ends now (.exited code stdout stderr)
      { r with
        stdout := stdout
        stderr := stderr
        exitCode := some code
        state := if code = 0 then .completed else .failed
        finishedAt := some now }
  | timedOut (stdout stderr : String) :
    r.Ends now (.timedOut (some (stdout, stderr)))
      { r with
        stdout := stdout
        stderr := stderr
        state := .timedOut
        finishedAt := some now }
  /-- The output is lost, and the end is not noted. -/
  | unread : r.Ends now (.timedOut none) { r with state := .timedOut }

/-- The step closes the running record of a process. -/
def Step.Closes (id : String) (a : Step) (r r' : FullRecord) : Prop :=
  r.state = .running ∧
    match a with
    | .start .. => False
    | .stop ctx i now _ => i = id ∧ r.OwnedBy ctx ∧ ctx.hasCapability "PROCESS_CONTROL" = true ∧
        r' = { r with
          state := .killed
          finishedAt := some now }
    | .wait ctx i now waited => i = id ∧ r.OwnedBy ctx ∧ r.Ends now waited r'
    | .markStale generation =>
      r.runtimeGeneration < generation ∧ r' = { r with state := .killed }
    | .exits _ => False

namespace LimitedManager

/-- The record of a process. -/
def record? (m : LimitedManager) (id : String) : Option FullRecord :=
  (m.processes.get? id).map Entry.record

variable {m : LimitedManager} {a : Step} {x y : Entry} {id i : String} {r : FullRecord}
  {ctx : ExecutionContext}

theorem validateOwnership_eq_ok_iff : validateOwnership ctx r = .ok () ↔ r.OwnedBy ctx := by
  unfold validateOwnership
  constructor
  · intro h
    split at h
    · cases h
    · split at h
      · cases h
      · split at h
        · cases h
        · split at h
          · cases h
          · rename_i ht ha hw hg
            exact ⟨not_not.1 ht, not_not.1 ha, not_not.1 hw, not_not.1 hg⟩
  · intro h
    rw [if_neg (not_not.2 h.tenant), if_neg (not_not.2 h.actor), if_neg (not_not.2 h.workspace),
      if_neg (not_not.2 h.generation)]

/-- Changing one process leaves the records of the others. -/
theorem record?_put (m : LimitedManager) (i : String) (y : Entry) (id : String) :
    (m.put i y).record? id = if id = i then some y.record else m.record? id := by
  show ((m.processes.set i y).get? id).map Entry.record = _
  rw [Dict.get?_set]
  split <;> rfl

/-- A call for a process changes the record of this process or none, for its owner. -/
theorem record?_withProcess {call : Entry → Except Raised (Option FullRecord) × LimitedManager}
    (hr : m.record? id = some r)
    (hcall : ∀ x, m.processes.get? i = some x → x.record.OwnedBy ctx →
      (call x).2.record? id = some r ∨
        ∃ r', (call x).2.record? id = some r' ∧ a.Closes id r r') :
    (m.withProcess ctx i call).2.record? id = some r ∨
      ∃ r', (m.withProcess ctx i call).2.record? id = some r' ∧ a.Closes id r r' := by
  unfold withProcess
  split
  · exact .inl hr
  · rename_i x hx
    split
    · exact .inl hr
    · rename_i howned
      exact hcall x hx (validateOwnership_eq_ok_iff.1 howned)

/-- The record of the process that a call finds. -/
theorem record_of_get? (hr : m.record? id = some r) (hx : m.processes.get? id = some x) :
    x.record = r := by
  rw [record?, hx, Option.map_some, Option.some.injEq] at hr
  exact hr

/-- A changed record, of the process or of another one. -/
theorem record?_put_cases (hr : m.record? id = some r) (hx : m.processes.get? i = some x)
    (hcloses : i = id → x.record = r → a.Closes id r y.record) :
    (m.put i y).record? id = some r ∨
      ∃ r', (m.put i y).record? id = some r' ∧ a.Closes id r r' := by
  rw [record?_put]
  by_cases hid : id = i
  · subst hid
    rw [if_pos rfl]
    exact .inr ⟨_, rfl, hcloses rfl (record_of_get? hr hx)⟩
  · rw [if_neg hid]
    exact .inl hr

theorem record?_stop (hr : m.record? id = some r) (ctx : ExecutionContext) (i now : String)
    (signal : Signal) :
    (m.stop ctx i now signal).2.record? id = some r ∨
      ∃ r', (m.stop ctx i now signal).2.record? id = some r' ∧
        (Step.stop ctx i now signal).Closes id r r' := by
  unfold stop
  by_cases hcap : ctx.hasCapability "PROCESS_CONTROL" = true
  · rw [if_pos hcap]
    refine record?_withProcess hr fun x hx howned => ?_
    by_cases hruns : (x.handle.isSome && x.running) = true
    · rw [if_pos hruns]
      have hrunning : x.record.state = .running :=
        of_decide_eq_true (Bool.and_eq_true_iff.1 hruns).2
      have hcloses : ∀ y : Entry, y.record = { x.record with
            state := .killed
            finishedAt := some now } →
          i = id → x.record = r → (Step.stop ctx i now signal).Closes id r y.record := by
        rintro y hy rfl rfl
        exact ⟨hrunning, rfl, howned, hcap, hy⟩
      cases signal with
      | raises => exact .inl hr
      | ends => exact record?_put_cases hr hx (hcloses _ rfl)
      | goesOn => exact record?_put_cases hr hx (hcloses _ rfl)
    · rw [if_neg hruns]
      exact .inl hr
  · rw [if_neg hcap]
    exact .inl hr

theorem record?_wait (hr : m.record? id = some r) (ctx : ExecutionContext) (i now : String)
    (waited : Waited) :
    (m.wait ctx i now waited).2.record? id = some r ∨
      ∃ r', (m.wait ctx i now waited).2.record? id = some r' ∧
        (Step.wait ctx i now waited).Closes id r r' := by
  unfold wait
  refine record?_withProcess hr fun x hx howned => ?_
  by_cases hruns : (x.handle.isSome && x.running) = true
  · rw [if_pos hruns]
    have hrunning : x.record.state = .running :=
      of_decide_eq_true (Bool.and_eq_true_iff.1 hruns).2
    have hcloses : ∀ y : Entry, x.record.Ends now waited y.record →
        i = id → x.record = r → (Step.wait ctx i now waited).Closes id r y.record := by
      rintro y hy rfl rfl
      exact ⟨hrunning, rfl, howned, hy⟩
    cases waited with
    | exited code stdout stderr => exact record?_put_cases hr hx (hcloses _ (.exited _ _ _))
    | timedOut output =>
      cases output with
      | none => exact record?_put_cases hr hx (hcloses _ .unread)
      | some output => exact record?_put_cases hr hx (hcloses _ (.timedOut _ _))
    | raises ended =>
      cases ended with
      | false => exact .inl hr
      | true =>
        dsimp only
        rw [if_pos rfl, record?_put]
        by_cases hid : id = i
        · subst hid
          rw [if_pos rfl]
          have hsame : x.record = r := record_of_get? hr hx
          exact .inl (congrArg some hsame)
        · rw [if_neg hid]
          exact .inl hr
  · rw [if_neg hruns]
    exact .inl hr

theorem record?_markStale (hr : m.record? id = some r) (generation : ℤ) :
    (m.markStale generation).record? id = some r ∨
      ∃ r', (m.markStale generation).record? id = some r' ∧
        (Step.markStale generation).Closes id r r' := by
  rw [record?, Option.map_eq_some_iff] at hr
  obtain ⟨x, hx, rfl⟩ := hr
  have hmarked : (m.markStale generation).record? id = some (markEntry generation x).record := by
    show ((m.processes.map (markEntry generation)).get? id).map Entry.record = _
    rw [Dict.get?_map, hx]
    rfl
  rw [hmarked]
  unfold markEntry
  by_cases hstale : x.record.isStale generation = true
  · rw [if_pos hstale]
    obtain ⟨hlt, hrunning⟩ := Bool.and_eq_true_iff.1 hstale
    exact .inr ⟨_, rfl, of_decide_eq_true hrunning, of_decide_eq_true hlt, rfl⟩
  · rw [if_neg hstale]
    exact .inl rfl

/-- **One step** leaves a record as it is, or closes it. -/
theorem record?_after (hr : m.record? id = some r) (hfresh : m.Fresh a) :
    (m.after a).record? id = some r ∨
      ∃ r', (m.after a).record? id = some r' ∧ a.Closes id r r' := by
  cases a with
  | start ctx command timeout i now later spawned =>
    refine .inl ?_
    have hid : id ≠ i := by
      rintro rfl
      rw [record?, show m.processes.get? id = none from hfresh] at hr
      cases hr
    have hput : ∀ y, (m.put i y).record? id = some r := fun y => by
      rw [record?_put, if_neg hid, hr]
    show (m.start ctx command timeout i now later spawned).2.record? id = some r
    unfold start
    split
    · split
      · exact hr
      · cases spawned with
        | ok pid => exact hput _
        | error text => exact hput _
    · exact hr
  | stop ctx i now signal => exact record?_stop hr ctx i now signal
  | wait ctx i now waited => exact record?_wait hr ctx i now waited
  | markStale generation => exact record?_markStale hr generation
  | exits i =>
    refine .inl ?_
    show (m.exits i).record? id = some r
    unfold exits
    split
    · exact hr
    · rename_i x hx
      rw [record?_put]
      by_cases hid : id = i
      · subst hid
        have hsame : x.record = r := record_of_get? hr hx
        rw [if_pos rfl]
        exact congrArg some hsame
      · rw [if_neg hid, hr]

theorem not_running_of_closes {r' : FullRecord} (h : a.Closes id r r') : r'.state ≠ .running := by
  cases a with
  | start => exact h.2.elim
  | stop =>
    rw [h.2.2.2.2]
    exact ProcessState.noConfusion
  | wait ctx i now waited =>
    cases h.2.2.2 with
    | exited code =>
      dsimp only
      split <;> exact ProcessState.noConfusion
    | timedOut => exact ProcessState.noConfusion
    | unread => exact ProcessState.noConfusion
  | markStale =>
    rw [h.2.2]
    exact ProcessState.noConfusion
  | exits => exact h.2.elim

/-- A running record may be closed, and a closed one stays. -/
theorem settling (id : String) :
    Settling after (record? · id) Fresh (Step.Closes id) (fun r => r.state = .running) where
  step _ _ _ hr hfresh := record?_after hr hfresh
  opened _ _ _ h := h.1
  closed _ _ _ h := not_running_of_closes h

/-- A record stays as it is, or exactly one step closes it. -/
theorem closed_once {m : LimitedManager} {steps : List Step}
    (hr : m.record? id = some r)
    (hfresh : ∀ before a rest, steps = before ++ a :: rest → (m.run before).Fresh a) :
    (m.run steps).record? id = some r ∨
      ∃ before a rest r', steps = before ++ a :: rest ∧ (m.run before).record? id = some r ∧
        a.Closes id r r' ∧ (m.run steps).record? id = some r' :=
  (settling id).run hr hfresh

/-! ### Where records come from -/

/-- The step starts a process, and answers with its record. -/
def Starts (m : LimitedManager) (id : String) (a : Step) (r : FullRecord) : Prop :=
  match a with
  | .start ctx command timeout i now later spawned =>
    i = id ∧ (m.start ctx command timeout i now later spawned).1 = .ok r
  | _ => False

theorem record?_withProcess_none
    {call : Entry → Except Raised (Option FullRecord) × LimitedManager}
    (hnone : m.record? id = none)
    (hcall : ∀ x, m.processes.get? i = some x → id ≠ i → (call x).2.record? id = none) :
    (m.withProcess ctx i call).2.record? id = none := by
  unfold withProcess
  split
  · exact hnone
  · rename_i x hx
    have hid : id ≠ i := by
      rintro rfl
      rw [record?, hx] at hnone
      cases hnone
    split
    · exact hnone
    · exact hcall x hx hid

theorem record?_put_none (hnone : m.record? id = none) (hid : id ≠ i) (y : Entry) :
    (m.put i y).record? id = none := by
  rw [record?_put, if_neg hid, hnone]

/-- Only a start that is not refused makes a record. -/
theorem starts_of_record (hnone : m.record? id = none) (h : (m.after a).record? id = some r) :
    m.Starts id a r := by
  have habsurd : (m.after a).record? id ≠ none := by
    rw [h]
    exact Option.some_ne_none r
  cases a with
  | start ctx command timeout i now later spawned =>
    change (m.start ctx command timeout i now later spawned).2.record? id = some r at h
    show i = id ∧ (m.start ctx command timeout i now later spawned).1 = .ok r
    have hput : ∀ y : Entry, (m.put i y).record? id = some r → i = id ∧ y.record = r := by
      intro y hy
      rw [record?_put] at hy
      by_cases hid : id = i
      · rw [if_pos hid] at hy
        exact ⟨hid.symm, Option.some.inj hy⟩
      · rw [if_neg hid, hnone] at hy
        cases hy
    unfold start at h ⊢
    by_cases hcap : ctx.hasCapability "PROCESS_EXECUTION" = true
    · rw [if_pos hcap] at h ⊢
      cases henforced : m.enforceLimits with
      | error e =>
        rw [henforced] at h
        exact absurd (hnone.symm.trans h) (Option.some_ne_none r).symm
      | ok u =>
        rw [henforced] at h
        cases spawned with
        | ok pid =>
          obtain ⟨hid, hr⟩ := hput _ h
          exact ⟨hid, congrArg Except.ok hr⟩
        | error text =>
          obtain ⟨hid, hr⟩ := hput _ h
          exact ⟨hid, congrArg Except.ok hr⟩
    · rw [if_neg hcap] at h
      exact absurd (hnone.symm.trans h) (Option.some_ne_none r).symm
  | stop ctx i now signal =>
    refine absurd ?_ habsurd
    show (m.stop ctx i now signal).2.record? id = none
    unfold stop
    split
    · refine record?_withProcess_none hnone fun x hx hid => ?_
      split
      · cases signal with
        | raises => exact hnone
        | ends => exact record?_put_none hnone hid _
        | goesOn => exact record?_put_none hnone hid _
      · exact hnone
    · exact hnone
  | wait ctx i now waited =>
    refine absurd ?_ habsurd
    show (m.wait ctx i now waited).2.record? id = none
    unfold wait
    refine record?_withProcess_none hnone fun x hx hid => ?_
    split
    · cases waited with
      | exited => exact record?_put_none hnone hid _
      | timedOut output =>
        cases output with
        | none => exact record?_put_none hnone hid _
        | some => exact record?_put_none hnone hid _
      | raises ended =>
        cases ended with
        | false => exact hnone
        | true => exact record?_put_none hnone hid _
    · exact hnone
  | markStale generation =>
    refine absurd ?_ habsurd
    show ((m.processes.map (markEntry generation)).get? id).map Entry.record = none
    rw [record?, Option.map_eq_none_iff] at hnone
    rw [Dict.get?_map, hnone]
    rfl
  | exits i =>
    refine absurd ?_ habsurd
    show (m.exits i).record? id = none
    unfold exits
    split
    · exact hnone
    · rename_i x hx
      have hid : id ≠ i := by
        rintro rfl
        rw [record?, hx] at hnone
        cases hnone
      exact record?_put_none hnone hid _

/-- A record was started, and stood in the table then. -/
theorem started_of_run {m : LimitedManager} {steps : List Step} (hnone : m.record? id = none)
    (h : (m.run steps).record? id = some r) :
    ∃ before a rest r₀, steps = before ++ a :: rest ∧ (m.run before).Starts id a r₀ ∧
      (m.run (before ++ [a])).record? id = some r₀ := by
  induction steps using List.reverseRecOn generalizing r with
  | nil =>
    rw [show (m.run []).record? id = none from hnone] at h
    cases h
  | append_singleton steps a ih =>
    cases hbefore : (m.run steps).record? id with
    | some r' =>
      obtain ⟨before, b, rest, r₀, rfl, hstarts, hr₀⟩ := ih hbefore
      exact ⟨before, b, rest ++ [a], r₀, by simp, hstarts, hr₀⟩
    | none =>
      have hafter : ((m.run steps).after a).record? id = some r := by
        rw [← run_concat]
        exact h
      exact ⟨steps, a, [], r, rfl, starts_of_record hbefore hafter, h⟩

end LimitedManager

end Process

end AnnyRuntime
