import AnnyRuntime.Lib.Dict
import AnnyRuntime.Lib.Guard
import AnnyRuntime.Lib.Transition
import AnnyRuntime.Secrets.Broker

/-!
# Locked workspaces

The manager keeps workspaces, which an actor can lock.  A call for a workspace is refused when the
context is of another tenant or project, or the actor is not in the scope of the workspace; `unlock`
also asks who holds the lock, `recover` and `destroy` do not.

* `owned_iff` : **a call leaves the locks of the others alone exactly when it does not destroy a
  workspace that another actor holds, and does not make one ready that was not.**
* `lock_ownership_iff` : so a lock is kept, over whole runs, exactly in the runs without such calls.
-/

namespace AnnyRuntime

namespace Workspaces

open Guard
open Pipeline (ExecutionContext)
open Secrets (ContextAccessError)

/-- `WorkspaceState`. -/
inductive WorkspaceState where
  | creating
  | ready
  | active
  | idle
  | recovering
  | destroying
  | destroyed
  deriving DecidableEq

/-- `Workspace`. -/
structure Workspace where
  workspaceId : String
  tenantId : String
  projectId : String
  actorScope : List String
  repository : String
  sourceRevision : String
  state : WorkspaceState
  generation : ℤ
  localPath : String
  createdAt : String
  lockedBy : Option String := none
  deriving DecidableEq

/-- `WorkspaceManager`, with the directories of the workspaces. -/
structure WorkspaceManager where
  /-- `str(base_dir / workspace_id)`. -/
  pathOf : String → String
  workspaces : Dict String Workspace
  directories : List String

/-- Why a call is refused. -/
inductive Refusal where
  | permissionError (message : String)
  | contextAccessError (e : ContextAccessError)
  | osError
  deriving DecidableEq

/-- `ContextGuard.assert_workspace`. -/
def assertWorkspace (ctx : ExecutionContext) (ws : Workspace) : Except Refusal Unit :=
  ensure (ws.projectId = ctx.projectId) (.contextAccessError
    ⟨"CONTEXT_ACCESS_DENIED: Workspace project mismatch. Context=" ++ ctx.projectId ++
      ", Workspace Project=" ++ ws.projectId⟩)

/-- What a call returns. -/
inductive Answer where
  | done (b : Bool)
  | workspace (ws : Option Workspace)
  deriving DecidableEq

namespace WorkspaceManager

variable (m : WorkspaceManager)

/-- The checks of `_validate_context_ownership`, for a workspace that there is. -/
def validate (ctx : ExecutionContext) (ws : Workspace) : Except Refusal Unit := do
  ensure (ws.tenantId = ctx.tenantId) (.permissionError "Access denied: tenant mismatch")
  assertWorkspace ctx ws
  ensure (ctx.actorId ∈ ws.actorScope ∨ "*" ∈ ws.actorScope)
    (.permissionError "Access denied: actor mismatch")

/-- `_validate_context_ownership`. -/
def validateContextOwnership (ctx : ExecutionContext) (workspaceId : String) :
    Except Refusal (Option Workspace) :=
  match m.workspaces.get? workspaceId with
  | none => .ok none
  | some ws => (validate ctx ws).map fun _ => some ws

/-- The workspace, changed. -/
def put (workspaceId : String) (ws : Workspace) : WorkspaceManager :=
  { m with workspaces := m.workspaces.set workspaceId ws }

/-- `create`, when the id is new and the directory can be made or not. -/
def create (ctx : ExecutionContext) (actorScope : List String) (repository sourceRevision : String)
    (workspaceId createdAt : String) (made : Bool) : Except Refusal Answer × WorkspaceManager :=
  if ctx.hasCapability "WORKSPACE_CREATE" then
    let ws : Workspace :=
      { workspaceId := workspaceId
        tenantId := ctx.tenantId
        projectId := ctx.projectId
        actorScope := actorScope
        repository := repository
        sourceRevision := sourceRevision
        state := .creating
        generation := ctx.generation
        localPath := m.pathOf workspaceId
        createdAt := createdAt }
    if made then
      let ready := { ws with state := .ready }
      (.ok (.workspace (some ready)), { m.put workspaceId ready with
        directories := ready.localPath :: m.directories })
    else (.error .osError, m.put workspaceId ws)
  else (.error (.permissionError "Access denied: missing WORKSPACE_CREATE"), m)

/-- A call for a workspace, which is made of the one that there is. -/
def withWorkspace (ctx : ExecutionContext) (workspaceId : String)
    (call : Workspace → Except Refusal Answer × WorkspaceManager) :
    Except Refusal Answer × WorkspaceManager :=
  match m.validateContextOwnership ctx workspaceId with
  | .error e => (.error e, m)
  | .ok none => (.ok (.done false), m)
  | .ok (some ws) => call ws

/-- `status`. -/
def status (ctx : ExecutionContext) (workspaceId : String) :
    Except Refusal Answer × WorkspaceManager :=
  ((m.validateContextOwnership ctx workspaceId).map .workspace, m)

/-- `lock`. -/
def lock (ctx : ExecutionContext) (workspaceId : String) :
    Except Refusal Answer × WorkspaceManager :=
  m.withWorkspace ctx workspaceId fun ws =>
    if ws.lockedBy = none then
      (.ok (.done true), m.put workspaceId { ws with lockedBy := some ctx.actorId })
    else (.ok (.done false), m)

/-- `unlock`. -/
def unlock (ctx : ExecutionContext) (workspaceId : String) :
    Except Refusal Answer × WorkspaceManager :=
  m.withWorkspace ctx workspaceId fun ws =>
    if ws.lockedBy = some ctx.actorId then
      (.ok (.done true), m.put workspaceId { ws with lockedBy := none })
    else (.ok (.done false), m)

/-- `destroy`, when the directory can be removed or not. -/
def destroy (ctx : ExecutionContext) (workspaceId : String) (removed : Bool) :
    Except Refusal Answer × WorkspaceManager :=
  if ctx.hasCapability "WORKSPACE_DELETE" then
    m.withWorkspace ctx workspaceId fun ws =>
      if ws.generation = ctx.generation then
        (.ok (.done true), { m with
          workspaces := m.workspaces.erase workspaceId
          directories := if removed then m.directories.filter (· ≠ ws.localPath)
            else m.directories })
      else (.error (.permissionError "Access denied: generation stale"), m)
  else (.error (.permissionError "Access denied: missing WORKSPACE_DELETE"), m)

/-- `recover`. -/
def recover (ctx : ExecutionContext) (workspaceId : String) :
    Except Refusal Answer × WorkspaceManager :=
  m.withWorkspace ctx workspaceId fun ws =>
    if ws.state ≠ .destroyed then
      (.ok (.done true), m.put workspaceId { ws with state := .ready })
    else (.ok (.done false), m)

end WorkspaceManager

/-! ### Calls -/

/-- A call of the manager. -/
inductive Call where
  | create (ctx : ExecutionContext) (actorScope : List String) (repository sourceRevision : String)
      (workspaceId createdAt : String) (made : Bool)
  | status (ctx : ExecutionContext) (workspaceId : String)
  | lock (ctx : ExecutionContext) (workspaceId : String)
  | unlock (ctx : ExecutionContext) (workspaceId : String)
  | destroy (ctx : ExecutionContext) (workspaceId : String) (removed : Bool)
  | recover (ctx : ExecutionContext) (workspaceId : String)

namespace Call

/-- The context of a call. -/
def ctx : Call → ExecutionContext
  | create ctx .. | status ctx _ | lock ctx _ | unlock ctx _ | destroy ctx .. | recover ctx _ => ctx

/-- The workspace that a call is for, if it is for one that there is. -/
def target : Call → Option String
  | create .. => none
  | status _ id | lock _ id | unlock _ id | destroy _ id _ | recover _ id => some id

end Call

namespace WorkspaceManager

variable (m : WorkspaceManager)

/-- What a call returns, and the manager after it. -/
def perform : Call → Except Refusal Answer × WorkspaceManager
  | .create ctx scope repository revision id createdAt made =>
    m.create ctx scope repository revision id createdAt made
  | .status ctx id => m.status ctx id
  | .lock ctx id => m.lock ctx id
  | .unlock ctx id => m.unlock ctx id
  | .destroy ctx id removed => m.destroy ctx id removed
  | .recover ctx id => m.recover ctx id

/-- The manager after a call. -/
def after (c : Call) : WorkspaceManager := (m.perform c).2

/-- The id of a new workspace is new. -/
def Fresh : Call → Prop
  | .create _ _ _ _ id _ _ => m.workspaces.get? id = none
  | _ => True

end WorkspaceManager

/-- The context may work on a workspace. -/
structure Admits (ctx : ExecutionContext) (ws : Workspace) : Prop where
  tenant : ws.tenantId = ctx.tenantId
  project : ws.projectId = ctx.projectId
  actor : ctx.actorId ∈ ws.actorScope ∨ "*" ∈ ws.actorScope

/-! ### What a call should do -/

open WorkspaceManager

/-- What a call should do with locks. -/
structure Owned (m : WorkspaceManager) (c : Call) : Prop where
  /-- Who gets a lock is the only one to hold it. -/
  exclusive : ∀ ctx id, c = .lock ctx id → (m.perform c).1 = .ok (.done true) →
    ∃ ws, m.workspaces.get? id = some ws ∧ ws.lockedBy = none ∧
      (m.after c).workspaces.get? id = some { ws with lockedBy := some ctx.actorId }
  /-- Who gives it back held it. -/
  holder : ∀ ctx id, c = .unlock ctx id → (m.perform c).1 = .ok (.done true) →
    ∃ ws, m.workspaces.get? id = some ws ∧ ws.lockedBy = some ctx.actorId
  /-- A workspace that another actor holds stays as it is. -/
  kept : ∀ id ws a, m.workspaces.get? id = some ws → ws.lockedBy = some a → c.ctx.actorId ≠ a →
    (m.after c).workspaces.get? id = some ws
  /-- A call that is not admitted is refused. -/
  refused : ∀ id ws, c.target = some id → m.workspaces.get? id = some ws → ¬ Admits c.ctx ws →
    ∃ e, m.perform c = (.error e, m)

/-- A call does not destroy a workspace that another actor holds, nor recover one that is not
ready. -/
def Spares (m : WorkspaceManager) : Call → Prop
  | .destroy ctx id _ => ∀ ws a, m.workspaces.get? id = some ws → ws.lockedBy = some a →
    ctx.actorId ≠ a → Admits ctx ws →
      ¬ (ctx.hasCapability "WORKSPACE_DELETE" = true ∧ ws.generation = ctx.generation)
  | .recover ctx id => ∀ ws a, m.workspaces.get? id = some ws → ws.lockedBy = some a →
    ctx.actorId ≠ a → Admits ctx ws → ws.state = .ready ∨ ws.state = .destroyed
  | _ => True

variable {m : WorkspaceManager} {c : Call} {ctx : ExecutionContext} {id : String} {ws : Workspace}

/-! ### Checks -/

theorem validate_eq_ok_iff : validate ctx ws = .ok () ↔ Admits ctx ws := by
  simp only [validate, assertWorkspace, seq_eq_ok, ensure_eq_ok, exists_const]
  constructor
  · rintro ⟨htenant, hproject, hactor⟩
    exact ⟨htenant, hproject, hactor⟩
  · exact fun h => ⟨h.tenant, h.project, h.actor⟩

theorem withWorkspace_of_admits {call : Workspace → Except Refusal Answer × WorkspaceManager}
    (hid : m.workspaces.get? id = some ws) (h : Admits ctx ws) :
    m.withWorkspace ctx id call = call ws := by
  simp only [withWorkspace, validateContextOwnership, hid, validate_eq_ok_iff.2 h, Except.map]

/-- **A call that is not admitted** is refused, and has no effect. -/
theorem withWorkspace_refused (call : Workspace → Except Refusal Answer × WorkspaceManager)
    (hid : m.workspaces.get? id = some ws) (h : ¬ Admits ctx ws) :
    ∃ e, m.withWorkspace ctx id call = (.error e, m) := by
  cases hv : validate ctx ws with
  | ok u => exact absurd (validate_eq_ok_iff.1 hv) h
  | error e =>
    refine ⟨e, ?_⟩
    simp only [withWorkspace, validateContextOwnership, hid, hv, Except.map]

/-- What a call returns for a workspace: what is made of the one that there is, or else nothing. -/
theorem withWorkspace_cases (m : WorkspaceManager) (ctx : ExecutionContext) (id : String)
    (call : Workspace → Except Refusal Answer × WorkspaceManager) :
    (∃ ws, m.workspaces.get? id = some ws ∧ Admits ctx ws ∧
        m.withWorkspace ctx id call = call ws) ∨
      (m.withWorkspace ctx id call).2 = m ∧
        (m.withWorkspace ctx id call).1 ≠ .ok (.done true) := by
  cases hid : m.workspaces.get? id with
  | none => exact .inr (by simp [withWorkspace, validateContextOwnership, hid])
  | some ws =>
    by_cases h : Admits ctx ws
    · exact .inl ⟨ws, rfl, h, withWorkspace_of_admits hid h⟩
    · obtain ⟨e, heq⟩ := withWorkspace_refused call hid h
      exact .inr (by simp [heq])

/-! ### Locks -/

/-- A workspace that an actor holds stays as it is. -/
def Holds (m m' : WorkspaceManager) (actorId : String) : Prop :=
  ∀ id ws a, m.workspaces.get? id = some ws → ws.lockedBy = some a → actorId ≠ a →
    m'.workspaces.get? id = some ws

theorem Holds.refl (m : WorkspaceManager) (actorId : String) : Holds m m actorId :=
  fun _ _ _ hid _ _ => hid

/-- Changing a workspace that no other actor holds. -/
theorem holds_set {actorId : String} {ws' : Workspace}
    (h : ∀ ws a, m.workspaces.get? id = some ws → ws.lockedBy = some a → actorId ≠ a → ws' = ws) :
    Holds m (m.put id ws') actorId := by
  intro id' ws a hid' ha hne
  change (m.workspaces.set id ws').get? id' = some ws
  rw [Dict.get?_set]
  split_ifs with heq
  · subst heq
    rw [h ws a hid' ha hne]
  · exact hid'

theorem holds_withWorkspace {actorId : String}
    (h : ∀ ws, m.workspaces.get? id = some ws → Admits ctx ws → Holds m (call ws).2 actorId) :
    Holds m (m.withWorkspace ctx id call).2 actorId := by
  obtain ⟨ws, hid, hadmits, heq⟩ | ⟨heq, -⟩ := withWorkspace_cases m ctx id call
  · rw [heq]
    exact h ws hid hadmits
  · rw [heq]
    exact Holds.refl m actorId

/-- **What the others hold** is kept by a call that spares it. -/
theorem holds_after (hfresh : m.Fresh c) (hc : Spares m c) : Holds m (m.after c) c.ctx.actorId := by
  cases c with
  | create ctx scope repository revision id createdAt made =>
    have hnew : m.workspaces.get? id = none := hfresh
    have hset (ws : Workspace) : Holds m (m.put id ws) ctx.actorId :=
      holds_set fun ws a hid => absurd (hnew.symm.trans hid) (by simp)
    simp only [after, perform, WorkspaceManager.create]
    split_ifs
    · exact hset _
    · exact hset _
    · exact Holds.refl m _
  | status ctx id => exact Holds.refl m _
  | lock ctx id =>
    refine holds_withWorkspace fun ws hid _ => ?_
    split_ifs with hfree
    · refine holds_set fun ws' a hid' ha => ?_
      obtain rfl := Option.some.inj (hid.symm.trans hid')
      exact absurd (hfree.symm.trans ha) (by simp)
    · exact Holds.refl m _
  | unlock ctx id =>
    refine holds_withWorkspace fun ws hid _ => ?_
    split_ifs with hown
    · refine holds_set fun ws' a hid' ha hne => ?_
      obtain rfl := Option.some.inj (hid.symm.trans hid')
      exact absurd (Option.some.inj (hown.symm.trans ha)) hne
    · exact Holds.refl m _
  | destroy ctx id removed =>
    simp only [after, perform, WorkspaceManager.destroy]
    by_cases hcap : ctx.hasCapability "WORKSPACE_DELETE" = true
    · rw [if_pos hcap]
      refine holds_withWorkspace fun ws hid hadmits => ?_
      by_cases hgen : ws.generation = ctx.generation
      · rw [if_pos hgen]
        intro id' ws' a hid' ha hne
        change (m.workspaces.erase id).get? id' = some ws'
        rw [Dict.get?_erase]
        split_ifs with heq
        · subst heq
          obtain rfl := Option.some.inj (hid.symm.trans hid')
          exact absurd ⟨hcap, hgen⟩ (hc ws a hid ha hne hadmits)
        · exact hid'
      · rw [if_neg hgen]
        exact Holds.refl m _
    · rw [if_neg hcap]
      exact Holds.refl m _
  | recover ctx id =>
    refine holds_withWorkspace fun ws hid hadmits => ?_
    split_ifs with hstate
    · refine holds_set fun ws' a hid' ha hne => ?_
      obtain rfl := Option.some.inj (hid.symm.trans hid')
      rw [← (hc ws a hid ha hne hadmits).resolve_right hstate]
    · exact Holds.refl m _

/-- **A call that is not admitted** is refused. -/
theorem refused_of_not_admits (htarget : c.target = some id) (hid : m.workspaces.get? id = some ws)
    (h : ¬ Admits c.ctx ws) : ∃ e, m.perform c = (.error e, m) := by
  cases c with
  | create ctx scope repository revision id createdAt made => cases htarget
  | status ctx id =>
    obtain rfl := Option.some.inj htarget
    cases hv : validate ctx ws with
    | ok u => exact absurd (validate_eq_ok_iff.1 hv) h
    | error e =>
      refine ⟨e, ?_⟩
      simp only [perform, WorkspaceManager.status, validateContextOwnership, hid, hv, Except.map]
  | lock ctx id | unlock ctx id | recover ctx id =>
    obtain rfl := Option.some.inj htarget
    exact withWorkspace_refused _ hid h
  | destroy ctx id removed =>
    obtain rfl := Option.some.inj htarget
    simp only [perform, WorkspaceManager.destroy]
    by_cases hcap : ctx.hasCapability "WORKSPACE_DELETE" = true
    · rw [if_pos hcap]
      exact withWorkspace_refused _ hid h
    · rw [if_neg hcap]
      exact ⟨_, rfl⟩

/-- Who gets a lock gets it from nobody. -/
theorem lock_exclusive (h : (m.lock ctx id).1 = .ok (.done true)) :
    ∃ ws, m.workspaces.get? id = some ws ∧ ws.lockedBy = none ∧
      (m.lock ctx id).2.workspaces.get? id = some { ws with lockedBy := some ctx.actorId } := by
  rw [WorkspaceManager.lock] at h ⊢
  obtain ⟨ws, hid, hadmits, heq⟩ | ⟨-, hno⟩ := withWorkspace_cases m ctx id _
  · rw [heq] at h ⊢
    by_cases hfree : ws.lockedBy = none
    · rw [if_pos hfree]
      exact ⟨ws, hid, hfree, Dict.get?_set_self _ _⟩
    · rw [if_neg hfree] at h
      cases h
  · exact absurd h hno

/-- Who gives a lock back held it. -/
theorem unlock_holder (h : (m.unlock ctx id).1 = .ok (.done true)) :
    ∃ ws, m.workspaces.get? id = some ws ∧ ws.lockedBy = some ctx.actorId := by
  rw [WorkspaceManager.unlock] at h
  obtain ⟨ws, hid, hadmits, heq⟩ | ⟨-, hno⟩ := withWorkspace_cases m ctx id _
  · rw [heq] at h
    by_cases hown : ws.lockedBy = some ctx.actorId
    · exact ⟨ws, hid, hown⟩
    · rw [if_neg hown] at h
      cases h
  · exact absurd h hno

/-- A call that leaves alone what the others hold spares it. -/
theorem spares_of_holds (h : Holds m (m.after c) c.ctx.actorId) : Spares m c := by
  cases c with
  | destroy ctx id removed =>
    rintro ws a hid ha hne hadmits ⟨hcap, hgen⟩
    have hkept := h id ws a hid ha hne
    simp only [after, perform, WorkspaceManager.destroy] at hkept
    rw [if_pos hcap, withWorkspace_of_admits hid hadmits, if_pos hgen] at hkept
    change (m.workspaces.erase id).get? id = some ws at hkept
    rw [Dict.get?_erase, if_pos rfl] at hkept
    cases hkept
  | recover ctx id =>
    intro ws a hid ha hne hadmits
    by_cases hstate : ws.state = .destroyed
    · exact .inr hstate
    · have hkept := h id ws a hid ha hne
      simp only [after, perform, WorkspaceManager.recover] at hkept
      rw [withWorkspace_of_admits hid hadmits, if_pos hstate] at hkept
      change (m.workspaces.set id { ws with state := .ready }).get? id = some ws at hkept
      rw [Dict.get?_set_self] at hkept
      exact .inl (congrArg Workspace.state (Option.some.inj hkept)).symm
  | create | status | lock | unlock => exact trivial

/-- **What one call does with locks.** -/
theorem owned_iff (hfresh : m.Fresh c) : Owned m c ↔ Spares m c := by
  constructor
  · exact fun h => spares_of_holds h.kept
  · intro hc
    refine ⟨?_, ?_, holds_after hfresh hc, fun id ws => refused_of_not_admits⟩
    · rintro ctx id rfl
      exact lock_exclusive
    · rintro ctx id rfl
      exact unlock_holder

/-! ### Runs -/

/-- The manager of a new process after some calls. -/
def run (pathOf : String → String) (cs : List Call) : WorkspaceManager :=
  cs.foldl after ⟨pathOf, .empty, []⟩

/-- Over a whole run locks are owned. -/
structure LockOwnership (pathOf : String → String) (cs : List Call) : Prop where
  owned : ∀ before c rest, cs = before ++ c :: rest → Owned (run pathOf before) c
  /-- A workspace that an actor holds stays as it is until this actor calls again. -/
  held : ∀ before others rest id ws a, cs = before ++ others ++ rest →
    (run pathOf before).workspaces.get? id = some ws → ws.lockedBy = some a →
    (∀ c ∈ others, c.ctx.actorId ≠ a) →
    (run pathOf (before ++ others)).workspaces.get? id = some ws

variable {pathOf : String → String} {cs : List Call}

theorem run_append (cs cs' : List Call) :
    run pathOf (cs ++ cs') = cs'.foldl after (run pathOf cs) := List.foldl_append

theorem run_concat (cs : List Call) (c : Call) :
    run pathOf (cs ++ [c]) = (run pathOf cs).after c := by
  rw [run, List.foldl_append]
  rfl

/-- **Locks over a run**, in which the ids of new workspaces are new. -/
theorem lock_ownership_iff (pathOf : String → String) (cs : List Call)
    (hfresh : ∀ before c rest, cs = before ++ c :: rest → (run pathOf before).Fresh c) :
    LockOwnership pathOf cs ↔
      ∀ before c rest, cs = before ++ c :: rest → Spares (run pathOf before) c := by
  constructor
  · intro h before c rest hcs
    exact spares_of_holds (h.owned before c rest hcs).kept
  · intro h
    have howned : ∀ before c rest, cs = before ++ c :: rest → Owned (run pathOf before) c :=
      fun before c rest hcs => (owned_iff (hfresh before c rest hcs)).2 (h before c rest hcs)
    refine ⟨howned, fun before others rest id ws a hcs hid ha hothers => ?_⟩
    rw [run_append]
    refine System.foldl_keeps (I := fun m : WorkspaceManager => m.workspaces.get? id = some ws)
      hid (fun done c todo hothers' hkept => ?_) (List.append_nil others).symm
    -- One of the other calls, after those before it.
    have hcs' : cs = before ++ done ++ c :: (todo ++ rest) := by
      rw [hcs, hothers']
      simp
    have hmem : c ∈ others := by
      rw [hothers']
      exact List.mem_append_right _ List.mem_cons_self
    rw [← run_append] at hkept ⊢
    exact (howned _ c _ hcs').kept id ws a hkept ha (hothers c hmem)

/-- A context of an actor. -/
def contextOf (actorId : String) (capabilities : List String) : ExecutionContext where
  tenantId := "tenant-1"
  accountId := "acct-1"
  projectId := "proj-1"
  annyInstanceId := "inst-1"
  runtimeId := "rt-1"
  sessionId := "sess-1"
  actorId := actorId
  operationId := "op-1"
  executionId := "exec-1"
  generation := 1
  issuedAt := ⟨0, some 0⟩
  expiresAt := ⟨0, some 0⟩
  capabilities := capabilities

/-- A workspace that is made by an actor and locked. -/
def locked : List Call :=
  [.create (contextOf "actor-1" ["WORKSPACE_CREATE"]) ["actor-1", "actor-2"] "repo-1" "main" "ws-1"
      "0.0" true,
    .lock (contextOf "actor-1" []) "ws-1"]

/-- The path of a workspace. -/
def underTmp (workspaceId : String) : String := "/tmp/" ++ workspaceId

theorem fresh_locked :
    ∀ before c rest, locked = before ++ c :: rest → (run underTmp before).Fresh c := by
  rw [locked, forall_split_cons, forall_split_cons]
  exact ⟨rfl, trivial, forall_split_nil⟩

/-- A lock that nobody takes away. -/
theorem lock_ownership_locked : LockOwnership underTmp locked := by
  refine (lock_ownership_iff underTmp locked fresh_locked).2 ?_
  rw [locked, forall_split_cons, forall_split_cons]
  exact ⟨trivial, trivial, forall_split_nil⟩

/-- Another actor destroys the workspace. -/
def destroyed : List Call :=
  locked ++ [.destroy (contextOf "actor-2" ["WORKSPACE_DELETE"]) "ws-1" true]

/-- **A workspace is destroyed while another actor holds it.** -/
theorem not_lock_ownership :
    (∀ before c rest, destroyed = before ++ c :: rest → (run underTmp before).Fresh c) ∧
      ((run underTmp locked).workspaces.get? "ws-1").bind Workspace.lockedBy = some "actor-1" ∧
      (run underTmp destroyed).workspaces.get? "ws-1" = none ∧
      ¬ LockOwnership underTmp destroyed := by
  have hgone : (run underTmp destroyed).workspaces.get? "ws-1" = none := by decide
  refine ⟨?_, by decide, hgone, fun h => ?_⟩
  · simp only [destroyed, locked, List.cons_append, List.nil_append, forall_split_cons]
    exact ⟨rfl, trivial, trivial, forall_split_nil⟩
  · obtain ⟨ws, hws, hlocked⟩ : ∃ ws, (run underTmp locked).workspaces.get? "ws-1" = some ws ∧
        ws.lockedBy = some "actor-1" := ⟨_, rfl, rfl⟩
    have hkept := (h.owned locked _ [] rfl).kept "ws-1" ws "actor-1" hws hlocked (by decide)
    rw [← run_concat] at hkept
    exact absurd (hgone.symm.trans hkept) (by simp)

end Workspaces

end AnnyRuntime
