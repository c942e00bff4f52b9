import AnnyRuntime.Json.Dataclass
import AnnyRuntime.Json.RoundTrip
import AnnyRuntime.Lib.Dict
import AnnyRuntime.Lib.Text
import AnnyRuntime.Lib.Transition

/-!
# The authorization store

Grants are kept under a key that joins tenant, actor, capability and workspace with colons, and a
check looks for a grant of the context's workspace first and for one of all workspaces second.

* `StoreRun` : a store and the history behind it, that is, the grants and revocations that its
  memory comes from; `load` takes the history back to where it was saved.
* `StoreRun.exact_iff` : **where no other tuple of the history is joined to the same
  key**, a check says what the last events of the two tuples say exactly when no grant of another
  generation stands before a wildcard grant of the context's generation.
* `StoreRun.not_exact_joined` : a tenant with a colon in its name is taken for another.
-/

namespace AnnyRuntime

namespace Security

/-- `execution_context.ExecutionContext`: what the store reads of it. -/
structure ExecutionContext where
  tenantId : String
  actorId : String
  generation : ℤ
  workspaceId : Option String := none
  deriving DecidableEq

/-- `Grant`.  Nothing checks the types of what is loaded. -/
structure Grant where
  (tenantId actorId capability workspaceId generation : Json)
  deriving DecidableEq

namespace Grant

/-- The fields of a grant. -/
def fields : List Json.Field :=
  [{ name := "tenant_id" }, { name := "actor_id" }, { name := "capability" },
    { name := "workspace_id" }, { name := "generation" }]

/-- The values of the fields. -/
def values (g : Grant) : List Json :=
  [g.tenantId, g.actorId, g.capability, g.workspaceId, g.generation]

/-- A grant with the given values. -/
def ofValues : List Json → Option Grant
  | [tenantId, actorId, capability, workspaceId, generation] =>
    some ⟨tenantId, actorId, capability, workspaceId, generation⟩
  | _ => none

/-- `asdict(grant)`. -/
def toJson (g : Grant) : Json := .obj (Json.zipFields fields g.values)

/-- `Grant(**v)`, or a `TypeError`. -/
def ofJson : Json → Option Grant
  | .obj ms => (Json.bindKwargs fields ms).bind ofValues
  | _ => none

theorem ofJson_toJson (g : Grant) : ofJson g.toJson = some g := by
  rw [toJson, ofJson, Json.bindKwargs_zip (by decide) (by rfl)]
  rfl

end Grant

/-- `AuthorizationStore`: its memory and its file. -/
structure AuthorizationStore where
  grants : Dict String Grant := Dict.empty
  /-- The file, when it exists. -/
  file : Option ByteArray := none

namespace AuthorizationStore

/-- `_make_key`.  A context need not have a workspace. -/
def makeKey (tenantId actorId capability : String) (workspaceId : Option String) : String :=
  tenantId ++ ":" ++ actorId ++ ":" ++ capability ++ ":" ++ workspaceId.getD "None"

variable (s : AuthorizationStore)

/-- `grant`. -/
def grant (tenantId actorId capability workspaceId : String) (generation : ℤ) :
    AuthorizationStore :=
  { s with
    grants := s.grants.set (makeKey tenantId actorId capability workspaceId)
      ⟨.str tenantId, .str actorId, .str capability, .str workspaceId, .int generation⟩ }

/-- `revoke`. -/
def revoke (tenantId actorId capability workspaceId : String) : AuthorizationStore :=
  { s with grants := s.grants.erase (makeKey tenantId actorId capability workspaceId) }

/-- `check`. -/
def check (context : ExecutionContext) (capability : String) : Bool :=
  let keySpecific := makeKey context.tenantId context.actorId capability context.workspaceId
  let keyWildcard := makeKey context.tenantId context.actorId capability "*"
  ((s.grants.get? keySpecific).or (s.grants.get? keyWildcard)).any fun grant =>
    grant.generation.asInt = some context.generation

/-- The grants that the text of a file holds, or an exception. -/
def readGrants (b : ByteArray) : Option (Dict String Grant) := do
  match ← (← Text.decode b) |> Json.loads with
  | .obj ms =>
    let es ← ms.mapM fun m => (Grant.ofJson m.2).map (m.1, ·)
    return Dict.ofList es
  | _ => none

/-- `load`, or an exception. -/
def load : Option AuthorizationStore :=
  match s.file with
  | some b => (readGrants b).map ({ s with grants := · })
  | none => some s

/-- What the grants are written as. -/
def grantsText (d : Dict String Grant) : List Char :=
  Json.dumps (.obj (d.entries.map fun e => (e.1, e.2.toJson)))

/-- `save`. -/
def save : AuthorizationStore := { s with file := some (Text.encode (grantsText s.grants)) }

end AuthorizationStore

/-! ### Histories -/

/-- What a grant or a revocation is for. -/
structure Subject where
  (tenantId actorId capability : String)
  workspaceId : Option String
  deriving DecidableEq

/-- The key of a subject. -/
def Subject.key (x : Subject) : String :=
  AuthorizationStore.makeKey x.tenantId x.actorId x.capability x.workspaceId

/-- A grant, with its generation, or a revocation. -/
structure GrantEvent where
  subject : Subject
  granted : Option ℤ
  deriving DecidableEq

/-- The grant that an event leaves under its key. -/
def GrantEvent.grant? (e : GrantEvent) : Option Grant :=
  e.granted.map fun generation =>
    ⟨.str e.subject.tenantId, .str e.subject.actorId, .str e.subject.capability,
      .str (e.subject.workspaceId.getD "None"), .int generation⟩

/-- Where the memory of a store comes from. -/
structure GrantHistory where
  /-- The events, the last one first. -/
  events : List GrantEvent := []
  /-- The events when the store was saved. -/
  saved : Option (List GrantEvent) := none

namespace GrantHistory

variable (h : GrantHistory)

/-- The last event of a subject. -/
def last (x : Subject) : Option GrantEvent := h.events.find? fun e => e.subject = x

/-- The last event of a subject is a grant of the generation. -/
def Grants (x : Subject) (generation : ℤ) : Prop :=
  (h.last x).bind GrantEvent.granted = some generation

end GrantHistory

namespace ExecutionContext

/-- The context with a capability, in its own workspace. -/
def specific (context : ExecutionContext) (capability : String) : Subject :=
  ⟨context.tenantId, context.actorId, capability, context.workspaceId⟩

/-- The context with a capability, in all workspaces. -/
def wildcard (context : ExecutionContext) (capability : String) : Subject :=
  ⟨context.tenantId, context.actorId, capability, "*"⟩

end ExecutionContext

namespace GrantHistory

variable (h : GrantHistory)

/-- No other tuple of the history is joined to the key of the subject. -/
def Separates (x : Subject) : Prop :=
  ∀ e ∈ h.events, e.subject.key = x.key → e.subject = x

/-- A grant of another generation stands before a wildcard grant of the context's generation. -/
def Shadowed (context : ExecutionContext) (capability : String) : Prop :=
  (∃ generation, h.Grants (context.specific capability) generation ∧
      generation ≠ context.generation) ∧
    h.Grants (context.wildcard capability) context.generation

end GrantHistory

/-- A store and the history behind it. -/
structure StoreRun where
  store : AuthorizationStore := {}
  history : GrantHistory := {}

/-- A call. -/
inductive StoreOp where
  | grant (tenantId actorId capability workspaceId : String) (generation : ℤ)
  | revoke (tenantId actorId capability workspaceId : String)
  | save
  | load
  deriving DecidableEq

namespace StoreRun

/-- What a call does.  A load that raises changes nothing. -/
def next (s : StoreRun) : StoreOp → StoreRun
  | .grant tenantId actorId capability workspaceId generation =>
    { store := s.store.grant tenantId actorId capability workspaceId generation
      history := { s.history with
        events := ⟨⟨tenantId, actorId, capability, workspaceId⟩, some generation⟩ ::
          s.history.events } }
  | .revoke tenantId actorId capability workspaceId =>
    { store := s.store.revoke tenantId actorId capability workspaceId
      history := { s.history with
        events := ⟨⟨tenantId, actorId, capability, workspaceId⟩, none⟩ :: s.history.events } }
  | .save =>
    { store := s.store.save
      history := { s.history with saved := some s.history.events } }
  | .load =>
    { store := s.store.load.getD s.store
      history := { s.history with events := s.history.saved.getD s.history.events } }

/-- All sequences of calls, from a new store without a file on. -/
def system : System StoreRun StoreOp := .ofFn (· = {}) fun s op => some (s.next op)

/-- A check says what the last events of the two tuples say. -/
def Exact (s : StoreRun) (context : ExecutionContext) (capability : String) : Prop :=
  s.store.check context capability = true ↔
    s.history.Grants (context.specific capability) context.generation ∨
      s.history.Grants (context.wildcard capability) context.generation

end StoreRun

/-! ### What the memory holds -/

namespace AuthorizationStore

theorem readGrants_grantsText (d : Dict String Grant) :
    readGrants (Text.encode (grantsText d)) = some d := by
  have hread : (d.entries.map fun e => (e.1, e.2.toJson)).mapM
      (fun m => (Grant.ofJson m.2).map (m.1, ·)) = some d.entries :=
    Json.mapM_map_eq_some fun e _ => by rw [Grant.ofJson_toJson]; rfl
  simp only [readGrants, Text.decode_encode, grantsText, Json.loads_dumps, Option.bind_eq_bind,
    Option.bind_some, hread, Dict.ofList_entries, Option.pure_def]

end AuthorizationStore

/-- Under each key there is what the last event with that key left. -/
def Tracks (d : Dict String Grant) (events : List GrantEvent) : Prop :=
  ∀ k, d.get? k = (events.find? fun e => e.subject.key = k).bind GrantEvent.grant?

theorem Tracks.grant {d : Dict String Grant} {events : List GrantEvent} (h : Tracks d events)
    (e : GrantEvent) {g : Grant} (hg : e.grant? = some g) :
    Tracks (d.set e.subject.key g) (e :: events) := by
  intro k
  rw [Dict.get?_set, List.find?_cons]
  by_cases hk : k = e.subject.key
  · subst hk
    simp [hg]
  · simp [hk, Ne.symm hk, h k]

theorem Tracks.revoke {d : Dict String Grant} {events : List GrantEvent} (h : Tracks d events)
    (e : GrantEvent) (hg : e.grant? = none) : Tracks (d.erase e.subject.key) (e :: events) := by
  intro k
  rw [Dict.get?_erase, List.find?_cons]
  by_cases hk : k = e.subject.key
  · subst hk
    simp [hg]
  · simp [hk, Ne.symm hk, h k]

/-- Where nothing else has its key, the last event under the key of a subject is its own. -/
theorem GrantHistory.Separates.find?_key {h : GrantHistory} {x : Subject} (hx : h.Separates x) :
    (h.events.find? fun e => e.subject.key = x.key) = h.last x := by
  rw [GrantHistory.last, ← List.head?_filter, ← List.head?_filter]
  refine congrArg List.head? (List.filter_congr fun e he => ?_)
  exact decide_eq_decide.2 ⟨hx e he, fun heq => heq ▸ rfl⟩

namespace StoreRun

variable {s : StoreRun}

/-- The memory comes from the history, and so does the file. -/
structure Backed (s : StoreRun) : Prop where
  memory : Tracks s.store.grants s.history.events
  file : (s.store.file = none ∧ s.history.saved = none) ∨
    ∃ d events, s.store.file = some (Text.encode (AuthorizationStore.grantsText d)) ∧
      s.history.saved = some events ∧ Tracks d events

theorem Backed.next (h : s.Backed) (op : StoreOp) : (s.next op).Backed := by
  cases op with
  | grant tenantId actorId capability workspaceId generation =>
    exact ⟨h.memory.grant ⟨⟨tenantId, actorId, capability, workspaceId⟩, some generation⟩ rfl,
      h.file⟩
  | revoke tenantId actorId capability workspaceId =>
    exact ⟨h.memory.revoke ⟨⟨tenantId, actorId, capability, workspaceId⟩, none⟩ rfl, h.file⟩
  | save => exact ⟨h.memory, Or.inr ⟨_, _, rfl, rfl, h.memory⟩⟩
  | load =>
    rcases h.file with ⟨hfile, hsaved⟩ | ⟨d, events, hfile, hsaved, htracks⟩
    · refine ⟨?_, Or.inl ⟨?_, hsaved⟩⟩
      · simpa [StoreRun.next, AuthorizationStore.load, hfile, hsaved] using h.memory
      · simp [StoreRun.next, AuthorizationStore.load, hfile]
    · refine ⟨?_, Or.inr ⟨d, events, ?_, hsaved, htracks⟩⟩
      · simpa [StoreRun.next, AuthorizationStore.load, hfile, hsaved,
          AuthorizationStore.readGrants_grantsText] using htracks
      · simp [StoreRun.next, AuthorizationStore.load, hfile,
          AuthorizationStore.readGrants_grantsText]

theorem backed_invariant : system.Invariant Backed where
  init s h := by
    obtain rfl := h
    exact ⟨fun _ => rfl, Or.inl ⟨rfl, rfl⟩⟩
  step s op t h hstep := by
    obtain rfl := Option.some.inj hstep
    exact h.next op

/-! ### What a check says -/

/-- A grant says what the event that left it says. -/
theorem any_grant? (e e' : Option GrantEvent) (generation : ℤ) :
    ((e.bind GrantEvent.grant?).or (e'.bind GrantEvent.grant?)).any
        (fun g => decide (g.generation.asInt = some generation)) = true ↔
      (e.bind GrantEvent.granted).or (e'.bind GrantEvent.granted) = some generation := by
  have hsome (e : GrantEvent) : e.grant?.map (fun g => g.generation.asInt) =
      e.granted.map some := by
    cases hg : e.granted <;> simp [GrantEvent.grant?, hg, Json.asInt]
  have hbind (e : Option GrantEvent) : (e.bind GrantEvent.grant?).map
      (fun g => g.generation.asInt) = (e.bind GrantEvent.granted).map some := by
    cases e with
    | none => rfl
    | some e => exact hsome e
  have hor := congrArg₂ Option.or (hbind e) (hbind e')
  rw [← Option.map_or, ← Option.map_or] at hor
  rw [Option.any_eq_true]
  constructor
  · rintro ⟨g, hg, hgeneration⟩
    rw [hg, Option.map_some, of_decide_eq_true hgeneration] at hor
    obtain ⟨n, hn, hsame⟩ := Option.map_eq_some_iff.1 hor.symm
    rw [hn, hsame]
  · intro h
    rw [h, Option.map_some] at hor
    obtain ⟨g, hg, hgeneration⟩ := Option.map_eq_some_iff.1 hor
    exact ⟨g, hg, decide_eq_true hgeneration⟩

/-- A check asks for the first of two grants: the one of the workspace, if there is one. -/
theorem check_eq_true_iff {context : ExecutionContext} {capability : String} (h : s.Backed)
    (hs : s.history.Separates (context.specific capability))
    (hw : s.history.Separates (context.wildcard capability)) :
    s.store.check context capability = true ↔
      ((s.history.last (context.specific capability)).bind GrantEvent.granted).or
          ((s.history.last (context.wildcard capability)).bind GrantEvent.granted) =
        some context.generation := by
  have hspecific := h.memory (context.specific capability).key
  have hwildcard := h.memory (context.wildcard capability).key
  rw [hs.find?_key] at hspecific
  rw [hw.find?_key] at hwildcard
  rw [← any_grant?, ← hspecific, ← hwildcard]
  rfl

/-- **When the store is exact.** -/
theorem exact_iff {context : ExecutionContext} {capability : String} (h : system.Reachable s)
    (hs : s.history.Separates (context.specific capability))
    (hw : s.history.Separates (context.wildcard capability)) :
    s.Exact context capability ↔ ¬ s.history.Shadowed context capability := by
  rw [Exact, check_eq_true_iff (backed_invariant.holds h) hs hw]
  unfold GrantHistory.Shadowed GrantHistory.Grants
  cases (s.history.last (context.specific capability)).bind GrantEvent.granted with
  | none => simp
  | some generation =>
    by_cases hg : generation = context.generation
    · simp [hg]
    · simp [hg]

/-! ### A grant, and two names -/

/-- A context of an actor. -/
def contextOf (tenantId actorId : String) : ExecutionContext where
  tenantId := tenantId
  actorId := actorId
  generation := 1
  workspaceId := "main"

theorem reachable_ops (ops : List StoreOp) : system.Reachable (ops.foldl StoreRun.next {}) :=
  System.reachable_foldl
    (show (System.ofFn (· = ({} : StoreRun)) fun s op => some (s.next op)).Reachable {} from
      .init rfl) ops

/-- A store with one grant, which was saved and loaded. -/
def grantedRun (tenantId actorId : String) : StoreRun :=
  [.grant tenantId actorId "FILE_WRITE" "main" 1, .save, .load].foldl next {}

/-- The grant of an actor counts for that actor. -/
theorem exact_granted :
    (grantedRun "acme" "anna").Exact (contextOf "acme" "anna") "FILE_WRITE" := by
  refine (exact_iff (s := grantedRun "acme" "anna") (reachable_ops _) ?_ ?_).2 ?_
  · unfold GrantHistory.Separates
    decide
  · unfold GrantHistory.Separates
    decide
  · rintro ⟨-, h⟩
    exact absurd h (by unfold GrantHistory.Grants; decide)

/-- **Two names for one key.**  A grant to an actor of the tenant `acme:eu` counts for an actor of
the tenant `acme` that was granted nothing. -/
theorem not_exact_joined : ¬ ∀ (s : StoreRun) (context : ExecutionContext) (capability : String),
    system.Reachable s → s.Exact context capability := by
  intro h
  have hexact := h (grantedRun "acme:eu" "anna") (contextOf "acme" "eu:anna") "FILE_WRITE"
    (reachable_ops _)
  have hmemory (k : String) := (backed_invariant.holds
    (show system.Reachable (grantedRun "acme:eu" "anna") from reachable_ops _)).memory k
  have hcheck : (grantedRun "acme:eu" "anna").store.check (contextOf "acme" "eu:anna")
      "FILE_WRITE" = true := by
    simp only [AuthorizationStore.check, hmemory]
    decide
  have hnone : ¬ ((grantedRun "acme:eu" "anna").history.Grants
      ((contextOf "acme" "eu:anna").specific "FILE_WRITE") 1 ∨
        (grantedRun "acme:eu" "anna").history.Grants
          ((contextOf "acme" "eu:anna").wildcard "FILE_WRITE") 1) := by
    unfold GrantHistory.Grants
    decide
  exact hnone (hexact.1 hcheck)

end StoreRun

end Security

end AnnyRuntime
