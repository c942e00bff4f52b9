import AnnyRuntime.Continuity.Operational
import AnnyRuntime.Lib.EarlyReturn

/-!
# The bootstrap of Customer Zero

The resolver reads the operational repository in fourteen stages.  A stage returns a result early
when a document is missing or has another schema, and an exception of a read that is no stage's own
goes through.

A list of blockers in `BLOCKERS` is used alone; without one the current state's is.  A value of
another type is passed over where a list is meant.

* `resolve_of_error` : a resolution that raises becomes the status that its text stands for.
* `status_ne_unknown` : once there is a repository, no result is `UNKNOWN`.
-/

namespace AnnyRuntime

namespace CustomerZero

open Fabric (mentions)
open OperationalRepositoryProvider

/-! ### The records -/

/-- `ContinuityStatus` of the canonical state. -/
inductive Status where
  | consistent
  | degraded
  | conflicted
  | unknown
  | blocked
  deriving DecidableEq

/-- The members of a dictionary. -/
abbrev Members := List (PyKey × PyVal)

/-- `Blocker`, with whatever a document has in the fields. -/
structure Blocker where
  (id description severity : PyVal)

/-- `CurrentTask`. -/
structure CurrentTask where
  (id name status : PyVal)

/-- `CurrentMission`. -/
structure CurrentMission where
  (id title status description : PyVal)
  tasks : List CurrentTask
  rawContent : PyVal

/-- `NextAction`. -/
structure NextAction where
  action : PyVal
  actor : PyVal := .str "ANNY"
  target : PyVal := .none
  rationale : PyVal := .none

/-- `AnnyCanonicalState`. -/
structure AnnyCanonicalState where
  repositoryName : String
  revision : PyVal
  bootstrapContractVersion : String := "1.0"
  operatingSystemVersion : String := "1.0"
  constitutionRef : String := "constitution/"
  currentMission : CurrentMission
  currentTask : Option CurrentTask
  nextAction : NextAction
  blockers : List Blocker
  l2Workers : PyVal
  repoType : String

/-- `BootstrapResult`. -/
structure BootstrapResult where
  status : Status
  canonicalState : Option AnnyCanonicalState := none
  stagesCompleted : List String
  blockers : List Blocker
  errorMessage : Option String

/-! ### Stages -/

/-- A part of the resolver. -/
abbrev Stage := Early PyException BootstrapResult

/-- `v.get(key)`. -/
def getKey (key : String) (ms : Members) : PyVal := (PyVal.get? key ms).getD .none

/-- `f"{v}"`. -/
def written (y : Yaml) : PyVal → Except PyException String
  | .str s => .ok s
  | v => y.str v

/-- A critical blocker of the resolver's own. -/
def critical (id description : String) : Blocker := ⟨.str id, .str description, .str "CRITICAL"⟩

/-- The resolver returns, blocked. -/
def blocked {α : Type} (completed : List String) (b : Blocker) (message : String) : Stage α :=
  .returned { status := .blocked, stagesCompleted := completed, blockers := [b]
              errorMessage := some message }

/-- The status for an exception with this text. -/
def statusOfError (text : String) : Status :=
  if mentions "UNAUTHORIZED" text then .unknown
  else if mentions "FORBIDDEN" text then .unknown
  else if mentions "NETWORK_ERROR" text then .unknown
  else if mentions "RATE_LIMITED" text then .unknown
  else if mentions "AMBIGUOUS" text then .blocked
  else .blocked

section Stages

variable (p : Platform) (y : Yaml) (P : OperationalRepositoryProvider)

/-- Stage 1: the repository. -/
def operationalRepository : Stage RepoInfo :=
  match (P.resolveOperationalRepository p).1 with
  | .error e =>
    .returned { status := statusOfError e.text, stagesCompleted := []
                blockers := [critical "BLK-BOOTSTRAP-001"
                  ("Operational repository inaccessible: " ++ e.text)]
                errorMessage := some ("Operational repository resolution failed: " ++ e.text) }
  | .ok none =>
    blocked [] (critical "BLK-BOOTSTRAP-001" "Operational repository unresolved")
      "Operational repository could not be resolved."
  | .ok (some repo) => .value repo

/-- Stage 1: `BOOTSTRAP.md`. -/
def bootstrapContract : Stage Unit := do
  let contract ← Early.ofExcept (P.readBootstrap p)
  if (contract.getD .null).truthy then return ()
  blocked ["OPERATIONAL_REPOSITORY_RESOLVED"]
    (critical "BLK-BOOTSTRAP-002" "BOOTSTRAP.md contract missing from operational repository")
    "BOOTSTRAP.md is missing from operational repository."

/-- Stages 2 and 3: a directory has to be there. -/
def requiredDirectory (path : String) (completed : List String) (b : Blocker) (message : String) :
    Stage Unit := do
  if ← Early.ofExcept (P.pathExists p path) then return ()
  blocked completed b message

/-- Stage 2. -/
def constitution : Stage Unit :=
  requiredDirectory p P "constitution/" ["OPERATIONAL_REPOSITORY_RESOLVED", "1.BOOTSTRAP"]
    (critical "BLK-BOOTSTRAP-002" "constitution directory missing")
    "Constitution directory is missing."

/-- Stage 3. -/
def operatingSystem : Stage Unit :=
  requiredDirectory p P "os/"
    ["OPERATIONAL_REPOSITORY_RESOLVED", "1.BOOTSTRAP", "2.CONSTITUTION"]
    (critical "BLK-BOOTSTRAP-003" "os directory missing") "OS directory is missing."

/-- The stages before the current state. -/
def stagesBeforeState : List String :=
  ["OPERATIONAL_REPOSITORY_RESOLVED", "1.BOOTSTRAP", "2.CONSTITUTION", "3.OPERATING_SYSTEM"]

/-- Stages 4 and 6. -/
def currentState : Stage Members := do
  match ← Early.ofExcept (P.readCurrentState p y) with
  | some (m :: ms) => return m :: ms
  | _ =>
    blocked stagesBeforeState
      (critical "BLK-BOOTSTRAP-004" "state/CURRENT_STATE.yaml missing or invalid")
      "state/CURRENT_STATE.yaml is missing or invalid."

/-- The stages before the mission. -/
def stagesBeforeMission : List String :=
  stagesBeforeState ++ ["4.SHARED_ORG_STATE", "6.CURRENT_STATE", "5.L2_WORKER_REGISTRY"]

/-- The task of a dictionary. -/
def CurrentTask.ofMembers (ms : Members) : CurrentTask where
  id := getKey "id" ms
  name := if (getKey "name" ms).truthy then getKey "name" ms else .str ""
  status := getKey "status" ms

/-- A task of the scope. -/
def scopeTask (item : PyVal) : Stage CurrentTask :=
  match item with
  | .dict ms =>
    if !(getKey "id" ms).truthy || !(getKey "status" ms).truthy then do
      let text ← Early.ofExcept (written y item)
      blocked stagesBeforeMission
        (critical "BLK-BOOTSTRAP-007b"
          ("SCHEMA_MISMATCH: CURRENT_MISSION scope task missing id or status: " ++ text))
        "CURRENT_MISSION scope task SCHEMA_MISMATCH."
    else return .ofMembers ms
  | _ => do
    let text ← Early.ofExcept (written y item)
    blocked stagesBeforeMission
      (critical "BLK-BOOTSTRAP-007c"
        ("SCHEMA_MISMATCH: CURRENT_MISSION scope item is not dict: " ++ text))
      "CURRENT_MISSION scope item SCHEMA_MISMATCH."

/-- The items of the scope: `scope or []`, when that is a list. -/
def scopeItems (mission : Members) : List PyVal :=
  match getKey "scope" mission with
  | .list items => items
  | _ => []

/-- `objective or description`. -/
def missionDescription (mission : Members) : PyVal :=
  if (getKey "objective" mission).truthy then getKey "objective" mission
  else getKey "description" mission

/-- The mission of the document, with these tasks. -/
def CurrentMission.ofMembers (mission : Members) (tasks : List CurrentTask) : CurrentMission where
  id := getKey "mission_id" mission
  title := getKey "title" mission
  status := getKey "status" mission
  description := missionDescription mission
  tasks := tasks
  rawContent := getKey "_raw_content" mission

/-- Stage 7. -/
def currentMission : Stage CurrentMission := do
  match ← Early.ofExcept (P.readCurrentMission p y) with
  | some (m :: ms) =>
    let mission := m :: ms
    if !(getKey "mission_id" mission).truthy || !(getKey "status" mission).truthy then
      blocked stagesBeforeMission
        (critical "BLK-BOOTSTRAP-007a"
          "SCHEMA_MISMATCH: CURRENT_MISSION missing mission_id or status")
        "CURRENT_MISSION SCHEMA_MISMATCH."
    else return .ofMembers mission (← (scopeItems mission).mapM (scopeTask y))
  | _ =>
    blocked stagesBeforeMission
      (critical "BLK-BOOTSTRAP-007" "state/CURRENT_MISSION.yaml missing or invalid")
      "state/CURRENT_MISSION.yaml is missing or invalid."

/-- The blocker of an item of a list. -/
def blockerOf (source : String) (item : PyVal) : Except PyException Blocker :=
  match item with
  | .dict ms =>
    if !(getKey "id" ms).truthy || !(getKey "description" ms).truthy ||
        !(getKey "severity" ms).truthy then do
      let text ← written y item
      return ⟨.str "SCHEMA_MISMATCH", .str (source ++ " item missing required fields: " ++ text),
        .str "CRITICAL"⟩
    else return ⟨getKey "id" ms, getKey "description" ms, getKey "severity" ms⟩
  | _ => do
    let text ← written y item
    return ⟨.str "SCHEMA_MISMATCH", .str (source ++ " item not dict: " ++ text), .str "CRITICAL"⟩

/-- The list of blockers of a document, if it has one. -/
def blockersList (ms : Members) : Option (List PyVal) :=
  match PyVal.get? "blockers" ms with
  | some (.list items) => some items
  | _ => none

/-- The blockers that are read: those of `BLOCKERS`, or else of the current state. -/
def parsedBlockers (doc : Option Members) (state : Members) : Except PyException (List Blocker) :=
  match doc.bind blockersList, blockersList state with
  | some items, _ => items.mapM (blockerOf y "BLOCKERS list")
  | none, some items => items.mapM (blockerOf y "CURRENT_STATE blockers")
  | none, none => .ok []

/-- The action of the document. -/
def documentAction (doc : Option Members) : Option NextAction :=
  match doc with
  | some (m :: ms) =>
    match (PyVal.get? "action" (m :: ms)).getD (.dict []) with
    | .dict data =>
      some { action := (PyVal.get? "WHAT" data).getD (.str "Unspecified action")
             actor := (PyVal.get? "OWNER" data).getD (.str "ANNY")
             target := getKey "DEPENDENCY" data, rationale := getKey "WHY" data }
    | .str text => some { action := .str text }
    | _ => none
  | _ => none

/-- The next action: of the document, or else of the current state. -/
def parsedNextAction (doc : Option Members) (state : Members) :
    Except PyException (Option NextAction) :=
  match documentAction doc with
  | some action => .ok (some action)
  | none =>
    if (getKey "next_action" state).truthy then
      (written y (getKey "next_action" state)).map fun text => some { action := .str text }
    else .ok none

/-- The stages before the next action. -/
def stagesBeforeAction : List String := stagesBeforeMission ++ ["7.CURRENT_MISSION", "8.BLOCKERS"]

/-- Stage 9. -/
def nextAction (state : Members) (blockers : List Blocker) : Stage NextAction := do
  let doc ← Early.ofExcept (P.readNextAction p y)
  match ← Early.ofExcept (parsedNextAction y doc state) with
  | some action => return action
  | none =>
    .returned { status := .blocked, stagesCompleted := stagesBeforeAction
                blockers := ⟨.str "BLK-BOOTSTRAP-009",
                  .str "state/NEXT_ACTION.yaml missing or invalid", .str "HIGH"⟩ :: blockers
                errorMessage := some "NEXT_ACTION is missing." }

/-- Stages 10 to 14, none of which is required. -/
def stageDefinitions : List (String × String) :=
  [("10.PROPOSALS", "proposals"), ("11.HANDOFFS", "handoffs"), ("12.ESCALATIONS", "escalations"),
    ("13.REQUIRED_EVIDENCE", "evidence"), ("14.RELEVANT_DOMAIN_STATE", "domain")]

/-- How such a stage is registered. -/
def optionalStage (stage : String × String) : Except PyException String := do
  return if ← P.pathExists p stage.2 then stage.1 else stage.1 ++ ":OPTIONAL_ABSENT"

/-- The revision of the state: no repository that was found has one. -/
def revision (state : Members) : PyVal :=
  match getKey "timeline" state with
  | .dict timeline => getKey "last_state_change" timeline
  | _ => .none

/-- `read_l2_registry() or []`. -/
def l2Workers : Stage PyVal := do
  let workers ← Early.ofExcept (P.readL2Registry p y)
  return if workers.truthy then workers else .list []

/-- The stages after the repository was found. -/
def readStages (repo : RepoInfo) : Stage BootstrapResult := do
  bootstrapContract p P
  constitution p P
  operatingSystem p P
  let state ← currentState p y P
  let workers ← l2Workers p y P
  let mission ← currentMission p y P
  let doc ← Early.ofExcept (P.readBlockers p y)
  let blockers ← Early.ofExcept (parsedBlockers y doc state)
  let action ← nextAction p y P state blockers
  let optional ← Early.ofExcept (stageDefinitions.mapM (optionalStage p P))
  return {
    status := if blockers.isEmpty then .consistent else .degraded
    canonicalState := some {
      repositoryName := repo.fullName, revision := revision state, currentMission := mission
      currentTask := mission.tasks.head?, nextAction := action, blockers := blockers
      l2Workers := workers, repoType := repo.type }
    stagesCompleted := stagesBeforeAction ++ ["9.NEXT_ACTION"] ++ optional
    blockers := blockers
    errorMessage := none }

/-- `resolve`. -/
def resolve : Except PyException BootstrapResult :=
  (do
    let repo ← operationalRepository p P
    readStages p y (P.resolveOperationalRepository p).2 repo).outcome

end Stages

/-! ### What a status says -/

variable {p : Platform} {y : Yaml} {P : OperationalRepositoryProvider} {e : PyException}

/-- A resolution that raises is the end. -/
theorem resolve_of_error (h : (P.resolveOperationalRepository p).1 = .error e) :
    ∃ r, resolve p y P = .ok r ∧ r.status = statusOfError e.text := by
  rw [resolve, operationalRepository, h]
  exact ⟨_, rfl, rfl⟩

theorem statusOfError_eq (text : String) :
    statusOfError text = .unknown ∨ statusOfError text = .blocked := by
  rw [statusOfError]
  split_ifs <;> simp

section Stages

variable {α : Type}

/-- What returns early is blocked. -/
theorem blocked_allows {completed : List String} {b : Blocker} {message : String} {Q : α → Prop} :
    (blocked completed b message : Stage α).Allows (·.status ≠ .unknown) Q := by
  change Status.blocked ≠ .unknown
  decide

theorem requiredDirectory_allows {path : String} {completed : List String} {b : Blocker}
    {message : String} :
    (requiredDirectory p P path completed b message).Allows (·.status ≠ .unknown)
      fun _ => True := by
  refine (Early.allows_ofExcept _).bind fun found => ?_
  split_ifs
  · trivial
  · exact blocked_allows

theorem bootstrapContract_allows :
    (bootstrapContract p P).Allows (·.status ≠ .unknown) fun _ => True := by
  refine (Early.allows_ofExcept _).bind fun contract => ?_
  split_ifs
  · trivial
  · exact blocked_allows

theorem l2Workers_allows : (l2Workers p y P).Allows (·.status ≠ .unknown) fun _ => True :=
  (Early.allows_ofExcept _).bind fun _ => trivial

theorem currentState_allows :
    (currentState p y P).Allows (·.status ≠ .unknown) fun _ => True := by
  refine (Early.allows_ofExcept _).bind fun doc => ?_
  split
  · trivial
  · exact blocked_allows

theorem scopeTask_allows (item : PyVal) :
    (scopeTask y item).Allows (·.status ≠ .unknown) fun _ => True := by
  cases item with
  | dict ms =>
    rw [scopeTask]
    split_ifs
    · exact (Early.allows_ofExcept _).bind fun text => blocked_allows
    · trivial
  | _ => exact (Early.allows_ofExcept _).bind fun text => blocked_allows

theorem currentMission_allows :
    (currentMission p y P).Allows (·.status ≠ .unknown) fun _ => True := by
  refine (Early.allows_ofExcept _).bind fun doc => ?_
  match doc with
  | none | some [] => exact blocked_allows
  | some (m :: ms) =>
    simp only
    split_ifs
    · exact blocked_allows
    · exact (Early.allows_mapM scopeTask_allows _).bind fun tasks => trivial

theorem nextAction_allows {state : Members} {blockers : List Blocker} :
    (nextAction p y P state blockers).Allows (·.status ≠ .unknown) fun _ => True := by
  refine (Early.allows_ofExcept _).bind fun doc => (Early.allows_ofExcept _).bind fun found => ?_
  cases found with
  | some action => trivial
  | none =>
    change Status.blocked ≠ .unknown
    decide

/-- **Once there is a repository, nothing is unknown.** -/
theorem readStages_allows (repo : RepoInfo) :
    (readStages p y P repo).Allows (·.status ≠ .unknown) (·.status ≠ .unknown) := by
  refine bootstrapContract_allows.bind fun _ => requiredDirectory_allows.bind fun _ =>
    requiredDirectory_allows.bind fun _ => currentState_allows.bind fun state => ?_
  refine l2Workers_allows.bind fun workers => currentMission_allows.bind fun mission => ?_
  refine (Early.allows_ofExcept _).bind fun doc => ?_
  refine (Early.allows_ofExcept _).bind fun blockers => nextAction_allows.bind fun action => ?_
  refine (Early.allows_ofExcept _).bind fun optional => ?_
  change (if blockers.isEmpty then Status.consistent else .degraded) ≠ .unknown
  split_ifs <;> decide

end Stages

theorem status_ne_unknown {repo : RepoInfo}
    (h : (P.resolveOperationalRepository p).1 = .ok (some repo)) {r : BootstrapResult}
    (hr : resolve p y P = .ok r) : r.status ≠ .unknown := by
  have hallows : (do
      let repo ← operationalRepository p P
      readStages p y (P.resolveOperationalRepository p).2 repo : Stage BootstrapResult).Allows
        (·.status ≠ .unknown) (·.status ≠ .unknown) := by
    rw [operationalRepository, h]
    exact readStages_allows repo
  exact hallows.of_outcome hr

end CustomerZero

end AnnyRuntime
