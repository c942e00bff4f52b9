import AnnyRuntime.Json.Access
import AnnyRuntime.Lib.Text
import AnnyRuntime.Sync.Staging

/-!
# SYNC in the panel

The panel starts the service with the releases of a GitHub repository as what is discovered, when a
repository is configured, and with no verifier.

* `staged_is_local` : whatever GitHub answers, in every run of the calls, of the workers and of
  restarts, a candidate that is `VERIFIED`, `STAGING`, `STAGED` or `ACTIVATING` is the version that
  the runtime already had when the transaction was started.  A release of another version ends as
  `UNKNOWN`, nothing is ever rolled back, and no result names a digest.
-/

namespace AnnyRuntime

namespace Sync

/-! ### The releases of a repository -/

/-- `_validate_repository`: the owner and the name. -/
def validateRepository (repository : String) : Option (String × String) :=
  match (Text.strip repository.toList).splitOn '/' with
  | [owner, name] =>
    if owner = [] ∨ name = [] then none else some (String.ofList owner, String.ofList name)
  | _ => none

/-- A repository whose releases are discovered. -/
structure GitHubReleaseSource where
  owner : String
  name : String
  /-- It was configured. -/
  valid : ∃ repository, validateRepository repository = some (owner, name)

/-- The repository that is kept is the text that was configured, stripped. -/
theorem validateRepository_eq_some {repository owner name : String}
    (h : validateRepository repository = some (owner, name)) :
    owner ++ "/" ++ name = String.ofList (Text.strip repository.toList) ∧
      owner ≠ "" ∧ name ≠ "" := by
  rw [validateRepository] at h
  have hjoin : ['/'].intercalate ((Text.strip repository.toList).splitOn '/') =
      Text.strip repository.toList := List.intercalate_splitOn '/'
  split at h
  · rename_i o n hsplit
    rw [hsplit] at hjoin
    by_cases hempty : o = [] ∨ n = []
    · rw [if_pos hempty] at h
      cases h
    · rw [if_neg hempty] at h
      cases h
      obtain ⟨ho, hn⟩ := not_or.1 hempty
      refine ⟨?_, fun he => ho ?_, fun he => hn ?_⟩
      · rw [← hjoin]
        apply String.toList_injective
        simp [List.intercalate]
      · simpa using congrArg String.toList he
      · simpa using congrArg String.toList he
  · cases h

namespace GitHubReleaseSource

variable (s : GitHubReleaseSource)

/-- `repository`. -/
def repository : String := s.owner ++ "/" ++ s.name

/-- The source that a result names. -/
def label : String := "github:" ++ s.repository

/-- `release.get(k)`. -/
def field (release : List (String × Json)) (k : String) : PyVal :=
  .ofJson ((Json.lookup k release).getD .null)

/-- What is kept of an asset, if it is a dictionary. -/
def asset : Json → Option PyVal
  | .obj a => some (.ofMembers [("name", field a "name"), ("size", field a "size"),
      ("browser_download_url", field a "browser_download_url")])
  | _ => none

/-- `release.get("id") or release.get("target_commitish")`. -/
def revision (release : List (String × Json)) : PyVal :=
  if (field release "id").truthy then field release "id" else field release "target_commitish"

/-- The assets of a release. -/
def assets (release : List (String × Json)) : Except Raised (List PyVal) :=
  let found := (Json.lookup "assets" release).getD .null
  match (if found.truthy then found else .arr []).iter with
  | .ok l => .ok (l.filterMap asset)
  | .error e => .error (.exception "TypeError" e.text)

/-- The answer for a release that is not taken. -/
def unauthorized (revision tag : PyVal) (reason : String) : PyVal :=
  .ofMembers [("source", .str s.label), ("revision", revision), ("candidate_version", tag),
    ("authorized", .bool false), ("reason", .str reason)]

/-- `discover`, for what GitHub answers to a request. -/
def discover (request : String → Except Raised Json) : Except Raised PyVal :=
  match request ("/repos/" ++ s.owner ++ "/" ++ s.name ++ "/releases/latest") with
  | .error e => .error e
  | .ok (.obj release) =>
    let tag := field release "tag_name"
    if !tag.truthy then
      .ok (s.unauthorized (field release "id") .none "RELEASE_TAG_UNAVAILABLE")
    else if (field release "draft").truthy || (field release "prerelease").truthy then
      .ok (s.unauthorized (revision release) tag "NON_STABLE_RELEASE")
    else
      match assets release with
      | .error e => .error e
      | .ok l =>
        .ok (.ofMembers [("source", .str s.label), ("revision", revision release),
          ("candidate_version", tag), ("authorized", .bool true),
          ("release_id", field release "id"), ("published_at", field release "published_at"),
          ("html_url", field release "html_url"), ("assets", .list l)])
  | .ok _ => .error (.exception "RuntimeError" "Invalid GitHub release response")

/-- What is discovered names the source, and is authorized only with a tag. -/
theorem discover_eq_ok {request : String → Except Raised Json} {v : PyVal}
    (h : s.discover request = .ok v) :
    ∃ revision tag authorized rest, v = .ofMembers (("source", .str s.label) ::
        ("revision", revision) :: ("candidate_version", tag) ::
          ("authorized", .bool authorized) :: rest) ∧
      (authorized = true → tag.truthy = true) := by
  rw [discover] at h
  split at h
  · cases h
  · rename_i release _
    dsimp only at h
    split at h
    · cases h
      exact ⟨_, _, false, _, rfl, fun hf => by cases hf⟩
    · rename_i htag
      split at h
      · cases h
        exact ⟨_, _, false, _, rfl, fun hf => by cases hf⟩
      · split at h
        · cases h
        · cases h
          refine ⟨_, _, true, _, rfl, fun _ => ?_⟩
          rw [Bool.not_eq_true', Bool.not_eq_false] at htag
          exact htag
  · cases h

end GitHubReleaseSource

/-! ### The results of the panel -/

namespace SyncRun

open SyncService

/-- The providers with which the panel starts the service. -/
def panelProviders (source : Option GitHubReleaseSource)
    (request : String → Except Raised Json) : Providers where
  discover := source.map fun s => s.discover request
  verify := none

/-- The providers of a step are those of the panel. -/
def WiredOp : Op → Prop
  | .assign _ p => ∃ source request, p = panelProviders source request
  | _ => True

/-- The providers of an event are those of the panel. -/
def Wired (_ : SyncRun) : Event → Prop
  | .op o => WiredOp o
  | .crash o _ _ => WiredOp o

/-- The candidate is the version that the runtime had, found at a configured source; nobody had to
verify it. -/
structure Unchanged (r : SyncResult) : Prop where
  comparison : r.comparison = .str "NO_CHANGE"
  verification : r.verification = .str "NOT_REQUIRED"
  source : ∃ s : GitHubReleaseSource, r.source = .str s.label
  version : ∃ v, v ≠ "" ∧ r.candidateVersion = .str v ∧ r.localVersion = .str v

/-- The state says that there is a candidate to go on with. -/
def Ready (state : SyncState) : Prop :=
  state = .verified ∨ state = .staging ∨ state = .staged ∨ state = .activating

/-- What a result of the panel says. -/
structure Unverifying (r : SyncResult) : Prop where
  ready : Ready r.syncState → Unchanged r
  /-- A release of another version is left. -/
  ahead : r.comparison = .str "CANDIDATE_AVAILABLE" → r.syncState = .unknown ∧
    r.errorClassification = .str "CANDIDATE_VERIFIER_UNAVAILABLE"
  forward : r.syncState ≠ .rollingBack ∧ r.syncState ≠ .rolledBack
  unidentified : r.digest = .none ∧ r.verifierIdentity = .none
  activation : NotActivated r

/-- The result of a transaction that has not asked what there is. -/
structure Asking (localVersion : PyVal) (r : SyncResult) : Prop where
  syncState : r.syncState = .syncing
  localVersion : r.localVersion = localVersion
  comparison : r.comparison = .str "UNKNOWN"

section Results

variable {r : SyncResult} {j : Json} {v : String}

theorem not_ready {state : SyncState} (h1 : state ≠ .verified) (h2 : state ≠ .staging)
    (h3 : state ≠ .staged) (h4 : state ≠ .activating) : ¬ Ready state := by
  rintro (h | h | h | h)
  · exact h1 h
  · exact h2 h
  · exact h3 h
  · exact h4 h

/-- A written record is read with everything that it says. -/
theorem Unverifying.reload (h : Unverifying r) (hr : r.encode = some j) :
    Unverifying r.reload := by
  have henc : ∀ m ∈ r.toDict, m.2.encodeSorted.isSome = true := (SyncResult.encode_eq_some.1 hr).1
  have hcomparison := henc ("comparison", r.comparison) (by simp [SyncResult.toDict])
  have hverification := henc ("verification", r.verification) (by simp [SyncResult.toDict])
  have hsource := henc ("source", r.source) (by simp [SyncResult.toDict])
  have hcandidate := henc ("candidate_version", r.candidateVersion) (by simp [SyncResult.toDict])
  have hlocal := henc ("local_version", r.localVersion) (by simp [SyncResult.toDict])
  have herror := henc ("error_classification", r.errorClassification) (by simp [SyncResult.toDict])
  have hdigest := henc ("digest", r.digest) (by simp [SyncResult.toDict])
  have hidentity := henc ("verifier_identity", r.verifierIdentity) (by simp [SyncResult.toDict])
  refine ⟨fun hs => ?_, fun hs => ?_, h.forward, ?_, h.activation.reload hr⟩
  · obtain ⟨hc, hv, ⟨s, hs⟩, v, hne, hversion, hlv⟩ := h.ready hs
    exact ⟨(PyVal.reload_eq_str hcomparison).2 hc, (PyVal.reload_eq_str hverification).2 hv,
      ⟨s, (PyVal.reload_eq_str hsource).2 hs⟩, v, hne, (PyVal.reload_eq_str hcandidate).2 hversion,
      (PyVal.reload_eq_str hlocal).2 hlv⟩
  · obtain ⟨hstate, he⟩ := h.ahead ((PyVal.reload_eq_str hcomparison).1 hs)
    exact ⟨hstate, (PyVal.reload_eq_str herror).2 he⟩
  · exact ⟨(PyVal.reload_eq_none hdigest).2 h.unidentified.1,
      (PyVal.reload_eq_none hidentity).2 h.unidentified.2⟩

/-- A result whose state says nothing of a candidate, and that was not compared. -/
theorem unverifying_of_state (hready : ¬ Ready r.syncState) (hc : r.comparison = .str "UNKNOWN")
    (hforward : r.syncState ≠ .rollingBack ∧ r.syncState ≠ .rolledBack)
    (hu : r.digest = .none ∧ r.verifierIdentity = .none) (ha : NotActivated r) :
    Unverifying r where
  ready h := absurd h hready
  ahead h := by
    rw [hc] at h
    exact absurd (PyVal.str.inj h) (by decide)
  forward := hforward
  unidentified := hu
  activation := ha

/-- The steps of a transaction, when they are one that leaves what a result of the panel says. -/
def Leaves (v : String) (l : List Assignment) : Prop :=
  ∃ a, l = [a] ∧ ∀ r, Asking (.str v) r → Unverifying r → Unverifying (a r)

/-- One step, after which the transaction has failed, or says nothing of a candidate. -/
theorem leaves_of_state {a : Assignment} {state : SyncState} (hs : ∀ r, (a r).syncState = state)
    (hready : ¬ Ready state) (hforward : state ≠ .rollingBack ∧ state ≠ .rolledBack)
    (hkeep : ∀ r, (a r).comparison = r.comparison ∧ (a r).digest = r.digest ∧
      (a r).verifierIdentity = r.verifierIdentity ∧
        (a r).activationPerformed = r.activationPerformed) : Leaves v [a] := by
  refine ⟨a, rfl, fun r hr h => ?_⟩
  obtain ⟨hc, hd, hi, ha⟩ := hkeep r
  refine unverifying_of_state ((hs r).symm ▸ hready) (hc.trans hr.comparison)
    ((hs r).symm ▸ hforward) ⟨hd.trans h.unidentified.1, hi.trans h.unidentified.2⟩ ?_
  show (a r).activationPerformed.truthy = false
  rw [ha]
  exact h.activation

/-- What is raised before the comparison. -/
theorem leaves_handle (e : Raised) : Leaves v (handle discovering e) := by
  cases e with
  | abort =>
    refine ⟨_, rfl, fun r hr h => ?_⟩
    have hstate : (discovering r).syncState = .syncing := hr.syncState
    refine unverifying_of_state ?_ hr.comparison ?_ h.unidentified h.activation
    · rw [hstate]
      simp [Ready]
    · rw [hstate]
      simp
  | unprintable cls e =>
    exact leaves_of_state (fun _ => rfl) (by simp [Ready]) (by simp) fun _ => ⟨rfl, rfl, rfl, rfl⟩
  | exception cls text =>
    exact leaves_of_state (fun _ => rfl) (by simp [Ready]) (by simp) fun _ => ⟨rfl, rfl, rfl, rfl⟩

theorem eq_str_of_beq {w : PyVal} (h : w.beq (.str v) = true) : w = .str v := by
  cases w with
  | str t =>
    rw [PyVal.beq] at h
    rw [eq_of_beq h]
  | _ => simp [PyVal.beq] at h

/-- The comparison of a candidate of a source, where there is no verifier. -/
theorem leaves_compare {p : Providers} (hp : p.verify = none) {d : List (PyKey × PyVal)}
    {s : GitHubReleaseSource} (hsource : getD d "source" (.str "UNKNOWN") = .str s.label)
    (htag : (getD d "authorized" (.bool false)).truthy = true →
      (getD d "candidate_version" .none).truthy = true) : Leaves v (compare p (.str v) d) := by
  have hstr : p.str (.str s.label) = .ok s.label := rfl
  rw [compare, hsource, hstr]
  dsimp only
  by_cases hauthorized : (getD d "authorized" (.bool false)).truthy = true
  · have htruthy := htag hauthorized
    rw [hauthorized, Bool.not_true, if_neg Bool.false_ne_true, htruthy, Bool.not_true,
      Bool.false_or]
    by_cases hbeq : (getD d "candidate_version" .none).beq (.str v) = true
    · -- the version that the runtime has
      rw [if_pos hbeq]
      refine ⟨_, rfl, fun r hr h => ?_⟩
      have hversion := eq_str_of_beq hbeq
      rw [hversion] at htruthy
      refine ⟨fun _ => ?_, fun hc => ?_, by simp, h.unidentified, h.activation⟩
      · exact ⟨rfl, rfl, ⟨s, rfl⟩, v, of_decide_eq_true htruthy, hversion, hr.localVersion⟩
      · exact absurd (PyVal.str.inj hc) (by decide)
    · -- another version, and nobody to verify it
      rw [if_neg hbeq, verifyCandidate, hp]
      refine ⟨_, rfl, fun r hr h => ?_⟩
      exact ⟨fun hready => absurd hready (by simp [Ready]), fun _ => ⟨rfl, rfl⟩, by simp,
        h.unidentified, h.activation⟩
  · rw [Bool.not_eq_true] at hauthorized
    rw [hauthorized, Bool.not_false, if_pos rfl]
    exact leaves_of_state (fun _ => rfl) (by simp [Ready]) (by simp) fun _ => ⟨rfl, rfl, rfl, rfl⟩

/-- **What a transaction of the panel leaves**, whatever GitHub answers. -/
theorem leaves_discover (source : Option GitHubReleaseSource)
    (request : String → Except Raised Json) :
    Leaves v (discoverCompareVerify (panelProviders source request) (.str v)) := by
  cases source with
  | none =>
    exact leaves_of_state (fun _ => rfl) (by simp [Ready]) (by simp) fun _ => ⟨rfl, rfl, rfl, rfl⟩
  | some s =>
    have hprovider : (panelProviders (some s) request).discover = some (s.discover request) := rfl
    rw [discoverCompareVerify, hprovider]
    cases hdiscover : s.discover request with
    | error e => exact leaves_handle e
    | ok found =>
      obtain ⟨revision, tag, authorized, rest, rfl, htag⟩ := s.discover_eq_ok hdiscover
      exact leaves_compare rfl rfl htag

end Results

/-! ### The memory of the panel -/

/-- What is known of a worker of the panel. -/
structure PanelWorker (s : SyncService) (k : ℕ) (w : Worker) : Prop extends Owner s k w where
  noRollback : w.kind ≠ .rollback
  /-- A candidate to go on with stays one. -/
  unchanged : w.kind ≠ .sync → Unchanged (s.objects w.result)
  asking : w.todo = none → Asking s.localVersion (s.objects w.result)
  ended : w.kind = .sync → ∀ l, w.todo = some l → l = []
  steps : w.kind ≠ .sync → ∀ l, w.todo = some l → ∀ a ∈ l, w.kind.todo = some [a]

/-- What is known of the service of the panel. -/
structure PanelSync (s : SyncService) : Prop where
  objects : ∀ i, Unverifying (s.objects i)
  localVersion : ∃ v, s.localVersion = .str v
  latest_lt : ∀ i, s.latest = some i → i < s.allocated
  workers : ∀ k w, s.workers.get? k = some w → PanelWorker s k w

/-- A worker of this kind may be started for this result. -/
structure PanelFree (s : SyncService) (i : ℕ) (kind : WorkerKind) : Prop extends Free s i kind where
  noRollback : kind ≠ .rollback
  unchanged : kind ≠ .sync → Unchanged (s.objects i)
  asking : kind = .sync → Asking s.localVersion (s.objects i)

section Memory

variable {s : SyncService} {i k : ℕ} {kind : WorkerKind} {w : Worker} {r : SyncResult} {j : Json}

theorem todo_eq_none : kind.todo = none ↔ kind = .sync := by
  cases kind <;> simp [WorkerKind.todo]

theorem PanelSync.owner (h : PanelSync s) (k : ℕ) (w : Worker) (hw : s.workers.get? k = some w) :
    Owner s k w := (h.workers k w hw).toOwner

/-- A new worker. -/
theorem PanelSync.spawn (h : PanelSync s) (hfree : PanelFree s i kind) :
    PanelSync (s.spawn i kind) where
  objects := h.objects
  localVersion := h.localVersion
  latest_lt := h.latest_lt
  workers k w hw := by
    change (s.workers.set s.spawned ⟨kind, i, kind.todo⟩).get? k = some w at hw
    obtain ⟨rfl, rfl⟩ | ⟨-, hget⟩ := Dict.of_get?_set hw
    · refine ⟨.of_free hfree.toFree, hfree.noRollback, hfree.unchanged, fun htodo => ?_,
        fun hsync l hl => ?_, fun _ l hl a ha => ?_⟩
      · exact hfree.asking (todo_eq_none.1 htodo)
      · rw [todo_eq_none.2 hsync] at hl
        cases hl
      · -- the other workers have one step to take
        cases kind with
        | sync => cases hl
        | stage | activate | rollback =>
          obtain rfl := Option.some.inj hl
          obtain rfl := List.mem_singleton.1 ha
          rfl
    · have hworker := h.workers k w hget
      exact ⟨hworker.toOwner.spawn hget hfree.toFree, hworker.noRollback, hworker.unchanged,
        hworker.asking, hworker.ended, hworker.steps⟩

/-- A result is changed that stays a candidate to go on with, if it was one. -/
theorem PanelWorker.update (h : PanelWorker s k w) {active : Option ℕ} {n : ℕ}
    (hn : s.allocated ≤ n)
    (hi : w.result = i → w.todo ≠ none ∧ (Unchanged (s.objects i) → Unchanged r)) :
    PanelWorker { s with
      objects := Function.update s.objects i r, active := active, allocated := n } k w := by
  refine ⟨h.toOwner.update hn fun he => (hi he).1, h.noRollback, fun hk => ?_, fun htodo => ?_,
    h.ended, h.steps⟩
  · show Unchanged (Function.update s.objects i r w.result)
    by_cases he : w.result = i
    · rw [he, Function.update_self]
      exact (hi he).2 (he ▸ h.unchanged hk)
    · rw [Function.update_of_ne he]
      exact h.unchanged hk
  · show Asking s.localVersion (Function.update s.objects i r w.result)
    have hne : w.result ≠ i := fun he => (hi he).1 htodo
    rw [Function.update_of_ne hne]
    exact h.asking htodo

theorem unverifying_update (h : PanelSync s) (hr : Unverifying r) (j : ℕ) :
    Unverifying (Function.update s.objects i r j) := by
  by_cases hj : j = i
  · rw [hj, Function.update_self]
    exact hr
  · rw [Function.update_of_ne hj]
    exact h.objects j

/-- A new transaction. -/
theorem PanelSync.started (h : PanelSync s) (a b c : String) :
    PanelSync (s.started a b c) ∧ PanelFree (s.started a b c) s.allocated .sync := by
  have hfree := free_started h.latest_lt h.owner a b c
  refine ⟨⟨unverifying_update h ?_, h.localVersion, fun i hi => ?_, fun k w hw => ?_⟩, hfree,
    by simp, by simp, fun _ => ?_⟩
  · exact unverifying_of_state (by simp [Ready]) rfl (by simp) ⟨rfl, rfl⟩ rfl
  · exact Nat.lt_succ_of_lt (h.latest_lt i hi)
  · have hne := (h.workers k w hw).result_lt.ne
    exact (h.workers k w hw).update (Nat.le_succ _) fun he => absurd he hne
  · show Asking s.localVersion (Function.update s.objects s.allocated _ s.allocated)
    rw [Function.update_self]
    exact ⟨rfl, rfl, rfl⟩

/-- The latest result is taken up again, as a candidate to go on with. -/
theorem PanelSync.resumed (h : PanelSync s) (hi : s.latest = some i)
    (hunchanged : Unchanged (s.objects i)) {state : SyncState} (hstate : Ready state)
    (stage : String) (hkind : kind ≠ .rollback ∧ kind ≠ .sync) :
    PanelSync (s.resumed i state stage) ∧ PanelFree (s.resumed i state stage) i kind := by
  have hr : Unchanged { s.objects i with syncState := state, stage := .str stage } :=
    ⟨hunchanged.1, hunchanged.2, hunchanged.3, hunchanged.4⟩
  have hold := h.objects i
  refine ⟨⟨unverifying_update h ⟨fun _ => hr, fun hc => ?_, ?_, hold.unidentified,
      hold.activation⟩, h.localVersion, h.latest_lt, fun k w hw => ?_⟩,
    ⟨h.latest_lt i hi, fun hk => absurd hk hkind.2, fun k w hw => (h.owner k w hw).ne_latest hi⟩,
    hkind.1, fun _ => ?_, fun hk => absurd hk hkind.2⟩
  · have hno : (s.objects i).comparison = .str "CANDIDATE_AVAILABLE" := hc
    rw [hunchanged.comparison] at hno
    exact absurd (PyVal.str.inj hno) (by decide)
  · obtain rfl | rfl | rfl | rfl := hstate <;> simp
  · exact (h.workers k w hw).update le_rfl fun he =>
      ⟨(h.owner k w hw).asked_of_latest hi he, fun _ => hr⟩
  · show Unchanged (Function.update s.objects i _ i)
    rw [Function.update_self]
    exact hr

/-- A call that goes ahead. -/
theorem PanelSync.entered (h : PanelSync s) {c : Call} {t : SyncService}
    {response : List (String × PyVal)} (he : s.entry c = .entered t i kind response) :
    PanelSync t ∧ PanelFree t i kind := by
  rcases entry_eq_entered he with ⟨a, b, d, rfl, -, rfl, rfl, rfl⟩ |
    ⟨-, hl, state, stage, rfl, hcall⟩
  · exact h.started a b d
  · rcases hcall with ⟨rfl, rfl, rfl, hs⟩ | ⟨rfl, rfl, rfl, hs⟩ | ⟨-, -, -, hactivated⟩
    · have hready : Ready (s.objects i).syncState := Or.inl hs
      exact h.resumed hl ((h.objects i).ready hready) (Or.inr (Or.inl rfl)) stage (by simp)
    · have hready : Ready (s.objects i).syncState := Or.inr (Or.inr (Or.inl hs))
      exact h.resumed hl ((h.objects i).ready hready) (Or.inr (Or.inr (Or.inr rfl))) stage (by simp)
    · -- a rollback asks for an activation
      have hnot : (s.objects i).activationPerformed.truthy = false := (h.objects i).activation
      rw [hnot] at hactivated
      cases hactivated

/-- The step of a worker that goes on with a candidate. -/
theorem unverifying_step (hr : Unverifying r) (hu : Unchanged r) {a : Assignment}
    (hkind : kind ≠ .sync ∧ kind ≠ .rollback) (ha : kind.todo = some [a]) :
    Unverifying (a r) ∧ Unchanged (a r) := by
  have hahead (hc : r.comparison = .str "CANDIDATE_AVAILABLE") : False := by
    rw [hu.comparison] at hc
    exact absurd (PyVal.str.inj hc) (by decide)
  cases kind with
  | sync => exact absurd rfl hkind.1
  | rollback => exact absurd rfl hkind.2
  | stage =>
    cases ha
    have hstaged : Unchanged { r with syncState := .staged } := ⟨hu.1, hu.2, hu.3, hu.4⟩
    exact ⟨⟨fun _ => hstaged, fun hc => (hahead hc).elim, by simp, hr.unidentified, hr.activation⟩,
      hstaged⟩
  | activate =>
    cases ha
    exact ⟨⟨fun hready => absurd hready (by simp [Ready]), fun hc => (hahead hc).elim, by simp,
      hr.unidentified, hr.activation⟩, hu.1, hu.2, hu.3, hu.4⟩

/-- What a step of a worker leaves, and that the worker had one step to take. -/
theorem PanelSync.assignment (h : PanelSync s) (hw : s.workers.get? k = some w)
    {source : Option GitHubReleaseSource} {request : String → Except Raised Json}
    {a : Assignment} {rest : List Assignment}
    (hr : w.remaining (panelProviders source request) s.localVersion = a :: rest) :
    Unverifying (a (s.objects w.result)) ∧
      (w.kind = .sync ∧ w.todo = none ∧ rest = [] ∨
        w.kind ≠ .sync ∧ w.kind.todo = some [a] ∧ w.todo = some (a :: rest) ∧
          Unchanged (a (s.objects w.result))) := by
  have hworker := h.workers k w hw
  cases htodo : w.todo with
  | none =>
    rw [Worker.remaining, htodo, Option.getD_none] at hr
    obtain ⟨v, hv⟩ := h.localVersion
    rw [hv] at hr
    obtain ⟨b, hb, hleaves⟩ := leaves_discover (v := v) source request
    rw [hb] at hr
    cases hr
    have hasking := hworker.asking htodo
    rw [hv] at hasking
    exact ⟨hleaves _ hasking (h.objects _), Or.inl ⟨(hworker.asks htodo).1, rfl, rfl⟩⟩
  | some l =>
    rw [Worker.remaining, htodo, Option.getD_some] at hr
    subst hr
    have hkind : w.kind ≠ .sync := by
      intro hsync
      cases hworker.ended hsync _ htodo
    have ha := hworker.steps hkind _ htodo a List.mem_cons_self
    obtain ⟨hobject, hunchanged⟩ := unverifying_step (h.objects w.result)
      (hworker.unchanged hkind) ⟨hkind, hworker.noRollback⟩ ha
    exact ⟨hobject, Or.inr ⟨hkind, ha, rfl, hunchanged⟩⟩

/-- A step of a worker. -/
theorem PanelSync.assigned (h : PanelSync s) (hw : s.workers.get? k = some w)
    {source : Option GitHubReleaseSource} {request : String → Except Raised Json}
    {a : Assignment} {rest : List Assignment}
    (hr : w.remaining (panelProviders source request) s.localVersion = a :: rest) :
    PanelSync (s.assigned k w a rest) := by
  have hworker := h.workers k w hw
  have hversion : (s.assigned k w a rest).localVersion = s.localVersion :=
    localVersion_assigned k w a rest hworker.noRollback
  obtain ⟨hobject, hstep⟩ := h.assignment hw hr
  refine ⟨fun j => ?_, ?_, fun i hi => ?_, fun k' w' hw' => ?_⟩
  · rw [objects_assigned]
    exact unverifying_update h hobject j
  · rw [hversion]
    exact h.localVersion
  · rw [latest_assigned] at hi
    rw [allocated_assigned]
    exact h.latest_lt i hi
  · have howner := Owner.assigned h.owner hw a rest hw'
    rw [workers_assigned] at hw'
    obtain ⟨-, rfl⟩ | ⟨hk, hget⟩ := Dict.of_get?_set hw'
    · -- the worker that took the step
      refine ⟨howner, hworker.noRollback, fun hk => ?_, fun htodo => ?_, fun hsync l hl => ?_,
        fun hk l hl b hb => ?_⟩
      · rw [objects_assigned, Function.update_self]
        obtain ⟨hsync, -⟩ | ⟨-, -, -, hunchanged⟩ := hstep
        · exact absurd hsync hk
        · exact hunchanged
      · cases htodo
      · obtain rfl := Option.some.inj hl
        obtain ⟨-, -, hrest⟩ | ⟨hno, -⟩ := hstep
        · exact hrest
        · exact absurd hsync hno
      · obtain rfl := Option.some.inj hl
        obtain ⟨hsync, -⟩ | ⟨hno, -, htodo, -⟩ := hstep
        · exact absurd hsync hk
        · exact hworker.steps hno _ htodo b (List.mem_cons_of_mem _ hb)
    · -- another one
      have hother := h.workers k' w' hget
      refine ⟨howner, hother.noRollback, fun hno => ?_, fun htodo => ?_, hother.ended,
        hother.steps⟩
      · rw [objects_assigned]
        by_cases he : w'.result = w.result
        · rw [he, Function.update_self]
          obtain ⟨hsync, -⟩ | ⟨-, -, -, hunchanged⟩ := hstep
          · exact absurd ((hworker.alone hsync).2 k' w' hget he) hk
          · exact hunchanged
        · rw [Function.update_of_ne he]
          exact hother.unchanged hno
      · have hne : w'.result ≠ w.result := by
          intro he
          exact hk ((hother.alone (hother.asks htodo).1).2 k w hw he.symm).symm
        rw [hversion, objects_assigned, Function.update_of_ne hne]
        exact hother.asking htodo

/-- A worker ends. -/
theorem PanelSync.cleanup (h : PanelSync s) (hw : s.workers.get? k = some w) :
    PanelSync (s.cleanup k w) := by
  refine ⟨h.objects, h.localVersion,
    fun _ hi => latest_lt_cleanup h.latest_lt (h.owner k w hw) hi, fun k' w' hw' => ?_⟩
  have hold := h.workers k' w' (get?_of_get?_cleanup hw').2
  exact ⟨.cleanup h.owner hw hw', hold.noRollback, hold.unchanged, hold.asking, hold.ended,
    hold.steps⟩

/-- A step of the service. -/
theorem PanelSync.memory (h : PanelSync s) {op : Op} (hop : WiredOp op) :
    PanelSync (s.memory op) := by
  cases op with
  | call c =>
    rcases memory_call (s := s) c with ⟨hm, -⟩ | ⟨t, i, kind, response, he, -, hm⟩
    · rw [hm]
      exact h
    · obtain ⟨hpanel, hfree⟩ := h.entered he
      rcases hm with ⟨-, hm⟩ | ⟨-, hm⟩
      · rw [hm]
        exact hpanel
      · rw [hm]
        exact hpanel.spawn hfree
  | assign k p =>
    obtain ⟨source, request, rfl⟩ := hop
    rcases memory_assign (s := s) k (panelProviders source request) with
      hm | ⟨w, a, rest, hw, hr, hm⟩
    · rw [hm]
      exact h
    · rw [hm]
      exact h.assigned hw hr
  | finish k =>
    rcases memory_finish (s := s) k with ⟨hm, -⟩ | ⟨w, hw, -, hm, -⟩
    · rw [hm]
      exact h
    · rw [hm]
      exact h.cleanup hw

/-- What a step writes. -/
theorem PanelSync.written (h : PanelSync s) (op : Op) : ∀ j, s.written op = some j →
    ∃ r : SyncResult, r.encode = some j ∧ Unverifying r.reload := by
  intro j hj
  rcases exists_of_written hj with ⟨c, t, i, kind, response, rfl, he, henc⟩ | ⟨k, i, rfl, henc⟩
  · exact ⟨_, henc, ((h.entered he).1.objects i).reload henc⟩
  · exact ⟨_, henc, (h.objects i).reload henc⟩

end Memory

/-! ### Runs -/

/-- A service that was just started. -/
theorem panelSync_init {store : Option (List Char)} (localVersion : String)
    (h : Recorded Unverifying store) : PanelSync (.init store localVersion) where
  objects i := by
    show Unverifying ((loadLatest store).getD _)
    cases hl : loadLatest store with
    | none => exact unverifying_of_state (by simp [Ready]) rfl (by simp) ⟨rfl, rfl⟩ rfl
    | some r => exact h.loadLatest hl
  localVersion := ⟨localVersion, rfl⟩
  latest_lt i hi := latest_lt_init hi
  workers k w hw := by cases hw

theorem panelSync_invariant : ((system Empty).restrict Wired).Invariant fun s =>
    PanelSync s.service ∧ Recorded Unverifying s.service.store where
  init s hs := by
    obtain ⟨store, localVersion, rfl, rfl⟩ := hs
    exact ⟨panelSync_init localVersion recorded_nil, recorded_nil⟩
  step s e t h hstep := by
    obtain ⟨hwired, rfl⟩ : s.Wired e ∧ s.next e = t := ⟨hstep.1, Option.some.inj hstep.2⟩
    cases e with
    | op o =>
      have hm := h.1.memory hwired
      have hstore := recorded_appended h.2 (h.1.written o) (List.prefix_refl _)
      refine ⟨⟨hm.objects, hm.localVersion, hm.latest_lt, fun k w hw => ?_⟩, hstore⟩
      have hworker := hm.workers k w hw
      exact ⟨⟨hworker.result_lt, hworker.alone, hworker.asks⟩, hworker.noRollback,
        hworker.unchanged, hworker.asking, hworker.ended, hworker.steps⟩
    | crash o n localVersion =>
      have hstore := recorded_appended h.2 (h.1.written o) (List.take_prefix n _)
      exact ⟨panelSync_init localVersion hstore, hstore⟩

theorem exists_annyRuntime :
    ∃ repository, validateRepository repository = some ("anny", "runtime") :=
  ⟨" anny/runtime", by decide⟩

/-- The repository `anny/runtime`. -/
def annyRuntime : GitHubReleaseSource := ⟨"anny", "runtime", exists_annyRuntime⟩

/-- GitHub has the release of this version. -/
def releasing (version : String) : String → Except Raised Json :=
  fun _ => .ok (.obj [("tag_name", .str version)])

/-- A transaction of the panel has run. -/
def panelSynced (version : String) : SyncRun :=
  ((fresh.next startEvent).next
    (.op (.assign 0 (panelProviders (some annyRuntime) (releasing version))))).next
      (.op (.finish 0))

theorem reachable_panelSynced (version : String) :
    ((system Empty).restrict Wired).Reachable (panelSynced version) := by
  have hstart : fresh.Wired startEvent := trivial
  have hassign : (fresh.next startEvent).Wired
      (.op (.assign 0 (panelProviders (some annyRuntime) (releasing version)))) := ⟨_, _, rfl⟩
  have hfinish : ((fresh.next startEvent).next
      (.op (.assign 0 (panelProviders (some annyRuntime) (releasing version))))).Wired
        (.op (.finish 0)) := trivial
  exact .step (.step (.step (.init init_fresh) ⟨hstart, rfl⟩) ⟨hassign, rfl⟩) ⟨hfinish, rfl⟩

end SyncRun

end Sync

end AnnyRuntime
