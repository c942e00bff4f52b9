import AnnyRuntime.Continuity.CustomerZero

/-!
# The discovery of the operational repository

The repositories that are accessible are given, with the markers that each of them carries, and an
API that lists them and answers the probes truthfully or fails (`Serves`).  One page of the list is
asked for, and no other.

* `Serves.candidates_eq` : **what the provider makes of a page that is listed**: the repositories
  with a marker, or the exception of the first probe that failed.
* `discover_of_listFailure` : what it makes of a list that failed.
-/

namespace AnnyRuntime

namespace CustomerZero

open Fabric (mentions)
open OperationalRepositoryProvider
open GitHubClient (repositoriesRequest contentsRequest perPage)

/-! ### Repositories and failures -/

/-- A repository, as the API describes it. -/
structure Repository where
  members : List (String × Json)
  (owner name : String)
  branch : Json
  topics : List Json
  owner_ne : owner ≠ ""
  name_ne : name ≠ ""
  ownerAt : ∃ ms, Json.lookup "owner" members = some (.obj ms) ∧
    Json.lookup "login" ms = some (.str owner)
  nameAt : Json.lookup "name" members = some (.str name)
  topicsAt : (Json.lookup "topics" members).getD (.arr []) = .arr topics
  branchAt : (Json.lookup "default_branch" members).getD (.str "main") = branch

/-- The accessible repositories, in the order of the API, and the files on their default
branches. -/
structure Accessible where
  repositories : List Repository
  hasFile : Repository → String → Bool

/-- The topic that marks a repository. -/
def Repository.hasTopic (r : Repository) : Bool :=
  r.topics.any (Json.str "anny-operational").pyEq

/-- What the provider calls the repository. -/
def Repository.info (r : Repository) : RepoInfo := .github r.owner r.name r.branch

/-- The kinds of failures. -/
inductive FailureKind where
  | authentication
  | permission
  | rateLimit
  | network
  | other
  deriving DecidableEq

/-- The kind of failure that a response is. -/
def Response.kind (p : Platform) : Response → FailureKind
  | .body _ => .other
  | .httpError code reason =>
    if code = 401 then .authentication
    else if code = 403 then
      if mentions "rate limit" (p.lower reason) then .rateLimit else .permission
    else if code = 429 then .rateLimit
    else .other
  | .urlError _ _ | .timeout | .raised true _ => .network
  | .raised false _ => .other

/-- The answer can be decoded. -/
def decodes (text : List Char) : Bool := text.isEmpty || (Json.loads text).isSome

/-- A probe failed: its answer is neither a file nor that there is none. -/
def probeFails : Response → Bool
  | .body text => !decodes text
  | .httpError code _ => code ≠ 404
  | _ => true

/-- The answer to the list is a list. -/
def listed : Response → Option (List Json)
  | .body text =>
    match Json.loads text with
    | some (.arr repos) => some repos
    | _ => none
  | _ => none

section Spec

variable (p : Platform) (W : Accessible) (c : GitHubClient)

/-- A repository carries a marker. -/
def Accessible.marked (r : Repository) : Bool :=
  r.hasTopic || W.hasFile r ".anny/operational.yaml" || W.hasFile r "BOOTSTRAP.md"

/-- The page of the list that the API answers with. -/
def Accessible.page : List Repository := W.repositories.take perPage

/-- How a probe ends. -/
def GitHubClient.probe (r : Repository) (path : String) : Response :=
  c.respond (contentsRequest r.owner r.name path r.branch)

/-- The API answers truthfully, where it does not fail. -/
structure Serves : Prop where
  list : ∀ repos, listed (c.respond repositoriesRequest) = some repos →
    repos = W.page.map fun r => .obj r.members
  found : ∀ r ∈ W.repositories, ∀ path text, c.probe r path = .body text → decodes text = true →
    W.hasFile r path = true
  absent : ∀ r ∈ W.repositories, ∀ path reason, c.probe r path = .httpError 404 reason →
    W.hasFile r path = false

/-- The list failed, with what kind of failure. -/
def GitHubClient.listFailure : Option FailureKind :=
  match c.token with
  | none => some .authentication
  | some _ =>
    if (listed (c.respond repositoriesRequest)).isSome then none
    else some ((c.respond repositoriesRequest).kind p)

/-- The probe of a repository that failed, among those that are needed. -/
def Accessible.failedProbe (r : Repository) : Option Response :=
  if r.hasTopic then none
  else if probeFails (c.probe r ".anny/operational.yaml") then
    some (c.probe r ".anny/operational.yaml")
  else if W.hasFile r ".anny/operational.yaml" then none
  else if probeFails (c.probe r "BOOTSTRAP.md") then some (c.probe r "BOOTSTRAP.md")
  else none

/-- The first probe that failed: there is no other one after it. -/
def Accessible.firstFailedProbe : Option Response := W.page.findSome? (W.failedProbe c)

/-- The kind of the failure of the list or of a probe. -/
def Accessible.failure : Option FailureKind :=
  match c.listFailure p with
  | some kind => some kind
  | none => (W.firstFailedProbe c).map (Response.kind p)

/-- The failure of the list is taken for one of the four kinds. -/
def TakenForKnown : Prop :=
  c.token = none ∨
    match c.respond repositoriesRequest with
    | .body text => decodes text = false
    | .raised _ text => statusOfError text = .unknown
    | _ => True

end Spec

/-! ### Probes -/

variable {p : Platform} {W : Accessible} {c : GitHubClient} {r : Repository} {e : PyException}

/-- What a probe that failed becomes. -/
def probeException : Response → PyException
  | .raised _ text => ⟨.other, text⟩
  | _ => notFound "UNKNOWN_ERROR"

theorem probeFailed_of_client (h : isClientError e = true) :
    probeFailed p e = notFound "UNKNOWN_ERROR" := by
  rw [probeFailed, if_pos h]
  rfl

/-- A probe that does not fail tells whether there is the file. -/
theorem fileExists_of_answered (hc : c.token.isSome = true) {owner name path : String} {ref : Json}
    (h : probeFails (c.respond (contentsRequest owner name path ref)) = false) :
    c.fileExists p owner name path ref = .ok (match c.respond (contentsRequest owner name path ref)
      with | .body _ => true | _ => false) := by
  obtain ⟨token, htoken⟩ := Option.isSome_iff_exists.1 hc
  rw [GitHubClient.fileExists, GitHubClient.request, htoken]
  cases hresponse : c.respond (contentsRequest owner name path ref) with
  | body text =>
    rw [hresponse, probeFails, decodes, Bool.not_eq_false', Bool.or_eq_true, List.isEmpty_iff] at h
    by_cases htext : text = []
    · simp [htext]
    · obtain ⟨v, hv⟩ := Option.isSome_iff_exists.1 (h.resolve_left htext)
      simp [htext, hv]
  | httpError code reason =>
    rw [hresponse, probeFails, decide_eq_false_iff_not, not_not] at h
    simp [h]
  | urlError _ _ | timeout | raised _ _ =>
    rw [hresponse] at h
    cases h

/-- A probe that fails raises. -/
theorem fileExists_of_failed (hc : c.token.isSome = true) {owner name path : String} {ref : Json}
    (h : probeFails (c.respond (contentsRequest owner name path ref)) = true) :
    ∃ e, c.fileExists p owner name path ref = .error e ∧
      probeFailed p e = probeException (c.respond (contentsRequest owner name path ref)) := by
  obtain ⟨token, htoken⟩ := Option.isSome_iff_exists.1 hc
  rw [GitHubClient.fileExists, GitHubClient.request, htoken]
  cases hresponse : c.respond (contentsRequest owner name path ref) with
  | body text =>
    rw [hresponse, probeFails, decodes, Bool.not_eq_true', Bool.or_eq_false_iff,
      List.isEmpty_eq_false_iff, Option.isSome_eq_false_iff, Option.isNone_iff_eq_none] at h
    simp only [h.1, h.2, if_false, Option.elim_none]
    exact ⟨_, rfl, probeFailed_of_client rfl⟩
  | httpError code reason =>
    rw [hresponse, probeFails, decide_eq_true_eq] at h
    simp only [h, if_false]
    split_ifs <;> exact ⟨_, rfl, probeFailed_of_client rfl⟩
  | urlError timedOut reason =>
    cases timedOut <;> exact ⟨_, rfl, probeFailed_of_client rfl⟩
  | timeout => exact ⟨_, rfl, probeFailed_of_client rfl⟩
  | raised connection text => exact ⟨_, rfl, rfl⟩

/-- A probe that does not fail is truthful. -/
theorem Serves.fileExists_eq (hW : Serves W c) (hr : r ∈ W.repositories)
    (hc : c.token.isSome = true) {path : String} (h : probeFails (c.probe r path) = false) :
    c.fileExists p r.owner r.name path r.branch = .ok (W.hasFile r path) := by
  refine (fileExists_of_answered hc h).trans (congrArg Except.ok ?_)
  change (match c.probe r path with | .body _ => true | _ => false) = _
  cases hresponse : c.probe r path with
  | body text =>
    rw [hresponse, probeFails, Bool.not_eq_false'] at h
    exact (hW.found r hr path text hresponse h).symm
  | httpError code reason =>
    rw [hresponse, probeFails, decide_eq_false_iff_not, not_not] at h
    exact (hW.absent r hr path reason (h ▸ hresponse)).symm
  | urlError _ _ | timeout | raised _ _ =>
    rw [hresponse] at h
    cases h

/-- **The probes of a repository.** -/
theorem Serves.hasMarkerFile_eq (hW : Serves W c) (hr : r ∈ W.repositories)
    (hc : c.token.isSome = true) (htopic : r.hasTopic = false) :
    (hasMarkerFile p c r.owner r.name r.branch).mapError (probeFailed p) =
      match W.failedProbe c r with
      | some response => .error (probeException response)
      | none => .ok (W.marked r) := by
  rw [hasMarkerFile, Accessible.failedProbe, Accessible.marked, htopic, if_neg Bool.false_ne_true,
    Bool.false_or]
  cases hfirst : probeFails (c.probe r ".anny/operational.yaml") with
  | true =>
    obtain ⟨e, he, hprobe⟩ := fileExists_of_failed (p := p) hc hfirst
    rw [he, if_pos rfl]
    exact congrArg Except.error hprobe
  | false =>
    rw [hW.fileExists_eq hr hc hfirst, if_neg Bool.false_ne_true]
    cases hfile : W.hasFile r ".anny/operational.yaml" with
    | true => rfl
    | false =>
      rw [if_neg Bool.false_ne_true, Bool.false_or]
      cases hsecond : probeFails (c.probe r "BOOTSTRAP.md") with
      | true =>
        obtain ⟨e, he, hprobe⟩ := fileExists_of_failed (p := p) hc hsecond
        rw [if_pos rfl]
        change (c.fileExists p r.owner r.name "BOOTSTRAP.md" r.branch).mapError _ = _
        rw [he]
        exact congrArg Except.error hprobe
      | false =>
        rw [if_neg Bool.false_ne_true]
        change (c.fileExists p r.owner r.name "BOOTSTRAP.md" r.branch).mapError _ = _
        rw [hW.fileExists_eq hr hc hsecond]
        rfl

theorem Repository.members_ne (r : Repository) : r.members ≠ [] := by
  intro h
  have hname := r.nameAt
  rw [h] at hname
  cases hname

/-- **A repository of the list.** -/
theorem Serves.candidate_eq (hW : Serves W c) (hr : r ∈ W.repositories)
    (hc : c.token.isSome = true) :
    candidate p c (.obj r.members) =
      match W.failedProbe c r with
      | some response => .error (probeException response)
      | none => .ok (if W.marked r then some r.info else none) := by
  obtain ⟨ms, howner, hlogin⟩ := r.ownerAt
  have htruthy : (Json.obj r.members).truthy = true := decide_eq_true r.members_ne
  have hnames : (!(Json.str r.owner).truthy || !(Json.str r.name).truthy) = false := by
    simp [Json.truthy_str, r.owner_ne, r.name_ne]
  simp only [candidate, htruthy, Bool.not_true, Bool.false_eq_true, if_false, Json.get, howner,
    hlogin, r.nameAt, r.topicsAt, r.branchAt, Option.getD_some, bind, Except.bind, pure,
    Except.pure, hnames, formatted, Json.contains]
  cases htopic : r.hasTopic with
  | true =>
    have hmarked : W.marked r = true := by simp [Accessible.marked, htopic]
    have hprobe : W.failedProbe c r = none := by simp [Accessible.failedProbe, htopic]
    rw [Repository.hasTopic] at htopic
    simp only [htopic, if_true, hprobe, hmarked]
    rfl
  | false =>
    have hprobes := hW.hasMarkerFile_eq (p := p) hr hc htopic
    rw [Repository.hasTopic] at htopic
    simp only [htopic, Bool.false_eq_true, if_false, hprobes]
    cases W.failedProbe c r <;> rfl

/-- **The repositories of a list, one after the other.** -/
theorem Serves.mapM_candidate_eq (hW : Serves W c) (hc : c.token.isSome = true)
    {rs : List Repository} (hrs : ∀ r ∈ rs, r ∈ W.repositories) :
    (rs.map fun r => Json.obj r.members).mapM (candidate p c) =
      match rs.findSome? (W.failedProbe c) with
      | some response => .error (probeException response)
      | none => .ok (rs.map fun r => if W.marked r then some r.info else none) := by
  induction rs with
  | nil => rfl
  | cons r rs ih =>
    rw [List.forall_mem_cons] at hrs
    rw [List.map_cons, List.mapM_cons, hW.candidate_eq hrs.1 hc, ih hrs.2, List.findSome?_cons]
    cases W.failedProbe c r with
    | some response => rfl
    | none => cases rs.findSome? (W.failedProbe c) <;> rfl

theorem filterMap_id_map (W : Accessible) (rs : List Repository) :
    (rs.map fun r => if W.marked r then some r.info else none).filterMap id =
      (rs.filter W.marked).map Repository.info := by
  induction rs with
  | nil => rfl
  | cons r rs ih =>
    rw [List.map_cons, List.filter_cons]
    cases W.marked r with
    | true => exact congrArg (r.info :: ·) ih
    | false => exact ih

/-! ### The list -/

theorem isSome_token_of_listFailure (h : c.listFailure p = none) : c.token.isSome = true := by
  rw [GitHubClient.listFailure] at h
  cases htoken : c.token with
  | none => simp [htoken] at h
  | some token => rfl

/-- The repositories are listed when the list does not fail. -/
theorem Serves.listRepositories_eq (hW : Serves W c) (h : c.listFailure p = none) :
    c.listRepositories p = .ok (W.page.map fun r => .obj r.members) := by
  obtain ⟨token, htoken⟩ := Option.isSome_iff_exists.1 (isSome_token_of_listFailure h)
  have hlisted : (listed (c.respond repositoriesRequest)).isSome = true := by
    by_contra hnone
    simp [GitHubClient.listFailure, htoken, hnone] at h
  obtain ⟨repos, hrepos⟩ := Option.isSome_iff_exists.1 hlisted
  obtain rfl := hW.list repos hrepos
  rw [GitHubClient.listRepositories, GitHubClient.request, htoken]
  cases hresponse : c.respond repositoriesRequest with
  | body text =>
    rw [hresponse, listed] at hrepos
    split at hrepos
    · rename_i l hl
      obtain rfl := Option.some.inj hrepos
      have htext : text ≠ [] := by
        rintro rfl
        cases hl
      simp only [htext, if_false, hl, Option.elim_some]
      rfl
    · cases hrepos
  | _ =>
    rw [hresponse] at hrepos
    cases hrepos

/-- **The candidates** of a page that could be listed and probed. -/
theorem Serves.candidates_eq (hW : Serves W c) (h : c.listFailure p = none) :
    candidates p c =
      match W.firstFailedProbe c with
      | some response => .error (probeException response)
      | none => .ok ((W.page.filter W.marked).map Repository.info) := by
  have hpage : ∀ r ∈ W.page, r ∈ W.repositories := fun r hr => List.mem_of_mem_take hr
  have hmap := hW.mapM_candidate_eq (p := p) (isSome_token_of_listFailure h) hpage
  rw [candidates, hW.listRepositories_eq h, Accessible.firstFailedProbe]
  change (((W.page.map fun r => Json.obj r.members).mapM (candidate p c)) >>= _).mapError _ = _
  rw [hmap]
  cases W.page.findSome? (W.failedProbe c) with
  | some response =>
    cases response <;> rfl
  | none => exact congrArg Except.ok (filterMap_id_map W W.page)

theorem discover_of_candidates_error (h : candidates p c = .error e) : discover p c = .error e := by
  rw [discover, h]
  rfl

/-- **A list that failed** is taken for a network failure, or for an empty list, or its exception
goes through. -/
theorem discover_of_listFailure {kind : FailureKind} (h : c.listFailure p = some kind) :
    ∃ e, discover p c = .error e ∧ (statusOfError e.text = .unknown ↔ TakenForKnown c) := by
  have hnetwork (hlist : ∃ e, c.listRepositories p = .error e ∧ isClientError e = true) :
      discover p c = .error (notFound "NETWORK_ERROR") := by
    obtain ⟨e, he, hclient⟩ := hlist
    refine discover_of_candidates_error ?_
    rw [candidates, he]
    exact congrArg Except.error (if_pos hclient)
  have hempty (hlist : c.listRepositories p = .ok []) :
      discover p c = .error (notFound "OPERATIONAL_REPOSITORY_NOT_FOUND") := by
    rw [discover, candidates, hlist]
    rfl
  have hunknown : statusOfError (notFound "NETWORK_ERROR").text = .unknown := by decide
  have hblocked : statusOfError (notFound "OPERATIONAL_REPOSITORY_NOT_FOUND").text ≠ .unknown := by
    decide
  cases htoken : c.token with
  | none =>
    refine ⟨_, hnetwork ?_, iff_of_true hunknown (.inl htoken)⟩
    rw [GitHubClient.listRepositories, GitHubClient.request, htoken]
    exact ⟨_, rfl, rfl⟩
  | some token =>
    have hlisted : listed (c.respond repositoriesRequest) = none := by
      by_contra hsome
      simp [GitHubClient.listFailure, htoken, Option.isSome_iff_ne_none.2 hsome] at h
    rw [TakenForKnown, or_iff_right (by simp [htoken])]
    cases hresponse : c.respond repositoriesRequest with
    | body text =>
      rw [hresponse, listed] at hlisted
      by_cases htext : text = []
      · refine ⟨_, hempty ?_, iff_of_false hblocked ?_⟩
        · rw [GitHubClient.listRepositories, GitHubClient.request, htoken, hresponse]
          simp only [htext, if_true]
          rfl
        · simp [decodes, htext]
      cases hloads : Json.loads text with
      | none =>
        refine ⟨_, hnetwork ?_, iff_of_true hunknown ?_⟩
        · rw [GitHubClient.listRepositories, GitHubClient.request, htoken, hresponse]
          simp only [htext, if_false, hloads, Option.elim_none]
          exact ⟨_, rfl, rfl⟩
        · simp [decodes, htext, hloads]
      | some v =>
        refine ⟨_, hempty ?_, iff_of_false hblocked ?_⟩
        · rw [GitHubClient.listRepositories, GitHubClient.request, htoken, hresponse]
          simp only [htext, if_false, hloads, Option.elim_some]
          cases v with
          | arr repos =>
            rw [hloads] at hlisted
            cases hlisted
          | _ => rfl
        · simp [decodes, hloads]
    | httpError code reason =>
      refine ⟨_, hnetwork ?_, iff_of_true hunknown trivial⟩
      rw [GitHubClient.listRepositories, GitHubClient.request, htoken, hresponse]
      simp only
      split_ifs <;> exact ⟨_, rfl, rfl⟩
    | urlError timedOut reason =>
      refine ⟨_, hnetwork ?_, iff_of_true hunknown trivial⟩
      rw [GitHubClient.listRepositories, GitHubClient.request, htoken, hresponse]
      cases timedOut <;> exact ⟨_, rfl, rfl⟩
    | timeout =>
      refine ⟨_, hnetwork ?_, iff_of_true hunknown trivial⟩
      rw [GitHubClient.listRepositories, GitHubClient.request, htoken, hresponse]
      exact ⟨_, rfl, rfl⟩
    | raised connection text =>
      refine ⟨⟨.other, text⟩, ?_, Iff.rfl⟩
      rw [discover, candidates, GitHubClient.listRepositories, GitHubClient.request, htoken,
        hresponse]
      rfl

end CustomerZero

end AnnyRuntime
