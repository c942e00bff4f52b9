import AnnyRuntime.Continuity.BootstrapSound
import AnnyRuntime.Continuity.Discovery
import AnnyRuntime.Json.RoundTrip

/-!
# The resolution of the operational repository

A failure of the API is of one of four kinds or of another one.  The provider tells them apart by
the class of an exception and by an attribute that no exception has, and the resolver by words in a
text.

* `honest_iff_of_failure`, `honest_iff_of_undecided`, `honest_iff_of_found` : when a resolution is
  honest, after a failure and without one.
* `resolution_honest_iff` : **the resolution is honest exactly when the first page decides, the
  names of several repositories have none of the words, and the failure that comes first, if there
  is one, is of a kind that it is taken for.**
-/

namespace AnnyRuntime

namespace CustomerZero

open OperationalRepositoryProvider
open GitHubClient (repositoriesRequest contentsRequest perPage)

/-! ### Honest resolutions -/

section Spec

variable (p : Platform) (y : Yaml) (W : Accessible) (c : GitHubClient)

/-- How many repositories carry a marker. -/
def Accessible.markers : ℕ := W.repositories.countP W.marked

/-- The provider finds the repository with the marker if there is one and nothing failed, and the
resolver reports what is so. -/
structure Honest (P : OperationalRepositoryProvider) : Prop where
  found : (∃ repo, (P.resolveOperationalRepository p).1 = .ok (some repo)) ↔
    W.markers = 1 ∧ W.failure p c = none
  right : ∀ repo, (P.resolveOperationalRepository p).1 = .ok (some repo) →
    ∃ r ∈ W.repositories, W.marked r = true ∧ repo = r.info
  unknown : (∃ r, resolve p y P = .ok r ∧ r.status = .unknown) ↔
    ∃ kind, W.failure p c = some kind ∧ kind ≠ .other
  blocked : W.failure p c = none → W.markers ≠ 1 →
    ∃ r, resolve p y P = .ok r ∧ r.status = .blocked

/-- The provider uses this client, and has found nothing yet. -/
structure OnGitHub (P : OperationalRepositoryProvider) : Prop where
  client : P.githubClient = some c
  notLocal : P.local? = none
  fresh : P.resolved = none

/-- The condition. -/
structure Decided : Prop where
  /-- The first page decides whether there is one repository with a marker. -/
  page : W.failure p c = none → (W.page.countP W.marked = 1 ↔ W.markers = 1)
  /-- The names of several have none of the words. -/
  names : W.failure p c = none → 2 ≤ W.page.countP W.marked →
    statusOfError (ambiguousText p ((W.page.filter W.marked).map Repository.info)) ≠ .unknown
  /-- A failure of the list is of one of the four kinds if it is taken for one. -/
  list : ∀ kind, c.listFailure p = some kind → (kind ≠ .other ↔ TakenForKnown c)
  /-- A probe that failed is of another kind, unless its exception is taken for one of the four. -/
  probe : c.listFailure p = none → ∀ response, W.firstFailedProbe c = some response →
    (response.kind p ≠ .other ↔
      ∃ connection text, response = .raised connection text ∧ statusOfError text = .unknown)

end Spec

variable {p : Platform} {y : Yaml} {W : Accessible} {c : GitHubClient}
  {P : OperationalRepositoryProvider} {e : PyException}

theorem OnGitHub.fst_eq (hP : OnGitHub c P) :
    (P.resolveOperationalRepository p).1 = (discover p c).map some := by
  rw [resolveOperationalRepository, hP.fresh, hP.notLocal, hP.client]
  cases hfound : discover p c <;> simp [hfound, Except.map]

/-- The resolver after a resolution that raised. -/
theorem exists_status_iff (h : (P.resolveOperationalRepository p).1 = .error e) (status : Status) :
    (∃ r, resolve p y P = .ok r ∧ r.status = status) ↔ statusOfError e.text = status := by
  obtain ⟨r, hr, hstatus⟩ := resolve_of_error (y := y) h
  constructor
  · rintro ⟨r', hr', rfl⟩
    rw [← hstatus, Except.ok.inj (hr.symm.trans hr')]
  · rintro rfl
    exact ⟨r, hr, hstatus⟩

/-- **After a failure**: the failure has to be taken for what it is. -/
theorem honest_iff_of_failure (h : (P.resolveOperationalRepository p).1 = .error e)
    {kind : FailureKind} (hkind : W.failure p c = some kind) :
    Honest p y W c P ↔ (kind ≠ .other ↔ statusOfError e.text = .unknown) := by
  have hnone (repo : RepoInfo) : (P.resolveOperationalRepository p).1 ≠ .ok (some repo) := by
    rw [h]
    exact nofun
  have hunknown : (∃ k, W.failure p c = some k ∧ k ≠ .other) ↔ kind ≠ .other := by
    rw [hkind]
    simp
  constructor
  · intro hhonest
    rw [← hunknown, ← hhonest.unknown, exists_status_iff h]
  · intro hiff
    refine ⟨iff_of_false (fun ⟨repo, hrepo⟩ => hnone repo hrepo) ?_,
      fun repo hrepo => absurd hrepo (hnone repo), ?_, ?_⟩
    · rw [hkind]
      exact fun hfound => nomatch hfound.2
    · rw [exists_status_iff h, hunknown, hiff]
    · intro hnofailure
      rw [hkind] at hnofailure
      cases hnofailure

/-- **Without a failure, and without one repository that is found.** -/
theorem honest_iff_of_undecided (h : (P.resolveOperationalRepository p).1 = .error e)
    (hfailure : W.failure p c = none) :
    Honest p y W c P ↔ W.markers ≠ 1 ∧ statusOfError e.text ≠ .unknown := by
  have hnone (repo : RepoInfo) : (P.resolveOperationalRepository p).1 ≠ .ok (some repo) := by
    rw [h]
    exact nofun
  constructor
  · intro hhonest
    refine ⟨fun hone => ?_, fun hunknown => ?_⟩
    · obtain ⟨repo, hrepo⟩ := hhonest.found.2 ⟨hone, hfailure⟩
      exact hnone repo hrepo
    · obtain ⟨kind, hkind, -⟩ := hhonest.unknown.1 ((exists_status_iff h _).2 hunknown)
      rw [hfailure] at hkind
      cases hkind
  · rintro ⟨hmarkers, hstatus⟩
    refine ⟨iff_of_false (fun ⟨repo, hrepo⟩ => hnone repo hrepo) fun hone => hmarkers hone.1,
      fun repo hrepo => absurd hrepo (hnone repo), ?_, fun _ _ => ?_⟩
    · rw [exists_status_iff h, hfailure]
      exact iff_of_false hstatus nofun
    · rw [exists_status_iff h]
      exact (statusOfError_eq e.text).resolve_left hstatus

/-- **Without a failure, and with one.** -/
theorem honest_iff_of_found {r : Repository}
    (h : (P.resolveOperationalRepository p).1 = .ok (some r.info))
    (hfailure : W.failure p c = none) (hr : r ∈ W.repositories) (hmarked : W.marked r = true) :
    Honest p y W c P ↔ W.markers = 1 := by
  constructor
  · exact fun hhonest => (hhonest.found.1 ⟨_, h⟩).1
  · intro hone
    refine ⟨iff_of_true ⟨_, h⟩ ⟨hone, hfailure⟩, fun repo hrepo => ?_, ?_,
      fun _ hmarkers => absurd hone hmarkers⟩
    · rw [h] at hrepo
      exact ⟨r, hr, hmarked, (Option.some.inj (Except.ok.inj hrepo)).symm⟩
    · rw [hfailure]
      refine iff_of_false ?_ nofun
      rintro ⟨r', hr', hunknown⟩
      exact status_ne_unknown h hr' hunknown

/-- The page has no more repositories with a marker than there are. -/
theorem countP_page_le (W : Accessible) : W.page.countP W.marked ≤ W.markers :=
  (List.take_sublist _ _).countP_le

theorem decided_iff_of_listFailure {kind : FailureKind} (h : c.listFailure p = some kind) :
    Decided p W c ↔ (kind ≠ .other ↔ TakenForKnown c) := by
  have hfailure : W.failure p c ≠ none := by simp [Accessible.failure, h]
  constructor
  · exact fun hdecided => hdecided.list kind h
  · intro hiff
    refine ⟨fun hnone => absurd hnone hfailure, fun hnone => absurd hnone hfailure,
      fun k hk => ?_, fun hnone => ?_⟩
    · obtain rfl : kind = k := Option.some.inj (h.symm.trans hk)
      exact hiff
    · rw [h] at hnone
      cases hnone

theorem decided_iff_of_failedProbe (hlist : c.listFailure p = none) {response : Response}
    (h : W.firstFailedProbe c = some response) :
    Decided p W c ↔ (response.kind p ≠ .other ↔
      ∃ connection text, response = .raised connection text ∧ statusOfError text = .unknown) := by
  have hfailure : W.failure p c ≠ none := by simp [Accessible.failure, hlist, h]
  constructor
  · exact fun hdecided => hdecided.probe hlist response h
  · intro hiff
    refine ⟨fun hnone => absurd hnone hfailure, fun hnone => absurd hnone hfailure,
      fun k hk => ?_, fun _ response' h' => ?_⟩
    · rw [hlist] at hk
      cases hk
    · obtain rfl : response = response' := Option.some.inj (h.symm.trans h')
      exact hiff

theorem decided_iff_of_answered (hlist : c.listFailure p = none)
    (h : W.firstFailedProbe c = none) :
    Decided p W c ↔ (W.page.countP W.marked = 1 ↔ W.markers = 1) ∧
      (2 ≤ W.page.countP W.marked →
        statusOfError (ambiguousText p ((W.page.filter W.marked).map Repository.info)) ≠
          .unknown) := by
  have hfailure : W.failure p c = none := by simp [Accessible.failure, hlist, h]
  constructor
  · exact fun hdecided => ⟨hdecided.page hfailure, hdecided.names hfailure⟩
  · rintro ⟨hpage, hnames⟩
    refine ⟨fun _ => hpage, fun _ => hnames, fun kind hkind => ?_, fun _ response hresponse => ?_⟩
    · rw [hlist] at hkind
      cases hkind
    · rw [h] at hresponse
      cases hresponse

/-- A probe's exception is taken for a known one when its text is. -/
theorem statusOfError_probeException (response : Response) :
    statusOfError (probeException response).text = .unknown ↔
      ∃ connection text, response = .raised connection text ∧ statusOfError text = .unknown := by
  have hblocked : statusOfError (notFound "UNKNOWN_ERROR").text ≠ .unknown := by decide
  cases response with
  | raised connection text =>
    constructor
    · exact fun h => ⟨connection, text, rfl, h⟩
    · rintro ⟨_, _, hresponse, h⟩
      cases hresponse
      exact h
  | _ =>
    refine iff_of_false hblocked ?_
    rintro ⟨_, _, hresponse, -⟩
    cases hresponse

/-- **When nothing fails.** -/
theorem honest_iff_of_answered (hP : OnGitHub c P) (hW : Serves W c)
    (hlist : c.listFailure p = none) (hprobe : W.firstFailedProbe c = none) :
    Honest p y W c P ↔ Decided p W c := by
  have hfailure : W.failure p c = none := by simp [Accessible.failure, hlist, hprobe]
  have hcandidates := hW.candidates_eq hlist
  rw [hprobe] at hcandidates
  rw [decided_iff_of_answered hlist hprobe]
  have hle := countP_page_le W
  have hcount : W.page.countP W.marked = (W.page.filter W.marked).length :=
    List.countP_eq_length_filter
  rw [hcount] at hle ⊢
  have hfst := hP.fst_eq (p := p)
  rw [discover, hcandidates] at hfst
  cases hfound : W.page.filter W.marked with
  | nil =>
    rw [hfound] at hfst
    rw [honest_iff_of_undecided hfst hfailure]
    have hblocked :
        statusOfError (notFound "OPERATIONAL_REPOSITORY_NOT_FOUND").text ≠ .unknown := by decide
    simp [hblocked]
  | cons r rs =>
    cases rs with
    | nil =>
      rw [hfound] at hfst
      have hr : r ∈ W.page.filter W.marked := by simp [hfound]
      obtain ⟨hpage, hmarked⟩ := List.mem_filter.1 hr
      rw [honest_iff_of_found hfst hfailure (List.mem_of_mem_take hpage) hmarked]
      simp
    | cons r' rs =>
      rw [hfound] at hfst hle
      rw [honest_iff_of_undecided hfst hfailure]
      simp only [List.length_cons] at hle ⊢
      have hpage : rs.length + 1 + 1 = 1 ↔ W.markers = 1 := by omega
      have hmarkers : W.markers ≠ 1 := by omega
      simp only [hpage, true_and, hmarkers, ne_eq, not_false_iff]
      exact ⟨fun h _ => h, fun h => h (by omega)⟩

/-- When the list fails. -/
theorem honest_iff_of_listFailure (hP : OnGitHub c P) {kind : FailureKind}
    (h : c.listFailure p = some kind) : Honest p y W c P ↔ Decided p W c := by
  have hkind : W.failure p c = some kind := by rw [Accessible.failure, h]
  obtain ⟨e, he, htaken⟩ := discover_of_listFailure h
  have herror : (P.resolveOperationalRepository p).1 = .error e := by
    rw [hP.fst_eq, he]
    rfl
  rw [honest_iff_of_failure herror hkind, htaken, decided_iff_of_listFailure h]

/-- When a probe fails. -/
theorem honest_iff_of_failedProbe (hP : OnGitHub c P) (hW : Serves W c)
    (hlist : c.listFailure p = none) {response : Response}
    (h : W.firstFailedProbe c = some response) : Honest p y W c P ↔ Decided p W c := by
  have hkind : W.failure p c = some (response.kind p) := by
    rw [Accessible.failure, hlist, h]
    rfl
  have hcandidates := hW.candidates_eq hlist
  rw [h] at hcandidates
  have herror : (P.resolveOperationalRepository p).1 = .error (probeException response) := by
    rw [hP.fst_eq, discover_of_candidates_error hcandidates]
    rfl
  rw [honest_iff_of_failure herror hkind, statusOfError_probeException,
    decided_iff_of_failedProbe hlist h]

/-- **When the resolution is honest.** -/
theorem resolution_honest_iff (hP : OnGitHub c P) (hW : Serves W c) :
    Honest p y W c P ↔ Decided p W c := by
  cases hlist : c.listFailure p with
  | some kind => exact honest_iff_of_listFailure hP hlist
  | none =>
    cases hprobe : W.firstFailedProbe c with
    | some response => exact honest_iff_of_failedProbe hP hW hlist hprobe
    | none => exact honest_iff_of_answered hP hW hlist hprobe

/-! ### Some repositories -/

/-- A repository of an organization, with these topics. -/
def orgRepository (name : String) (h : name ≠ "") (topics : List Json) : Repository where
  members := [("name", .str name), ("owner", .obj [("login", .str "org")]),
    ("topics", .arr topics), ("default_branch", .str "main")]
  owner := "org"
  name := name
  branch := .str "main"
  topics := topics
  owner_ne := by decide
  name_ne := h
  ownerAt := ⟨_, rfl, rfl⟩
  nameAt := rfl
  topicsAt := rfl
  branchAt := rfl

/-- An API that lists the repositories and answers everything else in one way. -/
def listingClient (W : Accessible) (probe : Response) : GitHubClient where
  token := some "token"
  url r := "https://api.github.com" ++ r.endpoint
  respond r :=
    if r = repositoriesRequest then
      .body (Json.dumps (.arr (W.page.map fun r => .obj r.members)))
    else probe

/-- A provider with this client. -/
def providerOf (c : GitHubClient) : OperationalRepositoryProvider where
  githubClient := some c
  files := localFiles [] []

theorem onGitHub_providerOf (c : GitHubClient) : OnGitHub c (providerOf c) := ⟨rfl, rfl, rfl⟩

theorem contentsRequest_ne (owner name path : String) (ref : Json) :
    contentsRequest owner name path ref ≠ repositoriesRequest := by
  intro h
  have hendpoint := congrArg (fun r : Request => r.endpoint.toList.take 2) h
  simp [contentsRequest, repositoriesRequest] at hendpoint

theorem probe_listingClient (W : Accessible) (probe : Response) (r : Repository) (path : String) :
    (listingClient W probe).probe r path = probe := by
  simp [GitHubClient.probe, listingClient, contentsRequest_ne]

theorem listed_listingClient (W : Accessible) (probe : Response) :
    listed ((listingClient W probe).respond repositoriesRequest) =
      some (W.page.map fun r => .obj r.members) := by
  have hresponse : (listingClient W probe).respond repositoriesRequest =
      .body (Json.dumps (.arr (W.page.map fun r => .obj r.members))) := by
    simp [listingClient]
  rw [hresponse, listed, Json.loads_dumps]

theorem listFailure_listingClient (p : Platform) (W : Accessible) (probe : Response) :
    (listingClient W probe).listFailure p = none := by
  rw [GitHubClient.listFailure, listed_listingClient]
  rfl

/-- The API is truthful when it fails the probes, or there is no file to be found. -/
theorem serves_listingClient {W : Accessible} {probe : Response}
    (h : probeFails probe = true ∨
      probe = .httpError 404 "Not Found" ∧ ∀ r path, W.hasFile r path = false) :
    Serves W (listingClient W probe) where
  list repos hrepos := by
    rw [listed_listingClient] at hrepos
    exact (Option.some.inj hrepos).symm
  found r _ path text hbody hdecodes := by
    rw [probe_listingClient] at hbody
    rcases h with h | ⟨h, -⟩
    · rw [hbody, probeFails, hdecodes] at h
      cases h
    · rw [hbody] at h
      cases h
  absent r _ path reason habsent := by
    rw [probe_listingClient] at habsent
    rcases h with h | ⟨-, h⟩
    · rw [habsent] at h
      cases h
    · exact h r path

/-- The operational repository, which has the topic. -/
def operations : Repository :=
  orgRepository "operations" (by decide) [.str "anny-operational"]

/-- Another repository. -/
def project (i : ℕ) : Repository :=
  orgRepository ("project-" ++ String.ofList (natText i)) (by simp [String.ext_iff]) []

/-- So many other repositories, and the operational one after them. -/
def organization (n : ℕ) : Accessible where
  repositories := (List.range n).map project ++ [operations]
  hasFile _ _ := false

theorem repositories_organization (n : ℕ) :
    (organization n).repositories = (List.range n).map project ++ [operations] := rfl

theorem countP_projects (n : ℕ) (rs : List Repository) (h : ∀ r ∈ rs, ∃ i, r = project i) :
    rs.countP (organization n).marked = 0 := by
  rw [List.countP_eq_zero]
  intro r hr
  obtain ⟨i, rfl⟩ := h r hr
  exact Bool.false_ne_true

theorem mem_projects {n : ℕ} {r : Repository} (h : r ∈ (List.range n).map project) :
    ∃ i, r = project i := by
  obtain ⟨i, -, rfl⟩ := List.mem_map.1 h
  exact ⟨i, rfl⟩

theorem markers_organization (n : ℕ) : (organization n).markers = 1 := by
  rw [Accessible.markers, repositories_organization, List.countP_append]
  exact congrArg (· + 1) (countP_projects n _ fun r => mem_projects)

theorem countP_page_organization (n : ℕ) :
    (organization n).page.countP (organization n).marked = if n < perPage then 1 else 0 := by
  rw [Accessible.page, repositories_organization, List.take_append, List.countP_append,
    countP_projects n _ fun r hr => mem_projects (List.mem_of_mem_take hr), List.length_map,
    List.length_range]
  split_ifs with h
  · obtain ⟨k, hk⟩ := Nat.exists_eq_add_of_lt h
    have hrest : perPage - n = k + 1 := by omega
    have hmarked : (organization n).marked operations = true := rfl
    simp [hrest, hmarked]
  · rw [Nat.sub_eq_zero_of_le (not_lt.1 h)]
    rfl

/-- The API of this organization, with no file in any repository. -/
def organizationClient (n : ℕ) : GitHubClient :=
  listingClient (organization n) (.httpError 404 "Not Found")

theorem serves_organization (n : ℕ) : Serves (organization n) (organizationClient n) :=
  serves_listingClient (.inr ⟨rfl, fun _ _ => rfl⟩)

theorem firstFailedProbe_organization (n : ℕ) :
    (organization n).firstFailedProbe (organizationClient n) = none := by
  rw [Accessible.firstFailedProbe, List.findSome?_eq_none_iff]
  intro r hr
  rw [Accessible.failedProbe, organizationClient, probe_listingClient, probe_listingClient]
  cases r.hasTopic <;> rfl

theorem decided_organization_iff (n : ℕ) :
    Decided asciiPlatform (organization n) (organizationClient n) ↔ n < perPage := by
  have hlist : (organizationClient n).listFailure asciiPlatform = none :=
    listFailure_listingClient _ _ _
  rw [decided_iff_of_answered hlist (firstFailedProbe_organization n), countP_page_organization,
    markers_organization]
  split_ifs with h <;> simp [h]

/-- The repository is found among a hundred. -/
theorem honest_organization :
    Honest asciiPlatform (yamlReading []) (organization 99) (organizationClient 99)
      (providerOf (organizationClient 99)) :=
  (resolution_honest_iff (onGitHub_providerOf _) (serves_organization 99)).2
    ((decided_organization_iff 99).2 (by decide))

/-- One repository, which has a marker file. -/
def single : Accessible := ⟨[project 0], fun _ _ => true⟩

/-- The API that forbids to look for it. -/
def forbiddingClient : GitHubClient := listingClient single (.httpError 403 "Forbidden")

theorem firstFailedProbe_single :
    single.firstFailedProbe forbiddingClient = some (.httpError 403 "Forbidden") := by
  have hprobe : single.failedProbe forbiddingClient (project 0) =
      some (.httpError 403 "Forbidden") := by
    rw [Accessible.failedProbe, forbiddingClient, probe_listingClient]
    rfl
  have hpage : single.page = [project 0] := rfl
  rw [Accessible.firstFailedProbe, hpage, List.findSome?_cons, hprobe]

/-- **A repository that is not on the first page is not found, and a probe that is forbidden leaves
the resolver blocked.** -/
theorem not_honest_organization :
    ¬ Honest asciiPlatform (yamlReading []) (organization 100) (organizationClient 100)
        (providerOf (organizationClient 100)) ∧
      Serves single forbiddingClient ∧
        single.failure asciiPlatform forbiddingClient = some .permission ∧
        (∃ r, resolve asciiPlatform (yamlReading []) (providerOf forbiddingClient) = .ok r ∧
          r.status = .blocked) ∧
        ¬ Honest asciiPlatform (yamlReading []) single forbiddingClient
          (providerOf forbiddingClient) := by
  have hserves : Serves single forbiddingClient := serves_listingClient (.inl rfl)
  have hlist : forbiddingClient.listFailure asciiPlatform = none := listFailure_listingClient _ _ _
  have hkind : (Response.httpError 403 "Forbidden").kind asciiPlatform = .permission := by decide
  have hcandidates := hserves.candidates_eq hlist
  rw [firstFailedProbe_single] at hcandidates
  have herror : ((providerOf forbiddingClient).resolveOperationalRepository asciiPlatform).1 =
      .error (notFound "UNKNOWN_ERROR") := by
    rw [(onGitHub_providerOf _).fst_eq, discover_of_candidates_error hcandidates]
    rfl
  refine ⟨?_, hserves, ?_, (exists_status_iff herror _).2 (by decide), ?_⟩
  · rw [honest_iff_of_answered (onGitHub_providerOf _) (serves_organization 100)
      (listFailure_listingClient _ _ _) (firstFailedProbe_organization 100),
      decided_organization_iff]
    decide
  · rw [Accessible.failure, hlist, firstFailedProbe_single]
    exact congrArg some hkind
  · rw [honest_iff_of_failedProbe (onGitHub_providerOf _) hserves hlist firstFailedProbe_single,
      decided_iff_of_failedProbe hlist firstFailedProbe_single, hkind]
    intro h
    obtain ⟨_, _, hresponse, -⟩ := h.1 (by decide)
    cases hresponse

end CustomerZero

end AnnyRuntime
