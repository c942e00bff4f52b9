import AnnyRuntime.Execution.Handlers

/-!
# Forbidden directories

The handlers of deterministic capabilities refuse a path that is spelled as one in a forbidden
directory.  `refusal?_abspath` says which paths are: those whose names lead there where there are no
links, unless two separators come first.  Behind such a spelling (`not_refused_double`), or a link,
everything can be read.

`unread_iff` : exactly when nothing in a forbidden directory is read, and everyone who asks for it
is denied access.
-/

namespace AnnyRuntime

namespace Execution

open AbsPath (lexical text)

/-! ### Spelling -/

/-- Exactly two separators come first. -/
def Doubled (t : List Char) : Prop := ['/', '/'].isPrefixOf t ∧ ¬ ['/', '/', '/'].isPrefixOf t

instance (t : List Char) : Decidable (Doubled t) := inferInstanceAs (Decidable (_ ∧ _))

/-- Where a forbidden directory is, where there are no links. -/
def forbiddenPath (f : String) : AbsPath := lexical [] f.toList

theorem abspath_of_doubled {cwd : AbsPath} {t : List Char} (h : Doubled t) :
    abspath cwd t = '/' :: (lexical cwd t).text := if_pos h

theorem abspath_of_not_doubled {cwd : AbsPath} {t : List Char} (h : ¬ Doubled t) :
    abspath cwd t = (lexical cwd t).text := if_neg h

theorem forbiddenPath_ne_nil {f : String} (hf : f ∈ forbiddenPaths) : forbiddenPath f ≠ [] := by
  have hall : ∀ f ∈ forbiddenPaths, forbiddenPath f ≠ [] := by decide
  exact hall f hf

/-- The forbidden directories are spelled in full. -/
theorem abspath_forbidden (cwd : AbsPath) {f : String} (hf : f ∈ forbiddenPaths) :
    abspath cwd f.toList = (forbiddenPath f).text := by
  have hall : ∀ f ∈ forbiddenPaths, f.toList.head? = some '/' ∧ ¬ Doubled f.toList := by decide
  obtain ⟨habsolute, hdoubled⟩ := hall f hf
  rw [abspath_of_not_doubled hdoubled, AbsPath.lexical_absolute habsolute, forbiddenPath]

/-- No text of a path starts with two separators. -/
theorem not_double_isPrefix_text (p : AbsPath) : ¬ ['/', '/'] <+: p.text := by
  cases p with
  | nil => decide
  | cons n p =>
    rw [AbsPath.text_cons, List.cons_prefix_cons]
    rintro ⟨-, h⟩
    cases hn : n.text with
    | nil => exact n.ok.1 hn
    | cons x e =>
      rw [hn, List.cons_append, List.cons_prefix_cons] at h
      obtain rfl := h.1
      exact n.ok.2.1 (hn ▸ List.mem_cons_self)

theorem not_text_isPrefix_double {r p : AbsPath} (hr : r ≠ []) : ¬ r.text <+: '/' :: p.text := by
  intro h
  have hdouble : ['/', '/'] <+: '/' :: p.text := by
    obtain ⟨t, ht⟩ := p.exists_text_eq
    rw [ht]
    exact List.prefix_append ['/', '/'] t
  have hlength : ['/', '/'].length ≤ r.text.length := by
    cases r with
    | nil => exact absurd rfl hr
    | cons n r =>
      have hn := List.length_pos_of_ne_nil n.ok.1
      simp only [AbsPath.text_cons, List.length_cons, List.length_append, List.length_nil]
      omega
  exact not_double_isPrefix_text r (List.prefix_of_prefix_length_le hdouble h hlength)

/-- **Which paths are refused**: those that are spelled as a path in a forbidden directory, with one
separator or at least three of them at the start. -/
theorem refusal?_abspath {cwd : AbsPath} {t : List Char} :
    (refusal? cwd (abspath cwd t)).isSome = true ↔
      ¬ Doubled t ∧ ∃ f ∈ forbiddenPaths, forbiddenPath f <+: lexical cwd t := by
  have hmatch {f : String} (hf : f ∈ forbiddenPaths) :
      (abspath cwd t = abspath cwd f.toList ∨
          abspath cwd f.toList ++ ['/'] <+: abspath cwd t) ↔
        ¬ Doubled t ∧ forbiddenPath f <+: lexical cwd t := by
    rw [abspath_forbidden cwd hf]
    by_cases hdoubled : Doubled t
    · rw [abspath_of_doubled hdoubled]
      refine iff_of_false ?_ fun h => h.1 hdoubled
      rintro (h | h)
      · exact not_text_isPrefix_double (forbiddenPath_ne_nil hf) ⟨[], by rw [h, List.append_nil]⟩
      · exact not_text_isPrefix_double (forbiddenPath_ne_nil hf)
          ((List.prefix_append _ _).trans h)
    · rw [abspath_of_not_doubled hdoubled,
        AbsPath.text_eq_or_below_iff (forbiddenPath_ne_nil hf)]
      exact (and_iff_right hdoubled).symm
  rw [refusal?, List.find?_isSome]
  simp only [Bool.or_eq_true, decide_eq_true_eq, List.isPrefixOf_iff_prefix]
  constructor
  · rintro ⟨f, hf, h⟩
    obtain ⟨hdoubled, hbelow⟩ := (hmatch hf).1 h
    exact ⟨hdoubled, f, hf, hbelow⟩
  · rintro ⟨hdoubled, f, hf, hbelow⟩
    exact ⟨f, hf, (hmatch hf).2 ⟨hdoubled, hbelow⟩⟩

/-! ### What is in a forbidden directory -/

namespace Host

variable (h : Host)

/-- The lookup of a text. -/
def lookup (t : List Char) : FileNode.Walk := h.root.lookup h.cwd t

/-- Where the forbidden directories are. -/
def forbiddenPlaces : List AbsPath :=
  forbiddenPaths.filterMap fun f => (h.lookup f.toList).place

/-- A place is a forbidden directory, or in one. -/
def Forbidden (p : AbsPath) : Prop := ∃ f ∈ h.forbiddenPlaces, f <+: p

/-- A place is in a forbidden directory. -/
def Inside (p : AbsPath) : Prop := ∃ f ∈ h.forbiddenPlaces, f <+: p ∧ f ≠ p

/-- Who follows a text comes to a place in a forbidden directory. -/
def LeadsInside (t : List Char) : Prop := ∃ p ∈ (h.lookup t).seen, h.Inside p

/-- A text denotes a forbidden directory, or a place in one. -/
def Denotes (t : List Char) : Prop := ∃ p ∈ (h.lookup t).place, h.Forbidden p

/-- Something in a forbidden directory is read. -/
def Reads : Event → Prop
  | .metadata t | .content t => h.LeadsInside t
  | .names t => h.LeadsInside t ∨ h.Denotes t
  | .git repo fixed given => ∃ p ∈ h.gitReads repo (fixed ++ given), h.Inside p

end Host

open DeterministicExecutor in
/-- **Forbidden directories stay unread.**  The handler reads nothing in them, and an execution
whose path denotes one of them, or a place in one, ends with access denied. -/
structure Unread (h : Host) (m : Hashing) (task : Task) (a : Handling) (c : RunContext)
    (ws : Option Tree) : Prop where
  unread : c.status = .queued → task.capabilityId ∈ supportedCapabilities →
    ∀ e ∈ (h.handler task).events, ¬ h.Reads e
  denied : ∀ path, inputText? task "path" = some path →
    h.Denotes path.toList ∨ h.Denotes (abspath h.cwd path.toList) →
      (execute m task (h.handling task a) c ws).context.status = .failed ∧
        (execute m task (h.handling task a) c ws).context.failureReason =
          some .authorizationDenied

/-- An execution comes to the check of its path, and the workspace that is finalised afterwards is
not too large. -/
structure Decided (h : Host) (m : Hashing) (task : Task) (c : RunContext) (ws : Option Tree)
    (message : String) : Prop where
  queued : c.status = .queued
  supported : task.capabilityId ∈ supportedCapabilities
  inTime : h.late 0 = false
  fits : ∀ t, ws = some t →
    ¬ Oversized m.arith (c.toTaskExecutionContext.running.caught (.security message)) t

/-- **When forbidden directories stay unread**: a path that is not refused by its spelling leads the
capability to nothing in them; and a path that denotes one of them, or a place in one, is refused by
its spelling, in an execution that comes to that. -/
def UnreadHolds (h : Host) (m : Hashing) (task : Task) (c : RunContext) (ws : Option Tree) : Prop :=
  ∀ path, inputText? task "path" = some path →
    let t := abspath h.cwd path.toList
    (c.status = .queued → task.capabilityId ∈ supportedCapabilities → h.late 0 = false →
      refusal? h.cwd t = none → ∀ e ∈ h.looks task t, ¬ h.Reads e) ∧
    (h.Denotes path.toList ∨ h.Denotes t →
      ∃ f, refusal? h.cwd t = some f ∧ Decided h m task c ws (refusalMessage f))

/-! ### Who ends with access denied -/

section

variable {h : Host} {m : Hashing} {task : Task} {a : Handling} {c : RunContext} {ws : Option Tree}

/-- A handler that denies access, or not. -/
theorem handled_denied_iff {d : TaskExecutionContext} {x : Except Raised (Json × Option Raised)}
    (hx : ∀ found, x = .ok found → ¬ ∃ r, found.2 = some r ∧ Denies r) :
    (d.handled x).status = .failed ∧ (d.handled x).failureReason = some .authorizationDenied ↔
      ∃ message, x = .error (.security message) := by
  have hcaught (d : TaskExecutionContext) (r : Raised) :
      (d.caught r).status = .failed ∧ (d.caught r).failureReason = some .authorizationDenied ↔
        ∃ message, r = .security message := by
    cases r <;> simp [TaskExecutionContext.caught, TaskExecutionContext.fail]
  rcases x with r | ⟨result, raised⟩
  · simpa [TaskExecutionContext.handled] using hcaught d r
  · refine iff_of_false ?_ (by simp)
    rw [TaskExecutionContext.handled, TaskExecutionContext.limitOutput]
    split_ifs with hlarge
    · simp [hcaught]
    · cases raised with
      | none => simp
      | some r =>
        simp only [hcaught]
        exact fun hdenies => hx _ rfl ⟨r, rfl, hdenies⟩

open DeterministicExecutor in
/-- **Who ends with access denied**: an execution whose handler denies access, unless its workspace
is too large then. -/
theorem execute_denied_iff
    (hx : ∀ found, a.handler = .ok found → ¬ ∃ r, found.2 = some r ∧ Denies r) :
    (execute m task a c ws).context.status = .failed ∧
        (execute m task a c ws).context.failureReason = some .authorizationDenied ↔
      c.status = .queued ∧ task.capabilityId ∈ supportedCapabilities ∧
        ∃ message, a.handler = .error (.security message) ∧
          ∀ t, ws = some t → ¬ Oversized m.arith
            (c.toTaskExecutionContext.running.caught (.security message)) t := by
  by_cases hc : c.status = .queued
  · by_cases hs : task.capabilityId ∈ supportedCapabilities
    · have hhandled := handled_denied_iff (d := c.toTaskExecutionContext.running) hx
      have hcontext {message : String} (ha : a.handler = .error (.security message)) :
          (c.handledBy a).toTaskExecutionContext =
            c.toTaskExecutionContext.running.caught (.security message) := by
        rw [RunContext.handledBy, ha]
        rfl
      rw [execute_supported hc hs]
      simp only [hc, hs, true_and]
      cases ws with
      | none =>
        refine hhandled.trans (exists_congr fun message => ?_)
        simp
      | some t =>
        simp only [Option.some.injEq, forall_eq']
        rcases (finalize_some m task (c.handledBy a) t).2 with ⟨hover, h⟩ | ⟨hfits, h⟩
        · -- the status of a workspace that is too large is another one
          rw [h]
          refine iff_of_false (by simp [RunContext.overLimit, TaskExecutionContext.fail]) ?_
          rintro ⟨message, ha, hfits⟩
          exact hfits (hcontext ha ▸ hover)
        · rw [h]
          refine hhandled.trans (exists_congr fun message => ?_)
          exact ⟨fun ha => ⟨ha, hcontext ha ▸ hfits⟩, And.left⟩
    · rw [execute, if_neg (not_not.2 hc), if_pos hs]
      refine iff_of_false ?_ fun h => hs h.2.1
      simp [RunContext.refuse, TaskExecutionContext.fail]
  · rw [execute, if_pos hc]
    refine iff_of_false ?_ fun h => hc h.1
    simp [RunContext.refuse, TaskExecutionContext.fail]

open DeterministicExecutor in
/-- An execution on a host ends with access denied exactly for a path that is refused by its
spelling, if it comes to that. -/
theorem denied_iff {path : String} (hpath : inputText? task "path" = some path) :
    (execute m task (h.handling task a) c ws).context.status = .failed ∧
        (execute m task (h.handling task a) c ws).context.failureReason =
          some .authorizationDenied ↔
      ∃ f, refusal? h.cwd (abspath h.cwd path.toList) = some f ∧
        Decided h m task c ws (refusalMessage f) := by
  rw [execute_denied_iff fun found hfound hdenied =>
    Host.not_returns_denied ⟨found, hfound, hdenied⟩]
  constructor
  · rintro ⟨hc, hs, message, ha, hfits⟩
    obtain ⟨hlate, path', hpath', f, hf, rfl⟩ := (Host.outcome_handler_security hs).1 ha
    rw [hpath, Option.some.injEq] at hpath'
    subst hpath'
    exact ⟨f, hf, hc, hs, hlate, hfits⟩
  · rintro ⟨f, hf, hd⟩
    exact ⟨hd.queued, hd.supported, refusalMessage f,
      (Host.outcome_handler_security hd.supported).2 ⟨hd.inTime, path, hpath, f, hf, rfl⟩, hd.fits⟩

/-- **Forbidden directories stay unread** exactly under that condition. -/
theorem unread_iff (h : Host) (m : Hashing) (task : Task) (a : Handling) (c : RunContext)
    (ws : Option Tree) : Unread h m task a c ws ↔ UnreadHolds h m task c ws := by
  constructor
  · intro hunread path hpath
    dsimp only
    refine ⟨fun hc hs hlate hrefusal e he hreads => ?_, fun hdenotes => ?_⟩
    · obtain ⟨e', he', hreads'⟩ := (Host.emits_handler_iff hs).2
        ⟨hlate, path, hpath, hrefusal, e, he, hreads⟩
      exact hunread.unread hc hs e' he' hreads'
    · exact (denied_iff hpath).1 (hunread.denied path hpath hdenotes)
  · intro hholds
    refine ⟨fun hc hs e he hreads => ?_, fun path hpath hdenotes => ?_⟩
    · obtain ⟨hlate, path, hpath, hrefusal, e', he', hreads'⟩ :=
        (Host.emits_handler_iff hs).1 ⟨e, he, hreads⟩
      exact (hholds path hpath).1 hc hs hlate hrefusal e' he' hreads'
    · exact (denied_iff hpath).2 ((hholds path hpath).2 hdenotes)

/-- A path that leads to a forbidden place, and is not refused. -/
theorem not_unread_of_denotes {path : String} (hpath : inputText? task "path" = some path)
    (hrefusal : refusal? h.cwd (abspath h.cwd path.toList) = none)
    (hdenotes : h.Denotes path.toList) : ¬ Unread h m task a c ws := by
  intro hunread
  obtain ⟨f, hf, -⟩ := (denied_iff hpath).1 (hunread.denied path hpath (.inl hdenotes))
  rw [hrefusal] at hf
  exact nomatch hf

/-- **A second separator** at the start: no such path is refused, and it leads where the path
without it leads. -/
theorem not_refused_double {p : AbsPath} :
    refusal? h.cwd (abspath h.cwd ('/' :: p.text)) = none ∧
      h.lookup ('/' :: p.text) = h.lookup p.text := by
  obtain ⟨t, ht⟩ := p.exists_text_eq
  have hhead : p.text.head? = some '/' := by rw [ht, List.head?_cons]
  have hdoubled : Doubled ('/' :: p.text) := by
    refine ⟨by simp [ht], fun hthree => not_double_isPrefix_text p ?_⟩
    exact (List.cons_prefix_cons.1 (List.isPrefixOf_iff_prefix.1 hthree)).2
  refine ⟨?_, FileNode.lookup_double hhead⟩
  rw [← Option.not_isSome_iff_eq_none, refusal?_abspath]
  exact fun hrefused => hrefused.1 hdoubled

/-- **Plain paths.**  Without links on the way to it and to the forbidden directories, a path with
one separator at the start that is not refused leads to nothing in them. -/
theorem not_leadsInside_of_linkFree {t : List Char} (hdoubled : ¬ Doubled t)
    (hpath : h.root.LinkFree (lexical h.cwd t))
    (hforbidden : ∀ f ∈ forbiddenPaths, h.root.LinkFree (forbiddenPath f))
    (hrefusal : refusal? h.cwd (abspath h.cwd t) = none) :
    ¬ h.LeadsInside (abspath h.cwd t) ∧ ¬ h.Denotes (abspath h.cwd t) := by
  have houtside : ∀ f ∈ forbiddenPaths, ¬ forbiddenPath f <+: lexical h.cwd t := by
    intro f hf hbelow
    have hsome := refusal?_abspath.2 ⟨hdoubled, f, hf, hbelow⟩
    rw [hrefusal] at hsome
    exact nomatch hsome
  have hplaces : ∀ p ∈ h.forbiddenPlaces, ∃ f ∈ forbiddenPaths, p = forbiddenPath f := by
    intro p hp
    have htext : ∀ f ∈ forbiddenPaths, f.toList = (forbiddenPath f).text := by decide
    obtain ⟨f, hf, hplace⟩ := List.mem_filterMap.1 hp
    rw [Host.lookup, htext f hf] at hplace
    exact ⟨f, hf, (FileNode.lookup_of_linkFree _ (hforbidden f hf)).2 p hplace⟩
  obtain ⟨hseen, hplace⟩ := FileNode.lookup_of_linkFree h.cwd hpath
  unfold Host.LeadsInside Host.Denotes Host.lookup
  rw [abspath_of_not_doubled hdoubled]
  constructor
  · rintro ⟨q, hq, p, hp, hbelow, -⟩
    obtain ⟨f, hf, rfl⟩ := hplaces p hp
    exact houtside f hf (hbelow.trans (hseen q hq))
  · rintro ⟨q, hq, p, hp, hbelow⟩
    obtain ⟨f, hf, rfl⟩ := hplaces p hp
    exact houtside f hf (hplace q hq ▸ hbelow)

end

/-! ### A second separator, and a link -/

/-- Something is known of everything. -/
def sampleStat : Stat := ⟨0o40755, 4096, .inf⟩

/-- A directory with one entry. -/
def sampleDir (name : String) (n : FileNode Stat) : List (PathName × FileNode Stat) :=
  (lexical [] name.toList).map fun c => (c, n)

/-- A host with a key in `/root`, and a link to that directory. -/
def sampleHost : Host where
  root := .dir sampleStat
    (sampleDir "root" (.dir sampleStat (sampleDir "key" (.file sampleStat [107]))) ++
      sampleDir "tmp" (.dir sampleStat (sampleDir "link" (.link "/root".toList))))
  cwd := []
  late _ := false
  git _ _ := .error "git"
  gitReads _ _ := []
  sha256 b := String.ofList (b.map fun x => Char.ofNat x.toNat)

/-- The task of inspecting a path. -/
def inspectTask (path : String) : Task :=
  { sampleTask "filesystem.inspect" with input := [("path", .str path)] }

/-- Both the second separator and the link lead to the key. -/
theorem place_key : (sampleHost.lookup "//root/key".toList).place =
      some (lexical [] "/root/key".toList) ∧
    (sampleHost.lookup "/tmp/link/key".toList).place = some (lexical [] "/root/key".toList) := by
  have htext : "/tmp/link/key".toList = text (lexical [] "/tmp/link/key".toList) := by decide
  have hnames : (lexical [] "/tmp/link/key".toList).map PathName.text =
      ["tmp".toList, "link".toList, "key".toList] := by decide
  refine ⟨by decide, ?_⟩
  rw [Host.lookup, htext, FileNode.lookup_text (by decide), hnames]
  decide

/-- The input of that task. -/
theorem inputText?_inspectTask {path : String} (h : path ≠ "") :
    inputText? (inspectTask path) "path" = some path := by
  simp [inputText?, inspectTask, Json.lookup, h]

/-- Who leads to the key is forbidden. -/
theorem denotes_key {path : String}
    (h : (sampleHost.lookup path.toList).place = some (lexical [] "/root/key".toList)) :
    sampleHost.Denotes path.toList :=
  ⟨_, h, lexical [] "/root".toList, by decide, List.isPrefixOf_iff_prefix.1 (by decide)⟩

/-- **Two spellings of a forbidden path** that are not refused. -/
theorem not_unread_spellings :
    ¬ Unread sampleHost sampleHashing (inspectTask "//root/key") emptyListing
        { toTaskExecutionContext := sampleContext "filesystem.inspect" } none ∧
      ¬ Unread sampleHost sampleHashing (inspectTask "/tmp/link/key") emptyListing
        { toTaskExecutionContext := sampleContext "filesystem.inspect" } none :=
  ⟨not_unread_of_denotes (inputText?_inspectTask (by decide)) (by decide)
      (denotes_key place_key.1),
    not_unread_of_denotes (inputText?_inspectTask (by decide)) (by decide)
      (denotes_key place_key.2)⟩

end Execution

end AnnyRuntime
