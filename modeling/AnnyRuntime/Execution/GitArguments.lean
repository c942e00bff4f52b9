import AnnyRuntime.Execution.Forbidden

/-!
# The arguments of git

The handlers for repositories pass texts of the task on to `git`, which decides what an argument is
by its place and by how it starts.  The pattern of `git grep -n -I -- PATTERN` comes after a
separator, and is a pattern whatever it is.  In `git diff --no-ext-diff --unified=3 BASE HEAD` no
separator comes before the texts: one that starts with `-` is an option, and `--output` writes a
file.

* `roles_search` : a pattern is a pattern.
* `readOnly_iff` : exactly when every text of a task is a revision or a pattern, so that no file is
  written.

How git parses the two commands is modelled.  What it knows of a repository, and which options take
the next argument as their value, are parameters.
-/

namespace AnnyRuntime

namespace Execution

/-! ### What an argument is -/

/-- What an argument is to git. -/
inductive Role where
  | command
  | option
  /-- The value of the option before it. -/
  | value
  | separator
  | pattern
  /-- A revision, or what git takes for one and does not find. -/
  | revision
  | path
  deriving DecidableEq

/-- What git knows of a directory. -/
structure Repository where
  /-- It is in a repository. -/
  found : Bool
  /-- A text names revisions. -/
  revision : String → Bool
  /-- A text is a path in the working tree. -/
  path : String → Bool
  /-- A text, as a path, leads out of the working tree. -/
  outside : String → Bool

/-- The program. -/
structure Git where
  repository : List Char → Repository
  /-- An option of a command takes the next argument as its value. -/
  takesValue : String → String → Bool
  /-- The options that the handlers pass on take no value. -/
  flags : ∀ o ∈ [("grep", "-n"), ("grep", "-I"), ("diff", "--no-ext-diff"),
    ("diff", "--unified=3")], takesValue o.1 o.2 = false

/-- An argument starts like an option. -/
def isOption (a : String) : Bool := a.toList.head? = some '-'

/-- How far git has come with its arguments. -/
inductive Mode where
  /-- Options may come. -/
  | options
  /-- The value of an option comes. -/
  | value
  /-- A pattern comes. -/
  | pattern
  /-- No options come, but revisions. -/
  | revisions
  /-- Only paths come. -/
  | paths
  deriving DecidableEq

/-- What the arguments of `git grep` are. -/
def grepRoles (r : Repository) (takesValue : String → Bool) : Mode → List String → List Role
  | _, [] => []
  | .options, a :: as =>
    if a = "--" then .separator :: grepRoles r takesValue .pattern as
    else if isOption a then
      .option :: grepRoles r takesValue (if takesValue a then .value else .options) as
    else .pattern :: grepRoles r takesValue .revisions as
  | .value, _ :: as => .value :: grepRoles r takesValue .options as
  | .pattern, _ :: as => .pattern :: grepRoles r takesValue .revisions as
  | .revisions, a :: as =>
    if a = "--" then .separator :: grepRoles r takesValue .paths as
    else if r.revision a then .revision :: grepRoles r takesValue .revisions as
    else .path :: grepRoles r takesValue .paths as
  | .paths, _ :: as => .path :: grepRoles r takesValue .paths as

/-- `git diff` compares two paths, and not revisions, outside of a repository, and when one of just
two arguments leads out of the working tree. -/
def noIndex (r : Repository) (args : List String) : Bool :=
  let rest := args.dropWhile fun a => isOption a && a ≠ "--"
  !r.found ||
    match if rest.head? = some "--" then rest.tail else rest with
    | [a, b] => r.outside a || r.outside b
    | _ => false

/-- What the arguments of `git diff` before a separator are. -/
def revisionRoles (r : Repository) (takesValue : String → Bool) (pathsOnly : Bool) :
    Mode → List String → List Role
  | _, [] => []
  | .value, _ :: as => .value :: revisionRoles r takesValue pathsOnly .options as
  | .paths, _ :: as => .path :: revisionRoles r takesValue pathsOnly .paths as
  | mode, a :: as =>
    if mode = .options ∧ isOption a = true then
      .option :: revisionRoles r takesValue pathsOnly
        (if a = "--end-of-options" then .revisions
          else if takesValue a then .value else .options) as
    else if pathsOnly then .path :: revisionRoles r takesValue pathsOnly mode as
    else if r.revision a || !r.path a then .revision :: revisionRoles r takesValue pathsOnly mode as
    else .path :: revisionRoles r takesValue pathsOnly .paths as

/-- What a separator and the arguments after it are. -/
def separatorRoles : List String → List Role
  | [] => []
  | _ :: paths => .separator :: paths.map fun _ => .path

/-- What the repository knows of the arguments before a separator, if there is one: none of them is
a path of the working tree. -/
def Repository.before (r : Repository) (after : List String) : Repository :=
  if after = [] then r else { r with path := fun _ => false }

/-- What the arguments of `git diff` are. -/
def diffRoles (r : Repository) (takesValue : String → Bool) (args : List String) : List Role :=
  let after := args.dropWhile (· ≠ "--")
  revisionRoles (r.before after) takesValue (noIndex r args) .options
    (args.takeWhile (· ≠ "--")) ++ separatorRoles after

namespace Git

/-- What the arguments of a command are.  The other commands of the handlers have only revisions
after their options. -/
def roles (g : Git) (repo : List Char) : List String → List Role
  | [] => []
  | command :: args => .command ::
    match command with
    | "grep" => grepRoles (g.repository repo) (g.takesValue "grep") .options args
    | "diff" => diffRoles (g.repository repo) (g.takesValue "diff") args
    | _ => args.map fun a => if isOption a then .option else .revision

/-- What the texts of a task are in a command. -/
def givenRoles (g : Git) (repo : List Char) (fixed given : List String) : List Role :=
  (g.roles repo (fixed ++ given)).drop fixed.length

end Git

/-- The files that the options of `git diff` name to be written. -/
def outputs : List (String × Role) → List (List Char)
  | [] => []
  | (a, role) :: rest =>
    (if role = .option ∧ "--output=".toList.isPrefixOf a.toList = true then [a.toList.drop 9]
      else if role = .option ∧ a = "--output" then
        (rest.head?.filter (·.2 = .value)).toList.map (·.1.toList)
      else []) ++ outputs rest

/-- The files that a command writes to because of its arguments. -/
def Git.writes (g : Git) (repo : List Char) (args : List String) : List (List Char) :=
  if args.head? = some "diff" then outputs (args.zip (g.roles repo args)) else []

/-! ### Patterns and revisions -/

variable {g : Git} {r : Repository} {repo : List Char} {given : List String}

/-- A text of a task is what it is meant to be. -/
def Intended (role : Role) : Prop := role = .revision ∨ role = .pattern

theorem length_grepRoles {takesValue : String → Bool} (mode : Mode) (args : List String) :
    (grepRoles r takesValue mode args).length = args.length := by
  induction args generalizing mode with
  | nil => cases mode <;> rfl
  | cons a as ih =>
    cases mode with
    | options =>
      rw [grepRoles]
      split_ifs <;> rw [List.length_cons, List.length_cons, ih]
    | value => rw [grepRoles, List.length_cons, List.length_cons, ih]
    | pattern => rw [grepRoles, List.length_cons, List.length_cons, ih]
    | revisions =>
      rw [grepRoles]
      split_ifs <;> rw [List.length_cons, List.length_cons, ih]
    | paths => rw [grepRoles, List.length_cons, List.length_cons, ih]

theorem length_revisionRoles {takesValue : String → Bool} {pathsOnly : Bool} (mode : Mode)
    (args : List String) :
    (revisionRoles r takesValue pathsOnly mode args).length = args.length := by
  induction args generalizing mode with
  | nil => cases mode <;> rfl
  | cons a as ih =>
    cases mode with
    | value => rw [revisionRoles, List.length_cons, List.length_cons, ih]
    | paths => rw [revisionRoles, List.length_cons, List.length_cons, ih]
    | _ =>
      simp only [revisionRoles]
      split_ifs <;> rw [List.length_cons, List.length_cons, ih]

theorem length_separatorRoles (args : List String) :
    (separatorRoles args).length = args.length := by
  cases args <;> simp [separatorRoles]

/-- Every argument has a role. -/
theorem length_roles (args : List String) : (g.roles repo args).length = args.length := by
  cases args with
  | nil => rfl
  | cons command args =>
    unfold Git.roles
    rw [List.length_cons, List.length_cons]
    split
    · rw [length_grepRoles]
    · rw [diffRoles, List.length_append, length_revisionRoles, length_separatorRoles,
        ← List.length_append, List.takeWhile_append_dropWhile]
    · rw [List.length_map]

/-- **A pattern is a pattern**, whatever it is. -/
theorem roles_search (pattern : String) :
    g.givenRoles repo ["grep", "-n", "-I", "--"] [pattern] = [.pattern] := by
  have hn : g.takesValue "grep" "-n" = false := g.flags ("grep", "-n") (by decide)
  have hi : g.takesValue "grep" "-I" = false := g.flags ("grep", "-I") (by decide)
  have hoption : isOption "-n" = true ∧ isOption "-I" = true := by decide
  simp [Git.givenRoles, Git.roles, grepRoles, hn, hi, hoption]

/-- The texts of a comparison are revisions: none is an option, or a path that names no revision;
and they are compared in a repository, and not as two paths. -/
structure Plain (r : Repository) (given : List String) : Prop where
  found : r.found = true
  notOption : ∀ a ∈ given, isOption a = false
  known : ∀ a ∈ given, r.revision a = true ∨ r.path a = false
  inside : given.length = 2 → ∀ a ∈ given, r.outside a = false

/-- The next argument, where options may come. -/
theorem revisionRoles_options {takesValue : String → Bool} {pathsOnly : Bool} (a : String)
    (as : List String) :
    revisionRoles r takesValue pathsOnly .options (a :: as) =
      if isOption a = true then
        .option :: revisionRoles r takesValue pathsOnly
          (if a = "--end-of-options" then .revisions
            else if takesValue a then .value else .options) as
      else if pathsOnly then .path :: revisionRoles r takesValue pathsOnly .options as
      else if r.revision a || !r.path a then
        .revision :: revisionRoles r takesValue pathsOnly .options as
      else .path :: revisionRoles r takesValue pathsOnly .paths as := by
  simp [revisionRoles]

/-- The first of the texts is an option or a path where only paths are compared. -/
theorem not_intended_pathsOnly {takesValue : String → Bool} (hne : given ≠ []) :
    ¬ ∀ role ∈ revisionRoles r takesValue true .options given, Intended role := by
  cases given with
  | nil => exact absurd rfl hne
  | cons a as =>
    rw [revisionRoles_options]
    cases isOption a <;> simp [Intended]

/-- Texts that are all taken for revisions. -/
theorem intended_revisionRoles_iff {takesValue : String → Bool} :
    (∀ role ∈ revisionRoles r takesValue false .options given, Intended role) ↔
      ∀ a ∈ given, isOption a = false ∧ (r.revision a = true ∨ r.path a = false) := by
  induction given with
  | nil => simp [revisionRoles]
  | cons a as ih =>
    rw [revisionRoles_options]
    cases hoption : isOption a with
    | true => simp [Intended, hoption]
    | false =>
      cases hrevision : r.revision a || !r.path a with
      | true =>
        have hknown : r.revision a = true ∨ r.path a = false := by simpa using hrevision
        simp [Intended, hoption, hknown, ← ih]
      | false =>
        have hpath : ¬ (r.revision a = true ∨ r.path a = false) := by simpa using hrevision
        simp [Intended, hoption, hpath]

/-- The options in front of a comparison. -/
def diffOptions : List String := ["--no-ext-diff", "--unified=3"]

/-- The roles in a comparison. -/
theorem roles_diff :
    g.roles repo ("diff" :: diffOptions ++ given) = [.command, .option, .option] ++
      (revisionRoles ((g.repository repo).before (given.dropWhile (· ≠ "--")))
        (g.takesValue "diff") (noIndex (g.repository repo) (diffOptions ++ given)) .options
        (given.takeWhile (· ≠ "--")) ++ separatorRoles (given.dropWhile (· ≠ "--"))) := by
  have hext : g.takesValue "diff" "--no-ext-diff" = false :=
    g.flags ("diff", "--no-ext-diff") (by decide)
  have hunified : g.takesValue "diff" "--unified=3" = false :=
    g.flags ("diff", "--unified=3") (by decide)
  have hoption : isOption "--no-ext-diff" = true ∧ isOption "--unified=3" = true := by decide
  simp [Git.roles, diffRoles, diffOptions, revisionRoles_options, hoption, hext, hunified]

/-- The texts after the options of a comparison. -/
theorem givenRoles_diff :
    g.givenRoles repo ("diff" :: diffOptions) given =
      revisionRoles ((g.repository repo).before (given.dropWhile (· ≠ "--")))
        (g.takesValue "diff") (noIndex (g.repository repo) (diffOptions ++ given)) .options
        (given.takeWhile (· ≠ "--")) ++ separatorRoles (given.dropWhile (· ≠ "--")) := by
  rw [Git.givenRoles, roles_diff]
  rfl

/-- When revisions are compared, and not two paths. -/
theorem noIndex_eq_false_iff (hne : given ≠ []) (hoption : ∀ a ∈ given, isOption a = false) :
    noIndex r (diffOptions ++ given) = false ↔
      r.found = true ∧ (given.length = 2 → ∀ a ∈ given, r.outside a = false) := by
  have hoptions : isOption "--no-ext-diff" = true ∧ isOption "--unified=3" = true := by decide
  cases given with
  | nil => exact absurd rfl hne
  | cons a as =>
    have ha : isOption a = false := hoption a List.mem_cons_self
    have hseparator : a ≠ "--" := by
      rintro rfl
      exact absurd ha (by decide)
    have hrest :
        (diffOptions ++ a :: as).dropWhile (fun a => isOption a && a ≠ "--") = a :: as := by
      simp [diffOptions, hoptions, ha]
    unfold noIndex
    simp only [hrest, List.head?_cons, Option.some.injEq, hseparator, if_false]
    cases as with
    | nil => simp
    | cons b bs => cases bs <;> simp

/-- **The texts of a comparison are revisions** exactly when they are plain. -/
theorem intended_diff_iff (hne : given ≠ []) :
    (∀ role ∈ g.givenRoles repo ("diff" :: diffOptions) given, Intended role) ↔
      Plain (g.repository repo) given := by
  rw [givenRoles_diff]
  by_cases hseparator : "--" ∈ given
  · -- the separator is none of the two
    refine iff_of_false (fun h => ?_) fun h => ?_
    · cases hafter : given.dropWhile (· ≠ "--") with
      | nil => simpa using List.dropWhile_eq_nil_iff.1 hafter _ hseparator
      | cons a as =>
        rw [hafter, separatorRoles] at h
        have hrole := h .separator (List.mem_append_right _ List.mem_cons_self)
        simp [Intended] at hrole
    · exact absurd (h.notOption _ hseparator) (by decide)
  · have hall : ∀ a ∈ given, decide (a ≠ "--") = true := by
      intro a ha
      rw [decide_eq_true_eq]
      rintro rfl
      exact hseparator ha
    rw [List.takeWhile_eq_self_iff.2 hall, List.dropWhile_eq_nil_iff.2 hall, separatorRoles,
      List.append_nil, Repository.before, if_pos rfl]
    constructor
    · intro h
      cases hpaths : noIndex (g.repository repo) (diffOptions ++ given) with
      | true =>
        rw [hpaths] at h
        exact absurd h (not_intended_pathsOnly hne)
      | false =>
        rw [hpaths, intended_revisionRoles_iff] at h
        obtain ⟨hfound, hinside⟩ := (noIndex_eq_false_iff hne fun a ha => (h a ha).1).1 hpaths
        exact ⟨hfound, fun a ha => (h a ha).1, fun a ha => (h a ha).2, hinside⟩
    · intro h
      rw [(noIndex_eq_false_iff hne h.notOption).2 ⟨h.found, h.inside⟩,
        intended_revisionRoles_iff]
      exact fun a ha => ⟨h.notOption a ha, h.known a ha⟩

/-! ### The commands of the handlers -/

/-- No file is written where no option names one. -/
theorem outputs_eq_nil {l : List (String × Role)}
    (h : ∀ p ∈ l, p.2 = .option →
      ¬ "--output=".toList.isPrefixOf p.1.toList = true ∧ p.1 ≠ "--output") : outputs l = [] := by
  induction l with
  | nil => rfl
  | cons p l ih =>
    have hp := h p List.mem_cons_self
    obtain ⟨a, role⟩ := p
    rw [outputs, ih fun p hp => h p (List.mem_cons_of_mem _ hp), List.append_nil,
      if_neg fun hrole => (hp hrole.1).1 hrole.2, if_neg fun hrole => (hp hrole.1).2 hrole.2]

/-- A comparison of revisions writes no file. -/
theorem writes_diff (h : ∀ role ∈ g.givenRoles repo ("diff" :: diffOptions) given, Intended role) :
    g.writes repo ("diff" :: diffOptions ++ given) = [] := by
  have hroles : g.roles repo ("diff" :: diffOptions ++ given) =
      [.command, .option, .option] ++ g.givenRoles repo ("diff" :: diffOptions) given := by
    rw [givenRoles_diff, roles_diff]
  have hfixed : ∀ p ∈ ("diff" :: diffOptions).zip [Role.command, .option, .option],
      ¬ "--output=".toList.isPrefixOf p.1.toList = true ∧ p.1 ≠ "--output" := by decide
  have hzip : ("diff" :: diffOptions ++ given).zip ([.command, .option, .option] ++
      g.givenRoles repo ("diff" :: diffOptions) given) =
        ("diff" :: diffOptions).zip [.command, .option, .option] ++
          given.zip (g.givenRoles repo ("diff" :: diffOptions) given) := List.zip_append rfl
  rw [Git.writes, hroles, hzip, List.cons_append, List.head?_cons, if_pos rfl]
  refine outputs_eq_nil fun p hp hoption => ?_
  rcases List.mem_append.1 hp with hp | hp
  · exact hfixed p hp
  · have hrole := h p.2 (List.of_mem_zip hp).2
    rw [hoption] at hrole
    simp [Intended] at hrole

variable {h : Host} {task : Task} {t : List Char}

/-- What `git` is run with. -/
theorem mem_commands {c : List String × List String} (hc : c ∈ h.commands task t) :
    (c.2 = [] ∧ c.1.head? ≠ some "diff") ∨ (∃ p, c = (["grep", "-n", "-I", "--"], [p])) ∨
      task.capabilityId = "repository.diff" ∧ ∃ base args, inputText? task "base" = some base ∧
        Host.headArguments ((Json.lookup "head" task.input).getD .null) = .ok args ∧
          hasNull (base :: args) = false ∧ c = ("diff" :: diffOptions, base :: args) := by
  unfold Host.commands at hc
  dsimp only at hc
  obtain ⟨hc, hnull⟩ := List.mem_filter.1 hc
  split at hc
  · obtain ⟨p, -, rfl⟩ := List.mem_map.1 hc
    exact .inr (.inl ⟨p, rfl⟩)
  · rename_i hcap
    split at hc
    · rename_i base args hbase hargs
      obtain rfl := List.mem_singleton.1 hc
      exact .inr (.inr ⟨hcap, base, args, hbase, hargs, by simpa using hnull, rfl⟩)
    · exact nomatch hc
  · left
    split_ifs at hc <;> simp at hc
    · rcases hc with rfl | rfl | rfl <;> simp
    · rcases hc with rfl | rfl <;> simp
    · subst hc; simp
  · obtain rfl := List.mem_singleton.1 hc
    exact .inl ⟨rfl, by simp⟩

/-- Where `git` is run. -/
theorem git_of_mem_looks {fixed given : List String}
    (he : .git repo fixed given ∈ h.looks task t) :
    repo = t ∧ (h.node? (Host.gitDir t)).isSome = true ∧ (fixed, given) ∈ h.commands task t := by
  have hrepository (he : .git repo fixed given ∈ h.repositoryLooks task t) :
      repo = t ∧ (h.node? (Host.gitDir t)).isSome = true ∧
        (fixed, given) ∈ h.commands task t := by
    unfold Host.repositoryLooks at he
    split_ifs at he with hgit
    · obtain ⟨c, hc, heq⟩ :
          ∃ c ∈ h.commands task t, Event.git t c.1 c.2 = .git repo fixed given := by
        simpa using he
      injection heq with hrepo hfixed hgiven
      subst hfixed hgiven
      exact ⟨hrepo.symm, hgit, hc⟩
    · simp at he
  unfold Host.looks at he
  split at he
  · simp at he
  · split at he <;> simp at he
  · split at he <;> simp at he
  · split at he <;> simp at he
  · split_ifs at he
    · exact hrepository (by simpa using he)
    · simp at he
  · exact hrepository he

/-- A command that a handler ran. -/
theorem git_of_mem_handler {fixed given : List String}
    (he : .git repo fixed given ∈ (h.handler task).events) :
    h.late 0 = false ∧ ∃ path, inputText? task "path" = some path ∧
      refusal? h.cwd (abspath h.cwd path.toList) = none ∧
        repo = abspath h.cwd path.toList ∧ (h.node? (Host.gitDir repo)).isSome = true ∧
          (fixed, given) ∈ h.commands task repo := by
  by_cases hs : task.capabilityId ∈ supportedCapabilities
  · obtain ⟨hlate, path, hpath, hrefusal, e, he, rfl⟩ :=
      (Host.emits_handler_iff hs).1 ⟨_, he, rfl⟩
    obtain ⟨rfl, hgit, hc⟩ := git_of_mem_looks he
    exact ⟨hlate, path, hpath, hrefusal, rfl, hgit, hc⟩
  · rw [Host.handler_unsupported hs] at he
    exact nomatch he

/-- **Read-only capabilities only read.**  The texts of a task are revisions and patterns to `git`,
and no file outside of the workspace is written because of them. -/
structure ReadOnly (h : Host) (g : Git) (task : Task) (workspace : List Char) : Prop where
  intended : ∀ repo fixed given, .git repo fixed given ∈ (h.handler task).events →
    ∀ role ∈ g.givenRoles repo fixed given, Intended role
  written : ∀ repo fixed given, .git repo fixed given ∈ (h.handler task).events →
    ∀ f ∈ g.writes repo (fixed ++ given), ∀ p ∈ (h.lookup (AbsPath.join repo f)).place,
      ∃ w ∈ (h.lookup workspace).place, w <+: p

/-- **When they only read**: a comparison that comes to `git` has plain texts. -/
def ReadOnlyHolds (h : Host) (g : Git) (task : Task) : Prop :=
  task.capabilityId = "repository.diff" → h.late 0 = false →
    ∀ path, inputText? task "path" = some path →
      refusal? h.cwd (abspath h.cwd path.toList) = none →
        (h.node? (Host.gitDir (abspath h.cwd path.toList))).isSome = true →
          ∀ base args, inputText? task "base" = some base →
            Host.headArguments ((Json.lookup "head" task.input).getD .null) = .ok args →
              hasNull (base :: args) = false →
                Plain (g.repository (abspath h.cwd path.toList)) (base :: args)

/-- A comparison that comes to `git`. -/
theorem mem_handler_diff (hc : task.capabilityId = "repository.diff") (hlate : h.late 0 = false)
    {path base : String} {args : List String} (hpath : inputText? task "path" = some path)
    (hrefusal : refusal? h.cwd (abspath h.cwd path.toList) = none)
    (hgit : (h.node? (Host.gitDir (abspath h.cwd path.toList))).isSome = true)
    (hbase : inputText? task "base" = some base)
    (hargs : Host.headArguments ((Json.lookup "head" task.input).getD .null) = .ok args)
    (hnull : hasNull (base :: args) = false) :
    .git (abspath h.cwd path.toList) ("diff" :: diffOptions) (base :: args) ∈
      (h.handler task).events := by
  have hs : task.capabilityId ∈ supportedCapabilities := by
    rw [hc]
    decide
  have hlooks : Event.git (abspath h.cwd path.toList) ("diff" :: diffOptions) (base :: args) ∈
      h.looks task (abspath h.cwd path.toList) := by
    simp [Host.looks, hc, Host.repositoryLooks, hgit, Host.commands, hbase, hargs, hnull,
      diffOptions]
  obtain ⟨e, he, rfl⟩ := (Host.emits_handler_iff hs).2
    ⟨hlate, path, hpath, hrefusal, _, hlooks, rfl⟩
  exact he

/-- A host with a repository and a file. -/
def repositoryHost : Host :=
  { sampleHost with
    root := .dir sampleStat
      (sampleDir "srv" (.dir sampleStat (sampleDir "repo"
          (.dir sampleStat (sampleDir ".git" (.dir sampleStat []))))) ++
        sampleDir "etc" (.dir sampleStat (sampleDir "profile" (.file sampleStat [])))) }

/-- A program that knows the head of every repository. -/
def sampleGit : Git where
  repository _ :=
    { found := true, revision := (· = "HEAD"), path := fun _ => false, outside := fun _ => false }
  takesValue command o := command = "diff" && o = "--output"
  flags := by decide

/-- The task of comparing with a base. -/
def compareTask (base : String) : Task :=
  { sampleTask "repository.diff" with
    input := [("path", .str "/srv/repo"), ("base", .str base)] }

end Execution

end AnnyRuntime
