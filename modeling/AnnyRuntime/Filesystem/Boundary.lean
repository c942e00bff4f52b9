import AnnyRuntime.Lib.Path
import AnnyRuntime.Mcp.Tools

/-!
# The boundary of a workspace

Three checks decide whether a path stays inside of a workspace or of a scope: that of the file
system service, that of the tool `filesystem.inspect`, and that of the sandbox policy.  All resolve
the path and the allowed roots, and compare the texts: the text of the path has to start with the
text of a root, and a separator after it is not asked for.  So `/ws-evil` is accepted for `/ws`.

`contained_iff` : a path that is accepted is in an allowed root, unless it is in a sibling of one
whose name continues the name of that root.

Resolving a path, with all links followed, is a parameter; it may raise.
-/

namespace AnnyRuntime

namespace Filesystem

open AbsPath

/-- Where a text leads to, or that resolving it raises. -/
abbrev Resolve := List Char → Option AbsPath

/-- `str(target).startswith(str(root))`. -/
def startsWith (target root : AbsPath) : Bool := root.text.isPrefixOf target.text

/-! ### The checks -/

/-- `FilesystemService._resolve_safe_path`, in a workspace at a local path. -/
def resolveSafePath (resolve : Resolve) (localPath path : List Char) : Option AbsPath :=
  (resolve localPath).bind fun base =>
    (resolve (join base.text path)).bind fun requested =>
      if startsWith requested base then some requested else none

/-- The check of `filesystem_inspect`: the path is inside of the workspace, or it raises. -/
def filesystemInspect (resolve : Resolve) (workspace path : List Char) : Option Bool :=
  if path = [] then none
  else
    (resolve path).bind fun resolved =>
      if workspace = [] then some true
      else (resolve workspace).map fun root => startsWith resolved root

/-- The loop of `allows_path`. -/
def allowsLoop (resolve : Resolve) (target : AbsPath) : List (List Char) → Option Bool
  | [] => some false
  | allowed :: scope =>
    (resolve allowed).bind fun root =>
      if startsWith target root then some true else allowsLoop resolve target scope

/-- `SandboxPolicy.allows_path`. -/
def allowsPath (resolve : Resolve) (filesystemScope : List (List Char)) (path : List Char) :
    Option Bool :=
  (resolve path).bind fun target => allowsLoop resolve target filesystemScope

/-- A boundary that one of the checks guards. -/
inductive Boundary where
  /-- The workspace of the file system service. -/
  | service (localPath : List Char)
  /-- The workspace of the gateway's tool, which is not empty. -/
  | gateway (workspace : List Char) (nonempty : workspace ≠ [])
  /-- The scope of a sandbox. -/
  | sandbox (filesystemScope : List (List Char))

namespace Boundary

variable (resolve : Resolve)

/-- The check accepts a path. -/
def accepts (path : List Char) : Boundary → Bool
  | service localPath => (resolveSafePath resolve localPath path).isSome
  | gateway workspace _ => filesystemInspect resolve workspace path = some true
  | sandbox scope => allowsPath resolve scope path = some true

/-- The roots that are allowed. -/
def roots : Boundary → List (List Char)
  | service localPath => [localPath]
  | gateway workspace _ => [workspace]
  | sandbox scope => scope

/-- What a path resolves to. -/
def target (path : List Char) : Boundary → Option AbsPath
  | service localPath => (resolve localPath).bind fun base => resolve (join base.text path)
  | gateway _ _ => if path = [] then none else resolve path
  | sandbox _ => resolve path

/-- A path is an allowed root or a descendant of one. -/
def Inside (t : AbsPath) (b : Boundary) : Prop :=
  ∃ root ∈ b.roots, ∃ r, resolve root = some r ∧ r <+: t

/-- **Containment.**  What is accepted resolves to an allowed root or to a descendant of one. -/
def Contained (path : List Char) (b : Boundary) : Prop :=
  b.accepts resolve path = true → ∃ t, b.target resolve path = some t ∧ b.Inside resolve t

/-- The roots up to the first one that cannot be resolved. -/
def resolvedRoots : List (List Char) → List AbsPath
  | [] => []
  | root :: roots =>
    match resolve root with
    | some r => r :: resolvedRoots roots
    | none => []

/-- A path is in a sibling of an allowed root whose name continues that of the root, and in no
allowed root. -/
def Escapes (path : List Char) (b : Boundary) : Prop :=
  ∃ t, b.target resolve path = some t ∧ (∃ r ∈ resolvedRoots resolve b.roots, Sibling r t) ∧
    ¬ b.Inside resolve t

end Boundary

/-! ### What is accepted -/

theorem startsWith_iff {target root : AbsPath} :
    startsWith target root = true ↔ root <+: target ∨ Sibling root target := by
  rw [startsWith, List.isPrefixOf_iff_prefix, text_isPrefix_iff]

variable {resolve : Resolve}

theorem allowsLoop_iff {t : AbsPath} {scope : List (List Char)} :
    allowsLoop resolve t scope = some true ↔
      ∃ r ∈ Boundary.resolvedRoots resolve scope, startsWith t r = true := by
  induction scope with
  | nil => simp [allowsLoop, Boundary.resolvedRoots]
  | cons root scope ih =>
    rw [allowsLoop, Boundary.resolvedRoots]
    cases hroot : resolve root with
    | none => simp
    | some r =>
      rw [Option.bind_some]
      by_cases hstarts : startsWith t r = true
      · simp [hstarts]
      · simp [hstarts, ih]

theorem exists_mem_resolvedRoots {r : AbsPath} {scope : List (List Char)}
    (h : r ∈ Boundary.resolvedRoots resolve scope) : ∃ root ∈ scope, resolve root = some r := by
  induction scope with
  | nil => simp [Boundary.resolvedRoots] at h
  | cons root scope ih =>
    rw [Boundary.resolvedRoots] at h
    cases hroot : resolve root with
    | none => simp [hroot] at h
    | some r' =>
      rw [hroot] at h
      rcases List.mem_cons.1 h with rfl | h
      · exact ⟨root, List.mem_cons_self, hroot⟩
      · obtain ⟨root', hmem, hr⟩ := ih h
        exact ⟨root', List.mem_cons_of_mem _ hmem, hr⟩

/-- **What a boundary accepts**: a path whose text starts with that of an allowed root. -/
theorem accepts_iff {path : List Char} {b : Boundary} :
    b.accepts resolve path = true ↔
      ∃ t, b.target resolve path = some t ∧
        ∃ r ∈ Boundary.resolvedRoots resolve b.roots, startsWith t r = true := by
  cases b with
  | service localPath =>
    unfold Boundary.accepts Boundary.target Boundary.roots resolveSafePath Boundary.resolvedRoots
    cases hbase : resolve localPath with
    | none => simp [hbase]
    | some base =>
      cases hrequested : resolve (join base.text path) with
      | none => simp [hbase, hrequested]
      | some t =>
        by_cases hstarts : startsWith t base = true <;>
          simp [hbase, hrequested, hstarts, Boundary.resolvedRoots]
  | gateway workspace hne =>
    unfold Boundary.accepts Boundary.target Boundary.roots filesystemInspect
      Boundary.resolvedRoots
    by_cases hpath : path = []
    · simp [hpath]
    · cases hresolved : resolve path with
      | none => simp [hpath]
      | some t =>
        cases hroot : resolve workspace <;>
          simp [hpath, hne, hroot, Boundary.resolvedRoots]
  | sandbox scope =>
    unfold Boundary.accepts Boundary.target Boundary.roots allowsPath
    cases htarget : resolve path with
    | none => simp
    | some t => simp [allowsLoop_iff]

/-- **Containment** holds exactly for the paths that do not escape to such a sibling. -/
theorem contained_iff (resolve : Resolve) (path : List Char) (b : Boundary) :
    b.Contained resolve path ↔ ¬ b.Escapes resolve path := by
  constructor
  · rintro h ⟨t, ht, ⟨r, hr, hsibling⟩, houtside⟩
    have haccepts : b.accepts resolve path = true :=
      accepts_iff.2 ⟨t, ht, r, hr, startsWith_iff.2 (.inr hsibling)⟩
    obtain ⟨t', ht', hinside⟩ := h haccepts
    rw [ht, Option.some.injEq] at ht'
    exact houtside (ht' ▸ hinside)
  · intro h haccepts
    obtain ⟨t, ht, r, hr, hstarts⟩ := accepts_iff.1 haccepts
    refine ⟨t, ht, ?_⟩
    rcases startsWith_iff.1 hstarts with hstart | hsibling
    · obtain ⟨root, hroot, hresolve⟩ := exists_mem_resolvedRoots hr
      exact ⟨root, hroot, r, hresolve, hstart⟩
    · by_contra houtside
      exact h ⟨t, ht, ⟨r, hr, hsibling⟩, houtside⟩

/-- A path that goes to a sibling of the workspace, where there are no links. -/
theorem not_contained_sibling :
    ¬ (Boundary.service "/srv/ws".toList).Contained (fun t => some (lexical [] t))
      "../ws-evil/secret".toList := by
  intro h
  obtain ⟨t, ht, root, hroot, r, hr, hstart⟩ := h (by decide)
  obtain rfl := List.mem_singleton.1 hroot
  obtain rfl := Option.some.inj ht
  obtain rfl := Option.some.inj hr
  exact absurd (List.isPrefixOf_iff_prefix.2 hstart) (by decide)

/-! ### The tool -/

/-- A world whose paths are resolved by a function. -/
def Resolves (w : Mcp.ToolWorld) (loc : String → AbsPath) : Prop :=
  ∀ s, w.realpath s = String.ofList (loc s).text

/-- The tool raises about the boundary exactly when its check does not accept the path. -/
theorem filesystemInspect_outside {w : Mcp.ToolWorld} {loc : String → AbsPath}
    (hw : Resolves w loc) {ms : List (PyKey × PyVal)} {ctx : Mcp.Context}
    {path workspace : String} (hpath : Mcp.inputD ms "path" .none = .str path)
    (hctx : ctx.getD "workspace_path" (.str "") = .str workspace) (hne : path ≠ "") :
    Mcp.filesystemInspect w (.dict ms) ctx =
        .failed (some ("Path " ++ path ++ " is outside workspace boundary")) ↔
      filesystemInspect (fun t => some (loc (String.ofList t))) workspace.toList path.toList =
        some false := by
  have hchars : path.toList ≠ [] := by simpa using hne
  have hstarts (s t : String) :
      (w.realpath s).startsWith (w.realpath t) = startsWith (loc s) (loc t) := by
    rw [Bool.eq_iff_iff, String.startsWith_string_iff, hw, hw, startsWith,
      List.isPrefixOf_iff_prefix, String.toList_ofList, String.toList_ofList]
  have hmessage : Mcp.messageText (.str path) = path := rfl
  simp only [Mcp.filesystemInspect, Mcp.withInput, hpath, hctx, Mcp.realpathOf, PyVal.truthy,
    filesystemInspect, hmessage]
  by_cases hws : workspace = ""
  · simp only [hws, hchars]
    cases w.stat (w.realpath path) <;> simp [hne]
  · cases hin : startsWith (loc path) (loc workspace) with
    | true =>
      cases w.stat (w.realpath path) <;> simp [hws, hne, hchars, hstarts, Except.map, hin]
    | false => simp [hws, hne, hchars, hstarts, Except.map, hin]

end Filesystem

end AnnyRuntime
