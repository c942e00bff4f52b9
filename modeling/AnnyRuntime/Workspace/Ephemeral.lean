import AnnyRuntime.Lib.Path
import Mathlib.Data.List.TakeWhile

/-!
# Ephemeral workspaces

`createWorkspace` makes the directory of an execution, the directories above it that are missing,
and those inside it, one after the other.  Making a directory can fail, and those made before it
stay.

* `createWorkspace_cases` : how a call ends, and what it leaves.
* `sameTree_iff` : a call leaves the tree alone exactly when it made nothing.
-/

namespace AnnyRuntime

namespace Workspace

open AbsPath

/-- The directories of a workspace. -/
def workspaceNames : List PathName :=
  [⟨"input".toList, by decide⟩, ⟨"work".toList, by decide⟩, ⟨"output".toList, by decide⟩,
    ⟨"logs".toList, by decide⟩, ⟨"evidence".toList, by decide⟩, ⟨"result".toList, by decide⟩,
    ⟨"metadata".toList, by decide⟩, ⟨"cache".toList, by decide⟩]

/-- `os.path.basename`. -/
def basename (t : List Char) : List Char := (t.reverse.takeWhile (· ≠ '/')).reverse

/-- `workspace_path`. -/
def workspacePath (base : AbsPath) (executionId projectId : String) : AbsPath :=
  lexical [] (join (join base.text (basename projectId.toList)) executionId.toList)

/-- What `makedirs` makes for a path: the path, and the directories above it up to one that
exists. -/
def missing (tree : List AbsPath) (p : AbsPath) : List AbsPath :=
  (p.inits.reverse.takeWhile (· ∉ tree)).reverse

/-- The directories that are made for a workspace. -/
def workspaceDirs (tree : List AbsPath) (p : AbsPath) : List AbsPath :=
  missing tree p ++ workspaceNames.map fun n => p ++ [n]

/-- The path of a workspace that can be made: it is named, below the base, and not there. -/
def admissible (base : AbsPath) (tree : List AbsPath) (executionId projectId : String) : Bool :=
  executionId ≠ "" && projectId ≠ "" &&
    (base.text ++ ['/']).isPrefixOf (workspacePath base executionId projectId).text &&
      !tree.contains (workspacePath base executionId projectId)

/-- `create_workspace`: the tree after it, and the workspace, unless it raises.  `mkdirFails` is how
many directories are made before making one fails. -/
def createWorkspace (base : AbsPath) (tree : List AbsPath) (executionId projectId : String)
    (mkdirFails : Option ℕ) : List AbsPath × Option AbsPath :=
  if admissible base tree executionId projectId then
    let p := workspacePath base executionId projectId
    let dirs := workspaceDirs tree p
    match mkdirFails with
    | none => (tree ++ dirs, some p)
    | some n => if n < dirs.length then (tree ++ dirs.take n, none) else (tree ++ dirs, some p)
  else (tree, none)

/-- Making a directory fails, of those of a workspace. -/
def Stops (base : AbsPath) (tree : List AbsPath) (executionId projectId : String)
    (mkdirFails : Option ℕ) : Prop :=
  ∃ n, mkdirFails = some n ∧
    n < (workspaceDirs tree (workspacePath base executionId projectId)).length

variable {base : AbsPath} {tree : List AbsPath} {executionId projectId : String}
  {mkdirFails : Option ℕ} {p : AbsPath}

/-! ### What is made -/

/-- A path that is not there is made, after those above it. -/
theorem missing_eq_concat (h : p ∉ tree) : ∃ above, missing tree p = above ++ [p] := by
  have hinits : p.inits.reverse = p :: (p.inits.dropLast).reverse := by
    have hlast : p.inits.getLast? = some p := by
      rw [List.getLast?_eq_getElem?]
      simp
    obtain ⟨l, hl⟩ := List.getLast?_eq_some_iff.1 hlast
    rw [hl, List.reverse_concat, List.dropLast_concat]
  rw [missing, hinits, List.takeWhile_cons_of_pos (by simpa using h), List.reverse_cons]
  exact ⟨_, rfl⟩

/-- What is made first was not there. -/
theorem head_workspaceDirs (h : p ∉ tree) :
    ∃ q rest, workspaceDirs tree p = q :: rest ∧ q ∉ tree := by
  obtain ⟨above, habove⟩ := missing_eq_concat h
  have hnew : ∀ q ∈ missing tree p, q ∉ tree := by
    intro q hq
    have := List.mem_takeWhile_imp (List.mem_reverse.1 hq)
    simpa using this
  cases hm : missing tree p with
  | nil => exact absurd (hm.symm.trans habove) (by simp)
  | cons q rest =>
    refine ⟨q, rest ++ workspaceNames.map fun n => p ++ [n], ?_, hnew q (by simp [hm])⟩
    rw [workspaceDirs, hm, List.cons_append]

theorem not_mem_of_admissible (h : admissible base tree executionId projectId = true) :
    workspacePath base executionId projectId ∉ tree := by
  simp only [admissible, Bool.and_eq_true, Bool.not_eq_true', List.contains_eq_mem,
    decide_eq_false_iff_not] at h
  exact h.2

/-! ### What a call leaves -/

/-- **How a call ends.** -/
theorem createWorkspace_cases (base : AbsPath) (tree : List AbsPath)
    (executionId projectId : String) (mkdirFails : Option ℕ) :
    let p := workspacePath base executionId projectId
    (admissible base tree executionId projectId = false ∧
      createWorkspace base tree executionId projectId mkdirFails = (tree, none)) ∨
    (admissible base tree executionId projectId = true ∧
      ∃ n < (workspaceDirs tree p).length, mkdirFails = some n ∧
        createWorkspace base tree executionId projectId mkdirFails =
          (tree ++ (workspaceDirs tree p).take n, none)) ∨
    (admissible base tree executionId projectId = true ∧
      ¬ Stops base tree executionId projectId mkdirFails ∧
        createWorkspace base tree executionId projectId mkdirFails =
          (tree ++ workspaceDirs tree p, some p)) := by
  intro p
  cases hadm : admissible base tree executionId projectId with
  | false => exact .inl ⟨rfl, by simp [createWorkspace, hadm]⟩
  | true =>
    refine .inr ?_
    cases mkdirFails with
    | none => exact .inr ⟨rfl, by simp [Stops], by simp [createWorkspace, hadm, p]⟩
    | some n =>
      by_cases hn : n < (workspaceDirs tree p).length
      · exact .inl ⟨rfl, n, hn, rfl, by simp [createWorkspace, hadm, p, hn]⟩
      · refine .inr ⟨rfl, ?_, by simp [createWorkspace, hadm, p, hn]⟩
        rintro ⟨n', heq, hn'⟩
        obtain rfl := Option.some.inj heq
        exact hn hn'

/-- The two trees have the same directories. -/
def SameTree (tree tree' : List AbsPath) : Prop := ∀ q, q ∈ tree' ↔ q ∈ tree

/-- **What a call that raises leaves**: the tree as it was exactly when nothing was made. -/
theorem sameTree_iff :
    SameTree tree (createWorkspace base tree executionId projectId mkdirFails).1 ↔
      admissible base tree executionId projectId = false ∨ mkdirFails = some 0 := by
  have hnew : admissible base tree executionId projectId = true → ∃ q rest,
      workspaceDirs tree (workspacePath base executionId projectId) = q :: rest ∧ q ∉ tree :=
    fun h => head_workspaceDirs (not_mem_of_admissible h)
  rcases createWorkspace_cases base tree executionId projectId mkdirFails with
    ⟨hadm, heq⟩ | ⟨hadm, n, hn, rfl, heq⟩ | ⟨hadm, hstops, heq⟩
  · rw [heq]
    exact iff_of_true (fun _ => Iff.rfl) (.inl hadm)
  · obtain ⟨q, rest, hdirs, hq⟩ := hnew hadm
    rw [heq, hdirs, hadm]
    cases n with
    | zero => exact iff_of_true (fun x => by simp) (.inr rfl)
    | succ n =>
      refine iff_of_false (fun h => hq ((h q).1 ?_)) (by simp)
      simp
  · obtain ⟨q, rest, hdirs, hq⟩ := hnew hadm
    rw [heq, hdirs, hadm]
    refine iff_of_false (fun h => hq ((h q).1 (by simp))) ?_
    rintro (h | rfl)
    · exact absurd h (by simp)
    · exact hstops ⟨0, rfl, by rw [hdirs]; simp⟩

end Workspace

end AnnyRuntime
