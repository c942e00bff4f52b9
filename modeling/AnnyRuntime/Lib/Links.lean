import AnnyRuntime.Lib.Path

/-!
# File systems with symbolic links

A file system is a tree of files, directories and links (`FileNode`).  A text is followed component
by component (`FileNode.lookup`): a link on the way is replaced by its target, `..` goes to the
parent of the place that was reached, and after 40 links, or at a place that nothing is below of, it
fails.

* `lookup_double` : a second separator at the start changes nothing.
* `lookup_of_linkFree` : where there are no links, the text of a path leads to that path.
-/

namespace AnnyRuntime

/-- What is at a place of a file system, with what is known of the files and directories. -/
inductive FileNode (σ : Type) where
  | file (stat : σ) (content : List UInt8)
  | link (target : List Char)
  | dir (stat : σ) (entries : List (PathName × FileNode σ))

namespace FileNode

variable {σ : Type}

/-- What is at a path below. -/
def at? : AbsPath → FileNode σ → Option (FileNode σ)
  | [], n => some n
  | c :: p, .dir _ entries => (entries.lookup c).bind (at? p)
  | _ :: _, _ => none

/-- A lookup. -/
structure Walk where
  /-- The places that were looked at: the links that were followed, and the place where it ended. -/
  seen : List AbsPath
  /-- The place that it leads to, where nothing need be, unless it fails. -/
  place : Option AbsPath
  deriving DecidableEq

/-- The directory that a text is followed from. -/
def start (cwd : AbsPath) (t : List Char) : AbsPath := if t.head? = some '/' then [] else cwd

/-- A lookup from a directory; the components after a link are followed by `next`. -/
def follow (next : AbsPath → List (List Char) → Walk) (root : FileNode σ) :
    AbsPath → List (List Char) → Walk
  | cwd, [] => ⟨[cwd], some cwd⟩
  | cwd, component :: rest =>
    if component = ['.', '.'] then follow next root cwd.dropLast rest
    else if h : component ≠ [] ∧ '/' ∉ component ∧ component ≠ ['.'] ∧
        component ≠ ['.', '.'] then
      let here := cwd ++ [⟨component, h⟩]
      match root.at? here with
      | some (.link target) =>
        let walk := next (start cwd target) (target.splitOn '/' ++ rest)
        ⟨here :: walk.seen, walk.place⟩
      | some (.dir _ _) => follow next root here rest
      | _ => ⟨[here], if rest = [] then some here else none⟩
    else follow next root cwd rest

/-- A lookup that follows at most so many links. -/
def walk (root : FileNode σ) : ℕ → AbsPath → List (List Char) → Walk
  | 0 => follow (fun _ _ => ⟨[], none⟩) root
  | n + 1 => follow (walk root n) root

/-- The lookup of a text, in a working directory.  No text with a null character is looked up. -/
def lookup (root : FileNode σ) (cwd : AbsPath) (t : List Char) : Walk :=
  if '\u0000' ∈ t then ⟨[], none⟩ else walk root 40 (start cwd t) (t.splitOn '/')

/-- What a text leads to. -/
def node? (root : FileNode σ) (cwd : AbsPath) (t : List Char) : Option (FileNode σ) :=
  (root.lookup cwd t).place.bind fun p => root.at? p

/-! ### Without links -/

/-- There is no link on the way to a path. -/
def LinkFree (root : FileNode σ) (p : AbsPath) : Prop :=
  ∀ q, q <+: p → ∀ target, root.at? q ≠ some (.link target)

variable {next : AbsPath → List (List Char) → Walk} {root : FileNode σ} {cwd p : AbsPath}

/-- An empty component is skipped. -/
theorem follow_nil_cons (rest : List (List Char)) :
    follow next root cwd ([] :: rest) = follow next root cwd rest := by
  rw [follow, if_neg (by simp), dif_neg (by simp)]

theorem walk_nil_cons (n : ℕ) (rest : List (List Char)) :
    walk root n cwd ([] :: rest) = walk root n cwd rest := by
  cases n <;> exact follow_nil_cons rest

/-- Where there are no links, the names of a path lead there, and only one place on the way is
looked at. -/
theorem follow_names (ns : AbsPath) (h : root.LinkFree (cwd ++ ns)) :
    (∃ q, q <+: cwd ++ ns ∧ (follow next root cwd (ns.map PathName.text)).seen = [q]) ∧
      ∀ q ∈ (follow next root cwd (ns.map PathName.text)).place, q = cwd ++ ns := by
  induction ns generalizing cwd with
  | nil =>
    rw [List.append_nil, List.map_nil, follow]
    exact ⟨⟨cwd, List.prefix_rfl, rfl⟩, fun q hq => (Option.some.inj hq).symm⟩
  | cons n ns ih =>
    have hhere : cwd ++ [n] <+: cwd ++ n :: ns := by simp
    have happend : cwd ++ n :: ns = (cwd ++ [n]) ++ ns := by simp
    rw [List.map_cons, follow, if_neg n.ok.2.2.2, dif_pos n.ok]
    dsimp only
    split
    · rename_i target hlink
      exact absurd hlink (h _ hhere target)
    · rw [happend] at h ⊢
      exact ih h
    · refine ⟨⟨cwd ++ [n], hhere, rfl⟩, fun q hq => ?_⟩
      dsimp only at hq
      split_ifs at hq with hrest
      · obtain rfl := List.map_eq_nil_iff.1 hrest
        exact (Option.some.inj hq).symm
      · exact nomatch hq

/-! ### Texts of paths -/

/-- What comes before the names of a path is the first component. -/
theorem append_names (t : List Char) (p : AbsPath) :
    t ++ p.names = ['/'].intercalate (t :: p.map PathName.text) := by
  induction p generalizing t with
  | nil => simp
  | cons n p ih =>
    rw [AbsPath.names_cons, ih n.text, List.map_cons, List.intercalate_cons_cons, List.append_assoc]
    rfl

/-- The components of the names of a path. -/
theorem splitOn_names (p : AbsPath) : p.names.splitOn '/' = [] :: p.map PathName.text := by
  rw [← List.nil_append p.names, append_names, List.splitOn_intercalate _ ?_ (by simp)]
  intro l hl
  rcases List.mem_cons.1 hl with rfl | hl
  · exact List.not_mem_nil
  · obtain ⟨n, -, rfl⟩ := List.mem_map.1 hl
    exact n.ok.2.1

/-- A second separator changes nothing. -/
theorem lookup_double {t : List Char} (h : t.head? = some '/') :
    root.lookup cwd ('/' :: t) = root.lookup cwd t := by
  have hsplit : ('/' :: t).splitOn '/' = [] :: t.splitOn '/' := List.splitOn_append_cons_self [] t
  have hstart : start cwd ('/' :: t) = start cwd t := by rw [start, start, h, List.head?_cons]
  unfold lookup
  rw [hstart, hsplit, walk_nil_cons]
  simp

/-- The lookup of the text of a path follows its names. -/
theorem lookup_text (h : '\u0000' ∉ p.text) :
    root.lookup cwd p.text = walk root 40 [] (p.map PathName.text) := by
  obtain ⟨t, ht⟩ := p.exists_text_eq
  have hstart : start cwd p.text = [] := by rw [start, ht, List.head?_cons, if_pos rfl]
  rw [lookup, if_neg h, hstart]
  cases p with
  | nil => rfl
  | cons n p =>
    rw [AbsPath.text, if_neg (List.cons_ne_nil _ _), splitOn_names, walk_nil_cons]

/-- **Where there are no links**, the text of a path leads to that path, and no place is looked at
that is not on the way to it. -/
theorem lookup_of_linkFree (cwd : AbsPath) (h : root.LinkFree p) :
    (∀ q ∈ (root.lookup cwd p.text).seen, q <+: p) ∧
      ∀ q ∈ (root.lookup cwd p.text).place, q = p := by
  by_cases hnull : '\u0000' ∈ p.text
  · rw [lookup, if_pos hnull]
    exact ⟨fun q hq => (nomatch hq), fun q hq => (nomatch hq)⟩
  · rw [lookup_text hnull, walk]
    have hnames : root.LinkFree ([] ++ p) := h
    obtain ⟨⟨q, hq, hseen⟩, hplace⟩ := follow_names p hnames
    refine ⟨fun q' hq' => ?_, hplace⟩
    rw [hseen, List.mem_singleton] at hq'
    exact hq' ▸ hq

end FileNode

end AnnyRuntime
