import Mathlib.Data.List.Infix

/-!
# Absolute paths

An absolute path without links and special components is the list of its names (`AbsPath`), and a
text (`AbsPath.text`).  A path contains another when its names are a prefix of the other's names.

The text of a path starts with the text of another in one more case (`text_isPrefix_iff`): when it
leads to, or below, a sibling whose name only continues the last name of the other
(`AbsPath.Sibling`).
-/

namespace AnnyRuntime

/-- A name in a directory. -/
@[ext]
structure PathName where
  /-- Its characters. -/
  text : List Char
  /-- It is not empty, has no separator, and is none of the two special names. -/
  ok : text ≠ [] ∧ '/' ∉ text ∧ text ≠ ['.'] ∧ text ≠ ['.', '.']
  deriving DecidableEq

/-- An absolute path, as the names on the way from the root. -/
abbrev AbsPath := List PathName

namespace AbsPath

/-- The names of a path, each after a separator. -/
def names (p : AbsPath) : List Char := p.flatMap fun n => '/' :: n.text

/-- The text of a path. -/
def text (p : AbsPath) : List Char := if p = [] then ['/'] else p.names

/-- A path leads to, or below, a sibling of another path whose name continues that path's own
name. -/
def Sibling (r p : AbsPath) : Prop :=
  ∃ init c d rest, r = init ++ [c] ∧ p = init ++ d :: rest ∧ c.text <+: d.text ∧ c ≠ d

@[simp] theorem names_nil : names [] = [] := rfl

theorem names_cons (n : PathName) (p : AbsPath) : names (n :: p) = '/' :: (n.text ++ names p) := by
  simp [names]

theorem text_cons (n : PathName) (p : AbsPath) : text (n :: p) = '/' :: (n.text ++ names p) := by
  rw [text, if_neg (List.cons_ne_nil _ _), names_cons]

/-- Every text starts with a separator. -/
theorem exists_text_eq (p : AbsPath) : ∃ t, text p = '/' :: t := by
  cases p with
  | nil => exact ⟨[], rfl⟩
  | cons n p => exact ⟨_, text_cons n p⟩

theorem Sibling.cons {r p : AbsPath} (n : PathName) (h : Sibling r p) :
    Sibling (n :: r) (n :: p) := by
  obtain ⟨init, c, d, rest, rfl, rfl, hstart, hne⟩ := h
  exact ⟨n :: init, c, d, rest, rfl, rfl, hstart, hne⟩

/-- What follows a name is nothing, or starts with a separator: it continues no name. -/
theorem not_isPrefix_names {e : List Char} {x : Char} {p : AbsPath} (hx : x ≠ '/') :
    ¬ (x :: e) <+: names p := by
  cases p with
  | nil => simp
  | cons n p =>
    rw [names_cons]
    intro h
    exact hx (List.cons_prefix_cons.1 h).1

/-- The names of a path start with the names of another in two cases. -/
theorem names_isPrefix {r : AbsPath} :
    ∀ {p : AbsPath}, names r <+: names p → r <+: p ∨ Sibling r p := by
  induction r with
  | nil => exact fun _ => .inl (List.nil_prefix)
  | cons c r ih =>
    intro p h
    cases p with
    | nil => simp [names_cons] at h
    | cons d p =>
      rw [names_cons, names_cons, List.cons_prefix_cons] at h
      by_cases hcd : c = d
      · subst hcd
        have htail : names r <+: names p := (List.prefix_append_right_inj _).1 h.2
        rcases ih htail with hr | hr
        · exact .inl (List.cons_prefix_cons.2 ⟨rfl, hr⟩)
        · exact .inr (hr.cons c)
      have hc : c.text <+: d.text ++ names p := (List.prefix_append _ _).trans h.2
      -- one of the two names continues the other
      rcases List.prefix_or_prefix_of_prefix hc (List.prefix_append _ _) with ⟨e, he⟩ | ⟨e, he⟩
      · cases e with
        | nil => exact absurd (PathName.ext (by simpa using he)) hcd
        | cons x e =>
          have hx : x ≠ '/' := by
            rintro rfl
            exact d.ok.2.1 (he ▸ List.mem_append_right _ List.mem_cons_self)
          cases r with
          | nil => exact .inr ⟨[], c, d, p, rfl, rfl, ⟨_, he⟩, hcd⟩
          | cons n r =>
            rw [← he, List.append_assoc] at h
            have hrest := (List.prefix_append_right_inj _).1 h.2
            rw [names_cons, List.cons_append, List.cons_prefix_cons] at hrest
            exact absurd hrest.1.symm hx
      · cases e with
        | nil => exact absurd (PathName.ext (by simpa using he.symm)) hcd
        | cons x e =>
          have hx : x ≠ '/' := by
            rintro rfl
            exact c.ok.2.1 (he ▸ List.mem_append_right _ List.mem_cons_self)
          rw [← he, List.append_assoc] at h
          have hrest := (List.prefix_append_right_inj _).1 h.2
          exact absurd hrest (not_isPrefix_names hx)

theorem names_isPrefix_of_isPrefix {r p : AbsPath} (h : r <+: p) : names r <+: names p := by
  obtain ⟨rest, rfl⟩ := h
  exact ⟨names rest, by simp [names]⟩

theorem names_isPrefix_of_sibling {r p : AbsPath} (h : Sibling r p) : names r <+: names p := by
  obtain ⟨init, c, d, rest, rfl, rfl, ⟨e, he⟩, -⟩ := h
  refine ⟨e ++ names rest, ?_⟩
  simp [names, ← he]

/-- **Prefixes of texts.**  The text of a path starts with the text of another exactly when the path
is in the other, or in a sibling whose name continues the other's. -/
theorem text_isPrefix_iff {r p : AbsPath} : text r <+: text p ↔ r <+: p ∨ Sibling r p := by
  cases r with
  | nil =>
    obtain ⟨t, ht⟩ := exists_text_eq p
    rw [ht]
    exact iff_of_true ⟨t, rfl⟩ (.inl List.nil_prefix)
  | cons c r =>
    rw [text, if_neg (List.cons_ne_nil _ _)]
    cases p with
    | nil =>
      refine iff_of_false ?_ ?_
      · rw [names_cons, text, if_pos rfl, List.cons_prefix_cons]
        rintro ⟨-, h⟩
        exact c.ok.1 (List.append_eq_nil_iff.1 (List.prefix_nil.1 h)).1
      · rintro (h | ⟨init, _, _, _, -, h, -⟩)
        · exact List.cons_ne_nil _ _ (List.prefix_nil.1 h)
        · simp at h
    | cons d p =>
      rw [text, if_neg (List.cons_ne_nil _ _)]
      exact ⟨names_isPrefix, fun h => h.elim names_isPrefix_of_isPrefix names_isPrefix_of_sibling⟩

/-- A separator after the text of a path is only there for what is below the path. -/
theorem text_sep_isPrefix {r p : AbsPath} (hr : r ≠ []) :
    text r ++ ['/'] <+: text p ↔ r <+: p ∧ r ≠ p := by
  constructor
  · intro h
    have hne : r ≠ p := by
      rintro rfl
      have hlength := h.length_le
      rw [List.length_append, List.length_singleton] at hlength
      omega
    refine ⟨?_, hne⟩
    rcases text_isPrefix_iff.1 ((List.prefix_append _ _).trans h) with hstart | hsibling
    · exact hstart
    obtain ⟨init, c, d, rest, rfl, rfl, ⟨e, he⟩, hcd⟩ := hsibling
    -- the name that continues the last one has no separator
    have hnames : names (init ++ [c]) ++ ['/'] <+: names (init ++ d :: rest) := by
      simpa [text] using h
    have hrest : ['/'] <+: e ++ names rest := by
      simpa [names, ← he, List.prefix_append_right_inj] using hnames
    cases e with
    | nil => exact absurd (PathName.ext (by simpa using he)) hcd
    | cons x e =>
      obtain rfl := (List.cons_prefix_cons.1 hrest).1
      exact absurd (he ▸ List.mem_append_right _ List.mem_cons_self) d.ok.2.1
  · rintro ⟨⟨rest, rfl⟩, hne⟩
    cases rest with
    | nil => exact absurd (by simp) hne
    | cons n rest =>
      refine ⟨n.text ++ names rest, ?_⟩
      simp [text, hr, names]

theorem text_injective : Function.Injective text := by
  intro r p h
  have hself : text r <+: text p := by rw [h]
  rcases text_isPrefix_iff.1 hself with hstart | hsibling
  · by_contra hne
    cases r with
    | nil =>
      cases p with
      | nil => exact hne rfl
      | cons n p =>
        rw [text, if_pos rfl, text_cons, List.cons.injEq] at h
        exact n.ok.1 (List.append_eq_nil_iff.1 h.2.symm).1
    | cons c r =>
      have hbelow := (text_sep_isPrefix (List.cons_ne_nil c r)).2 ⟨hstart, hne⟩
      have hlength := hbelow.length_le
      rw [List.length_append, List.length_singleton, h] at hlength
      omega
  · obtain ⟨init, c, d, rest, rfl, rfl, ⟨e, he⟩, hcd⟩ := hsibling
    have hnames : names (init ++ [c]) = names (init ++ d :: rest) := by
      simpa [text] using h
    have hrest : e = [] ∧ names rest = [] := by
      simpa [names, ← he, List.append_assoc] using hnames
    refine absurd (PathName.ext ?_) hcd
    rw [← he, hrest.1, List.append_nil]

/-- **What is a path or below it**, told by texts that end at a separator. -/
theorem text_eq_or_below_iff {r p : AbsPath} (hr : r ≠ []) :
    text p = text r ∨ text r ++ ['/'] <+: text p ↔ r <+: p := by
  rw [text_sep_isPrefix hr, text_injective.eq_iff]
  constructor
  · rintro (rfl | ⟨h, -⟩)
    · exact List.prefix_rfl
    · exact h
  · intro h
    by_cases hne : p = r
    · exact .inl hne
    · exact .inr ⟨h, Ne.symm hne⟩

/-! ### Normalising -/

/-- One component of a text is followed without looking at the file system. -/
def step (p : AbsPath) (component : List Char) : AbsPath :=
  if component = ['.', '.'] then p.dropLast
  else if h : component ≠ [] ∧ '/' ∉ component ∧ component ≠ ['.'] ∧ component ≠ ['.', '.'] then
    p ++ [⟨component, h⟩]
  else p

/-- The path that a text leads to from a directory, where there are no links. -/
def lexical (cwd : AbsPath) (t : List Char) : AbsPath :=
  (t.splitOn '/').foldl step (if t.head? = some '/' then [] else cwd)

/-- The working directory does not matter to an absolute path. -/
theorem lexical_absolute {cwd : AbsPath} {t : List Char} (h : t.head? = some '/') :
    lexical cwd t = lexical [] t := by
  rw [lexical, lexical, if_pos h, if_pos h]

/-- `os.path.join(base, path)`. -/
def join (base path : List Char) : List Char :=
  if path.head? = some '/' then path
  else if base = [] ∨ base.getLast? = some '/' then base ++ path
  else base ++ '/' :: path

end AbsPath

end AnnyRuntime
