import Mathlib.Data.List.Nodup

/-!
# Insertion-ordered dictionaries

A Python `dict` remembers the order in which its keys were first inserted: assigning to a key
that is present replaces the value in place, assigning to a new key appends.  `Dict` is that
structure, an association list whose keys are pairwise distinct; the distinctness is a field,
so a dictionary with two values for one key cannot be built.
-/

namespace AnnyRuntime

/-- A dictionary that keeps its keys in insertion order. -/
@[ext]
structure Dict (κ : Type*) (ν : Type*) where
  /-- The items, oldest key first. -/
  entries : List (κ × ν)
  /-- No key occurs twice. -/
  nodup : (entries.map Prod.fst).Nodup

namespace Dict

variable {κ ν : Type*}

/-- The empty dictionary. -/
def empty : Dict κ ν := ⟨[], List.nodup_nil⟩

instance : Inhabited (Dict κ ν) := ⟨empty⟩

instance [DecidableEq κ] [DecidableEq ν] : DecidableEq (Dict κ ν) := fun _ _ =>
  decidable_of_iff _ Dict.ext_iff.symm

variable (d : Dict κ ν)

/-- The keys, in insertion order. -/
def keys : List κ := d.entries.map Prod.fst

/-- The values, in insertion order of their keys. -/
def values : List ν := d.entries.map Prod.snd

variable [DecidableEq κ]

/-- The value of a key, if it is present. -/
def get? (k : κ) : Option ν := d.entries.lookup k

/-- Whether a key is present. -/
def contains (k : κ) : Bool := (d.get? k).isSome

/-- Replace the value of `k` in place, or append a new item. -/
def setEntries (k : κ) (v : ν) : List (κ × ν) → List (κ × ν)
  | [] => [(k, v)]
  | e :: es => if e.1 = k then (k, v) :: es else e :: setEntries k v es

omit [DecidableEq κ] in
@[simp] theorem keys_empty : (empty : Dict κ ν).keys = [] := rfl

omit [DecidableEq κ] in
@[simp] theorem values_empty : (empty : Dict κ ν).values = [] := rfl

@[simp] theorem get?_empty (k : κ) : (empty : Dict κ ν).get? k = none := rfl

theorem map_fst_setEntries (k : κ) (v : ν) (es : List (κ × ν)) :
    (setEntries k v es).map Prod.fst =
      if k ∈ es.map Prod.fst then es.map Prod.fst else es.map Prod.fst ++ [k] := by
  induction es with
  | nil => simp [setEntries]
  | cons e es ih =>
    simp only [setEntries]
    split_ifs with h hm hm
    · simp [h]
    · exact absurd (by simp [h]) hm
    · have hk : k ∈ es.map Prod.fst := by
        simp only [List.map_cons, List.mem_cons] at hm
        exact hm.resolve_left fun hk => h hk.symm
      simp [ih, hk]
    · have hk : k ∉ es.map Prod.fst := fun hk => hm (by simp [hk])
      rw [List.map_cons, ih, if_neg hk, List.map_cons, List.cons_append]

theorem mem_map_fst_setEntries {k k' : κ} {v : ν} {es : List (κ × ν)} :
    k' ∈ (setEntries k v es).map Prod.fst ↔ k' ∈ es.map Prod.fst ∨ k' = k := by
  rw [map_fst_setEntries]
  split_ifs with hk
  · refine ⟨Or.inl, fun h => h.elim id ?_⟩
    rintro rfl
    exact hk
  · rw [List.mem_append, List.mem_singleton]

/-- `d[k] = v`. -/
def set (k : κ) (v : ν) : Dict κ ν where
  entries := setEntries k v d.entries
  nodup := by
    rw [map_fst_setEntries]
    split_ifs with h
    · exact d.nodup
    · rw [List.nodup_append]
      exact ⟨d.nodup, List.nodup_singleton k, fun a ha b hb => by
        rw [List.mem_singleton] at hb
        subst hb
        exact fun hab => h (hab ▸ ha)⟩

/-- `del d[k]`, or nothing when `k` is absent. -/
def erase (k : κ) : Dict κ ν where
  entries := d.entries.filter fun e => e.1 ≠ k
  nodup := d.nodup.sublist (List.filter_sublist.map _)

/-- The dictionary that results from assigning the items one after the other. -/
def ofList (es : List (κ × ν)) : Dict κ ν := es.foldl (fun d e => d.set e.1 e.2) empty

/-- `d.update(c)`. -/
def update (c : Dict κ ν) : Dict κ ν := c.entries.foldl (fun d e => d.set e.1 e.2) d

/-- Every value is replaced in place. -/
def map {μ : Type*} (f : ν → μ) (d : Dict κ ν) : Dict κ μ where
  entries := d.entries.map fun e => (e.1, f e.2)
  nodup := by
    rw [List.map_map]
    exact d.nodup

omit [DecidableEq κ] in
@[simp] theorem values_map {μ : Type*} (f : ν → μ) : (d.map f).values = d.values.map f := by
  simp [map, values]

variable {d}

/-! ### Looking a key up -/

theorem lookup_setEntries_self (k : κ) (v : ν) (es : List (κ × ν)) :
    (setEntries k v es).lookup k = some v := by
  induction es with
  | nil => simp [setEntries]
  | cons e es ih =>
    obtain ⟨a, b⟩ := e
    simp only [setEntries]
    split_ifs with h
    · simp
    · have : (k == a) = false := by simpa using Ne.symm h
      rw [List.lookup_cons, this, ih]

theorem lookup_setEntries_ne {k k' : κ} (hk : k' ≠ k) (v : ν) (es : List (κ × ν)) :
    (setEntries k v es).lookup k' = es.lookup k' := by
  induction es with
  | nil =>
    have : (k' == k) = false := by simpa using hk
    simp [setEntries, List.lookup_cons, this]
  | cons e es ih =>
    obtain ⟨a, b⟩ := e
    simp only [setEntries]
    split_ifs with h
    · have h1 : (k' == k) = false := by simpa using hk
      subst h
      simp only [List.lookup_cons, h1]
    · simp only [List.lookup_cons, ih]

@[simp] theorem get?_set_self (k : κ) (v : ν) : (d.set k v).get? k = some v :=
  lookup_setEntries_self k v d.entries

theorem get?_set_ne {k k' : κ} (h : k' ≠ k) (v : ν) : (d.set k v).get? k' = d.get? k' :=
  lookup_setEntries_ne h v d.entries

theorem get?_set (k k' : κ) (v : ν) :
    (d.set k v).get? k' = if k' = k then some v else d.get? k' := by
  split_ifs with h
  · rw [h, get?_set_self]
  · exact get?_set_ne h v

/-- A value after an assignment is the assigned one, or it was there. -/
theorem of_get?_set {k k' : κ} {v w : ν} (h : (d.set k v).get? k' = some w) :
    (k' = k ∧ w = v) ∨ (k' ≠ k ∧ d.get? k' = some w) := by
  rw [get?_set] at h
  split_ifs at h with hk
  · exact .inl ⟨hk, (Option.some.inj h).symm⟩
  · exact .inr ⟨hk, h⟩

theorem get?_set_ne_none {k k' : κ} (h : d.get? k' ≠ none) (v : ν) : (d.set k v).get? k' ≠ none := by
  rw [get?_set]
  split_ifs
  · exact Option.some_ne_none v
  · exact h

/-- What holds of every value, and of the one that is assigned. -/
theorem forall_get?_set {P : κ → ν → Prop} (hd : ∀ k w, d.get? k = some w → P k w) {k : κ} {v : ν}
    (hv : P k v) (k' : κ) (w : ν) (h : (d.set k v).get? k' = some w) : P k' w := by
  obtain ⟨rfl, rfl⟩ | ⟨-, h⟩ := of_get?_set h
  · exact hv
  · exact hd k' w h

/-- Assigning items whose keys are distinct: each key has its value of them, if there is one. -/
theorem get?_foldl_set {es : List (κ × ν)} (hes : (es.map Prod.fst).Nodup) (d : Dict κ ν) (k : κ) :
    (es.foldl (fun d e => d.set e.1 e.2) d).get? k = (es.lookup k).or (d.get? k) := by
  induction es generalizing d with
  | nil => simp
  | cons e es ih =>
    obtain ⟨a, b⟩ := e
    rw [List.map_cons, List.nodup_cons] at hes
    rw [List.foldl_cons, ih hes.2, get?_set, List.lookup_cons]
    by_cases hk : k = a
    · subst hk
      have hnone : es.lookup k = none := by
        rw [List.lookup_eq_none_iff]
        intro p hp
        have hne : ¬ k = p.1 := by
          rintro rfl
          exact hes.1 (List.mem_map.2 ⟨p, hp, rfl⟩)
        simpa using hne
      simp [hnone]
    · have hbeq : (k == a) = false := by simpa using hk
      simp [hk, hbeq]

theorem get?_update (c : Dict κ ν) (k : κ) :
    (d.update c).get? k = (c.get? k).or (d.get? k) := get?_foldl_set c.nodup d k

theorem get?_eq_none_iff {k : κ} : d.get? k = none ↔ k ∉ d.keys := by
  simp only [get?, List.lookup_eq_none_iff, keys, List.mem_map, not_exists, not_and, bne_iff_ne]
  exact ⟨fun h e he hek => h e he hek.symm, fun h e he hek => h e he hek.symm⟩

theorem mem_entries_of_get? {k : κ} {v : ν} (h : d.get? k = some v) : (k, v) ∈ d.entries := by
  obtain ⟨l₁, l₂, he, -⟩ := List.lookup_eq_some_iff.1 h
  rw [he]
  exact List.mem_append_right _ List.mem_cons_self

theorem get?_of_mem_entries {k : κ} {v : ν} (h : (k, v) ∈ d.entries) : d.get? k = some v := by
  obtain ⟨l₁, l₂, he⟩ := List.append_of_mem h
  have hnd := d.nodup
  rw [he] at hnd
  refine List.lookup_eq_some_iff.2 ⟨l₁, l₂, he, fun p hp => ?_⟩
  rw [bne_iff_ne]
  rintro rfl
  rw [List.map_append, List.nodup_append] at hnd
  exact hnd.2.2 p.1 (List.mem_map_of_mem hp) p.1 (by simp) rfl

theorem get?_eq_some_iff {k : κ} {v : ν} : d.get? k = some v ↔ (k, v) ∈ d.entries :=
  ⟨mem_entries_of_get?, get?_of_mem_entries⟩

theorem values_eq_filterMap : d.values = d.keys.filterMap d.get? := by
  rw [keys, List.filterMap_map, values, ← List.filterMap_eq_map]
  exact List.filterMap_congr fun e he => (get?_of_mem_entries he).symm

theorem mem_values_of_get? {k : κ} {v : ν} (h : d.get? k = some v) : v ∈ d.values :=
  List.mem_map.2 ⟨(k, v), mem_entries_of_get? h, rfl⟩

theorem exists_get?_of_mem_values {v : ν} (h : v ∈ d.values) : ∃ k, d.get? k = some v := by
  obtain ⟨⟨k, w⟩, he, rfl⟩ := List.mem_map.1 h
  exact ⟨k, get?_of_mem_entries he⟩

theorem get?_map {μ : Type*} (f : ν → μ) (d : Dict κ ν) (k : κ) :
    (d.map f).get? k = (d.get? k).map f := by
  change (d.entries.map fun e => (e.1, f e.2)).lookup k = (d.entries.lookup k).map f
  induction d.entries with
  | nil => rfl
  | cons e es ih =>
    rw [List.map_cons, List.lookup_cons, List.lookup_cons, ih]
    split <;> rfl

/-- Two dictionaries have the same items, in whatever order, when they have the same values. -/
theorem perm_entries_iff {d' : Dict κ ν} :
    d.entries.Perm d'.entries ↔ ∀ k, d.get? k = d'.get? k := by
  rw [List.perm_ext_iff_of_nodup d.nodup.of_map d'.nodup.of_map]
  constructor
  · intro h k
    ext v
    rw [get?_eq_some_iff, get?_eq_some_iff, h]
  · rintro h ⟨k, v⟩
    rw [← get?_eq_some_iff, ← get?_eq_some_iff, h]

/-! ### Assigning -/

theorem entries_set_of_get?_eq_none {k : κ} (h : d.get? k = none) (v : ν) :
    (d.set k v).entries = d.entries ++ [(k, v)] := by
  have hk : ∀ e ∈ d.entries, e.1 ≠ k := fun e he hek =>
    get?_eq_none_iff.1 h (List.mem_map.2 ⟨e, he, hek⟩)
  change setEntries k v d.entries = _
  revert hk
  induction d.entries with
  | nil => exact fun _ => rfl
  | cons e es ih =>
    intro hk
    rw [setEntries, if_neg (hk e List.mem_cons_self),
      ih fun e he => hk e (List.mem_cons_of_mem _ he), List.cons_append]

theorem values_set_of_get?_eq_none {k : κ} (h : d.get? k = none) (v : ν) :
    (d.set k v).values = d.values ++ [v] := by
  simp [values, entries_set_of_get?_eq_none h]

/-- Assigning to a present key replaces its value and leaves everything else in place. -/
theorem entries_set_of_get? {k : κ} {w : ν} (h : d.get? k = some w) :
    ∃ l₁ l₂, d.entries = l₁ ++ (k, w) :: l₂ ∧ k ∉ l₁.map Prod.fst ∧
      ∀ v, (d.set k v).entries = l₁ ++ (k, v) :: l₂ := by
  obtain ⟨l₁, l₂, he, hl⟩ := List.lookup_eq_some_iff.1 h
  have hl' : ∀ e ∈ l₁, e.1 ≠ k := fun e he' => by
    have := hl e he'
    rw [bne_iff_ne] at this
    exact this.symm
  refine ⟨l₁, l₂, he, fun hk => ?_, fun v => ?_⟩
  · obtain ⟨e, he', hek⟩ := List.mem_map.1 hk
    exact hl' e he' hek
  · change setEntries k v d.entries = _
    rw [he]
    clear h he hl
    induction l₁ with
    | nil => simp [setEntries]
    | cons e es ih =>
      rw [List.cons_append, setEntries, if_neg (hl' e List.mem_cons_self),
        ih fun e he => hl' e (List.mem_cons_of_mem _ he), List.cons_append]

/-- Assigning the value that a key has changes nothing. -/
theorem set_of_get? {k : κ} {v : ν} (h : d.get? k = some v) : d.set k v = d := by
  obtain ⟨l₁, l₂, he, -, hset⟩ := entries_set_of_get? h
  exact Dict.ext (by rw [hset v, he])

theorem values_set_of_get? {k : κ} {w : ν} (h : d.get? k = some w) :
    ∃ l₁ l₂, d.values = l₁ ++ w :: l₂ ∧ ∀ v, (d.set k v).values = l₁ ++ v :: l₂ := by
  obtain ⟨l₁, l₂, he, -, hs⟩ := entries_set_of_get? h
  exact ⟨l₁.map Prod.snd, l₂.map Prod.snd, by simp [values, he], fun v => by simp [values, hs v]⟩

/-- Assigning to a key that is present exchanges one value. -/
theorem countP_values_set (p : ν → Bool) {k : κ} {w : ν} (h : d.get? k = some w) (v : ν) :
    (d.set k v).values.countP p + (if p w = true then 1 else 0) =
      d.values.countP p + if p v = true then 1 else 0 := by
  obtain ⟨l₁, l₂, hvalues, hset⟩ := values_set_of_get? h
  rw [hvalues, hset]
  simp only [List.countP_append, List.countP_cons]
  omega

theorem keys_set (k : κ) (v : ν) :
    (d.set k v).keys = if k ∈ d.keys then d.keys else d.keys ++ [k] :=
  map_fst_setEntries k v d.entries

theorem length_entries_set_le (d : Dict κ ν) (k : κ) (v : ν) :
    (d.set k v).entries.length ≤ d.entries.length + 1 := by
  have hkeys := congrArg List.length (keys_set (d := d) k v)
  rw [keys, List.length_map] at hkeys
  rw [hkeys]
  split_ifs <;> simp [keys]

/-- Assigning items with distinct new keys appends them. -/
theorem entries_foldl_set {es : List (κ × ν)} (hes : (es.map Prod.fst).Nodup) (d : Dict κ ν)
    (hd : ∀ e ∈ es, d.get? e.1 = none) :
    (es.foldl (fun d e => d.set e.1 e.2) d).entries = d.entries ++ es := by
  induction es generalizing d with
  | nil => exact (List.append_nil _).symm
  | cons e es ih =>
    rw [List.map_cons, List.nodup_cons] at hes
    rw [List.foldl_cons, ih hes.2, entries_set_of_get?_eq_none (hd e List.mem_cons_self),
      List.append_assoc, List.singleton_append]
    intro e' he'
    have hne : e'.1 ≠ e.1 := fun heq => hes.1 (heq ▸ List.mem_map_of_mem he')
    rw [get?_set_ne hne]
    exact hd e' (List.mem_cons_of_mem _ he')

@[simp] theorem ofList_entries (d : Dict κ ν) : ofList d.entries = d :=
  Dict.ext (entries_foldl_set d.nodup empty fun _ _ => rfl)

theorem mem_of_get?_foldl_set {es : List (κ × ν)} {d : Dict κ ν} {k : κ} {v : ν}
    (h : (es.foldl (fun d e => d.set e.1 e.2) d).get? k = some v) :
    (k, v) ∈ es ∨ d.get? k = some v := by
  induction es generalizing d with
  | nil => exact .inr h
  | cons e es ih =>
    rcases ih h with hmem | hget
    · exact .inl (List.mem_cons_of_mem e hmem)
    · rw [get?_set] at hget
      split_ifs at hget with hk
      · exact .inl (List.mem_cons.2 (.inl (Prod.ext hk (Option.some.inj hget).symm)))
      · exact .inr hget

/-- What a dictionary that was built of items holds is one of them. -/
theorem mem_of_get?_ofList {es : List (κ × ν)} {k : κ} {v : ν}
    (h : (ofList es).get? k = some v) : (k, v) ∈ es :=
  (mem_of_get?_foldl_set h).resolve_right (by simp)

/-- Assigning items leaves every other key alone. -/
theorem get?_foldl_set_of_notMem {es : List (κ × ν)} {k : κ} (h : k ∉ es.map Prod.fst)
    (d : Dict κ ν) : (es.foldl (fun d e => d.set e.1 e.2) d).get? k = d.get? k := by
  induction es generalizing d with
  | nil => rfl
  | cons e es ih =>
    rw [List.map_cons, List.mem_cons, not_or] at h
    rw [List.foldl_cons, ih h.2, get?_set_ne h.1]

/-- The last item of a key is the one that stays. -/
theorem get?_ofList_last {pre post : List (κ × ν)} {k : κ} {v : ν}
    (h : k ∉ post.map Prod.fst) : (ofList (pre ++ (k, v) :: post)).get? k = some v := by
  rw [ofList, List.foldl_append, List.foldl_cons, get?_foldl_set_of_notMem h, get?_set_self]

/-- The keys of a class in which no key repeats stay as they are listed. -/
theorem filter_keys_foldl_set {p : κ → Bool} {es : List (κ × ν)} {d : Dict κ ν}
    (h : (d.keys.filter p ++ (es.map Prod.fst).filter p).Nodup) :
    (es.foldl (fun d e => d.set e.1 e.2) d).keys.filter p =
      d.keys.filter p ++ (es.map Prod.fst).filter p := by
  induction es generalizing d with
  | nil => simp
  | cons e es ih =>
    have hset : (d.set e.1 e.2).keys.filter p ++ (es.map Prod.fst).filter p =
        d.keys.filter p ++ ((e :: es).map Prod.fst).filter p := by
      rw [keys_set, List.map_cons, List.filter_cons]
      by_cases hp : p e.1 = true
      · have hk : e.1 ∉ d.keys := fun hk => by
          rw [List.map_cons, List.filter_cons, if_pos hp, List.nodup_append] at h
          exact h.2.2 e.1 (List.mem_filter.2 ⟨hk, hp⟩) e.1 List.mem_cons_self rfl
        simp [hk, hp]
      · split_ifs <;> simp [hp]
    rw [List.foldl_cons, ih (hset ▸ h), hset]

theorem filter_keys_ofList {p : κ → Bool} {es : List (κ × ν)}
    (h : ((es.map Prod.fst).filter p).Nodup) :
    (ofList es).keys.filter p = (es.map Prod.fst).filter p :=
  filter_keys_foldl_set (d := empty) (by simpa using h)

/-- In a class in which no key repeats every item stays. -/
theorem mem_entries_ofList {p : κ → Bool} {es : List (κ × ν)}
    (h : ((es.map Prod.fst).filter p).Nodup) {k : κ} {v : ν} (hmem : (k, v) ∈ es)
    (hp : p k = true) : (k, v) ∈ (ofList es).entries := by
  obtain ⟨pre, post, rfl⟩ := List.append_of_mem hmem
  refine mem_entries_of_get? (get?_ofList_last fun hk => ?_)
  rw [List.map_append, List.map_cons, List.filter_append, List.filter_cons, if_pos hp,
    List.nodup_append, List.nodup_cons] at h
  exact h.2.1.1 (List.mem_filter.2 ⟨hk, hp⟩)

/-! ### Deleting -/

theorem keys_erase (k : κ) : (d.erase k).keys = d.keys.filter (· ≠ k) := by
  change (d.entries.filter _).map Prod.fst = _
  rw [keys, List.filter_map]
  rfl

theorem get?_erase (k k' : κ) : (d.erase k).get? k' = if k' = k then none else d.get? k' := by
  split_ifs with h
  · subst h
    rw [get?_eq_none_iff]
    simp [keys, erase]
  · cases hd : d.get? k' with
    | none =>
      rw [get?_eq_none_iff] at hd ⊢
      intro hm
      obtain ⟨e, he, hek⟩ := List.mem_map.1 hm
      exact hd (List.mem_map.2 ⟨e, (List.mem_filter.1 he).1, hek⟩)
    | some v =>
      rw [get?_eq_some_iff] at hd ⊢
      exact List.mem_filter.2 ⟨hd, by simpa using h⟩

theorem length_entries_erase_le (d : Dict κ ν) (k : κ) :
    (d.erase k).entries.length ≤ d.entries.length := List.length_filter_le _ _

theorem of_get?_erase {k k' : κ} {w : ν} (h : (d.erase k).get? k' = some w) :
    k' ≠ k ∧ d.get? k' = some w := by
  rw [get?_erase] at h
  split_ifs at h with hk
  exact ⟨hk, h⟩

end Dict

end AnnyRuntime
