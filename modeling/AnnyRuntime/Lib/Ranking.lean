import Mathlib.Data.List.Sort

/-!
# The first of the best

Sorting by a key in descending order with a stable sort, and taking the first element, gives the
first element of the list whose key is maximal (`head?_sortDesc_eq_some_iff`).  What a stable sort
in ascending order puts last is the last such element (`getLast?_sortAsc`).
-/

namespace AnnyRuntime

namespace Ranking

variable {α κ : Type*} [LinearOrder κ] (key : α → κ)

/-- A stable sort by descending key. -/
def sortDesc (l : List α) : List α := l.insertionSort fun a b => key b ≤ key a

/-- `x` is the first element of `l` with the highest key. -/
def FirstBest (l : List α) (x : α) : Prop :=
  ∃ l₁ l₂, l = l₁ ++ x :: l₂ ∧ (∀ y ∈ l₁, key y < key x) ∧ ∀ y ∈ l₂, key y ≤ key x

variable {key}

theorem head?_sortDesc_cons (a : α) (l : List α) :
    (sortDesc key (a :: l)).head? =
      match (sortDesc key l).head? with
      | none => some a
      | some b => if key b ≤ key a then some a else some b := by
  unfold sortDesc
  rw [List.insertionSort_cons]
  cases hs : l.insertionSort fun a b => key b ≤ key a with
  | nil => rfl
  | cons b t =>
    rw [List.orderedInsert_cons]
    simp only [List.head?_cons]
    split_ifs <;> rfl

theorem FirstBest.mem {l : List α} {x : α} (h : FirstBest key l x) : x ∈ l := by
  obtain ⟨l₁, l₂, rfl, -, -⟩ := h
  simp

theorem FirstBest.le {l : List α} {x : α} (h : FirstBest key l x) {y : α} (hy : y ∈ l) :
    key y ≤ key x := by
  obtain ⟨l₁, l₂, rfl, h₁, h₂⟩ := h
  rcases List.mem_append.1 hy with hy | hy
  · exact le_of_lt (h₁ y hy)
  · rcases List.mem_cons.1 hy with rfl | hy
    · exact le_rfl
    · exact h₂ y hy

theorem FirstBest.cons_of_lt {l : List α} {x a : α} (h : FirstBest key l x)
    (ha : key a < key x) : FirstBest key (a :: l) x := by
  obtain ⟨l₁, l₂, rfl, h₁, h₂⟩ := h
  refine ⟨a :: l₁, l₂, rfl, ?_, h₂⟩
  rintro y hy
  rcases List.mem_cons.1 hy with rfl | hy
  · exact ha
  · exact h₁ y hy

theorem firstBest_cons {l : List α} {a : α} (h : ∀ y ∈ l, key y ≤ key a) :
    FirstBest key (a :: l) a := ⟨[], l, rfl, by simp, h⟩

theorem firstBest_of_head? {l : List α} {x : α} (h : (sortDesc key l).head? = some x) :
    FirstBest key l x := by
  induction l generalizing x with
  | nil => exact absurd h (by simp [sortDesc])
  | cons a l ih =>
    rw [head?_sortDesc_cons] at h
    cases hl : (sortDesc key l).head? with
    | none =>
      rw [hl] at h
      obtain rfl := Option.some.inj h
      have hnil : l = [] := by
        rw [List.head?_eq_none_iff] at hl
        exact List.length_eq_zero_iff.1 (by
          rw [← List.length_insertionSort (fun a b => key b ≤ key a) l]
          exact List.length_eq_zero_iff.2 hl)
      exact firstBest_cons (by simp [hnil])
    | some b =>
      rw [hl] at h
      have hb := ih hl
      simp only at h
      -- an equal key does not pass the earlier element
      split_ifs at h with hle
      · obtain rfl := Option.some.inj h
        exact firstBest_cons fun y hy => le_trans (hb.le hy) hle
      · obtain rfl := Option.some.inj h
        exact hb.cons_of_lt (not_le.1 hle)

theorem firstBest_cons_iff {l : List α} {a x : α} :
    FirstBest key (a :: l) x ↔
      (x = a ∧ ∀ y ∈ l, key y ≤ key a) ∨ (FirstBest key l x ∧ key a < key x) := by
  constructor
  · rintro ⟨l₁, l₂, hl, h₁, h₂⟩
    cases l₁ with
    | nil =>
      obtain ⟨rfl, rfl⟩ := List.cons.inj hl
      exact Or.inl ⟨rfl, h₂⟩
    | cons b l₁ =>
      obtain ⟨rfl, rfl⟩ := List.cons.inj hl
      exact Or.inr ⟨⟨l₁, l₂, rfl, fun z hz => h₁ z (List.mem_cons_of_mem _ hz), h₂⟩,
        h₁ a List.mem_cons_self⟩
  · rintro (⟨rfl, h⟩ | ⟨h, ha⟩)
    · exact firstBest_cons h
    · exact h.cons_of_lt ha

/-- The first best element does not depend on elements that a better one may stand for. -/
theorem firstBest_filter {p : α → Prop} [DecidablePred p]
    (hp : ∀ x y, key x ≤ key y → p x → p y) {l : List α} {x : α} :
    FirstBest key (l.filter p) x ↔ FirstBest key l x ∧ p x := by
  induction l with
  | nil => exact ⟨fun h => absurd h.mem (by simp), fun h => absurd h.1.mem (by simp)⟩
  | cons a l ih =>
    by_cases ha : p a
    · -- what is filtered out is not better than `a`, which is not filtered out
      have hall : (∀ y ∈ l.filter p, key y ≤ key a) ↔ ∀ y ∈ l, key y ≤ key a := by
        refine ⟨fun h y hy => ?_, fun h y hy => h y (List.mem_of_mem_filter hy)⟩
        by_contra hlt
        exact hlt (h y (List.mem_filter.2 ⟨hy, by simpa using hp a y (le_of_not_ge hlt) ha⟩))
      rw [List.filter_cons_of_pos (by simpa using ha), firstBest_cons_iff, firstBest_cons_iff,
        hall, ih]
      constructor
      · rintro (⟨rfl, h⟩ | ⟨⟨h, hx⟩, hlt⟩)
        · exact ⟨Or.inl ⟨rfl, h⟩, ha⟩
        · exact ⟨Or.inr ⟨h, hlt⟩, hx⟩
      · rintro ⟨⟨rfl, h⟩ | ⟨h, hlt⟩, hx⟩
        · exact Or.inl ⟨rfl, h⟩
        · exact Or.inr ⟨⟨h, hx⟩, hlt⟩
    · rw [List.filter_cons_of_neg (by simpa using ha), ih, firstBest_cons_iff]
      constructor
      · rintro ⟨h, hx⟩
        exact ⟨Or.inr ⟨h, not_le.1 fun hle => ha (hp x a hle hx)⟩, hx⟩
      · rintro ⟨⟨rfl, -⟩ | ⟨h, -⟩, hx⟩
        · exact absurd hx ha
        · exact ⟨h, hx⟩

theorem firstBest_map {β : Type*} {f : β → α} {l : List β} {y : α} :
    FirstBest key (l.map f) y ↔ ∃ x, y = f x ∧ FirstBest (key ∘ f) l x := by
  induction l with
  | nil =>
    exact ⟨fun h => absurd h.mem (by simp), fun ⟨x, _, h⟩ => absurd h.mem (by simp)⟩
  | cons a l ih =>
    rw [List.map_cons, firstBest_cons_iff, ih]
    constructor
    · rintro (⟨rfl, h⟩ | ⟨⟨x, rfl, h⟩, hlt⟩)
      · exact ⟨a, rfl, firstBest_cons fun z hz => h (f z) (List.mem_map_of_mem hz)⟩
      · exact ⟨x, rfl, h.cons_of_lt hlt⟩
    · rintro ⟨x, rfl, h⟩
      rcases firstBest_cons_iff.1 h with ⟨rfl, h⟩ | ⟨h, hlt⟩
      · refine Or.inl ⟨rfl, fun z hz => ?_⟩
        obtain ⟨w, hw, rfl⟩ := List.mem_map.1 hz
        exact h w hw
      · exact Or.inr ⟨⟨x, rfl, h⟩, hlt⟩

/-- The first best element is unique. -/
theorem FirstBest.unique {l : List α} {x y : α} (hx : FirstBest key l x)
    (hy : FirstBest key l y) : x = y := by
  induction l with
  | nil => exact absurd hx.mem (by simp)
  | cons a l ih =>
    rcases firstBest_cons_iff.1 hx with ⟨rfl, h⟩ | ⟨h, hlt⟩ <;>
      rcases firstBest_cons_iff.1 hy with ⟨rfl, k⟩ | ⟨k, klt⟩
    · rfl
    · exact absurd (h y k.mem) (not_le.2 klt)
    · exact absurd (k x h.mem) (not_le.2 hlt)
    · exact ih h k

/-- What is best in two orders of a list is equally good. -/
theorem FirstBest.key_eq_of_perm {l l' : List α} {x y : α} (hx : FirstBest key l x)
    (hy : FirstBest key l' y) (h : l.Perm l') : key x = key y :=
  le_antisymm (hy.le (h.mem_iff.1 hx.mem)) (hx.le (h.mem_iff.2 hy.mem))

theorem exists_firstBest {l : List α} (h : l ≠ []) : ∃ x, FirstBest key l x := by
  induction l with
  | nil => exact absurd rfl h
  | cons a l ih =>
    by_cases hl : l = []
    · exact ⟨a, firstBest_cons (by simp [hl])⟩
    · obtain ⟨x, hx⟩ := ih hl
      by_cases hlt : key a < key x
      · exact ⟨x, hx.cons_of_lt hlt⟩
      · exact ⟨a, firstBest_cons fun y hy => le_trans (hx.le hy) (not_lt.1 hlt)⟩

theorem head?_sortDesc_isSome {l : List α} (h : l ≠ []) :
    ∃ x, (sortDesc key l).head? = some x := by
  obtain ⟨a, t, rfl⟩ := List.exists_cons_of_ne_nil h
  rw [head?_sortDesc_cons]
  cases (sortDesc key t).head? with
  | none => exact ⟨a, rfl⟩
  | some b => simp only; split_ifs <;> exact ⟨_, rfl⟩

/-- **What a stable descending sort puts first.** -/
theorem head?_sortDesc_eq_some_iff {l : List α} {x : α} :
    (sortDesc key l).head? = some x ↔ FirstBest key l x := by
  refine ⟨firstBest_of_head?, fun h => ?_⟩
  obtain ⟨y, hy⟩ : ∃ y, (sortDesc key l).head? = some y :=
    head?_sortDesc_isSome (List.ne_nil_of_mem h.mem)
  rw [hy, (firstBest_of_head? hy).unique h]

/-! ### Sorting in ascending order -/

variable (key) in
/-- A stable sort by ascending key. -/
def sortAsc (l : List α) : List α := l.insertionSort fun a b => key a ≤ key b

@[simp] theorem mem_sortAsc {l : List α} {x : α} : x ∈ sortAsc key l ↔ x ∈ l :=
  List.mem_insertionSort _

theorem pairwise_sortAsc (l : List α) : (sortAsc key l).Pairwise fun a b => key a ≤ key b :=
  haveI : Std.Total fun a b : α => key a ≤ key b := ⟨fun a b => le_total (key a) (key b)⟩
  haveI : IsTrans α fun a b => key a ≤ key b := ⟨fun _ _ _ => le_trans⟩
  List.pairwise_insertionSort _ l

theorem filter_orderedInsert {p : α → Bool} {a : α} {l : List α}
    (h : l.Pairwise fun a b => key a ≤ key b) :
    (l.orderedInsert (fun a b => key a ≤ key b) a).filter p =
      if p a then (l.filter p).orderedInsert (fun a b => key a ≤ key b) a else l.filter p := by
  induction l with
  | nil => cases hp : p a <;> simp [hp]
  | cons b l ih =>
    obtain ⟨hb, hl⟩ := List.pairwise_cons.1 h
    rw [List.orderedInsert_cons]
    split_ifs with hab hp hp
    · -- what is left of the tail is not below `a` either
      rw [List.filter_cons_of_pos hp]
      cases hf : (b :: l).filter p with
      | nil => rfl
      | cons c t =>
        have hc : c ∈ b :: l := List.mem_of_mem_filter (hf ▸ List.mem_cons_self)
        have hac : key a ≤ key c := by
          rcases List.mem_cons.1 hc with rfl | hc
          · exact hab
          · exact le_trans hab (hb c hc)
        rw [List.orderedInsert_cons, if_pos hac]
    · rw [List.filter_cons_of_neg hp]
    · rw [List.filter_cons, List.filter_cons, ih hl, if_pos hp]
      split_ifs
      · rw [List.orderedInsert_cons, if_neg hab]
      · rfl
    · rw [List.filter_cons, List.filter_cons, ih hl, if_neg hp]

/-- Filtering and stable sorting commute. -/
theorem filter_sortAsc (p : α → Bool) (l : List α) :
    (sortAsc key l).filter p = sortAsc key (l.filter p) := by
  induction l with
  | nil => rfl
  | cons a l ih =>
    have hcons : sortAsc key (a :: l) =
        (sortAsc key l).orderedInsert (fun a b => key a ≤ key b) a := rfl
    rw [hcons, filter_orderedInsert (pairwise_sortAsc l), ih, List.filter_cons]
    split_ifs <;> rfl

theorem firstBest_concat {l : List α} {a x : α} (h : FirstBest key l x) :
    FirstBest key (l ++ [a]) (if key a ≤ key x then x else a) := by
  split_ifs with ha
  · obtain ⟨l₁, l₂, rfl, h₁, h₂⟩ := h
    refine ⟨l₁, l₂ ++ [a], by simp, h₁, fun y hy => ?_⟩
    rcases List.mem_append.1 hy with hy | hy
    · exact h₂ y hy
    · rwa [List.mem_singleton.1 hy]
  · exact ⟨l, [], rfl, fun y hy => lt_of_le_of_lt (h.le hy) (not_le.1 ha), by simp⟩

/-- Where no two keys are equal, the first best element is also the last best one. -/
theorem FirstBest.reverse {l : List α} {x : α} (h : FirstBest key l x)
    (hl : l.Pairwise fun a b => key a ≠ key b) : FirstBest key l.reverse x := by
  obtain ⟨l₁, l₂, rfl, h₁, h₂⟩ := h
  rw [List.pairwise_append, List.pairwise_cons] at hl
  refine ⟨l₂.reverse, l₁.reverse, by simp, fun y hy => ?_, fun y hy => ?_⟩
  · rw [List.mem_reverse] at hy
    exact lt_of_le_of_ne (h₂ y hy) (hl.2.1.1 y hy).symm
  · exact le_of_lt (h₁ y (List.mem_reverse.1 hy))

/-- Inserting before the first element that is not below makes no other element the first best. -/
theorem firstBest_orderedInsert {a x : α} {l : List α} :
    FirstBest key (l.orderedInsert (fun a b => key a ≤ key b) a) x ↔ FirstBest key (a :: l) x := by
  induction l with
  | nil => rfl
  | cons b l ih =>
    rw [List.orderedInsert_cons]
    split_ifs with hab
    · rfl
    · have hba : key b < key a := not_le.1 hab
      rw [firstBest_cons_iff, ih, firstBest_cons_iff, firstBest_cons_iff, firstBest_cons_iff]
      constructor
      · rintro (⟨-, h⟩ | ⟨⟨rfl, h⟩ | ⟨h, hlt⟩, hb⟩)
        · have ha : a ∈ l.orderedInsert (fun a b => key a ≤ key b) a :=
            (List.mem_orderedInsert _).2 (Or.inl rfl)
          exact absurd (h a ha) hab
        · exact Or.inl ⟨rfl, List.forall_mem_cons.2 ⟨le_of_lt hba, h⟩⟩
        · exact Or.inr ⟨Or.inr ⟨h, hb⟩, hlt⟩
      · rintro (⟨rfl, h⟩ | ⟨⟨rfl, -⟩ | ⟨h, hb⟩, hlt⟩)
        · exact Or.inr ⟨Or.inl ⟨rfl, (List.forall_mem_cons.1 h).2⟩, hba⟩
        · exact absurd (le_of_lt hlt) hab
        · exact Or.inr ⟨Or.inr ⟨h, hlt⟩, hb⟩

/-- A stable sort keeps the first best element. -/
theorem firstBest_sortAsc {l : List α} {x : α} :
    FirstBest key (sortAsc key l) x ↔ FirstBest key l x := by
  induction l generalizing x with
  | nil => rfl
  | cons a l ih =>
    have hcons : sortAsc key (a :: l) =
        (sortAsc key l).orderedInsert (fun a b => key a ≤ key b) a := rfl
    rw [hcons, firstBest_orderedInsert, firstBest_cons_iff, firstBest_cons_iff, ih]
    simp only [mem_sortAsc]

theorem getLast?_orderedInsert {a b : α} {l : List α} (h : l.Pairwise fun a b => key a ≤ key b)
    (hb : l.getLast? = some b) :
    (l.orderedInsert (fun a b => key a ≤ key b) a).getLast? =
      some (if key a ≤ key b then b else a) := by
  induction l with
  | nil => cases hb
  | cons c l ih =>
    obtain ⟨hc, hl⟩ := List.pairwise_cons.1 h
    rw [List.orderedInsert_cons]
    cases l with
    | nil =>
      obtain rfl : c = b := by simpa using hb
      split_ifs <;> simp
    | cons d l =>
      have hb' : (d :: l).getLast? = some b := by simpa using hb
      have hcb : key c ≤ key b := hc b (List.mem_of_getLast? hb')
      split_ifs with hac hab hab
      · simpa using hb
      · exact absurd (le_trans hac hcb) hab
      · rw [List.getLast?_cons, ih hl hb', if_pos hab]
        rfl
      · rw [List.getLast?_cons, ih hl hb', if_neg hab]
        rfl

/-- **What a stable ascending sort puts last**: of the elements with the highest key the last one,
which is the first one from behind. -/
theorem getLast?_sortAsc (l : List α) :
    (sortAsc key l).getLast? = (sortDesc key l.reverse).head? := by
  induction l with
  | nil => rfl
  | cons a l ih =>
    cases hl : (sortAsc key l).getLast? with
    | none =>
      have hnil : l = [] := by
        rw [List.getLast?_eq_none_iff] at hl
        refine List.eq_nil_iff_forall_not_mem.2 fun x hx => ?_
        have hx' : x ∈ sortAsc key l := mem_sortAsc.2 hx
        rw [hl] at hx'
        cases hx'
      rw [hnil]
      rfl
    | some b =>
      rw [hl] at ih
      have hbest := firstBest_concat (a := a) (head?_sortDesc_eq_some_iff.1 ih.symm)
      rw [List.reverse_cons, head?_sortDesc_eq_some_iff.2 hbest]
      exact getLast?_orderedInsert (pairwise_sortAsc l) hl

end Ranking

end AnnyRuntime
