import Mathlib.Data.List.Basic
import Mathlib.Data.Rat.Defs
import Mathlib.Algebra.Order.Field.Rat
import Mathlib.Tactic.Linarith
import Mathlib.Tactic.Positivity

/-!
# Matching blocks of two sequences

Python's `difflib.SequenceMatcher` looks for the longest block that two sequences share, and goes on
to the left and to the right of it.  In a long second sequence the elements that occur often are
`popular`: they start no block, but a block is extended by them.

* `inside_findLongestMatch` : a block is inside the region where it was looked for.
* `findLongestMatch_self` : the longest block of a sequence and itself is all of it, popular
  elements or not.
* `ratio_mem`, `ratio_self` : **the ratio is between zero and one, and one for equal sequences.**
-/

namespace AnnyRuntime

namespace SequenceMatcher

variable {α : Type*} [DecidableEq α]

/-- `Match`: where a block is in both sequences, and how long it is. -/
structure Match where
  (a b size : ℕ)
  deriving DecidableEq

/-- A part of both sequences. -/
structure Region where
  (alo ahi blo bhi : ℕ)
  ha : alo ≤ ahi
  hb : blo ≤ bhi

/-- The block is in the region. -/
structure Inside (r : Region) (m : Match) : Prop where
  alo : r.alo ≤ m.a
  ahi : m.a + m.size ≤ r.ahi
  blo : r.blo ≤ m.b
  bhi : m.b + m.size ≤ r.bhi

/-- An element of a long sequence that occurs often. -/
def popular (b : List α) (x : α) : Bool := 200 ≤ b.length && b.length / 100 + 1 < b.count x

/-- `b2j`: where an element is in the second sequence. -/
def b2j (b : List α) (x : α) : List ℕ :=
  if popular b x then [] else (List.range b.length).filter fun j => b[j]? = some x

/-- A value for the place before. -/
def before (f : ℕ → ℕ) : ℕ → ℕ
  | 0 => 0
  | j + 1 => f j

/-- What the search knows after some elements of the first sequence: for every place of the second
one the length of the match that ends there, and the best match. -/
structure Scan where
  j2len : ℕ → ℕ
  best : Match

/-- The best match, and one that ends at two places. -/
def improve (k : ℕ → ℕ) (i : ℕ) (best : Match) (j : ℕ) : Match :=
  if best.size < k j then ⟨i + 1 - k j, j + 1 - k j, k j⟩ else best

/-- The places of an element of the first sequence in a part of the second one. -/
def places (a b : List α) (blo bhi i : ℕ) : List ℕ :=
  (a[i]?.elim [] (b2j b)).filter fun j => blo ≤ j ∧ j < bhi

/-- One element of the first sequence. -/
def row (a b : List α) (blo bhi : ℕ) (s : Scan) (i : ℕ) : Scan where
  j2len j := if j ∈ places a b blo bhi i then before s.j2len j + 1 else 0
  best := (places a b blo bhi i).foldl (improve (fun j => before s.j2len j + 1) i) s.best

/-- A match is extended to the left. -/
def extendLeft (a b : List α) (alo blo : ℕ) : ℕ → ℕ → ℕ → Match
  | i + 1, j + 1, size =>
    if alo < i + 1 ∧ blo < j + 1 ∧ a[i]? = b[j]? then extendLeft a b alo blo i j (size + 1)
    else ⟨i + 1, j + 1, size⟩
  | i, j, size => ⟨i, j, size⟩

/-- The length of a match that is extended to the right, by so many elements at most. -/
def extendRight (a b : List α) (ahi bhi i j : ℕ) : ℕ → ℕ → ℕ
  | 0, size => size
  | n + 1, size =>
    if i + size < ahi ∧ j + size < bhi ∧ a[i + size]? = b[j + size]? then
      extendRight a b ahi bhi i j n (size + 1)
    else size

/-- The best match that starts with no popular element. -/
def scan (a b : List α) (r : Region) : Scan :=
  (List.range' r.alo (r.ahi - r.alo)).foldl (row a b r.blo r.bhi) ⟨fun _ => 0, r.alo, r.blo, 0⟩

/-- `find_longest_match`. -/
def findLongestMatch (a b : List α) (r : Region) : Match :=
  let best := (scan a b r).best
  let m := extendLeft a b r.alo r.blo best.a best.b best.size
  { m with size := extendRight a b r.ahi r.bhi m.a m.b (r.ahi - (m.a + m.size)) m.size }

/-! ### A match is inside its region -/

/-- Induction over the elements of a part of a sequence. -/
theorem foldl_range'_induction {σ : Type*} {f : σ → ℕ → σ} {P : ℕ → σ → Prop} {lo n : ℕ} {s : σ}
    (hs : P lo s) (hstep : ∀ i s, lo ≤ i → i < lo + n → P i s → P (i + 1) (f s i)) :
    P (lo + n) ((List.range' lo n).foldl f s) := by
  induction n generalizing lo s with
  | zero => exact hs
  | succ n ih =>
    rw [List.range'_succ, List.foldl_cons, ← Nat.succ_add_eq_add_succ]
    refine ih (hstep lo s le_rfl (by omega) hs) fun i s hlo hi h => ?_
    exact hstep i s (by omega) (by omega) h

/-- What the search knows lies in the region. -/
structure ScanInside (r : Region) (i : ℕ) (s : Scan) : Prop where
  fromA : ∀ j, s.j2len j ≤ i - r.alo
  fromB : ∀ j, s.j2len j ≤ j + 1 - r.blo
  alo : r.alo ≤ s.best.a
  ahi : s.best.a + s.best.size ≤ i
  blo : r.blo ≤ s.best.b
  bhi : s.best.b + s.best.size ≤ r.bhi

theorem before_le {f : ℕ → ℕ} {j n : ℕ} (h : ∀ j, f j ≤ n) : before f j ≤ n := by
  cases j with
  | zero => exact Nat.zero_le n
  | succ j => exact h j

theorem before_le_sub {f : ℕ → ℕ} {j n : ℕ} (h : ∀ j, f j ≤ j + 1 - n) : before f j ≤ j - n := by
  cases j with
  | zero => exact Nat.zero_le _
  | succ j => exact h j

theorem bounds_of_mem_places {a b : List α} {blo bhi i j : ℕ} (h : j ∈ places a b blo bhi i) :
    blo ≤ j ∧ j < bhi := by
  rw [places, List.mem_filter, decide_eq_true_eq] at h
  exact h.2

theorem scanInside_row {a b : List α} {r : Region} {i : ℕ} {s : Scan} (hi : r.alo ≤ i)
    (h : ScanInside r i s) : ScanInside r (i + 1) (row a b r.blo r.bhi s i) := by
  have hA (j : ℕ) : before s.j2len j + 1 ≤ i + 1 - r.alo := by
    have hle : before s.j2len j ≤ i - r.alo := before_le h.fromA
    omega
  have hB {j : ℕ} (hj : r.blo ≤ j) : before s.j2len j + 1 ≤ j + 1 - r.blo := by
    have hle := before_le_sub (j := j) h.fromB
    omega
  have hbest : ∀ (js : List ℕ), (∀ j ∈ js, r.blo ≤ j ∧ j < r.bhi) → ∀ best : Match,
      (r.alo ≤ best.a ∧ best.a + best.size ≤ i + 1 ∧ r.blo ≤ best.b ∧
        best.b + best.size ≤ r.bhi) →
      r.alo ≤ (js.foldl (improve (fun j => before s.j2len j + 1) i) best).a ∧
        (js.foldl (improve (fun j => before s.j2len j + 1) i) best).a +
          (js.foldl (improve (fun j => before s.j2len j + 1) i) best).size ≤ i + 1 ∧
        r.blo ≤ (js.foldl (improve (fun j => before s.j2len j + 1) i) best).b ∧
        (js.foldl (improve (fun j => before s.j2len j + 1) i) best).b +
          (js.foldl (improve (fun j => before s.j2len j + 1) i) best).size ≤ r.bhi := by
    intro js
    induction js with
    | nil => exact fun _ best hb => hb
    | cons j js ih =>
      intro hjs best hb
      rw [List.forall_mem_cons] at hjs
      refine ih hjs.2 _ ?_
      have h₁ := hA j
      have h₂ := hB hjs.1.1
      have h₃ := hjs.1.2
      unfold improve
      split_ifs
      · dsimp only
        omega
      · exact hb
  obtain ⟨h₁, h₂, h₃, h₄⟩ := hbest (places a b r.blo r.bhi i)
    (fun j hj => bounds_of_mem_places hj) s.best
    ⟨h.alo, h.ahi.trans (Nat.le_succ i), h.blo, h.bhi⟩
  refine ⟨fun j => ?_, fun j => ?_, h₁, h₂, h₃, h₄⟩
  · dsimp only [row]
    split_ifs
    · exact hA j
    · exact Nat.zero_le _
  · dsimp only [row]
    split_ifs with hj
    · exact hB (bounds_of_mem_places hj).1
    · exact Nat.zero_le _

theorem scanInside_scan (a b : List α) (r : Region) : ScanInside r r.ahi (scan a b r) := by
  have h : ScanInside r (r.alo + (r.ahi - r.alo)) (scan a b r) :=
    foldl_range'_induction (P := ScanInside r)
      ⟨fun _ => Nat.zero_le _, fun _ => Nat.zero_le _, le_rfl, le_rfl, le_rfl, r.hb⟩
      (fun i s hi _ hs => scanInside_row hi hs)
  rwa [Nat.add_sub_cancel' r.ha] at h

/-- A match that is extended to the left ends where it did. -/
theorem extendLeft_spec {a b : List α} {alo blo i j : ℕ} (hi : alo ≤ i) (hj : blo ≤ j) (size : ℕ) :
    alo ≤ (extendLeft a b alo blo i j size).a ∧ blo ≤ (extendLeft a b alo blo i j size).b ∧
      (extendLeft a b alo blo i j size).a + (extendLeft a b alo blo i j size).size = i + size ∧
      (extendLeft a b alo blo i j size).b + (extendLeft a b alo blo i j size).size = j + size := by
  induction i generalizing j size with
  | zero => exact ⟨hi, hj, rfl, rfl⟩
  | succ i ih =>
    cases j with
    | zero => exact ⟨hi, hj, rfl, rfl⟩
    | succ j =>
      rw [extendLeft]
      split_ifs with h
      · obtain ⟨h₁, h₂, h₃, h₄⟩ := ih (j := j) (by omega) (by omega) (size + 1)
        exact ⟨h₁, h₂, by omega, by omega⟩
      · exact ⟨hi, hj, rfl, rfl⟩

theorem extendRight_spec {a b : List α} {ahi bhi i j n size : ℕ} (hi : i + size ≤ ahi)
    (hj : j + size ≤ bhi) :
    i + extendRight a b ahi bhi i j n size ≤ ahi ∧
      j + extendRight a b ahi bhi i j n size ≤ bhi := by
  induction n generalizing size with
  | zero => exact ⟨hi, hj⟩
  | succ n ih =>
    rw [extendRight]
    split_ifs with h
    · exact ih (by omega) (by omega)
    · exact ⟨hi, hj⟩

/-- **A match is inside the region** where it was looked for. -/
theorem inside_findLongestMatch (a b : List α) (r : Region) :
    Inside r (findLongestMatch a b r) := by
  have h := scanInside_scan a b r
  obtain ⟨h₁, h₂, h₃, h₄⟩ := extendLeft_spec (a := a) (b := b) h.alo h.blo (scan a b r).best.size
  have hahi := h.ahi
  have hbhi := h.bhi
  obtain ⟨h₅, h₆⟩ := extendRight_spec (a := a) (b := b) (n := r.ahi - _) (h₃.le.trans hahi)
    (h₄.le.trans hbhi)
  exact ⟨h₁, h₅, h₂, h₆⟩

/-! ### All blocks -/

/-- The part to the left of a block. -/
def Region.left (r : Region) {m : Match} (h : Inside r m) : Region :=
  ⟨r.alo, m.a, r.blo, m.b, h.alo, h.blo⟩

/-- The part to the right of a block. -/
def Region.right (r : Region) {m : Match} (h : Inside r m) : Region :=
  ⟨m.a + m.size, r.ahi, m.b + m.size, r.bhi, h.ahi, h.bhi⟩

/-- `get_matching_blocks`, before blocks next to each other are joined and the empty block is put at
the end; neither changes how many elements match. -/
def matchingBlocks (a b : List α) (r : Region) : List Match :=
  have h := inside_findLongestMatch a b r
  if (findLongestMatch a b r).size = 0 then []
  else
    (if r.alo < (findLongestMatch a b r).a ∧ r.blo < (findLongestMatch a b r).b then
      matchingBlocks a b (r.left h)
    else []) ++
    findLongestMatch a b r ::
    (if (findLongestMatch a b r).a + (findLongestMatch a b r).size < r.ahi ∧
        (findLongestMatch a b r).b + (findLongestMatch a b r).size < r.bhi then
      matchingBlocks a b (r.right h)
    else [])
termination_by r.ahi - r.alo
decreasing_by
  · have hahi := h.ahi
    simp only [Region.left]
    omega
  · have halo := h.alo
    simp only [Region.right]
    omega

/-- How many elements match. -/
def matched (a b : List α) (r : Region) : ℕ := ((matchingBlocks a b r).map Match.size).sum

/-- No more elements match than either part has. -/
theorem matched_le (a b : List α) (r : Region) :
    matched a b r ≤ r.ahi - r.alo ∧ matched a b r ≤ r.bhi - r.blo := by
  unfold matched
  induction r using matchingBlocks.induct a b with
  | case1 r h hsize =>
    rw [matchingBlocks, if_pos hsize]
    exact ⟨Nat.zero_le _, Nat.zero_le _⟩
  | case2 r h hsize ihleft ihright =>
    have halo := h.alo
    have hahi := h.ahi
    have hblo := h.blo
    have hbhi := h.bhi
    have hleft : ((if r.alo < (findLongestMatch a b r).a ∧ r.blo < (findLongestMatch a b r).b then
          matchingBlocks a b (r.left h) else []).map Match.size).sum ≤
            (findLongestMatch a b r).a - r.alo ∧
        ((if r.alo < (findLongestMatch a b r).a ∧ r.blo < (findLongestMatch a b r).b then
          matchingBlocks a b (r.left h) else []).map Match.size).sum ≤
            (findLongestMatch a b r).b - r.blo := by
      split_ifs with hc
      · exact ihleft hc
      · exact ⟨Nat.zero_le _, Nat.zero_le _⟩
    have hright : ((if (findLongestMatch a b r).a + (findLongestMatch a b r).size < r.ahi ∧
            (findLongestMatch a b r).b + (findLongestMatch a b r).size < r.bhi then
          matchingBlocks a b (r.right h) else []).map Match.size).sum ≤
            r.ahi - ((findLongestMatch a b r).a + (findLongestMatch a b r).size) ∧
        ((if (findLongestMatch a b r).a + (findLongestMatch a b r).size < r.ahi ∧
            (findLongestMatch a b r).b + (findLongestMatch a b r).size < r.bhi then
          matchingBlocks a b (r.right h) else []).map Match.size).sum ≤
            r.bhi - ((findLongestMatch a b r).b + (findLongestMatch a b r).size) := by
      split_ifs with hc
      · exact ihright hc
      · exact ⟨Nat.zero_le _, Nat.zero_le _⟩
    rw [matchingBlocks, if_neg hsize]
    simp only [List.map_append, List.map_cons, List.sum_append, List.sum_cons]
    omega

/-- The whole of two sequences. -/
def whole (a b : List α) : Region := ⟨0, a.length, 0, b.length, Nat.zero_le _, Nat.zero_le _⟩

/-- `ratio`. -/
def ratio (a b : List α) : ℚ :=
  if a.length + b.length = 0 then 1
  else 2 * matched a b (whole a b) / ((a.length + b.length : ℕ) : ℚ)

/-- **The ratio** is between zero and one. -/
theorem ratio_mem (a b : List α) : 0 ≤ ratio a b ∧ ratio a b ≤ 1 := by
  unfold ratio
  split_ifs with h
  · exact ⟨zero_le_one, le_rfl⟩
  · obtain ⟨hA, hB⟩ := matched_le a b (whole a b)
    have hpos : (0 : ℚ) < ((a.length + b.length : ℕ) : ℚ) := by
      exact_mod_cast Nat.pos_of_ne_zero h
    have hsum : 2 * matched a b (whole a b) ≤ a.length + b.length := by
      simp only [whole] at hA hB ⊢
      omega
    refine ⟨by positivity, (div_le_one hpos).2 ?_⟩
    exact_mod_cast hsum

/-! ### A sequence and itself -/

/-- How many elements before a place are not popular, without a gap. -/
def runLength (a : List α) : ℕ → ℕ
  | 0 => 0
  | i + 1 => if (a[i]?.any fun x => !popular a x) then runLength a i + 1 else 0

/-- What the search knows when both sequences are the same: no match is longer than the one on the
diagonal. -/
structure Diagonal (a : List α) (i : ℕ) (s : Scan) : Prop where
  leA : ∀ j, s.j2len j ≤ runLength a i
  leB : ∀ j, s.j2len j ≤ runLength a (j + 1)
  diagonal : before s.j2len i = runLength a i
  best : s.best.a = s.best.b
  longest : ∀ t < i, runLength a (t + 1) ≤ s.best.size

/-- Matches that are not longer improve nothing. -/
theorem foldl_improve_of_le {k : ℕ → ℕ} {i : ℕ} {best : Match} {js : List ℕ}
    (h : ∀ j ∈ js, k j ≤ best.size) : js.foldl (improve k i) best = best := by
  induction js with
  | nil => rfl
  | cons j js ih =>
    rw [List.forall_mem_cons] at h
    rw [List.foldl_cons, improve, if_neg (Nat.not_lt.2 h.1)]
    exact ih h.2

theorem mem_places_self {a : List α} {i j : ℕ} (hi : i < a.length) :
    j ∈ places a a 0 a.length i ↔ popular a a[i] = false ∧ a[j]? = some a[i] := by
  have helem : a[i]? = some a[i] := List.getElem?_eq_getElem hi
  rw [places, helem, Option.elim_some, b2j]
  by_cases hpop : popular a a[i] = true
  · simp [hpop]
  · have hlt (h : a[j]? = some a[i]) : j < a.length := (List.getElem?_eq_some_iff.1 h).1
    simp only [hpop, List.mem_filter, decide_eq_true_eq]
    simp
    tauto

theorem before_le_runLength {a : List α} {f : ℕ → ℕ} (h : ∀ j, f j ≤ runLength a (j + 1)) (j : ℕ) :
    before f j ≤ runLength a j := by
  cases j with
  | zero => exact le_rfl
  | succ j => exact h j

theorem sorted_places (a b : List α) (blo bhi i : ℕ) :
    (places a b blo bhi i).Pairwise (· < ·) := by
  rw [places]
  refine List.Pairwise.filter _ ?_
  cases a[i]? with
  | none => exact List.Pairwise.nil
  | some x =>
    rw [Option.elim_some, b2j]
    split_ifs
    · exact List.Pairwise.nil
    · exact List.pairwise_lt_range.filter _

theorem diagonal_row {a : List α} {i : ℕ} {s : Scan} (hi : i < a.length) (h : Diagonal a i s) :
    Diagonal a (i + 1) (row a a 0 a.length s i) := by
  have hrun {j : ℕ} (hj : j ∈ places a a 0 a.length i) :
      runLength a (j + 1) = runLength a j + 1 := by
    obtain ⟨hpop, helem⟩ := (mem_places_self hi).1 hj
    rw [runLength, helem, Option.any_some, hpop]
    rfl
  have hself : i ∈ places a a 0 a.length i ↔ popular a a[i] = false := by
    rw [mem_places_self hi]
    exact and_iff_left (List.getElem?_eq_getElem hi)
  have hrunA {j : ℕ} (hj : j ∈ places a a 0 a.length i) :
      before s.j2len j + 1 ≤ runLength a (i + 1) := by
    have hmem : i ∈ places a a 0 a.length i := hself.2 ((mem_places_self hi).1 hj).1
    rw [hrun hmem]
    exact Nat.succ_le_succ (before_le h.leA)
  have hrunB {j : ℕ} (hj : j ∈ places a a 0 a.length i) :
      before s.j2len j + 1 ≤ runLength a (j + 1) := by
    rw [hrun hj]
    exact Nat.succ_le_succ (before_le_runLength h.leB j)
  have hbest : (row a a 0 a.length s i).best.a = (row a a 0 a.length s i).best.b ∧
      s.best.size ≤ (row a a 0 a.length s i).best.size ∧
      runLength a (i + 1) ≤ (row a a 0 a.length s i).best.size := by
    by_cases hmem : i ∈ places a a 0 a.length i
    · -- the places before `i`, `i` itself and the places after it
      obtain ⟨pre, post, hsplit⟩ := List.append_of_mem hmem
      have hsorted := sorted_places a a 0 a.length i
      rw [hsplit, List.pairwise_append] at hsorted
      have hpre : ∀ j ∈ pre, before s.j2len j + 1 ≤ s.best.size := by
        intro j hj
        have hlt : j < i := hsorted.2.2 j hj i List.mem_cons_self
        have hin : j ∈ places a a 0 a.length i := by
          rw [hsplit]
          exact List.mem_append_left _ hj
        exact (hrunB hin).trans (h.longest j hlt)
      have hki : before s.j2len i + 1 = runLength a (i + 1) := by
        rw [hrun hmem, h.diagonal]
      have himprove : (improve (fun j => before s.j2len j + 1) i s.best i).a =
          (improve (fun j => before s.j2len j + 1) i s.best i).b ∧
          s.best.size ≤ (improve (fun j => before s.j2len j + 1) i s.best i).size ∧
          runLength a (i + 1) ≤ (improve (fun j => before s.j2len j + 1) i s.best i).size := by
        unfold improve
        split_ifs with hlt
        · exact ⟨rfl, hlt.le, hki.ge⟩
        · exact ⟨h.best, le_rfl, hki ▸ Nat.not_lt.1 hlt⟩
      have hpost : ∀ j ∈ post, before s.j2len j + 1 ≤
          (improve (fun j => before s.j2len j + 1) i s.best i).size := by
        intro j hj
        have hin : j ∈ places a a 0 a.length i := by
          rw [hsplit]
          exact List.mem_append_right _ (List.mem_cons_of_mem i hj)
        exact (hrunA hin).trans himprove.2.2
      have hrow : (row a a 0 a.length s i).best =
          improve (fun j => before s.j2len j + 1) i s.best i := by
        change (places a a 0 a.length i).foldl _ s.best = _
        rw [hsplit, List.foldl_append, foldl_improve_of_le hpre, List.foldl_cons,
          foldl_improve_of_le hpost]
      rw [hrow]
      exact himprove
    · have hzero : runLength a (i + 1) = 0 := by
        have hpop : popular a a[i] = true := by
          rw [hself] at hmem
          simpa using hmem
        rw [runLength, List.getElem?_eq_getElem hi, Option.any_some, hpop]
        rfl
      have hnone : places a a 0 a.length i = [] := by
        refine List.eq_nil_iff_forall_not_mem.2 fun j hj => hmem ?_
        exact hself.2 ((mem_places_self hi).1 hj).1
      have hrow : (row a a 0 a.length s i).best = s.best := by
        change (places a a 0 a.length i).foldl _ s.best = _
        rw [hnone]
        rfl
      rw [hrow, hzero]
      exact ⟨h.best, le_rfl, Nat.zero_le _⟩
  refine ⟨fun j => ?_, fun j => ?_, ?_, hbest.1, fun t ht => ?_⟩
  · dsimp only [row]
    split_ifs with hj
    · exact hrunA hj
    · exact Nat.zero_le _
  · dsimp only [row]
    split_ifs with hj
    · exact hrunB hj
    · exact Nat.zero_le _
  · change (if i ∈ places a a 0 a.length i then before s.j2len i + 1 else 0) = _
    split_ifs with hmem
    · rw [hrun hmem, h.diagonal]
    · have hpop : popular a a[i] = true := by
        rw [hself] at hmem
        simpa using hmem
      rw [runLength, List.getElem?_eq_getElem hi, Option.any_some, hpop]
      rfl
  · rcases Nat.lt_succ_iff_lt_or_eq.1 ht with hlt | rfl
    · exact (h.longest t hlt).trans hbest.2.1
    · exact hbest.2.2

/-- Of a sequence and itself the best match is on the diagonal. -/
theorem scan_self (a : List α) : (scan a a (whole a a)).best.a = (scan a a (whole a a)).best.b := by
  have h : Diagonal a (0 + (a.length - 0)) (scan a a (whole a a)) :=
    foldl_range'_induction (P := Diagonal a)
      ⟨fun _ => Nat.zero_le _, fun _ => Nat.zero_le _, rfl, rfl, fun t ht => absurd ht (by omega)⟩
      (fun i s _ hi hs => diagonal_row (by omega) hs)
  exact h.best

theorem extendLeft_self (a : List α) (i size : ℕ) :
    extendLeft a a 0 0 i i size = ⟨0, 0, i + size⟩ := by
  induction i generalizing size with
  | zero => rw [extendLeft, Nat.zero_add]; simp
  | succ i ih =>
    rw [extendLeft, if_pos ⟨Nat.succ_pos i, Nat.succ_pos i, rfl⟩, ih, Nat.add_right_comm,
      Nat.add_assoc]

theorem extendRight_self (a : List α) {n size : ℕ} (h : size + n = a.length) :
    extendRight a a a.length a.length 0 0 n size = a.length := by
  induction n generalizing size with
  | zero => exact h
  | succ n ih =>
    rw [extendRight, if_pos ⟨by omega, by omega, rfl⟩]
    exact ih (by omega)

/-- **The longest block** of a sequence and itself is all of it. -/
theorem findLongestMatch_self (a : List α) :
    findLongestMatch a a (whole a a) = ⟨0, 0, a.length⟩ := by
  have hahi := (scanInside_scan a a (whole a a)).ahi
  have hleft : extendLeft a a (whole a a).alo (whole a a).blo (scan a a (whole a a)).best.a
      (scan a a (whole a a)).best.b (scan a a (whole a a)).best.size =
        ⟨0, 0, (scan a a (whole a a)).best.a + (scan a a (whole a a)).best.size⟩ := by
    rw [← scan_self]
    exact extendLeft_self a _ _
  have hright := extendRight_self a
    (Nat.add_sub_cancel' hahi : _ + (a.length - _) = a.length)
  simp only [findLongestMatch]
  rw [hleft]
  simp only [whole, Nat.zero_add] at hright ⊢
  rw [hright]

/-- **The ratio** of a sequence and itself is one. -/
theorem ratio_self (a : List α) : ratio a a = 1 := by
  unfold ratio
  split_ifs with h
  · rfl
  · have hsize : a.length ≠ 0 := by omega
    have hself := findLongestMatch_self a
    have hsome : (findLongestMatch a a (whole a a)).size ≠ 0 := by rwa [hself]
    have hblocks : matchingBlocks a a (whole a a) = [⟨0, 0, a.length⟩] := by
      rw [matchingBlocks, if_neg hsome, if_neg (by simp [hself]), if_neg (by rw [hself]; simp [whole]),
        hself]
      rfl
    have hmatched : matched a a (whole a a) = a.length := by
      rw [matched, hblocks]
      rfl
    have hne : ((a.length + a.length : ℕ) : ℚ) ≠ 0 := by exact_mod_cast h
    rw [hmatched, div_eq_one_iff_eq hne]
    push_cast
    exact two_mul _

end SequenceMatcher

end AnnyRuntime
