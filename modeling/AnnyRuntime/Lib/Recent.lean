import Mathlib.Algebra.Order.BigOperators.Group.List
import Mathlib.Algebra.Order.Group.Nat
import Mathlib.Data.List.Nodup

/-!
# Readers of a window of recent elements

A window keeps the last `n` of the elements that are appended to it (`recent`).  A reader looks at
it now and then and takes what it has not seen yet, as told by a key, until it is closed.

`sent_watch` : **a reader takes, of what was appended between two looks, the last `n` elements**, in
order and each once, whatever was appended; so it misses something exactly when more than `n`
elements are appended between two looks (`flatten_recent_iff`).
-/

namespace AnnyRuntime

namespace Recent

variable {α κ : Type*} {n : ℕ}

/-! ### Windows -/

/-- The last `n` elements. -/
def recent (n : ℕ) (l : List α) : List α := l.drop (l.length - n)

/-- Append to a window of at most `n` elements. -/
def push (n : ℕ) (w : List α) (a : α) : List α := recent n (w ++ [a])

theorem recent_suffix (l : List α) : recent n l <:+ l := List.drop_suffix _ _

theorem recent_eq_self_iff {l : List α} : recent n l = l ↔ l.length ≤ n := by
  rw [recent]
  constructor
  · intro h
    have hlen := congrArg List.length h
    rw [List.length_drop] at hlen
    omega
  · intro h
    rw [Nat.sub_eq_zero_of_le h, List.drop_zero]

theorem length_recent (l : List α) : (recent n l).length = min l.length n := by
  rw [recent, List.length_drop]
  omega

theorem recent_append (l m : List α) :
    recent n (l ++ m) = recent (n - m.length) l ++ recent n m := by
  rw [recent, recent, recent, List.drop_append, List.length_append]
  have hright : l.length + m.length - n - l.length = m.length - n := by omega
  rw [hright]
  by_cases h : m.length ≤ n
  · have hleft : l.length + m.length - n = l.length - (n - m.length) := by omega
    rw [hleft]
  · -- the batch is longer than the window
    have hold : l.drop (l.length + m.length - n) = [] := List.drop_eq_nil_of_le (by omega)
    have hnone : l.drop (l.length - (n - m.length)) = [] := List.drop_eq_nil_of_le (by omega)
    rw [hold, hnone]

theorem recent_recent {m : ℕ} (h : m ≤ n) (l : List α) : recent m (recent n l) = recent m l := by
  have hsum : l.length - n + (l.length - (l.length - n) - m) = l.length - m := by omega
  rw [recent, recent, List.length_drop, List.drop_drop, hsum, recent]

/-- **A window is the last of all that was appended.** -/
theorem push_recent (l : List α) (a : α) : push n (recent n l) a = recent n (l ++ [a]) := by
  rw [push, recent_append, recent_append, recent_recent (Nat.sub_le _ _)]

theorem recent_le {m : ℕ} (h : m ≤ n) (l : List α) : recent m l <:+ recent n l := by
  rw [recent, recent]
  exact List.drop_suffix_drop_left l (by omega)

/-- Nothing is missed exactly when no batch is longer than the window. -/
theorem flatten_recent_iff {bs : List (List α)} :
    (bs.map (recent n)).flatten = bs.flatten ↔ ∀ b ∈ bs, b.length ≤ n := by
  constructor
  · intro h b hb
    induction bs with
    | nil => cases hb
    | cons c bs ih =>
      have hle : ((bs.map (recent n)).flatten).length ≤ bs.flatten.length := by
        rw [List.length_flatten, List.length_flatten, List.map_map]
        refine List.sum_le_sum fun x _ => ?_
        rw [Function.comp_apply, length_recent]
        omega
      rw [List.map_cons, List.flatten_cons, List.flatten_cons] at h
      have hlen := congrArg List.length h
      rw [List.length_append, List.length_append, length_recent] at hlen
      have hc : c.length ≤ n := by omega
      rw [recent_eq_self_iff.2 hc, List.append_cancel_left_eq] at h
      rcases List.mem_cons.1 hb with rfl | hb
      · exact hc
      · exact ih h hb
  · intro h
    have hmap : bs.map (recent n) = bs.map id :=
      List.map_congr_left fun b hb => recent_eq_self_iff.2 (h b hb)
    rw [hmap, List.map_id]

/-! ### Readers -/

/-- A reader. -/
structure Reader (α κ : Type*) where
  /-- What it has taken. -/
  sent : List α := []
  /-- The keys that it has seen. -/
  seen : List κ := []
  /-- How many more elements it takes before it is closed. -/
  accepts : ℕ
  /-- It is not closed. -/
  isOpen : Bool := true

namespace Reader

variable [DecidableEq κ] (key : α → κ)

/-- The reader takes an element, or is closed. -/
def take (r : Reader α κ) (a : α) : Reader α κ :=
  if r.isOpen then
    match r.accepts with
    | 0 => { r with isOpen := false }
    | m + 1 => { r with sent := r.sent ++ [a], seen := r.seen ++ [key a], accepts := m }
  else r

/-- It takes all that is in the window. -/
def connect (r : Reader α κ) (w : List α) : Reader α κ := w.foldl (fun r a => r.take key a) r

/-- It takes what is in the window and was not seen. -/
def poll (r : Reader α κ) (w : List α) : Reader α κ :=
  w.foldl (fun r a => if key a ∈ r.seen then r else r.take key a) r

/-- It looks at the window after each batch of elements that are appended to `l`. -/
def watch (n : ℕ) : Reader α κ → List α → List (List α) → Reader α κ
  | r, _, [] => r
  | r, l, b :: bs => watch n (r.poll key (recent n (l ++ b))) (l ++ b) bs

variable {key} {r : Reader α κ} {l w : List α}

omit [DecidableEq κ] in
theorem take_closed (h : r.isOpen = false) (a : α) : r.take key a = r := by
  rw [take, h]
  rfl

theorem poll_closed (h : r.isOpen = false) (w : List α) : r.poll key w = r := by
  induction w with
  | nil => rfl
  | cons a w ih =>
    rw [poll, List.foldl_cons]
    split_ifs
    · exact ih
    · rw [take_closed h]
      exact ih

/-- What was seen is not taken again. -/
theorem poll_seen (h : ∀ a ∈ w, key a ∈ r.seen) : r.poll key w = r := by
  induction w with
  | nil => rfl
  | cons a w ih =>
    obtain ⟨ha, hw⟩ := List.forall_mem_cons.1 h
    rw [poll, List.foldl_cons, if_pos ha]
    exact ih hw

omit [DecidableEq κ] in
/-- Taking all of a list, as far as the reader goes. -/
theorem connect_eq (h : r.isOpen = true) (w : List α) :
    r.connect key w =
      { sent := r.sent ++ w.take r.accepts
        seen := r.seen ++ (w.take r.accepts).map key
        accepts := r.accepts - w.length
        isOpen := decide (w.length ≤ r.accepts) } := by
  induction w generalizing r with
  | nil => simp [connect, ← h]
  | cons a w ih =>
    rw [connect, List.foldl_cons, take, if_pos h]
    cases hm : r.accepts with
    | zero =>
      have hclosed : ∀ w : List α, ({ r with isOpen := false } : Reader α κ).connect key w =
          { r with isOpen := false } := by
        intro w
        induction w with
        | nil => rfl
        | cons b w ihw => exact ihw
      show ({ r with isOpen := false, accepts := 0 } : Reader α κ).connect key w = _
      rw [← hm, hclosed w, hm]
      simp
    | succ m =>
      refine (ih (r := { r with sent := r.sent ++ [a], seen := r.seen ++ [key a], accepts := m })
        h).trans ?_
      simp

/-- What was not seen is taken, when no key occurs twice. -/
theorem poll_new (hnew : ∀ a ∈ w, key a ∉ r.seen) (hnodup : (w.map key).Nodup) :
    r.poll key w = r.connect key w := by
  induction w generalizing r with
  | nil => rfl
  | cons a w ih =>
    obtain ⟨ha, hw⟩ := List.forall_mem_cons.1 hnew
    rw [List.map_cons, List.nodup_cons] at hnodup
    rw [poll, List.foldl_cons, if_neg ha, connect, List.foldl_cons]
    refine ih (fun b hb hseen => ?_) hnodup.2
    have hcases : (r.take key a).seen = r.seen ∨ (r.take key a).seen = r.seen ++ [key a] := by
      rw [take]
      split_ifs
      · split
        · exact .inl rfl
        · exact .inr rfl
      · exact .inl rfl
    rcases hcases with hs | hs
    · exact hw b hb (hs ▸ hseen)
    · rw [hs, List.mem_append, List.mem_singleton] at hseen
      rcases hseen with hseen | hseen
      · exact hw b hb hseen
      · exact hnodup.1 (hseen ▸ List.mem_map_of_mem hb)

/-- A reader that has taken all it could of some batches, which make up `l`, and is closed when it
takes no more; it takes `m` elements in all. -/
structure Follows (key : α → κ) (n m : ℕ) (r : Reader α κ) (l : List α) (taken : List α) :
    Prop where
  sent : r.sent = taken.take m
  open_iff : r.isOpen = true ↔ taken.length ≤ m
  seen : r.isOpen = true → r.seen = taken.map key ∧ r.accepts = m - taken.length
  /-- It has taken what is in the window. -/
  window : recent n l ⊆ taken
  subset : taken ⊆ l

/-- **Step.**  A look takes the last elements of the batch. -/
theorem Follows.poll {m : ℕ} {taken b : List α} (h : Follows key n m r l taken)
    (hnodup : ((l ++ b).map key).Nodup) :
    Follows key n m (r.poll key (recent n (l ++ b))) (l ++ b) (taken ++ recent n b) := by
  have hsub : recent n b ⊆ b := (recent_suffix b).subset
  have hwindow : recent n (l ++ b) ⊆ taken ++ recent n b := by
    rw [recent_append]
    refine List.append_subset.2 ⟨fun a ha => ?_, fun a ha => List.mem_append_right _ ha⟩
    exact List.mem_append_left _ (h.window ((recent_le (Nat.sub_le _ _) l).subset ha))
  have hsubset : taken ++ recent n b ⊆ l ++ b := by
    refine List.append_subset.2 ⟨fun a ha => ?_, fun a ha => ?_⟩
    · exact List.mem_append_left _ (h.subset ha)
    · exact List.mem_append_right _ (hsub ha)
  by_cases hopen : r.isOpen = true
  · obtain ⟨hseen, haccepts⟩ := h.seen hopen
    have hle := h.open_iff.1 hopen
    rw [List.map_append, List.nodup_append] at hnodup
    obtain ⟨-, hb, hdisjoint⟩ := hnodup
    have hold : r.poll key (recent (n - b.length) l) = r := by
      refine poll_seen fun a ha => ?_
      rw [hseen]
      exact List.mem_map_of_mem (h.window ((recent_le (Nat.sub_le _ _) l).subset ha))
    have hnew : r.poll key (recent n b) = r.connect key (recent n b) := by
      refine poll_new (fun a ha hmem => ?_) (hb.sublist ((recent_suffix b).sublist.map key))
      rw [hseen] at hmem
      obtain ⟨c, hc, hkey⟩ := List.mem_map.1 hmem
      exact hdisjoint _ (List.mem_map_of_mem (h.subset hc)) _ (List.mem_map_of_mem (hsub ha)) hkey
    have hpoll : r.poll key (recent n (l ++ b)) = r.connect key (recent n b) := by
      rw [recent_append, Reader.poll, List.foldl_append]
      show Reader.poll key (r.poll key _) _ = _
      rw [hold, hnew]
    rw [hpoll, connect_eq hopen]
    refine ⟨?_, ?_, fun hfits => ?_, hwindow, hsubset⟩
    · rw [h.sent, haccepts, List.take_of_length_le hle, List.take_append,
        List.take_of_length_le hle]
    · rw [decide_eq_true_eq, haccepts, List.length_append]
      omega
    · have hfits' : (recent n b).length ≤ r.accepts := of_decide_eq_true hfits
      dsimp only
      rw [List.take_of_length_le hfits', hseen, haccepts, List.length_append, List.map_append]
      exact ⟨rfl, by omega⟩
  · have hclosed : r.isOpen = false := by simpa using hopen
    have hlt : ¬ taken.length ≤ m := fun hle => hopen (h.open_iff.2 hle)
    rw [poll_closed hclosed]
    refine ⟨?_, ?_, fun ho => absurd ho hopen, hwindow, hsubset⟩
    · rw [h.sent, List.take_append_of_le_length (by omega)]
    · rw [List.length_append]
      exact iff_of_false hopen (by omega)

/-- **Run.** -/
theorem Follows.watch {m : ℕ} {taken : List α} {bs : List (List α)}
    (h : Follows key n m r l taken) (hnodup : ((l ++ bs.flatten).map key).Nodup) :
    Follows key n m (r.watch key n l bs) (l ++ bs.flatten)
      (taken ++ (bs.map (recent n)).flatten) := by
  induction bs generalizing r l taken with
  | nil =>
    rw [List.map_nil, List.flatten_nil, List.append_nil, List.append_nil]
    exact h
  | cons b bs ih =>
    rw [List.flatten_cons, ← List.append_assoc] at hnodup ⊢
    rw [List.map_cons, List.flatten_cons, ← List.append_assoc]
    refine ih (h.poll ?_) hnodup
    rw [List.map_append] at hnodup
    exact (List.nodup_append.1 hnodup).1

omit [DecidableEq κ] in
/-- A reader that takes the window first. -/
theorem follows_connect (m : ℕ) (l : List α) :
    Follows key n m (({ accepts := m } : Reader α κ).connect key (recent n l)) l (recent n l) := by
  rw [connect_eq rfl]
  refine ⟨by rw [List.nil_append], by rw [decide_eq_true_eq], fun hfits => ?_, fun _ h => h,
    (recent_suffix l).subset⟩
  rw [List.nil_append, List.take_of_length_le (of_decide_eq_true hfits)]
  exact ⟨rfl, rfl⟩

/-- **What a reader takes**: the window when it comes, and of each batch the last elements, until it
is closed. -/
theorem sent_watch (m : ℕ) {bs : List (List α)} (hnodup : ((l ++ bs.flatten).map key).Nodup) :
    ((({ accepts := m } : Reader α κ).connect key (recent n l)).watch key n l bs).sent =
      (((l :: bs).map (recent n)).flatten).take m :=
  ((follows_connect m l).watch hnodup).sent

end Reader

end Recent

end AnnyRuntime
