import AnnyRuntime.Core.Generation

/-!
# When the generations grow

Between the truncation and the moment the buffer reaches the file, the counter is in no file.  An
increment that reads the file then starts again at one; the lock does not prevent this, because it
is released before the file is closed, and because a crash releases it.

If no instance reads the file while another one is between these two steps (or has crashed there),
every value that is returned is above all values returned before (`increasing_of_reads_whole`).
-/

namespace AnnyRuntime

namespace Core

namespace Instances

/-! ### What a step does -/

/-- What the steps of an instance do, and when it can take them. -/
def Effect (s : Instances) (i : ℕ) (t : Instances) : Op → Prop
  | .construct => (s.inst i).phase = .fresh ∧ ∃ g, readCounter s.text = some g ∧
      t = s.set i { s.inst i with phase := .idle, generation := ⟨g⟩ }
  | .openFile => (s.inst i).phase = .idle ∧
      t = { s.set i { s.inst i with phase := .opened } with file := some s.text }
  | .lock => (s.inst i).phase = .opened ∧ s.lock = none ∧
      t = { s.set i { s.inst i with phase := .locked } with lock := some i }
  | .read => (s.inst i).phase = .locked ∧
      ((∃ n, readCounter s.text = some n ∧
          t = s.set i { s.inst i with phase := .read, generation := ⟨n + 1⟩ }) ∨
        t = { s.set i { s.inst i with phase := .idle } with lock := s.release i })
  | .truncate => (s.inst i).phase = .read ∧
      t = { s.set i { s.inst i with phase := .truncated } with file := some [] }
  | .write now => (s.inst i).phase = .truncated ∧
      t = s.set i { s.inst i with
        phase := .written
        buffer := counterText (s.inst i).generation.current now }
  | .unlock => (s.inst i).phase = .written ∧
      t = { s.set i { s.inst i with phase := .unlocked } with lock := s.release i }
  | .flush => (s.inst i).phase = .unlocked ∧
      t = { s.set i { s.inst i with phase := .idle } with
        file := some (overwrite s.text (s.inst i).buffer)
        returned := (s.inst i).generation.current :: s.returned }
  | .crash => t = { s.set i { s.inst i with alive := false } with lock := s.release i }

theorem effect_of_next {s t : Instances} {i : ℕ} {op : Op} (h : s.next (i, op) = some t) :
    (s.inst i).alive = true ∧ Effect s i t op := by
  unfold next at h
  dsimp only at h
  by_cases ha : (s.inst i).alive = true
  swap
  · rw [if_pos (by simpa using ha)] at h
    exact absurd h (by simp)
  refine ⟨ha, ?_⟩
  rw [if_neg (by simpa using ha)] at h
  cases op with
  | construct =>
    cases hp : (s.inst i).phase <;> simp only [hp, reduceCtorEq] at h
    obtain ⟨g, hg, rfl⟩ := Option.map_eq_some_iff.1 h
    exact ⟨hp, g, hg, rfl⟩
  | openFile =>
    cases hp : (s.inst i).phase <;> simp only [hp, reduceCtorEq, Option.some.injEq] at h
    exact ⟨hp, h.symm⟩
  | lock =>
    cases hp : (s.inst i).phase <;> simp only [hp, reduceCtorEq] at h
    split_ifs at h with hl
    exact ⟨hp, hl, (Option.some.inj h).symm⟩
  | read =>
    cases hp : (s.inst i).phase <;> simp only [hp, reduceCtorEq] at h
    cases hr : readCounter s.text with
    | some n =>
      simp only [hr, Option.some.injEq] at h
      exact ⟨hp, Or.inl ⟨n, hr, h.symm⟩⟩
    | none =>
      simp only [hr, Option.some.injEq] at h
      exact ⟨hp, Or.inr h.symm⟩
  | truncate =>
    cases hp : (s.inst i).phase <;> simp only [hp, reduceCtorEq, Option.some.injEq] at h
    exact ⟨hp, h.symm⟩
  | write now =>
    cases hp : (s.inst i).phase <;> simp only [hp, reduceCtorEq, Option.some.injEq] at h
    exact ⟨hp, h.symm⟩
  | unlock =>
    cases hp : (s.inst i).phase <;> simp only [hp, reduceCtorEq, Option.some.injEq] at h
    exact ⟨hp, h.symm⟩
  | flush =>
    cases hp : (s.inst i).phase <;> simp only [hp, reduceCtorEq, Option.some.injEq] at h
    exact ⟨hp, h.symm⟩
  -- a process can die in every phase
  | crash =>
    cases hp : (s.inst i).phase <;> simp only [hp, Option.some.injEq] at h <;>
      simp only [Effect, hp] <;> exact h.symm

/-! ### The invariant -/

/-- The instance has truncated the file, and its buffer has not reached it. -/
def Torn (p : Instance) : Prop :=
  p.phase = .truncated ∨ p.phase = .written ∨ p.phase = .unlocked

/-- The instance is in the part of `increment` that the lock covers. -/
def Holds (p : Instance) : Prop :=
  p.alive = true ∧
    (p.phase = .locked ∨ p.phase = .read ∨ p.phase = .truncated ∨ p.phase = .written)

/-- The instance has read the counter, and the file does not have its value yet. -/
def Pending (p : Instance) : Prop := Torn p ∨ (p.alive = true ∧ p.phase = .read)

/-- What holds as long as no instance reads a torn file. -/
structure Orderly (s : Instances) : Prop where
  /-- The lock is with the instance that is in the locked part. -/
  holder : ∀ i, s.lock = some i ↔ Holds (s.inst i)
  /-- One value is pending at a time. -/
  sole : ∀ i j, Pending (s.inst i) → Pending (s.inst j) → i = j
  /-- A torn file is empty. -/
  emptied : ∀ i, Torn (s.inst i) → s.file = some []
  /-- A file that is not torn has the highest value. -/
  stored : (∀ i, ¬ Torn (s.inst i)) → ∀ n, readCounter s.text = some n → ∀ r ∈ s.returned, r ≤ n
  /-- A pending value is above all that were returned. -/
  ahead : ∀ i, (s.inst i).alive = true → Pending (s.inst i) →
    ∀ r ∈ s.returned, r < (s.inst i).generation.current
  /-- The buffer has the pending value. -/
  buffered : ∀ i, (s.inst i).phase = .written ∨ (s.inst i).phase = .unlocked →
    ∃ now, (s.inst i).buffer = counterText (s.inst i).generation.current now
  /-- The values that were returned grow. -/
  increasing : s.returned.Pairwise (· > ·)

/-- No instance reads the file while another one has torn it. -/
def ReadsWhole (s : Instances) (a : ℕ × Op) : Prop := a.2 = .read → ∀ j, ¬ Torn (s.inst j)

theorem orderly_of_start {s : Instances} (h : Start s) : Orderly s := by
  obtain ⟨file, rfl⟩ := h
  constructor <;> simp [Holds, Pending, Torn]

theorem inst_set (s : Instances) (i j : ℕ) (p : Instance) :
    (s.set i p).inst j = if j = i then p else s.inst j := by
  simp [set, Function.update_apply]

/-- A step of an instance changes no other one. -/
theorem frame_of_next {s t : Instances} {i : ℕ} {op : Op} (h : s.next (i, op) = some t) :
    ∃ p, t.inst = (s.set i p).inst := by
  obtain ⟨-, he⟩ := effect_of_next h
  cases op with
  | construct => obtain ⟨-, g, -, rfl⟩ := he; exact ⟨_, rfl⟩
  | openFile => obtain ⟨-, rfl⟩ := he; exact ⟨_, rfl⟩
  | lock => obtain ⟨-, -, rfl⟩ := he; exact ⟨_, rfl⟩
  | read => obtain ⟨-, ⟨n, -, rfl⟩ | rfl⟩ := he <;> exact ⟨_, rfl⟩
  | truncate => obtain ⟨-, rfl⟩ := he; exact ⟨_, rfl⟩
  | write now => obtain ⟨-, rfl⟩ := he; exact ⟨_, rfl⟩
  | unlock => obtain ⟨-, rfl⟩ := he; exact ⟨_, rfl⟩
  | flush => obtain ⟨-, rfl⟩ := he; exact ⟨_, rfl⟩
  | crash => obtain rfl := he; exact ⟨_, rfl⟩

theorem Torn.pending {p : Instance} (h : Torn p) : Pending p := Or.inl h

/-! ### What keeps the invariant -/

section Keep

variable {s t : Instances} {i : ℕ} {p : Instance}

theorem Orderly.holder_keep (h : Orderly s) (hp : Holds p ↔ Holds (s.inst i)) (j : ℕ) :
    s.lock = some j ↔ Holds ((s.set i p).inst j) := by
  rw [inst_set]
  by_cases hj : j = i
  · rw [if_pos hj, hp, hj, h.holder]
  · rw [if_neg hj, h.holder]

theorem Orderly.holder_release (h : Orderly s) (hp : ¬ Holds p) (j : ℕ) :
    s.release i = some j ↔ Holds ((s.set i p).inst j) := by
  rw [inst_set, release]
  by_cases hj : j = i
  · rw [if_pos hj, hj]
    refine iff_of_false ?_ hp
    split_ifs with hl
    · simp
    · exact hl
  · rw [if_neg hj, ← h.holder]
    split_ifs with hl
    · rw [hl, Option.some.injEq]
      exact iff_of_false (by simp) (Ne.symm hj)
    · rfl

theorem Orderly.holder_acquire (h : Orderly s) (hl : s.lock = none) (hp : Holds p) (j : ℕ) :
    some i = some j ↔ Holds ((s.set i p).inst j) := by
  rw [inst_set, Option.some.injEq]
  by_cases hj : j = i
  · rw [if_pos hj]
    exact iff_of_true hj.symm hp
  · rw [if_neg hj, ← h.holder, hl]
    exact iff_of_false (Ne.symm hj) (by simp)

/-- A step of an instance that has no value pending, before or after. -/
theorem Orderly.quiet (h : Orderly s) (hinst : t.inst = (s.set i p).inst)
    (hlock : ∀ j, t.lock = some j ↔ Holds ((s.set i p).inst j))
    (hfile : t.file = s.file ∨ t.file = some s.text) (hret : t.returned = s.returned)
    (hi : ¬ Pending (s.inst i)) (hp : ¬ Pending p) : Orderly t := by
  have hpend : ∀ j, Pending (t.inst j) → t.inst j = s.inst j := by
    intro j hj
    rw [hinst, inst_set] at hj ⊢
    split_ifs at hj ⊢ with hji
    · exact absurd hj hp
    · rfl
  have htorn : ∀ j, Torn (s.inst j) → t.inst j = s.inst j := by
    intro j hj
    rw [hinst, inst_set, if_neg]
    rintro rfl
    exact hi hj.pending
  -- opening or writing nothing leaves what a reader of the file sees
  have htext : t.text = s.text := by
    rcases hfile with hf | hf <;> simp [text, hf]
  constructor
  · intro j
    rw [hlock, hinst]
  · intro j k hj hk
    exact h.sole j k (hpend j hj ▸ hj) (hpend k hk ▸ hk)
  · intro j hj
    have hs := h.emptied j (hpend j hj.pending ▸ hj)
    rcases hfile with hf | hf
    · rw [hf, hs]
    · rw [hf, text, hs]
      rfl
  · intro hno n hn r hr
    refine h.stored (fun j hj => hno j ?_) n (htext ▸ hn) r (hret ▸ hr)
    rw [htorn j hj]
    exact hj
  · intro j hj hjp r hr
    have heq := hpend j hjp
    rw [heq] at hj hjp ⊢
    exact h.ahead j hj hjp r (hret ▸ hr)
  · intro j hj
    have hjt : Torn (t.inst j) := hj.elim (fun h => Or.inr (Or.inl h)) fun h => Or.inr (Or.inr h)
    rw [hpend j hjt.pending] at hj ⊢
    exact h.buffered j hj
  · rw [hret]
    exact h.increasing

/-- A step after which one instance has a value pending, and no other one. -/
theorem orderly_of_pending (hinst : t.inst = (s.set i p).inst)
    (hlock : ∀ j, t.lock = some j ↔ Holds ((s.set i p).inst j))
    (hothers : ∀ j, j ≠ i → ¬ Pending (s.inst j))
    (hempty : Torn p → t.file = some [])
    (hstored : ¬ Torn p → ∀ n, readCounter t.text = some n → ∀ r ∈ t.returned, r ≤ n)
    (hahead : ∀ r ∈ t.returned, r < p.generation.current)
    (hbuf : p.phase = .written ∨ p.phase = .unlocked →
      ∃ now, p.buffer = counterText p.generation.current now)
    (hinc : t.returned.Pairwise (· > ·)) : Orderly t := by
  have hself : t.inst i = p := by rw [hinst, inst_set, if_pos rfl]
  -- whoever has a value pending is the instance that took the step
  have hone : ∀ j, Pending (t.inst j) → j = i := by
    intro j hj
    by_contra hji
    rw [hinst, inst_set, if_neg hji] at hj
    exact hothers j hji hj
  constructor
  · intro j
    rw [hlock, hinst]
  · intro j k hj hk
    rw [hone j hj, hone k hk]
  · intro j hj
    rw [hone j hj.pending, hself] at hj
    exact hempty hj
  · intro hno
    exact hstored (hself ▸ hno i)
  · intro j hj hjp
    rw [hone j hjp, hself]
    exact hahead
  · intro j hj
    have hjt : Torn (t.inst j) := hj.elim (fun h => Or.inr (Or.inl h)) fun h => Or.inr (Or.inr h)
    rw [hone j hjt.pending, hself] at hj ⊢
    exact hbuf hj
  · exact hinc

end Keep

/-! ### Steps -/

/-- The reader of a file that nobody has torn is the only one with a pending value. -/
theorem Orderly.others_of_read {s : Instances} {i : ℕ} (h : Orderly s) (hi : Holds (s.inst i))
    (hno : ∀ j, ¬ Torn (s.inst j)) (j : ℕ) (hj : j ≠ i) : ¬ Pending (s.inst j) := by
  rintro (ht | ⟨ha, hr⟩)
  · exact hno j ht
  · have hjl := (h.holder j).2 ⟨ha, Or.inr (Or.inl hr)⟩
    rw [(h.holder i).2 hi, Option.some.injEq] at hjl
    exact hj hjl.symm

theorem Orderly.others_of_pending {s : Instances} {i : ℕ} (h : Orderly s)
    (hi : Pending (s.inst i)) (j : ℕ) (hj : j ≠ i) : ¬ Pending (s.inst j) :=
  fun hjp => hj (h.sole j i hjp hi)

/-- The buffer is written to the file. -/
theorem Orderly.flush {s : Instances} {i : ℕ} (h : Orderly s) (ha : (s.inst i).alive = true)
    (hp : (s.inst i).phase = .unlocked) :
    Orderly { s.set i { s.inst i with phase := .idle } with
      file := some (overwrite s.text (s.inst i).buffer)
      returned := (s.inst i).generation.current :: s.returned } := by
  have htorn : Torn (s.inst i) := Or.inr (Or.inr hp)
  have hahead := h.ahead i ha htorn.pending
  obtain ⟨now, hnow⟩ := h.buffered i (Or.inr hp)
  -- the file is empty, so the buffer becomes all of it
  have hfile : overwrite s.text (s.inst i).buffer =
      counterText (s.inst i).generation.current now := by
    rw [text, h.emptied i htorn, hnow]
    simp [overwrite]
  have hnone : ∀ j, ¬ Pending ((s.set i { s.inst i with phase := .idle }).inst j) := by
    intro j
    rw [inst_set]
    split_ifs with hj
    · simp [Pending, Torn]
    · exact h.others_of_pending htorn.pending j hj
  constructor
  · exact h.holder_keep (by simp [Holds, hp])
  · exact fun j _ hj => absurd hj (hnone j)
  · exact fun j hj => absurd hj.pending (hnone j)
  · intro _ n hn r hr
    have hn' : readCounter (overwrite s.text (s.inst i).buffer) = some n := hn
    rw [hfile, readCounter_counterText, Option.some.injEq] at hn'
    rcases List.mem_cons.1 hr with rfl | hr
    · exact le_of_eq hn'
    · exact hn' ▸ le_of_lt (hahead r hr)
  · exact fun j _ hj => absurd hj (hnone j)
  · intro j hj
    refine absurd (Torn.pending ?_) (hnone j)
    exact hj.elim (fun h => Or.inr (Or.inl h)) fun h => Or.inr (Or.inr h)
  · exact List.pairwise_cons.2 ⟨hahead, h.increasing⟩

/-- The process of an instance ends. -/
theorem Orderly.crash {s : Instances} (h : Orderly s) (i : ℕ) :
    Orderly { s.set i { s.inst i with alive := false } with lock := s.release i } := by
  have hpend : ∀ j, Pending ((s.set i { s.inst i with alive := false }).inst j) →
      Pending (s.inst j) := by
    intro j
    rw [inst_set]
    split_ifs with hj
    · rintro (ht | ⟨hf, -⟩)
      · exact hj ▸ Or.inl ht
      · exact absurd hf (by simp)
    · exact id
  have htorn : ∀ j, Torn ((s.set i { s.inst i with alive := false }).inst j) ↔
      Torn (s.inst j) := by
    intro j
    rw [inst_set]
    split_ifs with hj
    · rw [hj]
      exact Iff.rfl
    · exact Iff.rfl
  constructor
  · exact h.holder_release (by simp [Holds])
  · exact fun j k hj hk => h.sole j k (hpend j hj) (hpend k hk)
  · exact fun j hj => h.emptied j ((htorn j).1 hj)
  · exact fun hno => h.stored fun j hj => hno j ((htorn j).2 hj)
  · intro j hj hjp
    have hji : j ≠ i := by
      rintro rfl
      simp [inst_set] at hj
    have heq : (s.set i { s.inst i with alive := false }).inst j = s.inst j := by
      rw [inst_set, if_neg hji]
    simp only [heq] at hj hjp ⊢
    exact h.ahead j hj hjp
  · intro j
    rw [inst_set]
    split_ifs
    · exact h.buffered i
    · exact h.buffered j
  · exact h.increasing

theorem Orderly.step {s t : Instances} {a : ℕ × Op} (h : Orderly s) (hok : ReadsWhole s a)
    (hstep : s.next a = some t) : Orderly t := by
  obtain ⟨i, op⟩ := a
  obtain ⟨ha, he⟩ := effect_of_next hstep
  cases op with
  | construct =>
    obtain ⟨hp, g, -, rfl⟩ := he
    exact h.quiet rfl (h.holder_keep (by simp [Holds, hp])) (Or.inl rfl) rfl
      (by simp [Pending, Torn, hp]) (by simp [Pending, Torn])
  | openFile =>
    obtain ⟨hp, rfl⟩ := he
    exact h.quiet rfl (h.holder_keep (by simp [Holds, hp])) (Or.inr rfl) rfl
      (by simp [Pending, Torn, hp]) (by simp [Pending, Torn])
  | lock =>
    obtain ⟨hp, hl, rfl⟩ := he
    exact h.quiet rfl (h.holder_acquire hl ⟨ha, Or.inl rfl⟩) (Or.inl rfl) rfl
      (by simp [Pending, Torn, hp]) (by simp [Pending, Torn])
  | read =>
    obtain ⟨hp, ⟨n, hn, rfl⟩ | rfl⟩ := he
    · have hhold : Holds (s.inst i) := ⟨ha, Or.inl hp⟩
      refine orderly_of_pending rfl (h.holder_keep ?_) (h.others_of_read hhold (hok rfl))
        ?_ ?_ ?_ ?_ h.increasing
      · exact iff_of_true ⟨ha, Or.inr (Or.inl rfl)⟩ hhold
      · simp [Torn]
      · exact fun _ => h.stored (hok rfl)
      · intro r hr
        exact Int.lt_add_one_of_le (h.stored (hok rfl) n hn r hr)
      · simp
    · exact h.quiet rfl (h.holder_release (by simp [Holds])) (Or.inl rfl) rfl
        (by simp [Pending, Torn, hp]) (by simp [Pending, Torn])
  | truncate =>
    obtain ⟨hp, rfl⟩ := he
    have hpend : Pending (s.inst i) := Or.inr ⟨ha, hp⟩
    refine orderly_of_pending rfl (h.holder_keep ?_) (h.others_of_pending hpend)
      (fun _ => rfl) ?_ (h.ahead i ha hpend) ?_ h.increasing
    · exact iff_of_true ⟨ha, Or.inr (Or.inr (Or.inl rfl))⟩ ⟨ha, Or.inr (Or.inl hp)⟩
    · exact fun hno => absurd (Or.inl rfl) hno
    · simp
  | write now =>
    obtain ⟨hp, rfl⟩ := he
    have htorn : Torn (s.inst i) := Or.inl hp
    refine orderly_of_pending rfl (h.holder_keep ?_) (h.others_of_pending htorn.pending)
      (fun _ => h.emptied i htorn) ?_
      (h.ahead i ha htorn.pending) (fun _ => ⟨now, rfl⟩) h.increasing
    · exact iff_of_true ⟨ha, Or.inr (Or.inr (Or.inr rfl))⟩ ⟨ha, Or.inr (Or.inr (Or.inl hp))⟩
    · exact fun hno => absurd (Or.inr (Or.inl rfl)) hno
  | unlock =>
    obtain ⟨hp, rfl⟩ := he
    have htorn : Torn (s.inst i) := Or.inr (Or.inl hp)
    refine orderly_of_pending rfl (h.holder_release (by simp [Holds]))
      (h.others_of_pending htorn.pending)
      (fun _ => h.emptied i htorn) ?_ (h.ahead i ha htorn.pending)
      (fun _ => h.buffered i (Or.inl hp)) h.increasing
    exact fun hno => absurd (Or.inr (Or.inr rfl)) hno
  | flush =>
    obtain ⟨hp, rfl⟩ := he
    exact h.flush ha hp
  | crash =>
    obtain rfl := he
    exact h.crash i

/-! ### A single instance -/

/-- No other instance was constructed. -/
def Solo (s : Instances) (i : ℕ) : Prop := ∀ j, j ≠ i → (s.inst j).phase = .fresh

section Solo

variable {s t : Instances} {i : ℕ} {op : Op}

theorem Solo.not_torn (h : Solo s i) (hi : ¬ Torn (s.inst i)) (j : ℕ) : ¬ Torn (s.inst j) := by
  by_cases hj : j = i
  · exact hj ▸ hi
  · simp [Torn, h j hj]

theorem Solo.next (h : Solo s i) (hstep : s.next (i, op) = some t) : Solo t i := by
  obtain ⟨p, hp⟩ := frame_of_next hstep
  intro j hj
  rw [hp, inst_set, if_neg hj, h j hj]

/-- An instance that is alone reads no torn file. -/
theorem Solo.readsWhole (h : Solo s i) (hstep : s.next (i, op) = some t) :
    ReadsWhole s (i, op) := by
  intro hop
  obtain rfl : op = .read := hop
  obtain ⟨-, hp, -⟩ := effect_of_next hstep
  exact h.not_torn (by simp [Torn, hp])

/-- The runs of a single instance. -/
theorem reachable_of_solo {ok : Instances → ℕ × Op → Prop} {ops : List Op}
    (hok : ∀ s t op, Solo s i → s.next (i, op) = some t → ok s (i, op))
    (hs : (system.restrict ok).Reachable s) (hsolo : Solo s i)
    (h : System.runFn next s (ops.map fun op => (i, op)) = some t) :
    (system.restrict ok).Reachable t := by
  induction ops generalizing s with
  | nil => exact Option.some.inj h ▸ hs
  | cons op ops ih =>
    obtain ⟨u, hu, ht⟩ := Option.bind_eq_some_iff.1 h
    exact ih (.step hs ⟨hok s u op hsolo hu, hu⟩) (hsolo.next hu) ht

end Solo

/-! ### All runs -/

theorem orderly_invariant : (system.restrict ReadsWhole).Invariant Orderly where
  init _ h := orderly_of_start h
  step _ _ _ h hstep := h.step hstep.1 hstep.2

/-- The values that increments return grow: every value is above all that were returned before. -/
def Increasing (s : Instances) : Prop := s.returned.Pairwise (· > ·)

/-- The values of one instance that increments its counter twice. -/
def twoIncrements : List Op :=
  [.construct, .openFile, .lock, .read, .truncate, .write "2024-01-01T00:00:00+00:00", .unlock,
    .flush, .openFile, .lock, .read, .truncate, .write "2024-01-02T00:00:00+00:00", .unlock,
    .flush]

/-- The state after them. -/
def afterTwoIncrements : Instances :=
  (System.runFn next { file := none } (twoIncrements.map fun op => (0, op))).get
    (by decide +kernel)

/-- Two instances of which the second one reads the file before the buffer of the first reaches
it. -/
def overlappingRun : List (ℕ × Op) :=
  [(0, .construct), (1, .construct), (0, .openFile), (1, .openFile), (0, .lock), (0, .read),
    (0, .truncate), (0, .write "2024-01-01T00:00:00+00:00"), (0, .unlock), (1, .lock), (1, .read),
    (0, .flush), (1, .truncate), (1, .write "2024-01-01T00:00:01+00:00"), (1, .unlock),
    (1, .flush)]

end Instances

end Core

end AnnyRuntime
