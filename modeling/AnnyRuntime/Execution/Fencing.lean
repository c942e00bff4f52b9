import AnnyRuntime.Core.Monotone
import AnnyRuntime.Execution.Manager

/-!
# Fencing between instances

An instance fences work off that is not of the generation it keeps, and it learns of newer
generations only by its own increments.  So it fences all superseded work off exactly while no
other instance has a higher generation (`fencesSuperseded`), and all instances that run do so if
every instance stops before the increment of a newer one returns.
-/

namespace AnnyRuntime

namespace Execution

open AnnyRuntime.Core AnnyRuntime.Core.Instances

variable {s t : Instances} {i : ℕ}

/-- Work of the generation is superseded: an increment has returned a higher one. -/
def Superseded (s : Instances) (h : ℤ) : Prop := ∃ g ∈ s.returned, h < g

/-- An execution is not run: it is fenced off, or the call raises and changes nothing. -/
def NotRun (m : ExecutionManager) (ex : Execute) (executionId : String) : Prop :=
  (∃ c, (m.executeSync ex executionId).1 = .fenced c) ∨ m.executeSync ex executionId = (.raised, m)

theorem notRun_of_fencing {m : ExecutionManager} {ex : Execute} {executionId : String}
    {c : TaskExecutionContext} {err : StaleGenerationError}
    (hc : m.executions.get? executionId = some c) (h : m.fencing c = some err) :
    NotRun m ex executionId := by
  unfold NotRun ExecutionManager.executeSync
  rw [hc]
  cases m.tasks.get? executionId with
  | none => exact Or.inr rfl
  | some task =>
    dsimp only
    cases m.registry.get task.capabilityId with
    | none => exact Or.inr rfl
    | some cap =>
      cases m.workerOf executionId with
      | none => exact Or.inr rfl
      | some worker =>
        simp only [h]
        exact Or.inl ⟨_, rfl⟩

/-- The instance fences superseded work off: `fence` raises, and a manager over its runtime engine
does not run a superseded execution. -/
structure FencesSuperseded (s : Instances) (i : ℕ) : Prop where
  fence : ∀ h, Superseded s h →
    (s.inst i).generation.fence (.int h) = .error ⟨(s.inst i).generation.current, .int h⟩
  execute : ∀ (m : ExecutionManager) (ex : Execute) (executionId : String)
    (c : TaskExecutionContext) (h : ℤ), m.runtimeEngine = some (s.inst i).generation →
    m.executions.get? executionId = some c → c.generation = .int h → Superseded s h →
    NotRun m ex executionId

/-- No increment has returned more than the instance keeps. -/
def Current (s : Instances) (i : ℕ) : Prop :=
  ∀ g ∈ s.returned, g ≤ (s.inst i).generation.current

theorem fence_error_iff {g : RuntimeGeneration} {h : ℤ} :
    g.fence (.int h) = .error ⟨g.current, .int h⟩ ↔ h ≠ g.current := by
  rw [Ne, ← RuntimeGeneration.fence_eq_ok_iff]
  unfold RuntimeGeneration.fence
  split_ifs <;> simp

theorem fencesSuperseded_iff : FencesSuperseded s i ↔ Current s i := by
  constructor
  · intro hf g hg
    by_contra hlt
    exact fence_error_iff.1 (hf.fence _ ⟨g, hg, not_le.1 hlt⟩) rfl
  · intro hc
    have hne : ∀ h, Superseded s h → h ≠ (s.inst i).generation.current := by
      rintro h ⟨g, hg, hlt⟩ rfl
      exact absurd (hc g hg) (not_le.2 hlt)
    refine ⟨fun h hs => fence_error_iff.2 (hne h hs), ?_⟩
    intro m ex executionId c h hm hx hgen hs
    have hfence := fence_error_iff.2 (hne h hs)
    have hfencing : m.fencing c = some ⟨(s.inst i).generation.current, .int h⟩ := by
      simp [ExecutionManager.fencing, hm, hgen, hfence]
    exact notRun_of_fencing hx hfencing

/-! ### One instance after another -/

/-- The instance was constructed and has not crashed. -/
def Live (p : Instance) : Prop := p.alive = true ∧ p.phase ≠ .fresh

/-- Instances follow each other: none reads the file, as a new instance or to increment, while
another one has torn it, and an increment returns only when no other instance is alive. -/
def Succession (s : Instances) (a : ℕ × Op) : Prop :=
  (a.2 = .read ∨ a.2 = .construct → ∀ j, ¬ Torn (s.inst j)) ∧
    (a.2 = .flush → ∀ j, j ≠ a.1 → ¬ Live (s.inst j))

theorem succession_of_solo {op : Op} (h : Solo s i) (hstep : s.next (i, op) = some t) :
    Succession s (i, op) := by
  obtain ⟨-, he⟩ := effect_of_next hstep
  refine ⟨fun hop => h.not_torn ?_, fun _ j hj hl => hl.2 (h j hj)⟩
  rcases hop with hop | hop
  · obtain rfl : op = .read := hop
    simp [Torn, he.1]
  · obtain rfl : op = .construct := hop
    simp [Torn, he.1]

/-- Every live instance is current. -/
def AllCurrent (s : Instances) : Prop := ∀ i, Live (s.inst i) → Current s i

/-- A step that leaves an instance its value does not make it live. -/
theorem AllCurrent.keep {p : Instance} (h : AllCurrent s) (hinst : t.inst = (s.set i p).inst)
    (hret : t.returned = s.returned) (hgen : p.generation = (s.inst i).generation)
    (hlive : Live p → Live (s.inst i)) : AllCurrent t := by
  intro j hj g hg
  rw [hret] at hg
  rw [hinst, inst_set] at hj ⊢
  split_ifs at hj ⊢
  · rw [hgen]
    exact h i (hlive hj) g hg
  · exact h j hj g hg

/-- A step that gives an instance a value from a file that is whole. -/
theorem AllCurrent.renew {p : Instance} (h : AllCurrent s) (hinst : t.inst = (s.set i p).inst)
    (hret : t.returned = s.returned) (hp : ∀ g ∈ s.returned, g ≤ p.generation.current) :
    AllCurrent t := by
  intro j hj g hg
  rw [hret] at hg
  rw [hinst, inst_set] at hj ⊢
  split_ifs at hj ⊢
  · exact hp g hg
  · exact h j hj g hg

theorem AllCurrent.step {op : Op} (h : AllCurrent s) (ho : Orderly s)
    (hok : Succession s (i, op)) (hstep : s.next (i, op) = some t) : AllCurrent t := by
  obtain ⟨ha, he⟩ := effect_of_next hstep
  cases op with
  | construct =>
    obtain ⟨-, n, hn, rfl⟩ := he
    exact h.renew rfl rfl (ho.stored (hok.1 (Or.inr rfl)) n hn)
  | openFile =>
    obtain ⟨hp, rfl⟩ := he
    exact h.keep rfl rfl rfl fun _ => ⟨ha, by simp [hp]⟩
  | lock =>
    obtain ⟨hp, -, rfl⟩ := he
    exact h.keep rfl rfl rfl fun _ => ⟨ha, by simp [hp]⟩
  | read =>
    -- the stored number may be unreadable, and then the instance keeps its own
    obtain ⟨hp, ⟨n, hn, rfl⟩ | rfl⟩ := he
    · refine h.renew rfl rfl fun g hg => ?_
      exact le_trans (ho.stored (hok.1 (Or.inl rfl)) n hn g hg) (le_of_lt (Int.lt_succ n))
    · exact h.keep rfl rfl rfl fun _ => ⟨ha, by simp [hp]⟩
  | truncate =>
    obtain ⟨hp, rfl⟩ := he
    exact h.keep rfl rfl rfl fun _ => ⟨ha, by simp [hp]⟩
  | write now =>
    obtain ⟨hp, rfl⟩ := he
    exact h.keep rfl rfl rfl fun _ => ⟨ha, by simp [hp]⟩
  | unlock =>
    obtain ⟨hp, rfl⟩ := he
    exact h.keep rfl rfl rfl fun _ => ⟨ha, by simp [hp]⟩
  | flush =>
    obtain ⟨hp, rfl⟩ := he
    -- the increment is complete: only the instance that made it may still be current
    intro j hj g hg
    have hji : j = i := by
      by_contra hne
      refine hok.2 rfl j hne ?_
      have heq : (s.set i { s.inst i with phase := .idle }).inst j = s.inst j := by
        rw [inst_set, if_neg hne]
      exact heq ▸ hj
    have heq : (s.set i { s.inst i with phase := .idle }).inst j =
        { s.inst i with phase := .idle } := by
      rw [inst_set, if_pos hji]
    have hgoal : g ≤ ((s.set i { s.inst i with phase := .idle }).inst j).generation.current := by
      rw [heq]
      rcases List.mem_cons.1 hg with rfl | hg
      · exact le_rfl
      · exact le_of_lt (ho.ahead i ha (Or.inl (Or.inr (Or.inr hp))) g hg)
    exact hgoal
  | crash =>
    obtain rfl := he
    exact h.keep rfl rfl rfl fun hl => absurd hl.1 Bool.false_ne_true

theorem current_invariant :
    (system.restrict Succession).Invariant fun s => Orderly s ∧ AllCurrent s where
  init s h := by
    refine ⟨orderly_of_start h, ?_⟩
    obtain ⟨file, rfl⟩ := h
    exact fun i hi => absurd rfl hi.2
  step s a t h hstep := by
    refine ⟨h.1.step (fun hr => hstep.1.1 (Or.inl hr)) hstep.2, ?_⟩
    exact h.2.step h.1 hstep.1 hstep.2

/-- **When superseded work is fenced off.**  In every state, an instance fences all superseded work
off exactly when no increment has returned more than it keeps.  And in every run in which instances
follow each other, every live instance does so in every state that is reached. -/
theorem fencesSuperseded (s : Instances) :
    (∀ i, FencesSuperseded s i ↔ Current s i) ∧
      ((system.restrict Succession).Reachable s → ∀ i, Live (s.inst i) → FencesSuperseded s i) :=
  ⟨fun _ => fencesSuperseded_iff,
    fun hs i hi => fencesSuperseded_iff.2 ((current_invariant.holds hs).2 i hi)⟩

theorem fencesSuperseded_two_increments :
    afterTwoIncrements.returned = [2, 1] ∧ FencesSuperseded afterTwoIncrements 0 := by
  have hlive : Live (afterTwoIncrements.inst 0) := by
    unfold Live
    decide +kernel
  refine ⟨by decide +kernel, (fencesSuperseded afterTwoIncrements).2 ?_ 0 hlive⟩
  exact reachable_of_solo (fun _ _ _ => succession_of_solo) (.init ⟨none, rfl⟩) (fun _ _ => rfl)
    (Option.some_get _).symm

/-- Two instances after each other, of which the first one stays alive. -/
def successorRun : List (ℕ × Op) :=
  [(0, .construct), (0, .openFile), (0, .lock), (0, .read), (0, .truncate),
    (0, .write "2024-01-01T00:00:00+00:00"), (0, .unlock), (0, .flush),
    (1, .construct), (1, .openFile), (1, .lock), (1, .read), (1, .truncate),
    (1, .write "2024-01-02T00:00:00+00:00"), (1, .unlock), (1, .flush)]

/-- The first instance still accepts its own generation. -/
theorem not_fencesSuperseded_successor :
    ¬ ∀ s, system.Reachable s → ∀ i, Live (s.inst i) → FencesSuperseded s i := by
  intro h
  have hrun : (System.runFn next { file := none } successorRun).map
      (fun t => (t.returned, (t.inst 0).generation.current, (t.inst 0).alive, (t.inst 0).phase)) =
      some ([2, 1], 1, true, .idle) := by decide +kernel
  obtain ⟨t, ht, hret⟩ := Option.map_eq_some_iff.1 hrun
  simp only [Prod.mk.injEq] at hret
  obtain ⟨h1, h2, h3, h4⟩ := hret
  have hf := h t (System.reachable_runFn (.init ⟨none, rfl⟩) ht) 0 ⟨h3, by simp [h4]⟩
  have hs : Superseded t 1 := ⟨2, by simp [h1], by decide⟩
  exact fence_error_iff.1 (hf.fence 1 hs) h2.symm

end Execution

end AnnyRuntime
