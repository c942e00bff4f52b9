import AnnyRuntime.Lib.Dict
import Mathlib.Algebra.Order.Ring.Int

/-!
# The process manager

The records of the processes that were started.  `mark_stale` kills the running processes of older
generations; it returns nothing.  A running record has a handle, so killing the process and setting
the state are one step here.
-/

namespace AnnyRuntime

namespace Process

/-- The state of a process. -/
inductive ProcessState where
  | pending
  | running
  | completed
  | failed
  | timedOut
  | killed
  deriving DecidableEq

/-- The record of a process: what is read when processes are marked stale. -/
structure ProcessRecord where
  processId : String
  state : ProcessState
  runtimeGeneration : ℤ
  deriving DecidableEq

/-- `ProcessManager`: its records, by their id. -/
structure ProcessManager where
  processes : Dict String ProcessRecord := Dict.empty

/-- The process runs, and is of an older generation. -/
def ProcessRecord.isStale (currentGeneration : ℤ) (p : ProcessRecord) : Bool :=
  p.runtimeGeneration < currentGeneration && p.state = .running

/-- A stale process is killed. -/
def ProcessRecord.markStale (currentGeneration : ℤ) (p : ProcessRecord) : ProcessRecord :=
  if p.isStale currentGeneration then { p with state := .killed } else p

namespace ProcessManager

variable (m : ProcessManager)

/-- `mark_stale`. -/
def markStale (currentGeneration : ℤ) : ProcessManager :=
  { m with processes := m.processes.map (ProcessRecord.markStale currentGeneration) }

/-- The processes that marking kills. -/
def stale (currentGeneration : ℤ) : List String :=
  (m.processes.values.filter (ProcessRecord.isStale currentGeneration)).map ProcessRecord.processId

/-- No process of the generation or an older one runs. -/
def NoneRunning (generation : ℤ) : Prop :=
  ∀ p ∈ m.processes.values, p.runtimeGeneration ≤ generation → p.state ≠ .running

variable {m}

/-- What still runs after marking is of the current generation or a newer one. -/
theorem noneRunning_markStale {generation : ℤ} :
    (m.markStale generation).NoneRunning generation ↔
      ∀ p ∈ m.processes.values, p.runtimeGeneration = generation → p.state ≠ .running := by
  unfold NoneRunning markStale
  rw [Dict.values_map]
  constructor
  · intro h p hp hgeneration
    have hkept : p.markStale generation = p :=
      if_neg (by simp [ProcessRecord.isStale, hgeneration])
    have hstate := h _ (List.mem_map_of_mem hp)
    rw [hkept] at hstate
    exact hstate (le_of_eq hgeneration)
  · intro h p' hp' hle
    obtain ⟨p, hp, rfl⟩ := List.mem_map.1 hp'
    unfold ProcessRecord.markStale at hle ⊢
    split_ifs at hle ⊢ with hstale
    · exact ProcessState.noConfusion
    · rcases lt_or_eq_of_le hle with hlt | heq
      · exact fun hrunning => hstale (by simp [ProcessRecord.isStale, hlt, hrunning])
      · exact h p hp heq

theorem stale_eq_nil_iff {generation : ℤ} :
    m.stale generation = [] ↔
      ∀ p ∈ m.processes.values, p.runtimeGeneration < generation → p.state ≠ .running := by
  simp [stale, ProcessRecord.isStale]

/-- No process runs, when marking kills none and none goes on. -/
theorem noneRunning_iff {generation : ℤ} :
    m.NoneRunning generation ↔
      (m.markStale generation).NoneRunning generation ∧ m.stale generation = [] := by
  rw [noneRunning_markStale, stale_eq_nil_iff]
  constructor
  · exact fun h => ⟨fun p hp heq => h p hp (le_of_eq heq), fun p hp hlt => h p hp (le_of_lt hlt)⟩
  · rintro ⟨heq, hlt⟩ p hp hle
    rcases lt_or_eq_of_le hle with h | h
    · exact hlt p hp h
    · exact heq p hp h

end ProcessManager

end Process

end AnnyRuntime
