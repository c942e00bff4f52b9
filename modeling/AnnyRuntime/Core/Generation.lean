import AnnyRuntime.Json.RoundTrip
import AnnyRuntime.Lib.Transition

/-!
# The generation counter

Every start-up of a runtime increments a counter in a file that all runtimes over one data
directory share.  A runtime keeps the value it got, and fences work of another generation off.

`increment` opens the file, takes a lock, reads the counter, truncates the file, writes the new
value into the buffer of the open file, and releases the lock; the buffer reaches the file when it
is closed, after that.  `System` is the interleaving of these steps by any number of instances,
with a crash at any point.
-/

namespace AnnyRuntime

namespace Core

/-! ### One instance -/

/-- `RuntimeGeneration`: the value that an instance keeps. -/
structure RuntimeGeneration where
  current : ℤ
  deriving DecidableEq

/-- Work is of another generation. -/
structure StaleGenerationError where
  expected : ℤ
  got : Json
  deriving DecidableEq

/-- The text of the error. -/
def StaleGenerationError.text (e : StaleGenerationError) : String :=
  "Generation mismatch. Expected " ++ toString e.expected ++ ", got " ++ e.got.pyStr

namespace RuntimeGeneration

/-- `validate`. -/
def validate (g : RuntimeGeneration) (generation : Json) : Bool :=
  generation.asInt = some g.current

/-- `fence`, which raises on a stale generation. -/
def fence (g : RuntimeGeneration) (generation : Json) : Except StaleGenerationError Unit :=
  if g.validate generation then .ok () else .error ⟨g.current, generation⟩

theorem fence_eq_ok_iff {g : RuntimeGeneration} {n : ℤ} :
    g.fence (.int n) = .ok () ↔ n = g.current := by
  have h : g.validate (.int n) = decide (n = g.current) := by
    simp [validate, Json.asInt]
  unfold fence
  rw [h]
  by_cases hn : n = g.current <;> simp [hn]

end RuntimeGeneration

/-! ### The file -/

/-- What `increment` writes. -/
def counterText (generation : ℤ) (now : String) : List Char :=
  Json.dumps (.obj [("generation", .int generation), ("incremented_at", .str now)])

/-- The counter in a text: zero when the text is no JSON value, or has no counter; any other value
than an object with a number raises. -/
def readCounter (t : List Char) : Option ℤ :=
  match Json.loads t with
  | none => some 0
  | some (.obj ms) => ((Json.lookup "generation" ms).map Json.asInt).getD (some 0)
  | some _ => none

theorem readCounter_counterText (g : ℤ) (now : String) :
    readCounter (counterText g now) = some g := by
  rw [readCounter, counterText, Json.loads_dumps]
  rfl

/-- What writing a buffer at the start of a file leaves in it. -/
def overwrite (old new : List Char) : List Char := new ++ old.drop new.length

/-! ### All instances -/

/-- Where an instance is. -/
inductive Phase where
  /-- Before its construction. -/
  | fresh
  /-- Outside of `increment`. -/
  | idle
  | opened
  | locked
  | read
  | truncated
  | written
  | unlocked
  deriving DecidableEq

/-- An instance, dead or alive. -/
structure Instance where
  phase : Phase := .fresh
  alive : Bool := true
  generation : RuntimeGeneration := ⟨0⟩
  /-- What it wrote into its buffer. -/
  buffer : List Char := []

/-- The instances and what they share. -/
structure Instances where
  /-- The file, when it exists. -/
  file : Option (List Char)
  /-- Who holds the lock on it. -/
  lock : Option ℕ := none
  /-- The instances. -/
  inst : ℕ → Instance := fun _ => {}
  /-- The values that increments returned, the last one first. -/
  returned : List ℤ := []

/-- What an instance can do. -/
inductive Op where
  | construct
  | openFile
  | lock
  | read
  | truncate
  | write (now : String)
  | unlock
  /-- The file is closed, and the value is returned. -/
  | flush
  | crash
  deriving DecidableEq

namespace Instances

/-- An instance changes. -/
def set (s : Instances) (i : ℕ) (p : Instance) : Instances :=
  { s with inst := Function.update s.inst i p }

/-- The text of the file. -/
def text (s : Instances) : List Char := s.file.getD []

/-- The lock after `i` is gone. -/
def release (s : Instances) (i : ℕ) : Option ℕ := if s.lock = some i then none else s.lock

/-- A step of an instance, when it can take it. -/
def next (s : Instances) : ℕ × Op → Option Instances
  | (i, op) =>
    let p := s.inst i
    if !p.alive then none
    else match p.phase, op with
      | .fresh, .construct =>
        (readCounter s.text).map fun g => s.set i { p with phase := .idle, generation := ⟨g⟩ }
      | .idle, .openFile => some { s.set i { p with phase := .opened } with file := some s.text }
      | .opened, .lock =>
        if s.lock = none then some { s.set i { p with phase := .locked } with lock := some i }
        else none
      | .locked, .read =>
        match readCounter s.text with
        | some n => some (s.set i { p with phase := .read, generation := ⟨n + 1⟩ })
        -- the exception leaves the call through the `finally` that releases the lock
        | none => some { s.set i { p with phase := .idle } with lock := s.release i }
      | .read, .truncate => some { s.set i { p with phase := .truncated } with file := some [] }
      | .truncated, .write now =>
        some (s.set i
          { p with phase := .written, buffer := counterText p.generation.current now })
      | .written, .unlock =>
        some { s.set i { p with phase := .unlocked } with lock := s.release i }
      | .unlocked, .flush =>
        some
          { s.set i { p with phase := .idle } with
            file := some (overwrite s.text p.buffer)
            returned := p.generation.current :: s.returned }
      | _, .crash => some { s.set i { p with alive := false } with lock := s.release i }
      | _, _ => none

/-- Nobody has started, whatever is in the file. -/
def Start (s : Instances) : Prop := ∃ file, s = { file := file }

/-- The interleavings of all instances. -/
def system : System Instances (ℕ × Op) := .ofFn Start next

end Instances

end Core

end AnnyRuntime
