import AnnyRuntime.Json.Basic
import Mathlib.Algebra.Order.Ring.Rat
import Mathlib.Order.WithBot

/-!
# Numbers

How Python compares the numbers of a JSON value, and adds one to them.  Booleans are the integers
they equal; an integer and a float are compared by their exact values, and `NaN` compares with
nothing.

A float is its literal, so the value of the float that a literal is read as, and the float that its
sum with one is rounded to, are parameters (`FloatArith`).  That sum is not always above the float:
the next float may be more than one away.
-/

namespace AnnyRuntime

/-- The value of a number that is not `NaN`. -/
abbrev NumberValue := WithBot (WithTop ℚ)

/-- The value of a float, when literals have the given values. -/
def PyFloat.valueOf (value : FloatLit → NumberValue) : PyFloat → Option NumberValue
  | .lit t => some (value t)
  | .inf => some (⊤ : WithTop ℚ)
  | .negInf => some ⊥
  | .nan => none

/-- A float plus one, when literals have the given sums. -/
def PyFloat.succOf (addOne : FloatLit → PyFloat) : PyFloat → PyFloat
  | .lit t => addOne t
  | x => x

/-- The arithmetic of Python's floats, as far as it is used. -/
structure FloatArith where
  /-- The value of the float that a literal is read as; it is infinite when the literal is out of
  range. -/
  value : FloatLit → NumberValue
  /-- That float plus one. -/
  addOne : FloatLit → PyFloat
  /-- Adding one never makes a float smaller. -/
  le_addOne : ∀ t, ∃ v, (addOne t).valueOf value = some v ∧ value t ≤ v
  /-- The sum only depends on the value. -/
  addOne_congr : ∀ t x, PyFloat.valueOf value x = some (value t) → x.succOf addOne = addOne t

/-- The arithmetic in which every literal is out of range, for values that hold no literal. -/
def FloatArith.overflowing : FloatArith where
  value _ := (⊤ : WithTop ℚ)
  addOne _ := .inf
  le_addOne _ := ⟨_, rfl, le_refl _⟩
  addOne_congr t x h := by
    cases x with
    | lit | inf => rfl
    | negInf => exact absurd (Option.some.inj h) (by decide)
    | nan => exact absurd h (by simp [PyFloat.valueOf])

/-- A number. -/
inductive PyNumber where
  | int (n : ℤ)
  | float (x : PyFloat)
  deriving DecidableEq

/-- The number that a value is for a comparison, which otherwise raises a `TypeError`. -/
def Json.number? : Json → Option PyNumber
  | .int n => some (.int n)
  | .bool b => some (.int (if b then 1 else 0))
  | .float x => some (.float x)
  | _ => none

namespace PyNumber

/-- The JSON value of a number. -/
def toJson : PyNumber → Json
  | .int n => .int n
  | .float x => .float x

@[simp] theorem number?_toJson (x : PyNumber) : x.toJson.number? = some x := by
  cases x <;> rfl

/-- The value of a number, which `NaN` does not have. -/
def value? (A : FloatArith) : PyNumber → Option NumberValue
  | .int n => some ((n : ℚ) : WithTop ℚ)
  | .float x => x.valueOf A.value

/-- `x < y`. -/
def lt (A : FloatArith) (x y : PyNumber) : Bool :=
  match x.value? A, y.value? A with
  | some a, some b => a < b
  | _, _ => false

/-- `x <= y`. -/
def le (A : FloatArith) (x y : PyNumber) : Bool :=
  match x.value? A, y.value? A with
  | some a, some b => a ≤ b
  | _, _ => false

/-- `x + 1`. -/
def addOne (A : FloatArith) : PyNumber → PyNumber
  | .int n => .int (n + 1)
  | .float x => .float (x.succOf A.addOne)

variable {A : FloatArith}

theorem lt_int (m n : ℤ) : lt A (.int m) (.int n) = decide (m < n) := by
  simp [lt, value?]

theorem le_int (m n : ℤ) : le A (.int m) (.int n) = decide (m ≤ n) := by
  simp [le, value?]

theorem lt_eq_true {x y : PyNumber} {a b : NumberValue} (hx : x.value? A = some a)
    (hy : y.value? A = some b) : lt A x y = true ↔ a < b := by
  simp [lt, hx, hy]

/-- Two numbers that comparisons and sums do not tell apart. -/
structure Agree (A : FloatArith) (x y : PyNumber) : Prop where
  value : x.value? A = y.value? A
  isSome : (x.value? A).isSome = true
  addOne : x.addOne A = y.addOne A

theorem Agree.refl {x : PyNumber} (h : (x.value? A).isSome = true) : Agree A x x := ⟨rfl, h, rfl⟩

/-- **Adding one.**  The sum is above the number, or it is not told apart from it. -/
theorem lt_addOne_or_agree {x : PyNumber} (h : (x.value? A).isSome = true) :
    lt A x (x.addOne A) = true ∨ Agree A (x.addOne A) x := by
  cases x with
  | int n => exact .inl (by simp [PyNumber.addOne, lt_int])
  | float x =>
    cases x with
    | nan => simp [value?, PyFloat.valueOf] at h
    -- an infinity stays what it is
    | inf | negInf => exact .inr (Agree.refl rfl)
    | lit t =>
      obtain ⟨v, hv, hle⟩ := A.le_addOne t
      have hsum : (PyNumber.addOne A (.float (.lit t))).value? A = some v := hv
      rcases lt_or_eq_of_le hle with hlt | heq
      · exact .inl ((lt_eq_true rfl hsum).2 hlt)
      · refine .inr ⟨hsum.trans (by rw [← heq]; rfl), by rw [hsum]; rfl, ?_⟩
        exact congrArg PyNumber.float (A.addOne_congr t _ (hv.trans (by rw [heq])))

theorem isSome_addOne {x : PyNumber} (h : (x.value? A).isSome = true) :
    ((x.addOne A).value? A).isSome = true := by
  rcases lt_addOne_or_agree h with hlt | hagree
  · unfold lt at hlt
    cases hsum : (x.addOne A).value? A with
    | none => cases hx : x.value? A <;> simp [hx, hsum] at hlt
    | some v => rfl
  · exact hagree.isSome

end PyNumber

end AnnyRuntime
