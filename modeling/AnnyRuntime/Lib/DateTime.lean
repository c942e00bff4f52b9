import Mathlib.Data.Int.Order.Basic

/-!
# Dates and times

A time is what the clock on the wall shows, in microseconds since 1970, with the clock's distance
from UTC when it says one: a time is *aware* when it does and *naive* when it does not.  Two aware
times are compared as points in time, two naive ones by their clocks, and a naive time is not
compared with an aware one: that is a `TypeError` (`DateTime.lt?`).
-/

namespace AnnyRuntime

/-- A time on the clock, in microseconds since 1970, and the clock's distance from UTC, when it says
one. -/
structure DateTime where
  wall : ℤ
  offset : Option ℤ
  deriving DecidableEq

/-- The first microsecond of the year 1. -/
def minTime : ℤ := -62135596800000000

/-- The last microsecond of the year 9999. -/
def maxTime : ℤ := 253402300799999999

namespace DateTime

/-- `datetime.now(timezone.utc)`, at a point in time. -/
def now (t : ℤ) : DateTime := ⟨t, some 0⟩

/-- `datetime.utcnow()`, at a point in time: a naive time. -/
def utcnow (t : ℤ) : DateTime := ⟨t, none⟩

/-- The time says its distance from UTC. -/
def Aware (d : DateTime) : Prop := d.offset.isSome

instance (d : DateTime) : Decidable d.Aware := inferInstanceAs (Decidable (d.offset.isSome = true))

/-- The point in time that is meant, by a naive time in UTC. -/
def instant (d : DateTime) : ℤ := d.wall - d.offset.getD 0

/-- The time in UTC: a time without a zone is taken to be in UTC, another one is converted, unless
that is out of range. -/
def utc? (d : DateTime) : Option ℤ :=
  match d.offset with
  | none => some d.wall
  | some offset =>
    let t := d.wall - offset
    if minTime ≤ t ∧ t ≤ maxTime then some t else none

/-- `d < e`, unless one is aware and the other one is not. -/
def lt? (d e : DateTime) : Option Bool :=
  if d.offset.isSome = e.offset.isSome then some (decide (d.instant < e.instant)) else none

/-- `d + timedelta(microseconds=n)`, unless that is out of range. -/
def plus? (d : DateTime) (n : ℤ) : Option DateTime :=
  if minTime ≤ d.wall + n ∧ d.wall + n ≤ maxTime then some { d with wall := d.wall + n } else none

/-- The microseconds of a number of seconds. -/
def seconds (n : ℤ) : ℤ := n * 1000000

@[simp] theorem aware_now (t : ℤ) : (now t).Aware := rfl

@[simp] theorem instant_now (t : ℤ) : (now t).instant = t := Int.sub_zero t

@[simp] theorem not_aware_utcnow (t : ℤ) : ¬ (utcnow t).Aware := Bool.false_ne_true

theorem lt?_of_aware {d e : DateTime} (hd : d.Aware) (he : e.Aware) :
    d.lt? e = some (decide (d.instant < e.instant)) :=
  if_pos (hd.trans he.symm)

theorem lt?_eq_none_iff {d e : DateTime} : d.lt? e = none ↔ ¬ (d.Aware ↔ e.Aware) := by
  rw [lt?, Aware, Aware, ← Bool.eq_iff_iff]
  split_ifs with h <;> simp [h]

theorem lt?_eq_some_iff {d e : DateTime} {b : Bool} :
    d.lt? e = some b ↔ (d.Aware ↔ e.Aware) ∧ decide (d.instant < e.instant) = b := by
  rw [lt?, Aware, Aware, ← Bool.eq_iff_iff]
  split_ifs with h <;> simp [h]

theorem plus?_eq_some {d e : DateTime} {n : ℤ} (h : d.plus? n = some e) :
    e = { d with wall := d.wall + n } := by
  rw [plus?] at h
  split_ifs at h
  exact (Option.some.inj h).symm

end DateTime

end AnnyRuntime
