import Mathlib.Algebra.Order.Ring.Int
import Mathlib.Order.Basic
import Mathlib.Data.Int.Order.Basic

/-! # Instants, durations and stored timestamps

A `time.Time` is an instant, in nanoseconds; its origin is Go's zero time, 1 January
of the year 1, so that `IsZero` is `t = 0` and an instant before that year is
negative.  The code uses the zero time for a timestamp that is absent.

PostgreSQL keeps a `timestamptz` in whole microseconds, and the driver rounds an
instant down when it sends one.  `Timestamp` is such a stored instant;
`Timestamp.ofTime` is the rounding and `Timestamp.toTime` the value read back.  An
instant other than the zero time is therefore stored as the zero time if it is one of
the microsecond after it, and a bound checked against the clock to the nanosecond is
only known of what is stored up to rounding (`Timestamp.le_ofTime`,
`Timestamp.toTime_ofTime_le`).
-/

namespace OncallGateway

/-- `time.Time`: nanoseconds since Go's zero time. -/
@[ext] structure Time where
  nanos : Int
deriving DecidableEq

/-- A finite `timestamptz`: microseconds since Go's zero time. -/
@[ext] structure Timestamp where
  micros : Int
deriving DecidableEq

/-- `24 * time.Hour`.  A `time.Duration` is a number of nanoseconds. -/
def day : Int := 24 * 3600 * 1000000000

theorem day_eq : day = 86400000000000 := rfl

variable {t : Time}

namespace Time

/-- `time.Time{}`, the absent timestamp. -/
instance : Zero Time := ⟨⟨0⟩⟩

instance : LinearOrder Time := LinearOrder.lift' Time.nanos fun _ _ => Time.ext

@[simp] theorem zero_nanos : (0 : Time).nanos = 0 := rfl

variable {u : Time}

theorem lt_iff : t < u ↔ t.nanos < u.nanos := Iff.rfl

theorem le_iff : t ≤ u ↔ t.nanos ≤ u.nanos := Iff.rfl

/-- `Time.Add`. -/
def add (t : Time) (d : Int) : Time := ⟨t.nanos + d⟩

/-- `Time.Sub`: the difference, saturated to the range of a duration. -/
def sub (t u : Time) : Int := max (-2 ^ 63) (min (2 ^ 63 - 1) (t.nanos - u.nanos))

/-- `Time.Truncate(time.Microsecond)`: the instant rounded down to a whole
microsecond since the zero time. -/
def truncateMicrosecond (t : Time) : Time := ⟨t.nanos - t.nanos % 1000⟩

/-- `Time.Unix`: whole seconds, rounded down, since 1 January 1970. -/
def unix (t : Time) : Int := t.nanos / 1000000000 - 62135596800

/-- Saturation does not show against a bound inside the range. -/
theorem sub_le {d : Int} (h : 0 ≤ d) (h' : d < 2 ^ 62) :
    t.sub u ≤ d ↔ t.nanos - u.nanos ≤ d := by
  unfold sub
  omega

theorem le_sub {t u : Time} {d : Int} (h : 0 ≤ d) (h' : d < 2 ^ 62) :
    d ≤ t.sub u ↔ d ≤ t.nanos - u.nanos := by
  unfold sub
  omega

end Time

namespace Timestamp

instance : LinearOrder Timestamp := LinearOrder.lift' Timestamp.micros fun _ _ => Timestamp.ext

variable {a b : Timestamp}

theorem lt_iff : a < b ↔ a.micros < b.micros := Iff.rfl

theorem le_iff : a ≤ b ↔ a.micros ≤ b.micros := Iff.rfl

/-- The timestamp an `INTERVAL` later, the interval read as an exact duration. -/
def add (a : Timestamp) (d : Int) : Timestamp := ⟨a.micros + d / 1000⟩

/-- What is stored for an instant: the driver rounds it down to a microsecond. -/
def ofTime (t : Time) : Timestamp := ⟨t.nanos / 1000⟩

/-- The instant read back. -/
def toTime (a : Timestamp) : Time := ⟨a.micros * 1000⟩

@[simp] theorem ofTime_micros (t : Time) : (ofTime t).micros = t.nanos / 1000 := rfl

@[simp] theorem toTime_nanos (a : Timestamp) : a.toTime.nanos = a.micros * 1000 := rfl

@[simp] theorem ofTime_toTime (a : Timestamp) : ofTime a.toTime = a := by
  ext
  simp

@[simp] theorem toTime_inj : a.toTime = b.toTime ↔ a = b := by
  simp only [Time.ext_iff, Timestamp.ext_iff, toTime_nanos]
  omega

@[simp] theorem toTime_le : a.toTime ≤ b.toTime ↔ a ≤ b := by
  simp only [Time.le_iff, le_iff, toTime_nanos]
  omega

@[simp] theorem toTime_lt : a.toTime < b.toTime ↔ a < b := by
  simp only [Time.lt_iff, lt_iff, toTime_nanos]
  omega

@[simp] theorem toTime_eq_zero : a.toTime = 0 ↔ a.micros = 0 := by
  simp only [Time.ext_iff, toTime_nanos, Time.zero_nanos]
  omega

/-- Rounding never moves an instant forward. -/
theorem toTime_ofTime_le (t : Time) : (ofTime t).toTime ≤ t := by
  simp only [Time.le_iff, toTime_nanos, ofTime_micros]
  omega

/-- A stored timestamp that is not after an instant is not after what is stored
for it. -/
theorem le_ofTime : a ≤ ofTime t ↔ a.toTime ≤ t := by
  simp only [le_iff, Time.le_iff, toTime_nanos, ofTime_micros]
  omega

theorem ofTime_lt : ofTime t < a ↔ t < a.toTime := by
  rw [← not_le, le_ofTime, not_le]

end Timestamp

/-- Truncation to a microsecond is what storing and reading back does. -/
theorem Time.truncateMicrosecond_eq (t : Time) :
    t.truncateMicrosecond = (Timestamp.ofTime t).toTime := by
  ext
  simp only [Time.truncateMicrosecond, Timestamp.toTime_nanos, Timestamp.ofTime_micros]
  omega

end OncallGateway
