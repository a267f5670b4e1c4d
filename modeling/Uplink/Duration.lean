/-
Spans of time and points in time.

A `Duration` is a whole number of nanoseconds, an `Instant` the number of nanoseconds since the
clock was started.  Neither type is bounded; what the platform can represent is a predicate, and
sums that leave its range are `none`.

* `Uplink.Duration`, `Uplink.Instant` — the two types;
* `Uplink.Duration.limit`, `Uplink.Instant.limit` — the first values beyond the range;
* `Uplink.Duration.add?`, `Uplink.Instant.after?` — sums that fail at the end of the range;
* `Uplink.Instant.since` — the time between two instants, zero when they are in the wrong order.
-/

set_option relaxedAutoImplicit false
set_option autoImplicit false

namespace Uplink

/-- The largest number that fits 64 bits. -/
def maxWord : Nat := 18446744073709551615

/-! ### Durations -/

/-- A span of time in nanoseconds. -/
structure Duration where
  /-- Nanoseconds. -/
  ns : Nat
deriving DecidableEq, Repr, Inhabited

namespace Duration

/-- Nanoseconds in a second. -/
def nsPerSec : Nat := 1000000000

/-- The first span that cannot be represented: whole seconds are 64-bit. -/
def limit : Nat := (maxWord + 1) * nsPerSec

/-- A representable span. -/
def Fits (d : Duration) : Prop := d.ns < limit

instance (d : Duration) : Decidable d.Fits := inferInstanceAs (Decidable (_ < _))

instance : LE Duration := ⟨fun a b => a.ns ≤ b.ns⟩
instance : LT Duration := ⟨fun a b => a.ns < b.ns⟩
instance (a b : Duration) : Decidable (a ≤ b) := inferInstanceAs (Decidable (a.ns ≤ b.ns))
instance (a b : Duration) : Decidable (a < b) := inferInstanceAs (Decidable (a.ns < b.ns))

/-- The empty span. -/
def zero : Duration := ⟨0⟩

/-- A number of nanoseconds. -/
def ofNanos (n : Nat) : Duration := ⟨n⟩
/-- A number of microseconds. -/
def ofMicros (n : Nat) : Duration := ⟨n * 1000⟩
/-- A number of milliseconds. -/
def ofMillis (n : Nat) : Duration := ⟨n * 1000000⟩
/-- A number of seconds. -/
def ofSecs (n : Nat) : Duration := ⟨n * nsPerSec⟩

/-- Whole seconds of a span. -/
def secs (d : Duration) : Nat := d.ns / nsPerSec
/-- Nanoseconds beyond the whole seconds. -/
def subsecNanos (d : Duration) : Nat := d.ns % nsPerSec
/-- Whole milliseconds of a span. -/
def millis (d : Duration) : Nat := d.ns / 1000000
/-- Whole microseconds of a span. -/
def micros (d : Duration) : Nat := d.ns / 1000

/-- The sum of two spans, or `none` when it is not representable. -/
def add? (a b : Duration) : Option Duration :=
  if a.ns + b.ns < limit then some ⟨a.ns + b.ns⟩ else none

theorem add?_eq_some_iff {a b c : Duration} :
    a.add? b = some c ↔ a.ns + b.ns < limit ∧ c.ns = a.ns + b.ns := by
  cases c
  unfold add?
  split <;> simp <;> omega

theorem add?_eq_none_iff {a b : Duration} : a.add? b = none ↔ limit ≤ a.ns + b.ns := by
  unfold add?
  split <;> simp <;> omega

theorem le_def {a b : Duration} : a ≤ b ↔ a.ns ≤ b.ns := Iff.rfl

theorem lt_def {a b : Duration} : a < b ↔ a.ns < b.ns := Iff.rfl

end Duration

/-! ### Instants -/

/-- A point in time: nanoseconds since the clock was started. -/
structure Instant where
  /-- Nanoseconds since the start of the clock. -/
  ns : Nat
deriving DecidableEq, Repr, Inhabited

namespace Instant

/-- The first instant that cannot be represented.  An instant is stored as signed 64-bit seconds
since a moment before the clock was started, so fewer seconds lie ahead than a signed 64-bit number
holds. -/
def limit : Nat := 9223372036854775807 * Duration.nsPerSec

instance : LE Instant := ⟨fun a b => a.ns ≤ b.ns⟩
instance : LT Instant := ⟨fun a b => a.ns < b.ns⟩
instance (a b : Instant) : Decidable (a ≤ b) := inferInstanceAs (Decidable (a.ns ≤ b.ns))
instance (a b : Instant) : Decidable (a < b) := inferInstanceAs (Decidable (a.ns < b.ns))

/-- The start of the clock. -/
def start : Instant := ⟨0⟩

/-- The instant a span after another one. -/
def after (t : Instant) (d : Duration) : Instant := ⟨t.ns + d.ns⟩

/-- The instant a span after another one, or `none` beyond the range of the clock. -/
def after? (t : Instant) (d : Duration) : Option Instant :=
  if t.ns + d.ns < limit then some (t.after d) else none

theorem after?_eq_none_iff {t : Instant} {d : Duration} :
    t.after? d = none ↔ limit ≤ t.ns + d.ns := by
  unfold after?
  split <;> simp <;> omega

/-- The time from `earlier` to `later`; zero when `later` comes first. -/
def since (later earlier : Instant) : Duration := ⟨later.ns - earlier.ns⟩

/-- The later of two instants. -/
def max (a b : Instant) : Instant := if a.ns ≤ b.ns then b else a

/-- Whole milliseconds since the start of the clock. -/
def millis (t : Instant) : Nat := t.ns / 1000000

/-- Whole microseconds since the start of the clock. -/
def micros (t : Instant) : Nat := t.ns / 1000

theorem le_def {a b : Instant} : a ≤ b ↔ a.ns ≤ b.ns := Iff.rfl

theorem lt_def {a b : Instant} : a < b ↔ a.ns < b.ns := Iff.rfl

@[simp] theorem since_after (t : Instant) (d : Duration) : (t.after d).since t = d := by
  cases d; simp [since, after]

end Instant

end Uplink
