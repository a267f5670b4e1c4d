/-
A one-shot timer.

A deadline is armed for a span and falls due once, when the span has passed; cancelled or already
fallen due, it never does.  A span that ends beyond the range of the clock is cut to thirty years.

* `Uplink.Deadline` — the timer;
* `Uplink.Deadline.arm`, `Uplink.Deadline.cancel` — start and stop;
* `Uplink.Deadline.expired?` — the span it was armed for, once it is due;
* `Uplink.Deadline.wait` — waiting for it, up to a limit.
-/

import Uplink.Duration

set_option relaxedAutoImplicit false
set_option autoImplicit false

namespace Uplink

/-- A timer that falls due once. -/
structure Deadline where
  /-- When it falls due and the span it was armed for; `none` when it is not armed. -/
  pending : Option (Instant × Duration) := none
deriving DecidableEq, Repr, Inhabited

namespace Deadline

/-- Thirty years, in place of a span that leaves the range of the clock. -/
def farAway : Duration := .ofSecs (86400 * 365 * 30)

/-- Arms the timer, whether or not it was armed before. -/
def arm (_ : Deadline) (now : Instant) (span : Duration) : Deadline :=
  ⟨some ((now.after? span).getD (now.after farAway), span)⟩

/-- Disarms the timer. -/
def cancel (_ : Deadline) : Deadline := ⟨none⟩

/-- The timer will fall due. -/
def isArmed (d : Deadline) : Bool := d.pending.isSome

/-- When the timer falls due. -/
def due? (d : Deadline) : Option Instant := d.pending.map (·.1)

/-- The span of a timer that is due. -/
def expired? (d : Deadline) (now : Instant) : Option Duration :=
  match d.pending with
  | some (due, span) => if due ≤ now then some span else none
  | none => none

/-- Waits for the timer, but not longer than `limit`: its span if it fell due, the time when the
waiting ends, and the timer left behind. -/
def wait (d : Deadline) (now : Instant) (limit : Duration) : Option Duration × Instant × Deadline :=
  match d.pending with
  | some (due, span) =>
      if due ≤ now.after limit then (some span, now.max due, d.cancel)
      else (none, now.after limit, d)
  | none => (none, now.after limit, d)

@[simp] theorem isArmed_arm (d : Deadline) (now : Instant) (span : Duration) :
    (d.arm now span).isArmed = true := rfl

@[simp] theorem isArmed_cancel (d : Deadline) : d.cancel.isArmed = false := rfl

end Deadline

end Uplink
