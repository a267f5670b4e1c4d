/-
The idle detector of a connection.

The detector ticks at a fixed interval, counted anew from every activity.  At a tick it compares the
time without activity with a threshold and decides: a free connection is probed, and failed when the
probe stays unanswered; a connection that cannot be probed is failed at once; for a busy connection
the request is the probe, so it gets one more interval.

* `Uplink.KeepAlive` — the detector;
* `Uplink.KeepAlive.start?` — a detector started at an instant, if its first tick can be
  represented;
* `Uplink.KeepAlive.tick?` — takes a tick that is due and plans the next one, if the clock has room
  for it;
* `Uplink.KeepAlive.touch`, `Uplink.KeepAlive.hasRoom` — the ticks are counted anew, and whether the
  clock has room for that;
* `Uplink.KeepAlive.check?` — the decision; `none` when threshold and interval have no representable
  sum.
-/

import Uplink.Duration
import Uplink.Status

set_option relaxedAutoImplicit false
set_option autoImplicit false

namespace Uplink

/-- The decision at a tick. -/
inductive IdleCheck
  /-- Nothing to do. -/
  | active
  /-- Send a probe. -/
  | probe
  /-- Fail the connection, idle for this long. -/
  | expired (idle : Duration)
deriving DecidableEq, Repr

/-- A periodic idle detector. -/
structure KeepAlive where
  /-- The time without activity after which a free connection is probed. -/
  idleTime : Duration
  /-- The time between ticks. -/
  interval : Duration
  /-- When the next tick is due. -/
  due : Instant
  /-- The tick that sent the probe whose answer is awaited. -/
  probeSentAt : Option Instant := none
deriving DecidableEq, Repr

namespace KeepAlive

/-- A tick may be taken this late before the period is counted anew. -/
def tolerance : Duration := .ofMillis 5

/-- A detector whose first tick is one interval away. -/
def start? (now : Instant) (idleTime interval : Duration) : Option KeepAlive :=
  (now.after? interval).map fun due => { idleTime, interval, due }

theorem start?_eq_none_iff (now : Instant) (idleTime interval : Duration) :
    start? now idleTime interval = none ↔ Instant.limit ≤ now.ns + interval.ns := by
  rw [start?, Option.map_eq_none_iff, Instant.after?_eq_none_iff]

/-- A probe is outstanding. -/
def isProbing (k : KeepAlive) : Bool := k.probeSentAt.isSome

/-- The clock has room for an interval after the present: the ticks can be counted anew. -/
def hasRoom (k : KeepAlive) (now : Instant) : Bool := (now.after? k.interval).isSome

theorem hasRoom_eq_false_iff (k : KeepAlive) (now : Instant) :
    k.hasRoom now = false ↔ Instant.limit ≤ now.ns + k.interval.ns := by
  rw [hasRoom, Option.isSome_eq_false_iff, Option.isNone_iff_eq_none, Instant.after?_eq_none_iff]

/-- Activity: the next tick is a whole interval away.  Without room for it, there will be none. -/
def touch (k : KeepAlive) (now : Instant) : KeepAlive := { k with due := now.after k.interval }

/-- The tick of `sentAt` sent a probe. -/
def probeSent (k : KeepAlive) (sentAt : Instant) : KeepAlive :=
  { k with probeSentAt := some sentAt }

/-- No probe is outstanding any more. -/
def clearProbe (k : KeepAlive) : KeepAlive := { k with probeSentAt := none }

@[simp] theorem isProbing_touch (k : KeepAlive) (now : Instant) :
    (k.touch now).isProbing = k.isProbing := rfl

@[simp] theorem isProbing_probeSent (k : KeepAlive) (sentAt : Instant) :
    (k.probeSent sentAt).isProbing = true := rfl

@[simp] theorem isProbing_clearProbe (k : KeepAlive) : k.clearProbe.isProbing = false := rfl

/-- When the tick after the one due at `due` and taken at `now` is due: the period is kept unless
the tick was taken too late.  A tick that was taken in time may plan the next one beyond the range
of the clock, which is then never due. -/
def nextDue (k : KeepAlive) (now : Instant) : Instant :=
  if k.due.after tolerance < now then now.after k.interval else k.due.after k.interval

/-- Takes the tick that is due: its instant, and the detector with the next tick planned. -/
def tick (k : KeepAlive) (now : Instant) : Instant × KeepAlive :=
  (k.due, { k with due := k.nextDue now })

/-- Takes the tick that is due, as `tick` does.  There is no result if it is taken too late and the
clock has no room for the next one. -/
def tick? (k : KeepAlive) (now : Instant) : Option (Instant × KeepAlive) :=
  if k.due.after tolerance < now ∧ !k.hasRoom now then none else some (k.tick now)

theorem tick?_eq_none_iff (k : KeepAlive) (now : Instant) : k.tick? now = none ↔
    k.due.after tolerance < now ∧ Instant.limit ≤ now.ns + k.interval.ns := by
  simp [tick?, ← hasRoom_eq_false_iff]

/-- A tick that is taken leaves the detector as it is, but for the next tick. -/
theorem tick?_cases (k : KeepAlive) (now : Instant) : k.tick? now = none ∨
    ∃ due, due = k.nextDue now ∧ k.tick? now = some (k.due, { k with due }) := by
  unfold tick?
  split
  · exact .inl rfl
  · exact .inr ⟨_, rfl, rfl⟩

/-- The decision for a free connection. -/
def checkFree (k : KeepAlive) (idle : Duration) (now : Instant) (canProbe : Bool) : IdleCheck :=
  match k.probeSentAt with
  | some sent => if k.interval ≤ now.since sent then .expired idle else .active
  | none =>
      if idle < k.idleTime then .active
      else if canProbe then .probe
      else .expired idle

/-- The decision for a busy connection. -/
def checkBusy? (k : KeepAlive) (idle : Duration) : Option IdleCheck :=
  (k.idleTime.add? k.interval).map fun limit => if limit ≤ idle then .expired idle else .active

/-- The decision at a tick of `now` for a connection last active at `lastActivity`. -/
def check? (k : KeepAlive) (status : Status) (lastActivity now : Instant) (canProbe : Bool) :
    Option IdleCheck :=
  let idle := now.since lastActivity
  match status with
  | .free => some (k.checkFree idle now canProbe)
  | .writing | .waiting => k.checkBusy? idle
  | .undefined | .connecting | .connectFailed | .stopped => some .active

/-- Only the decision for a busy connection needs a sum. -/
theorem check?_eq_none_iff (k : KeepAlive) (status : Status) (last tick : Instant)
    (canProbe : Bool) : k.check? status last tick canProbe = none ↔
      status.isBusy = true ∧ Duration.limit ≤ k.idleTime.ns + k.interval.ns := by
  cases status with
  | writing | waiting =>
      simp [check?, checkBusy?, Duration.add?_eq_none_iff, Status.isBusy]
  | _ => simp [check?, Status.isBusy]

end KeepAlive

end Uplink
