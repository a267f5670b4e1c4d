/-
Writes and their receipts.

A write is a payload on its way to a node.  Its submitter holds a receipt, which tells the outcome
once.  The two are tied by a ticket, a number that is never used twice.

* `Uplink.PendingWrite` — a payload with its ticket and its history;
* `Uplink.Outcome` — a delivery, or the payload handed back with the error;
* `Uplink.PendingWrite.delivered`, `Uplink.PendingWrite.undelivered` — the two outcomes;
* `Uplink.Receipt`, `Uplink.Receipt.poll` — what the submitter sees.
-/

import Uplink.Error

set_option relaxedAutoImplicit false
set_option autoImplicit false

namespace Uplink

/-- A payload on its way to a node. -/
structure PendingWrite where
  /-- The number that ties the write to its receipt. -/
  ticket : Nat
  /-- The bytes to transmit. -/
  payload : Bytes
  /-- Whether a response is expected; `none` follows the connection. -/
  expects : Option Bool := none
  /-- When the write was created. -/
  enqueuedAt : Instant
  /-- When the write left the queue. -/
  dispatchedAt : Option Instant := none
deriving DecidableEq, Repr

/-- A delivered payload. -/
structure Delivery where
  /-- The bytes transmitted. -/
  bytesSent : Nat
  /-- The response, if one was expected. -/
  response : Option Bytes
  /-- The time from creation to dispatch. -/
  queuedFor : Duration
  /-- The time from dispatch to resolution. -/
  latency : Duration
deriving DecidableEq, Repr

/-- How a write ended. -/
inductive Outcome
  | delivered (delivery : Delivery)
  | undelivered (returned : Undelivered)
deriving DecidableEq, Repr

namespace PendingWrite

/-- The write leaves the queue. -/
def dispatch (w : PendingWrite) (now : Instant) : PendingWrite :=
  { w with dispatchedAt := some now }

@[simp] theorem ticket_dispatch (w : PendingWrite) (now : Instant) :
    (w.dispatch now).ticket = w.ticket := rfl

/-- The time since the write was dispatched. -/
def latency (w : PendingWrite) (now : Instant) : Duration :=
  now.since (w.dispatchedAt.getD w.enqueuedAt)

/-- The outcome of a write that was transmitted and, where expected, answered. -/
def delivered (w : PendingWrite) (now : Instant) (response : Option Bytes) : Outcome :=
  .delivered {
    bytesSent := w.payload.length
    response
    queuedFor := (w.dispatchedAt.getD w.enqueuedAt).since w.enqueuedAt
    latency := w.latency now }

/-- The outcome of a write that failed: its payload is handed back unchanged. -/
def undelivered (w : PendingWrite) (error : ConnectionError) : Outcome :=
  .undelivered ⟨w.payload, error⟩

end PendingWrite

/-! ### Receipts -/

/-- What the submitter of a write holds. -/
inductive Receipt
  /-- The write is on its way. -/
  | unresolved
  /-- The outcome has not been looked at. -/
  | ready (outcome : Outcome)
  /-- The outcome was handed over. -/
  | taken
deriving DecidableEq, Repr

namespace Receipt

/-- The answer of a receipt that no longer has an outcome to tell. -/
def exhausted : Outcome := .undelivered ⟨[], .cancelled⟩

/-- The write resolves; only the first outcome counts. -/
def resolve (r : Receipt) (outcome : Outcome) : Receipt :=
  match r with
  | unresolved => ready outcome
  | r => r

@[simp] theorem resolve_resolve (r : Receipt) (first second : Outcome) :
    (r.resolve first).resolve second = r.resolve first := by
  cases r <;> rfl

/-- Looks at a receipt without waiting.  The outcome is handed over, so it is told once. -/
def poll : Receipt → Option Outcome × Receipt
  | unresolved => (none, unresolved)
  | ready outcome => (some outcome, taken)
  | taken => (some exhausted, taken)

end Receipt

end Uplink
