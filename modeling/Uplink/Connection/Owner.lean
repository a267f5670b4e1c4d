/-
What the owner of a connection does.

The owner queues writes, takes back those that wait, and gives commands.  Nothing here waits; the
task reads the commands later, in order.  A task that is gone reads no command.

* `Uplink.Connection.write` — a write is queued and the task is woken, or it is cancelled at once;
* `Uplink.Connection.push?`, `Uplink.Connection.post` — the two halves of that;
* `Uplink.Connection.connect`, `Uplink.Connection.shutdown`, `Uplink.Connection.close` — commands;
* `Uplink.Connection.takePending` — hands back the writes that wait;
* `Uplink.Connection.letGo` — the owner gives up the handle.
-/

import Uplink.Connection.State

set_option relaxedAutoImplicit false
set_option autoImplicit false

namespace Uplink.Connection

/-- Queues a write; a stopped connection takes none. -/
def push? (c : Connection) (w : PendingWrite) : Option Connection :=
  if c.status = .stopped then none else some { c with queue := c.queue ++ [w] }

theorem push?_eq_none_iff {c : Connection} {w : PendingWrite} :
    c.push? w = none ↔ c.status = .stopped := by
  unfold push?
  split <;> simp_all

theorem eq_of_push? {c d : Connection} {w : PendingWrite} (h : c.push? w = some d) :
    d = { c with queue := c.queue ++ [w] } := by
  unfold push? at h
  split at h
  · cases h
  · cases h
    rfl

/-- Gives a command to the task, if there is one. -/
def post (c : Connection) (command : Command) : Progress :=
  if c.isGone then ⟨c, [.noticed (.commandDropped c.endpoint)]⟩
  else ⟨{ c with inbox := c.inbox ++ [command] }, []⟩

/-- A task reads the commands given to it. -/
theorem post_of_not_isGone {c : Connection} (h : c.isGone = false) (command : Command) :
    c.post command = ⟨{ c with inbox := c.inbox ++ [command] }, []⟩ := by
  simp [post, h]

/-- Cancels a write that was not taken. -/
def reject (c : Connection) (w : PendingWrite) : Progress :=
  ⟨{ c with counters := c.counters.cancelled 1 }, [.resolved w.ticket (w.undelivered .cancelled)]⟩

/-- Submits a write. -/
def write (c : Connection) (w : PendingWrite) : Progress :=
  match c.push? w with
  | some c => c.post .wake
  | none => c.reject w

/-- Asks for a connect. -/
def connect (c : Connection) : Progress := c.post .connect

/-- Asks for a close. -/
def shutdown (c : Connection) : Progress := c.post (.close none)

/-- Asks for a close and waits for it; a task that is gone is not waited for. -/
def close (c : Connection) (waiter : Waiter) : Progress :=
  if c.isGone then ⟨c, [.released waiter]⟩
  else ⟨{ c with inbox := c.inbox ++ [.close (some waiter)] }, []⟩

/-- Hands back the writes that wait, in order. -/
def takePending (c : Connection) : List PendingWrite × Connection :=
  (c.queue, { c with queue := [] })

@[simp] theorem takePending_fst (c : Connection) : c.takePending.1 = c.queue := rfl

@[simp] theorem queue_takePending (c : Connection) : c.takePending.2.queue = [] := rfl

/-- Cancels the writes that wait, because nobody can send or take them any more. -/
def abandonQueue (c : Connection) : Progress :=
  ⟨{ c with queue := [] }, c.queue.map fun w => .resolved w.ticket (w.undelivered .cancelled)⟩

/-- The owner gives up the handle, which closes the connection. -/
def letGo (c : Connection) : Progress :=
  let c := { c with isHeld := false }
  if c.position = .crashed then c.abandonQueue
  else if c.status = .stopped then ⟨c, []⟩
  else ⟨{ c with inbox := c.inbox ++ [.close none] }, []⟩

/-- A crashed connection loses what waits, and any other is asked to close at most. -/
theorem letGo_cases (c : Connection) :
    c.position = .crashed ∧ c.letGo = { c with isHeld := false }.abandonQueue ∨
      c.position ≠ .crashed ∧ ∃ asked : List Command, (asked = [] ∨ asked = [.close none]) ∧
        c.letGo = ⟨{ c with isHeld := false, inbox := c.inbox ++ asked }, []⟩ := by
  by_cases hp : c.position = .crashed
  · exact .inl ⟨hp, if_pos hp⟩
  · refine .inr ⟨hp, ?_⟩
    simp only [letGo, hp, if_false]
    split
    · exact ⟨[], .inl rfl, by rw [List.append_nil]⟩
    · exact ⟨_, .inr rfl, rfl⟩

end Uplink.Connection
