/-
One connection among those who use it.

A connection is used by any number of submitters, by an owner who takes back what waits, and by the
world, in which anything can happen to a task that waits.  Submitting has two halves, between which
others may act: the write is queued, and the task is woken.  A scene is the connection together with
what the others hold and with a record of what has happened.

* `Uplink.Scene` — the connection, what the others hold, and the record;
* `Uplink.Move`, `Uplink.Scene.step` — what can happen, and its outcome; a move that is not possible
  changes nothing;
* `Uplink.Scene.Reachable` — the scenes that runs lead to, whatever their moves are;
* `Uplink.Scene.Reachable.intact` — **the invariant of the connection holds in all of them**;
* `Uplink.Scene.status_tells` — between two steps, **the published status tells all the rest**.
-/

import Uplink.Proofs.Effects
import Uplink.Proofs.Sound

set_option relaxedAutoImplicit false
set_option autoImplicit false

namespace Uplink

/-! ### What is recorded -/

/-- Bytes that a socket was handed. -/
structure Shipment where
  /-- The socket. -/
  socket : SocketId
  /-- The write whose payload the bytes are from; `none` for those of a probe. -/
  ticket : Option Nat
  /-- The bytes. -/
  bytes : Bytes
deriving DecidableEq, Repr

/-- The task is between two steps: no signal is to be fired, and it has not crashed. -/
def Position.isBetween : Position → Bool
  | signalled _ | crashed => false
  | _ => true

theorem Position.error?_of_isBetween {position : Position} (h : position.isBetween = true) :
    position.error? = none := by
  cases position <;> first | rfl | cases h

namespace Connection

/-- The write whose payload is handed to the socket. -/
def carrying (c : Connection) : Option Nat :=
  match c.position with
  | .parked (.writing _) => c.inFlight.map (·.ticket)
  | _ => none

/-- What the sockets are handed in a step. -/
def shipments (c : Connection) (p : Progress) : List Shipment :=
  p.transmissions.map fun (socket, bytes) => ⟨socket, c.carrying, bytes⟩

/-- The write that a step from one connection to the next takes from the queue. -/
def begun (c next : Connection) : List Nat :=
  match c.inFlight with
  | none => next.inFlight.toList.map (·.ticket)
  | some _ => []

end Connection

/-- A connection among those who use it. -/
structure Scene where
  /-- The connection. -/
  connection : Connection
  /-- Submitters that have queued a write and not woken the task yet. -/
  pushing : Nat := 0
  /-- Writes that were handed back and are still held. -/
  handed : List PendingWrite := []
  /-- Every write submitted so far. -/
  submitted : List PendingWrite := []
  /-- The writes that left the queue to be sent, in order. -/
  dispatched : List Nat := []
  /-- What the surroundings learnt, in order. -/
  effects : List Effect := []
  /-- What sockets were handed, in order. -/
  shipped : List Shipment := []
  /-- The sockets there have been. -/
  sockets : List SocketId := []

/-! ### Moves -/

/-- What can happen in a scene. -/
inductive Move
  /-- The task makes a turn. -/
  | turn (now : Instant) (stimulus : Stimulus)
  /-- A submitter queues a fresh write, or is turned away. -/
  | push (w : PendingWrite)
  /-- A submitter queues a write that was handed back, perhaps with a new wish for a response. -/
  | pushAgain (w : PendingWrite) (expects : Option Bool)
  /-- A submitter that has queued a write wakes the task. -/
  | wake
  /-- The writes that wait are handed back. -/
  | take
  /-- A write that was handed back is dropped. -/
  | discard (w : PendingWrite)
  /-- The owner asks for a connect. -/
  | connect
  /-- The owner asks for a close. -/
  | shutdown
  /-- The owner asks for a close and waits for it. -/
  | close (waiter : Waiter)
  /-- The owner gives up the handle. -/
  | letGo
  /-- The rule for the end of a frame changes. -/
  | recode (codec : FrameCodec)

/-- The sockets that a stimulus brings. -/
def Stimulus.sockets : Stimulus → List SocketId
  | dialled link => [link.socket]
  | _ => []

namespace Scene

variable {s : Scene}

/-- The tickets of the writes that wait. -/
def queued (s : Scene) : List Nat := s.connection.queue.map (·.ticket)

/-- The ticket of the write in flight. -/
def flying (s : Scene) : List Nat := s.connection.inFlight.toList.map (·.ticket)

/-- The tickets of the writes that were handed back. -/
def takenBack (s : Scene) : List Nat := s.handed.map (·.ticket)

/-- The outcomes told so far. -/
def outcomes (s : Scene) : List (Nat × Outcome) := s.effects.filterMap Effect.outcome?

/-- The tickets of the writes that are resolved. -/
def resolved (s : Scene) : List Nat := s.outcomes.map (·.1)

/-- The bytes that sockets were handed for a write. -/
def carried (s : Scene) (ticket : Nat) : Bytes :=
  (s.shipped.filter (·.ticket = some ticket)).flatMap (·.bytes)

/-- The connection takes a step. -/
def after (s : Scene) (p : Progress) : Scene :=
  { s with connection := p.next, effects := s.effects ++ p.effects }

/-- The task makes a turn. -/
def turn (s : Scene) (now : Instant) (stimulus : Stimulus) : Scene :=
  let p := s.connection.turn now stimulus
  { s.after p with
    dispatched := s.dispatched ++ s.connection.begun p.next
    shipped := s.shipped ++ s.connection.shipments p
    sockets := s.sockets ++ stimulus.sockets }

@[simp] theorem connection_turn (s : Scene) (now : Instant) (stimulus : Stimulus) :
    (s.turn now stimulus).connection = (s.connection.turn now stimulus).next := rfl

/-- A write is queued, or cancelled at once. -/
def push (s : Scene) (w : PendingWrite) : Scene :=
  match s.connection.push? w with
  | some connection => { s with connection, pushing := s.pushing + 1 }
  | none => s.after (s.connection.reject w)

/-- A move; one that is not possible changes nothing. -/
def step (s : Scene) : Move → Scene
  | .turn now stimulus =>
      -- No two connects give the same socket.
      if ∀ socket ∈ stimulus.sockets, socket ∉ s.sockets then s.turn now stimulus else s
  | .push w =>
      if s.connection.isHeld ∧ w.ticket ∉ s.submitted.map (·.ticket) ∧ w.dispatchedAt = none then
        { s.push w with submitted := s.submitted ++ [w] }
      else s
  | .pushAgain w expects =>
      if s.connection.isHeld ∧ w ∈ s.handed then
        { s with handed := s.handed.erase w }.push { w with expects }
      else s
  | .wake =>
      if 0 < s.pushing then
        { s.after (s.connection.post .wake) with pushing := s.pushing - 1 }
      else s
  | .take =>
      if s.connection.isHeld then
        let (writes, connection) := s.connection.takePending
        { s with connection, handed := s.handed ++ writes }
      else s
  | .discard w =>
      if w ∈ s.handed then
        { s with
          handed := s.handed.erase w
          effects := s.effects ++ [.resolved w.ticket (w.undelivered .cancelled)] }
      else s
  | .connect => if s.connection.isHeld then s.after s.connection.connect else s
  | .shutdown => if s.connection.isHeld then s.after s.connection.shutdown else s
  | .close waiter => if s.connection.isHeld then s.after (s.connection.close waiter) else s
  | .letGo =>
      -- Who submits holds the handle too.
      if s.connection.isHeld ∧ s.pushing = 0 then s.after s.connection.letGo else s
  | .recode codec => { s with connection := { s.connection with codec } }

/-- A sequence of moves. -/
def run (s : Scene) (moves : List Move) : Scene := moves.foldl step s

/-- A fresh connection that nobody has used. -/
def start (now : Instant) (endpoint : Endpoint) (config : Config) (codec : FrameCodec)
    (name : Option String) : Scene where
  connection := .spawn now endpoint config codec name

/-- A run from a fresh connection leads to the scene. -/
inductive Reachable : Scene → Prop
  | start (now : Instant) (endpoint : Endpoint) (config : Config) (codec : FrameCodec)
      (name : Option String) : Reachable (start now endpoint config codec name)
  | step {s : Scene} (h : Reachable s) (move : Move) : Reachable (s.step move)

theorem Reachable.run (h : s.Reachable) (moves : List Move) : (s.run moves).Reachable := by
  induction moves generalizing s with
  | nil => exact h
  | cons move moves ih => exact ih (h.step move)

/-! ### The outcome of a move -/

/-- What a move can do. -/
inductive Moved (s : Scene) : Scene → Prop
  /-- Nothing. -/
  | stays : Moved s s
  | turns (now : Instant) (stimulus : Stimulus) : Moved s (s.turn now stimulus)
  /-- A fresh write is queued. -/
  | pushes (w : PendingWrite) (connection : Connection)
      (hc : s.connection.push? w = some connection)
      (hfresh : w.ticket ∉ s.submitted.map (·.ticket)) (hw : w.dispatchedAt = none) :
      Moved s { s with
        connection, pushing := s.pushing + 1, submitted := s.submitted ++ [w] }
  /-- A fresh write is turned away. -/
  | rejects (w : PendingWrite) (hc : s.connection.push? w = none)
      (hfresh : w.ticket ∉ s.submitted.map (·.ticket)) (hw : w.dispatchedAt = none) :
      Moved s { s.after (s.connection.reject w) with submitted := s.submitted ++ [w] }
  /-- A write that was handed back is queued again. -/
  | pushesAgain (w : PendingWrite) (expects : Option Bool) (connection : Connection)
      (hw : w ∈ s.handed) (hc : s.connection.push? { w with expects } = some connection) :
      Moved s { s with connection, pushing := s.pushing + 1, handed := s.handed.erase w }
  /-- A write that was handed back is turned away. -/
  | rejectsAgain (w : PendingWrite) (expects : Option Bool) (hw : w ∈ s.handed)
      (hc : s.connection.push? { w with expects } = none) :
      Moved s { s.after (s.connection.reject { w with expects }) with handed := s.handed.erase w }
  | wakes (h : 0 < s.pushing) :
      Moved s { s.after (s.connection.post .wake) with pushing := s.pushing - 1 }
  | takes :
      Moved s { s with
        connection := s.connection.takePending.2
        handed := s.handed ++ s.connection.queue }
  | discards (w : PendingWrite) (hw : w ∈ s.handed) :
      Moved s { s with
        handed := s.handed.erase w
        effects := s.effects ++ [.resolved w.ticket (w.undelivered .cancelled)] }
  /-- The owner asks for something, and waits for nothing. -/
  | posts (command : Command) : Moved s (s.after (s.connection.post command))
  | closes (waiter : Waiter) : Moved s (s.after (s.connection.close waiter))
  | letsGo (h : s.pushing = 0) : Moved s (s.after s.connection.letGo)
  | recodes (codec : FrameCodec) : Moved s { s with connection := { s.connection with codec } }

theorem moved_push {w : PendingWrite} (hfresh : w.ticket ∉ s.submitted.map (·.ticket))
    (hw : w.dispatchedAt = none) :
    s.Moved { s.push w with submitted := s.submitted ++ [w] } := by
  unfold push
  cases hc : s.connection.push? w with
  | some connection => exact .pushes w connection hc hfresh hw
  | none => exact .rejects w hc hfresh hw

theorem moved_pushAgain {w : PendingWrite} (expects : Option Bool) (hw : w ∈ s.handed) :
    s.Moved ({ s with handed := s.handed.erase w }.push { w with expects }) := by
  unfold push
  cases hc : s.connection.push? { w with expects } with
  | some connection =>
      simp only
      exact .pushesAgain w expects connection hw hc
  | none =>
      simp only
      exact .rejectsAgain w expects hw hc

theorem moved_ite {p : Prop} [Decidable p] {t : Scene} (h : p → s.Moved t) :
    s.Moved (if p then t else s) := by
  split
  next hp => exact h hp
  next => exact .stays

/-- Every move does one of these things. -/
theorem moved (s : Scene) (move : Move) : s.Moved (s.step move) := by
  cases move with
  | turn now stimulus => exact moved_ite fun _ => .turns now stimulus
  | push w => exact moved_ite fun h => moved_push h.2.1 h.2.2
  | pushAgain w expects => exact moved_ite fun h => moved_pushAgain expects h.2
  | wake => exact moved_ite .wakes
  | take => exact moved_ite fun _ => .takes
  | discard w => exact moved_ite (.discards w)
  | connect => exact moved_ite fun _ => .posts .connect
  | shutdown => exact moved_ite fun _ => .posts (.close none)
  | close waiter => exact moved_ite fun _ => .closes waiter
  | letGo => exact moved_ite fun h => .letsGo h.2
  | recode codec => exact .recodes codec

/-! ### The connection of a scene -/

/-- Every move keeps the invariant of the connection. -/
theorem Moved.intact {t : Scene} (hm : s.Moved t) (h : s.connection.Intact) :
    t.connection.Intact := by
  cases hm with
  | stays | discards => exact h
  | turns now stimulus => exact h.turn now stimulus
  | pushes w connection hc | pushesAgain w expects connection hw hc => exact h.push hc
  | rejects | rejectsAgain | recodes => exact h.congr
  | wakes => exact h.post .wake
  | takes => exact h.requeue fun _ => rfl
  | posts command => exact h.post command
  | closes waiter => exact h.close waiter
  | letsGo => exact h.letGo

/-- **The invariant of the connection holds in every scene** that a run leads to. -/
theorem Reachable.intact (h : s.Reachable) : s.connection.Intact := by
  induction h with
  | start now endpoint config codec name =>
      exact .inl (Connection.sound_spawn endpoint config codec name)
  | step _ move ih => exact (moved _ move).intact ih

/-! ### The status tells the rest -/

/-- **Between two steps of the task, the published status tells all the rest**; what is published
agrees with it at any time. -/
theorem status_tells (h : s.Reachable) :
    (s.connection.position.isBetween = true →
      (s.connection.isBusy = true ↔ s.connection.inFlight.isSome = true) ∧
      (s.connection.inFlight.isSome = true ↔
        s.connection.status = .writing ∨ s.connection.status = .waiting) ∧
      (s.connection.socket.isSome = true ↔ s.connection.status = .free ∨
        s.connection.status = .writing ∨ s.connection.status = .waiting) ∧
      (s.connection.deadline.isArmed = true ↔ s.connection.status = .connecting ∨
        (s.connection.status = .writing ∨ s.connection.status = .waiting) ∧
          s.connection.config.requestTimeout.isSome = true) ∧
      (s.connection.keepAlive.isProbing = true → s.connection.status = .free) ∧
      (s.connection.block.held ≠ [] →
        s.connection.status = .waiting ∨ s.connection.keepAlive.isProbing = true) ∧
      (s.connection.exiting = true ↔ s.connection.status = .stopped)) ∧
    (s.connection.isBusy = true ↔
      s.connection.status = .writing ∨ s.connection.status = .waiting) ∧
    (s.connection.status = .connectFailed → s.connection.failure.isSome = true) ∧
    (s.connection.status = .stopped → s.connection.queue = []) ∧
    (s.connection.isFree = true ↔ s.connection.status = .free) ∧
    (∀ now, s.connection.isRetryEligible now = true ↔ s.connection.status = .connectFailed ∧
      ∃ failure, s.connection.failure = some failure ∧
        s.connection.config.retryInterval ≤ now.since failure.time) := by
  have hbusy : s.connection.status.isBusy = true ↔
      s.connection.status = .writing ∨ s.connection.status = .waiting := by simp [Status.isBusy]
  have hp := h.intact.published
  refine ⟨fun hbetween => ?_, hp.isBusy_iff.trans hbusy, hp.failure_isSome, hp.queue_eq_nil,
    hp.isFree_iff, hp.isRetryEligible_iff⟩
  have hs : s.connection.Sound := h.intact.sound fun hc => by
    rw [hc] at hbetween
    cases hbetween
  have herror := Position.error?_of_isBetween hbetween
  refine ⟨hs.isBusy_iff.trans hs.inFlight_iff.symm, hs.inFlight_iff.trans hbusy, ?_, ?_,
    hs.free_of_isProbing, hs.held, hs.exiting_iff⟩
  · rw [hs.socket_iff]
    simp [Status.isConnected]
  · rw [← hbusy]
    exact ⟨hs.timed, hs.isArmed herror⟩

/-! ### A run -/

/-- A write of one byte. -/
def sampleWrite : PendingWrite where
  ticket := 7
  payload := [65]
  enqueuedAt := ⟨0⟩

/-- A run in which a write is queued on a fresh connection, and the connect succeeds: the payload is
about to be handed to the socket. -/
def sampleRun : List Move :=
  [.push sampleWrite, .turn ⟨0⟩ .tick, .turn ⟨0⟩ .tick, .wake, .turn ⟨1⟩ .command, .connect,
    .turn ⟨1⟩ .command, .turn ⟨1⟩ .tick, .turn ⟨1⟩ .tick, .turn ⟨2⟩ (.dialled ⟨0, none, []⟩),
    .turn ⟨2⟩ .tick, .turn ⟨2⟩ .tick]

/-- The scene that the run leads to. -/
def sample : Scene := (start ⟨0⟩ ⟨"node", 9001⟩ {} .line none).run sampleRun

theorem reachable_sample : sample.Reachable := (Reachable.start _ _ _ _ _).run _

theorem status_tells_sample :
    sample.connection.position.isBetween = true ∧ sample.connection.status = .writing ∧
      sample.connection.inFlight.isSome = true :=
  ⟨by decide, by decide, ((status_tells reachable_sample).1 (by decide)).2.1.2 (by decide)⟩

end Scene

end Uplink
