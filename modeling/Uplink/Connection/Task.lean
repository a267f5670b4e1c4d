/-
The task of a connection.

The task runs in small steps.  It looks at the published status and enters the phase for it; it
observes, one at a time, the things that a phase waits for; and it fires the signal that ends the
phase. What it can observe is a `Stimulus`; one that cannot happen in the present phase changes
nothing.

* `Uplink.Stimulus` — what can happen to a waiting task;
* `Uplink.Connection.enter` — the phase of the published status;
* `Uplink.Connection.observe` — something happens in a phase;
* `Uplink.Connection.turn` — one step of the task, whatever it is about to do.
-/

import Uplink.Connection.Owner
import Uplink.Connection.Work

set_option relaxedAutoImplicit false
set_option autoImplicit false

namespace Uplink

/-- What can happen to a waiting task. -/
inductive Stimulus
  /-- The next command is read; once the owner is gone and all are read, that is a close. -/
  | command
  /-- The connect succeeded. -/
  | dialled (link : Link)
  /-- The connect failed. -/
  | dialFailed (fault : ConnectFault)
  /-- The deadline is due. -/
  | deadline
  /-- A tick is due. -/
  | tick
  /-- The socket took some bytes. -/
  | accepted (count : Nat)
  /-- The socket takes no bytes. -/
  | writeFailed (error : OsError)
  /-- The socket gave some bytes. -/
  | received (bytes : Bytes)
  /-- The socket has come to its end. -/
  | ended
  /-- The socket gives no bytes. -/
  | readFailed (error : OsError)
  /-- There is no room for what the socket gives. -/
  | overfull
  /-- It took too long to send a probe. -/
  | probeExpired
deriving DecidableEq, Repr

namespace Connection

/-! ### Positions -/

/-- The task waits in a phase. -/
def park (c : Connection) (phase : Phase) : Progress := ⟨{ c with position := .parked phase }, []⟩

/-- The phase ends with a signal. -/
def signal (c : Connection) (signal : Signal) : Progress :=
  ⟨{ c with position := .signalled signal }, []⟩

/-- The phase ends with a signal, unless the task is about to be stopped. -/
def proceed (c : Connection) (signal : Signal) : Progress :=
  if c.position = .overflowed then ⟨c, []⟩ else c.signal signal

theorem proceed_eq (c : Connection) (signal : Signal) : c.proceed signal = ⟨{ c with
    position := if c.position = .overflowed then .overflowed else .signalled signal }, []⟩ := by
  unfold proceed
  split
  next h =>
    cases c
    simp_all
  next => rfl

/-- The phase ends because the connection has been idle. -/
def signalIdle (c : Connection) (now : Instant) : Progress := c.signal (.idle (c.idleFor now))

/-- The owners that asked for a close in commands that were not read. -/
def unreadWaiters (c : Connection) : List Waiter :=
  c.inbox.filterMap fun command =>
    match command with
    | .close waiter => waiter
    | _ => none

/-- The task ends.  Whoever waits for it waits no more, and unread commands are dropped. -/
def finish (c : Connection) : Progress :=
  ⟨{ c with position := .finished, inbox := [], waiters := [] },
   (c.waiters ++ c.unreadWaiters).map .released⟩

/-- The task comes to a stop in the middle of its work: the write in flight is cancelled with it,
and the writes that wait stay until the owner is gone too. -/
def crash (c : Connection) : Progress :=
  let released := (c.waiters ++ c.unreadWaiters).map Effect.released
  let cancelled := c.inFlight.toList.map fun w =>
    Effect.resolved w.ticket (w.undelivered .cancelled)
  let socket := c.socket.toList.map Effect.hungUp
  let c := { c with
    position := .crashed
    socket := none
    keepAlive := c.keepAlive.clearProbe
    inFlight := none
    inbox := []
    waiters := [] }
  Progress.andThen ⟨c, released ++ cancelled ++ socket⟩ fun c =>
    -- With the owner gone as well, nobody can ever take what waits in the queue.
    if c.isHeld then ⟨c, []⟩ else c.abandonQueue

/-- The task runs for the first time. -/
def start (c : Connection) (now : Instant) : Progress :=
  match KeepAlive.start? now c.config.idleTime c.config.detectionInterval with
  | some keepAlive => { c with keepAlive, position := .entering }.say .started
  | none => c.crash

/-! ### Entering a phase -/

/-- Makes room for the next read.  A block that is full at its ceiling stays as it is; the read will
fail. -/
def makeRoom (c : Connection) : Connection :=
  match c.block.reserve with
  | .ok block => { c with block }
  | .error _ => c

/-- Bytes are taken from the socket into the block. -/
def receive (c : Connection) (bytes : Bytes) : Connection :=
  { c with
    block := c.block.fill bytes
    counters := c.counters.received bytes.length }

/-- Waits for a command, a tick or, if a probe is outstanding, its answer; then room is made. -/
def parkFree (c : Connection) : Progress :=
  if c.keepAlive.isProbing then c.makeRoom.park .free else c.park .free

/-- Enters the phase of a free connection: a queued write is dispatched, unless a probe is
outstanding. -/
def enterFree (c : Connection) (now : Instant) : Progress :=
  if !c.keepAlive.isProbing ∧ c.queue ≠ [] then c.signal .dispatch
  else if c.socket = none then c.signalIdle now
  else c.parkFree

/-- Enters the phase in which a payload is written. -/
def enterWriting (c : Connection) : Progress :=
  match c.inFlight, c.socket with
  | none, _ => c.signal (.writeFailed (.write .nothingInFlight))
  | some _, none => c.signal (.writeFailed (.write .noSocket))
  | some w, some _ => c.park (.writing w.payload)

/-- Enters the phase in which the response is awaited, for which room is made. -/
def enterWaiting (c : Connection) : Progress :=
  if c.socket = none then c.signal (.responseFailed (.protocol .noSocket))
  else c.makeRoom.park .waiting

/-- Enters the phase of the published status, or ends the task. -/
def enter (c : Connection) (now : Instant) : Progress :=
  if c.exiting then c.finish
  else
    match c.status with
    | .undefined | .connectFailed => c.park .idle
    | .connecting =>
        Progress.andThen ⟨c, [.dialled]⟩ (·.park (.connecting now))
    | .free => c.enterFree now
    | .writing => c.enterWriting
    | .waiting => c.enterWaiting
    | .stopped => c.finish

/-! ### Commands, deadlines and ticks -/

/-- Reads the next command.  Without any, an owner that is gone asks for a close. -/
def readCommand (c : Connection) : Option (Command × Connection) :=
  match c.inbox with
  | command :: rest => some (command, { c with inbox := rest })
  | [] => if c.isHeld then none else some (.close none, c)

/-- A command while a connect, a write or a response is awaited: only a close matters. -/
def observeBusyCommand (c : Connection) : Progress :=
  match c.readCommand with
  | some (.close waiter, c) => c.signal (.close waiter)
  | some (_, c) => ⟨c, []⟩
  | none => ⟨c, []⟩

/-- A command without a socket: a write that was queued goes on waiting. -/
def observeIdleCommand (c : Connection) : Progress :=
  match c.readCommand with
  | some (.connect, c) => c.signal .connect
  | some (.wake, c) => ⟨c, []⟩
  | some (.close waiter, c) => c.signal (.close waiter)
  | none => ⟨c, []⟩

/-- A command while free: a write that was queued is dispatched, unless a probe is outstanding. -/
def observeFreeCommand (c : Connection) : Progress :=
  match c.readCommand with
  | some (.connect, c) => c.signal .connect
  | some (.wake, c) =>
      if !c.keepAlive.isProbing ∧ c.queue ≠ [] then c.signal .dispatch else ⟨c, []⟩
  | some (.close waiter, c) => c.signal (.close waiter)
  | none => ⟨c, []⟩

/-- The deadline ends the phase, if it is due. -/
def observeDeadline (c : Connection) (now : Instant) (ending : Duration → Signal) : Progress :=
  match c.deadline.expired? now with
  | some span => { c with deadline := c.deadline.cancel }.signal (ending span)
  | none => ⟨c, []⟩

/-- A tick while a payload is written or a response is awaited. -/
def observeBusyTick (c : Connection) (now : Instant) : Progress :=
  if now < c.keepAlive.due then ⟨c, []⟩
  else
    match c.keepAlive.tick? now with
    | none => c.crash
    | some (tick, keepAlive) =>
        let c := { c with keepAlive }
        match c.keepAlive.check? c.status c.lastActivity tick false with
        | some (.expired idle) => c.signal (.idle idle)
        | some _ => ⟨c, []⟩
        | none => c.crash

/-! ### Probes -/

/-- A probe is completely sent. -/
def completeProbe (c : Connection) (probe : Bytes) (tick : Instant) : Progress :=
  let c := { c with
    block := c.block.reset
    keepAlive := c.keepAlive.probeSent tick
    counters := (c.counters.probed).sent probe.length }
  (c.say .probeSent).andThen (·.parkFree)

/-- A probe could not be sent. -/
def failProbe (c : Connection) (now : Instant) (error : ConnectionError) : Progress :=
  (c.say (.probeFailed · error)).andThen (·.signalIdle now)

/-- When sending a probe has taken too long. -/
def probeExpiry (c : Connection) (now : Instant) : Instant :=
  (now.after? c.keepAlive.interval).getD (now.after Deadline.farAway)

/-- Starts to send a probe; an empty one is sent already. -/
def beginProbe (c : Connection) (now tick : Instant) : Progress :=
  match c.codec.probe, c.socket with
  | none, _ => c.failProbe now (.idleTimeout (c.idleFor now))
  | some _, none => c.failProbe now (.write .noSocket)
  | some probe, some _ =>
      if probe = [] then c.completeProbe probe tick
      else c.park (.probing probe probe tick (c.probeExpiry now))

/-- A tick while free. -/
def observeFreeTick (c : Connection) (now : Instant) : Progress :=
  if now < c.keepAlive.due then ⟨c, []⟩
  else
    match c.keepAlive.tick? now with
    | none => c.crash
    | some (tick, keepAlive) =>
        let c := { c with keepAlive }
        match c.keepAlive.check? .free c.lastActivity tick c.codec.probe.isSome with
        | some .active => ⟨c, []⟩
        | some .probe => c.beginProbe now tick
        | some (.expired idle) => c.signal (.idle idle)
        | none => c.crash

/-- The answer to a probe is complete, and that is activity. -/
def endProbe (c : Connection) (now : Instant) : Connection :=
  { c with keepAlive := c.keepAlive.clearProbe, block := c.block.reset }.touch now

/-- Bytes that may answer a probe. -/
def observeAnswer (c : Connection) (now : Instant) (bytes : Bytes) : Progress :=
  let bytes := bytes.take c.block.room
  if bytes = [] then ⟨c, []⟩
  else
    -- An answer is no activity until it is complete.
    let c := c.receive bytes
    match c.codec.check c.block.held with
    | .incomplete => c.parkFree
    | .complete length =>
        if length = c.block.held.length then
          (c.say .probeAnswered).andThen fun c => (c.endProbe now).proceed .again
        else c.signalIdle now
    | .malformed _ => c.signalIdle now

/-- There will be no answer to a probe. -/
def observeNoAnswer (c : Connection) (now : Instant) (fault : ProtocolFault) : Progress :=
  (c.say (.probeUnanswered · (.protocol fault))).andThen (·.signalIdle now)

/-- There is no room for the rest of a response, if the block is full at its ceiling. -/
def observeOverfull (c : Connection) (ending : ProtocolFault → Progress) : Progress :=
  match c.block.reserve with
  | .ok _ => ⟨c, []⟩
  | .error fault => ending fault

/-! ### Responses -/

/-- How the response stands. -/
def verdict (c : Connection) : Signal :=
  match c.codec.check c.block.held with
  | .complete length =>
      if length = c.block.held.length then .frame length
      else .responseFailed (.protocol (.trailing (c.block.held.length - length) length))
  | .incomplete => .incomplete
  | .malformed fault => .responseFailed (.protocol (.frame fault))

/-- Bytes of the response. -/
def observeResponse (c : Connection) (now : Instant) (bytes : Bytes) : Progress :=
  let bytes := bytes.take c.block.room
  if bytes = [] then ⟨c, []⟩
  else
    let c := (c.receive bytes).touch now
    c.proceed c.verdict

/-! ### Observations -/

/-- The socket is handed some of the unsent bytes, at most as many as there are. -/
def transmit (c : Connection) (unsent : Bytes) (count : Nat) : Progress :=
  ⟨c, c.socket.toList.map (.transmitted · (unsent.take count))⟩

/-- Something happens while a connect is awaited. -/
def observeConnecting (c : Connection) (now since : Instant) : Stimulus → Progress
  | .dialled link => c.signal (.connected link (now.since since))
  | .dialFailed fault => c.signal (.connectFailed (.connect fault))
  | .deadline => c.observeDeadline now fun span => .connectFailed (.connectTimeout span)
  | .command => c.observeBusyCommand
  | _ => ⟨c, []⟩

/-- Something happens while free. -/
def observeFree (c : Connection) (now : Instant) : Stimulus → Progress
  | .command => c.observeFreeCommand
  | .tick => c.observeFreeTick now
  | .received bytes => if c.keepAlive.isProbing then c.observeAnswer now bytes else ⟨c, []⟩
  | .ended => if c.keepAlive.isProbing then c.observeNoAnswer now .closedByPeer else ⟨c, []⟩
  | .readFailed error =>
      if c.keepAlive.isProbing then c.observeNoAnswer now (.readFailed error) else ⟨c, []⟩
  | .overfull =>
      if c.keepAlive.isProbing then c.observeOverfull (c.observeNoAnswer now) else ⟨c, []⟩
  | _ => ⟨c, []⟩

/-- Something happens while a probe is sent; commands and ticks have to wait. -/
def observeProbing (c : Connection) (now : Instant) (probe unsent : Bytes)
    (tick expiry : Instant) : Stimulus → Progress
  | .accepted count =>
      (c.transmit unsent count).andThen fun c =>
      let rest := unsent.drop count
      if rest = [] then c.completeProbe probe tick
      else c.park (.probing probe rest tick expiry)
  | .writeFailed error => c.failProbe now (.write (.broken error))
  | .probeExpired =>
      if now < expiry then ⟨c, []⟩
      else c.failProbe now (.write (.probeTimedOut c.keepAlive.interval))
  | _ => ⟨c, []⟩

/-- Something happens while a payload is written. -/
def observeWriting (c : Connection) (now : Instant) (unsent : Bytes) : Stimulus → Progress
  | .accepted count =>
      (c.transmit unsent count).andThen fun c =>
      let rest := unsent.drop count
      if rest = [] then
        c.signal (.written ((c.inFlight.map (·.payload.length)).getD 0))
      else c.park (.writing rest)
  | .writeFailed error => c.signal (.writeFailed (.write (.broken error)))
  | .deadline => c.observeDeadline now fun span => .writeFailed (.write (.timedOut span))
  | .tick => c.observeBusyTick now
  | .command => c.observeBusyCommand
  | _ => ⟨c, []⟩

/-- Something happens while a response is awaited. -/
def observeWaiting (c : Connection) (now : Instant) : Stimulus → Progress
  | .received bytes => c.observeResponse now bytes
  | .ended => c.signal (.responseFailed (.protocol .closedByPeer))
  | .readFailed error => c.signal (.responseFailed (.protocol (.readFailed error)))
  | .overfull => c.observeOverfull fun fault => c.signal (.responseFailed (.protocol fault))
  | .deadline => c.observeDeadline now fun span => .responseFailed (.protocol (.noResponse span))
  | .tick => c.observeBusyTick now
  | .command => c.observeBusyCommand
  | _ => ⟨c, []⟩

/-- Something happens to a task that waits in a phase. -/
def observe (c : Connection) (now : Instant) (phase : Phase) (stimulus : Stimulus) : Progress :=
  match phase with
  | .idle => if stimulus = .command then c.observeIdleCommand else ⟨c, []⟩
  | .connecting since => c.observeConnecting now since stimulus
  | .free => c.observeFree now stimulus
  | .probing probe unsent tick expiry => c.observeProbing now probe unsent tick expiry stimulus
  | .writing unsent => c.observeWriting now unsent stimulus
  | .waiting => c.observeWaiting now stimulus

/-- One step of the task.  The stimulus counts only when the task waits. -/
def turn (c : Connection) (now : Instant) (stimulus : Stimulus) : Progress :=
  match c.position with
  | .spawned => c.start now
  | .entering => c.enter now
  | .parked phase => c.observe now phase stimulus
  | .signalled signal => c.fire now signal
  | .overflowed => c.crash
  | .finished | .crashed => ⟨c, []⟩

end Connection

end Uplink
