/-
The state of one connection.

A connection is a task and the handle its owner holds.  Both see the queue of writes and the
published status; everything else belongs to the task, which reads the owner's commands from an
inbox.  The task runs one phase for each status.  A phase waits for whatever can happen in that
status, and ends with a signal for the state machine.

* `Uplink.Command` — what the owner asks of the task;
* `Uplink.Signal` — how a phase ends;
* `Uplink.Phase`, `Uplink.Position` — where the task stands;
* `Uplink.Connection` — the state, with `spawn` and what the owner can see of it;
* `Uplink.Effect`, `Uplink.Progress` — what the surroundings learn from a step, and a step's result.
-/

import Uplink.Config
import Uplink.Counters
import Uplink.Deadline
import Uplink.Frame
import Uplink.KeepAlive
import Uplink.Notice
import Uplink.ReceiveBlock
import Uplink.Write

set_option relaxedAutoImplicit false
set_option autoImplicit false

namespace Uplink

/-! ### What the task is told and what it tells -/

/-- The number of a socket. -/
abbrev SocketId := Nat

/-- The number of an owner that waits for the end of a close. -/
abbrev Waiter := Nat

/-- A failure as it is remembered. -/
structure Failure where
  /-- What went wrong. -/
  error : ConnectionError
  /-- When it happened. -/
  time : Instant
deriving DecidableEq, Repr

/-- A socket that was just connected. -/
structure Link where
  /-- The socket. -/
  socket : SocketId
  /-- The addresses of the near and the far end, if they can be told. -/
  ends : Option (SocketAddress × SocketAddress)
  /-- The options that the socket refuses. -/
  refusals : List (OptionName × OsError)
deriving DecidableEq, Repr

/-- What the owner asks of the task. -/
inductive Command
  /-- Connect, or connect again. -/
  | connect
  /-- A write was queued. -/
  | wake
  /-- Close, and tell the waiter when it is done. -/
  | close (waiter : Option Waiter)
deriving DecidableEq, Repr

/-- How a phase ends. -/
inductive Signal
  | connect
  | close (waiter : Option Waiter)
  | connected (link : Link) (took : Duration)
  | connectFailed (error : ConnectionError)
  /-- A queued write was seen. -/
  | dispatch
  /-- The payload of so many bytes is written. -/
  | written (bytes : Nat)
  | writeFailed (error : ConnectionError)
  | incomplete
  /-- The response has so many bytes. -/
  | frame (length : Nat)
  | responseFailed (error : ConnectionError)
  /-- Idle for so long. -/
  | idle (span : Duration)
  /-- Nothing for the machine. -/
  | again
deriving DecidableEq, Repr

/-- What a task waits in. -/
inductive Phase
  /-- Without a socket, for a command. -/
  | idle
  /-- For the end of a connect. -/
  | connecting (since : Instant)
  /-- For a command, a tick, or the answer to a probe. -/
  | free
  /-- Until the rest of a probe is taken.  The tick that wants the probe is known, and when to give
  up. -/
  | probing (probe unsent : Bytes) (tick expiry : Instant)
  /-- Until the rest of a payload is taken. -/
  | writing (unsent : Bytes)
  /-- For the response. -/
  | waiting
deriving DecidableEq, Repr

/-- Where a task stands. -/
inductive Position
  /-- It has not run yet. -/
  | spawned
  /-- It is about to look at the status. -/
  | entering
  /-- It waits in a phase. -/
  | parked (phase : Phase)
  /-- A phase ended. -/
  | signalled (signal : Signal)
  /-- It is done. -/
  | finished
  /-- The tick after an activity cannot be represented, and the task is about to be stopped. -/
  | overflowed
  /-- It was stopped by a time that cannot be represented. -/
  | crashed
deriving DecidableEq, Repr

/-- What the surroundings learn from a step. -/
inductive Effect
  /-- A write is resolved. -/
  | resolved (ticket : Nat) (outcome : Outcome)
  /-- The status changed. -/
  | moved (source target : Status) (event : Event)
  /-- There is a line for the log. -/
  | noticed (notice : Notice)
  /-- Options were set on a fresh socket, or refused. -/
  | configured (settings : List OptionSetting)
  /-- A socket is to be connected. -/
  | dialled
  /-- Bytes are handed to a socket. -/
  | transmitted (socket : SocketId) (bytes : Bytes)
  /-- A socket is given up. -/
  | hungUp (socket : SocketId)
  /-- A waiter need not wait any more. -/
  | released (waiter : Waiter)
deriving DecidableEq, Repr

/-! ### The state -/

/-- One connection. -/
structure Connection where
  /-- Where to connect. -/
  endpoint : Endpoint
  /-- The name that the owner gave it. -/
  name : Option String
  /-- The settings. -/
  config : Config
  /-- Where responses end. -/
  codec : FrameCodec
  /-- When the connection was created. -/
  created : Instant
  /-- The published status. -/
  status : Status := .undefined
  /-- The writes that wait. -/
  queue : List PendingWrite := []
  /-- The published mark that a write is in flight. -/
  isBusy : Bool := false
  /-- The published name and route. -/
  info : ClientInfo
  /-- The last failure. -/
  failure : Option Failure := none
  /-- Microseconds from the creation to the last activity. -/
  activity : Nat := 0
  /-- The status last told to those who watch it. -/
  watched : Status := .undefined
  /-- What is counted. -/
  counters : Counters := {}
  /-- Commands that the task has not read. -/
  inbox : List Command := []
  /-- The owner still holds the handle. -/
  isHeld : Bool := true
  /-- Where the task stands. -/
  position : Position := .spawned
  /-- Name and route in lines of the log. -/
  label : ClientInfo
  /-- The socket. -/
  socket : Option SocketId := none
  /-- The timer of connects and requests. -/
  deadline : Deadline := {}
  /-- The idle detector. -/
  keepAlive : KeepAlive
  /-- The response so far. -/
  block : ReceiveBlock
  /-- The write in flight. -/
  inFlight : Option PendingWrite := none
  /-- The task is about to end. -/
  exiting : Bool := false
  /-- Owners that wait for the end of a close. -/
  waiters : List Waiter := []

namespace Connection

/-- A connection whose task has not run yet. -/
def spawn (now : Instant) (endpoint : Endpoint) (config : Config) (codec : FrameCodec)
    (name : Option String) : Connection where
  endpoint
  name
  config
  codec
  created := now
  info := ⟨name, .toEndpoint endpoint⟩
  label := ⟨name, .toEndpoint endpoint⟩
  keepAlive := ⟨config.idleTime, config.detectionInterval, now.after config.detectionInterval, none⟩
  block := .new config.receiveBlockSize config.maxFrameSize

/-! ### What the owner sees -/

/-- Connected, and nothing is in flight. -/
def isFree (c : Connection) : Bool := c.status = .free ∧ !c.isBusy

/-- The number of writes that wait. -/
def pending (c : Connection) : Nat := c.queue.length

/-- The last activity, in whole microseconds since the creation. -/
def lastActivity (c : Connection) : Instant := c.created.after (.ofMicros c.activity)

/-- The connection failed, and the time after which it may connect again has passed. -/
def isRetryEligible (c : Connection) (now : Instant) : Bool :=
  match c.failure with
  | some f => c.status = .connectFailed ∧ c.config.retryInterval ≤ now.since f.time
  | none => c.status = .connectFailed

/-- There is no task any more. -/
def isGone (c : Connection) : Bool := c.position = .finished ∨ c.position = .crashed

/-- A connection in the form that programs show. -/
def summary (c : Connection) : String :=
  "Connection \x7b endpoint: Endpoint \x7b host: " ++ LogValue.print (.text c.endpoint.host) ++
    s!", port: {c.endpoint.port} \x7d, status: {c.status.serialName}, pending: {c.pending} \x7d"

/-! ### Times -/

/-- The time without activity. -/
def idleFor (c : Connection) (now : Instant) : Duration := now.since c.lastActivity

/-- There was activity.  The last activity never moves back, and the next tick is an interval away.
The task goes no further if the clock has no room for that tick. -/
def touch (c : Connection) (now : Instant) : Connection :=
  { c with
    activity := max c.activity (now.since c.created).micros
    keepAlive := c.keepAlive.touch now
    position := if c.keepAlive.hasRoom now then c.position else .overflowed }

/-- Bytes of the write in flight expect a response: as the write says, else as configured. -/
def expectsResponse (c : Connection) : Bool :=
  (c.inFlight.bind (·.expects)).getD c.config.expectResponse

end Connection

/-! ### Steps -/

/-- The result of a step: the connection after it and what the surroundings learn. -/
structure Progress where
  /-- The connection after the step. -/
  next : Connection
  /-- What the surroundings learn, in order. -/
  effects : List Effect := []

namespace Progress

/-- One step after another. -/
def andThen (p : Progress) (f : Connection → Progress) : Progress :=
  let q := f p.next
  ⟨q.next, p.effects ++ q.effects⟩

@[simp] theorem next_andThen (p : Progress) (f : Connection → Progress) :
    (p.andThen f).next = (f p.next).next := rfl

@[simp] theorem effects_andThen (p : Progress) (f : Connection → Progress) :
    (p.andThen f).effects = p.effects ++ (f p.next).effects := rfl

/-- What comes after a step matters only for the connection that the step leaves. -/
theorem andThen_congr {p : Progress} {f g : Connection → Progress} (h : f p.next = g p.next) :
    p.andThen f = p.andThen g := by
  simp only [andThen, h]

/-- Nothing comes after a step. -/
@[simp] theorem andThen_nothing (p : Progress) : (p.andThen fun c => ⟨c, []⟩) = p := by
  cases p
  simp [andThen]

end Progress

end Uplink
