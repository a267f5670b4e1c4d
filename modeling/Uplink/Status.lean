/-
The state machine of one connection.

The machine is a table: it maps a status and an event to the next status and to the action that goes
with the step, and knows nothing of sockets, queues or timers.  Pairs without an entry are rejected,
in `stopped` with a rejection of their own.

* `Uplink.Status`, `Uplink.Event`, `Uplink.Action` — statuses, events and actions;
* `Uplink.transition` — the table;
* `Uplink.Rejection` — why a pair has no entry;
* `Uplink.walk` — the steps of a sequence of events, rejected events leaving the status alone;
* `Uplink.transition_stopped` — **nothing leads out of `stopped`**.
-/

set_option relaxedAutoImplicit false
set_option autoImplicit false

namespace Uplink

/-! ### Statuses -/

/-- The status of a connection. -/
inductive Status
  /-- Never connected. -/
  | undefined
  /-- A connect is in progress. -/
  | connecting
  /-- A payload is being written. -/
  | writing
  /-- Connected with nothing in flight. -/
  | free
  /-- The last connect or operation failed; there is no socket. -/
  | connectFailed
  /-- The response to the payload in flight is awaited. -/
  | waiting
  /-- Closed for good. -/
  | stopped
deriving DecidableEq, Repr, Inhabited

namespace Status

/-- Every status, in the order of their codes. -/
def all : List Status := [undefined, connecting, writing, free, connectFailed, waiting, stopped]

/-- The number of a status. -/
def code : Status → Nat
  | undefined => 0
  | connecting => 1
  | writing => 2
  | free => 3
  | connectFailed => 4
  | waiting => 5
  | stopped => 6

/-- The name of a status. -/
def name : Status → String
  | undefined => "undefined"
  | connecting => "connecting"
  | writing => "writing"
  | free => "free"
  | connectFailed => "connect_failed"
  | waiting => "waiting"
  | stopped => "stopped"

/-- The name of a status in serialized data. -/
def serialName : Status → String
  | undefined => "Undefined"
  | connecting => "Connecting"
  | writing => "Writing"
  | free => "Free"
  | connectFailed => "ConnectFailed"
  | waiting => "Waiting"
  | stopped => "Stopped"

/-- The status with a given name. -/
def ofName? (name : String) : Option Status := all.find? (·.name = name)

/-- No step leads out of a terminal status. -/
def isTerminal (s : Status) : Bool := s = stopped

/-- A socket is established in this status. -/
def isConnected (s : Status) : Bool := s = free ∨ s = writing ∨ s = waiting

/-- A payload is in flight in this status. -/
def isBusy (s : Status) : Bool := s = writing ∨ s = waiting

@[simp] theorem ofName?_name (s : Status) : ofName? s.name = some s := by cases s <;> decide

end Status

/-! ### Events and actions -/

/-- What can happen to a connection. -/
inductive Event
  /-- The owner asks for a connect. -/
  | asyncConnect
  /-- The socket is established; `queued` tells whether a write is waiting. -/
  | connected (queued : Bool)
  /-- The connect was refused or ran out of time. -/
  | connectFailed
  /-- A queued write was found while free. -/
  | dispatch
  /-- The payload in flight is completely written. -/
  | writeComplete (expectsResponse : Bool)
  /-- The payload in flight could not be written. -/
  | writeFailed
  /-- Bytes arrived, but the response is not complete. -/
  | framePartial
  /-- The response is complete. -/
  | frameComplete
  /-- The response could not be read. -/
  | responseFailed
  /-- The connection was idle for too long. -/
  | idleTimeout
  /-- The owner asks for a close. -/
  | close
deriving DecidableEq, Repr

/-- The name of an event, without its flag. -/
def Event.name : Event → String
  | asyncConnect => "async_connect"
  | connected _ => "connected"
  | connectFailed => "connect_failed"
  | dispatch => "dispatch"
  | writeComplete _ => "write_complete"
  | writeFailed => "write_failed"
  | framePartial => "frame_partial"
  | frameComplete => "frame_complete"
  | responseFailed => "response_failed"
  | idleTimeout => "idle_timeout"
  | close => "close"

/-- The work that goes with a step of the machine. -/
inductive Action
  /-- Nothing to do. -/
  | none
  /-- Open a socket and arm the connect deadline. -/
  | startConnect
  /-- Take the head of the queue and start writing it. -/
  | beginWrite
  /-- Start reading the response. -/
  | awaitResponse
  /-- Go on reading the response. -/
  | continueRead
  /-- Resolve the write in flight as delivered. -/
  | resolve
  /-- Give up the socket and fail the write in flight. -/
  | handleFail
  /-- Give up everything and cancel every write. -/
  | doClose
deriving DecidableEq, Repr

/-- The name of an action. -/
def Action.name : Action → String
  | none => "None"
  | startConnect => "StartConnect"
  | beginWrite => "BeginWrite"
  | awaitResponse => "AwaitResponse"
  | continueRead => "ContinueRead"
  | resolve => "Resolve"
  | handleFail => "HandleFail"
  | doClose => "DoClose"

/-! ### The table -/

/-- An entry of the table: the next status and the work to do. -/
structure Step where
  /-- The next status. -/
  target : Status
  /-- The work to do. -/
  action : Action
deriving DecidableEq, Repr

/-- A step that changes and does nothing. -/
def Step.isNoop (step : Step) (source : Status) : Bool := step.target = source ∧ step.action = .none

/-- Why an event is rejected. -/
inductive Rejection
  /-- The event has no entry in this status. -/
  | invalid (source : Status) (event : Event)
  /-- The connection is stopped. -/
  | terminal (event : Event)
deriving DecidableEq, Repr

/-- The wording of a rejection. -/
def Rejection.message : Rejection → String
  | invalid source event => s!"Invalid transition from {source.name} on {event.name}"
  | terminal event => s!"Connection stopped, {event.name} ignored"

/-- The table: **the step of an event in a status, or the reason why there is none**. -/
def transition (source : Status) (event : Event) : Except Rejection Step :=
  match source, event with
  | .stopped, .close => .ok ⟨.stopped, .none⟩
  | .stopped, _ => .error (.terminal event)
  | _, .close => .ok ⟨.stopped, .doClose⟩
  | .undefined, .asyncConnect => .ok ⟨.connecting, .startConnect⟩
  | .undefined, .idleTimeout => .ok ⟨.undefined, .none⟩
  | .connectFailed, .asyncConnect => .ok ⟨.connecting, .startConnect⟩
  | .connectFailed, .idleTimeout => .ok ⟨.connectFailed, .none⟩
  | .connecting, .asyncConnect => .ok ⟨.connecting, .none⟩
  | .connecting, .connected true => .ok ⟨.writing, .beginWrite⟩
  | .connecting, .connected false => .ok ⟨.free, .none⟩
  | .connecting, .connectFailed => .ok ⟨.connectFailed, .handleFail⟩
  | .connecting, .idleTimeout => .ok ⟨.connectFailed, .handleFail⟩
  | .free, .asyncConnect => .ok ⟨.connecting, .startConnect⟩
  | .free, .dispatch => .ok ⟨.writing, .beginWrite⟩
  | .free, .idleTimeout => .ok ⟨.connectFailed, .handleFail⟩
  | .writing, .asyncConnect => .ok ⟨.writing, .none⟩
  | .writing, .writeComplete true => .ok ⟨.waiting, .awaitResponse⟩
  | .writing, .writeComplete false => .ok ⟨.free, .resolve⟩
  | .writing, .writeFailed => .ok ⟨.connectFailed, .handleFail⟩
  | .writing, .idleTimeout => .ok ⟨.connectFailed, .handleFail⟩
  | .waiting, .asyncConnect => .ok ⟨.waiting, .none⟩
  | .waiting, .framePartial => .ok ⟨.waiting, .continueRead⟩
  | .waiting, .frameComplete => .ok ⟨.free, .resolve⟩
  | .waiting, .responseFailed => .ok ⟨.connectFailed, .handleFail⟩
  | .waiting, .idleTimeout => .ok ⟨.connectFailed, .handleFail⟩
  | _, _ => .error (.invalid source event)

/-- Once stopped, **nothing leads out of `stopped`** and no work is done there. -/
theorem transition_stopped {event : Event} {step : Step}
    (h : transition .stopped event = .ok step) : step = ⟨.stopped, .none⟩ := by
  cases event <;> simp_all [transition]

/-! ### Walks -/

/-- The status after an event; a rejected event changes nothing. -/
def Status.after (source : Status) (event : Event) : Status :=
  match transition source event with
  | .ok step => step.target
  | .error _ => source

/-- The answers of the table along a sequence of events. -/
def walk (source : Status) : List Event → List (Status × Except Rejection Step)
  | [] => []
  | event :: rest => (source, transition source event) :: walk (source.after event) rest

/-- The status at the end of a sequence of events. -/
def walkEnd (source : Status) (events : List Event) : Status := events.foldl Status.after source

end Uplink
